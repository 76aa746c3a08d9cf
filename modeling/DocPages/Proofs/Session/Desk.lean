import DocPages.Proofs.Keyed
import DocPages.Proofs.Ranking.Progress
import DocPages.Session.Desk

/-! What a poll does to a search, and what an event leaves alone on a desk. -/

namespace DocPages

namespace Search

/-- The job that a poll leaves behind. -/
def Outcome.job : Outcome → Job
  | .pending search => .running search
  | .finished _ results => .finished results

theorem poll_revoked {tokens : Tokens} {search : Search}
    (h : tokens.isCancelled search.token = true) :
    (search.poll tokens).1 = .finished search.pauses none := by
  simp only [poll, h, Bool.not_true, Ranking.poll_unwanted]

theorem poll_last {tokens : Tokens} {search : Search} (h : tokens.isCancelled search.token = false)
    (hp : search.ranking.pausesLeft = 0) :
    (search.poll tokens).1 = .finished search.pauses (some search.ranking.answer) := by
  simp only [poll, h, Bool.not_false, Ranking.poll_last hp]

theorem poll_more {tokens : Tokens} {search : Search} (h : tokens.isCancelled search.token = false)
    (hp : search.ranking.pausesLeft ≠ 0) :
    (search.poll tokens).1 = .pending ⟨search.token, search.pauses + 1, search.ranking.next⟩ := by
  simp only [poll, h, Bool.not_false, Ranking.poll_more hp]

theorem token_of_poll {tokens : Tokens} {search search' : Search}
    (h : (search.poll tokens).1 = .pending search') : search'.token = search.token := by
  unfold poll at h
  split at h
  · cases h
    rfl
  · cases h

end Search

namespace Desk

theorem get?_put_self (d : Desk) (slot : String) (job : Job) :
    (d.put slot job).get? slot = some job := by
  simp only [put, get?, List.lookup_cons_self]

theorem get?_put_of_ne (d : Desk) {slot name : String} (h : name ≠ slot) (job : Job) :
    (d.put slot job).get? name = d.get? name := by
  have hn : (name == slot) = false := by simpa using h
  simp only [put, get?, List.lookup_cons, hn]
  exact lookup_filter_ne h d.jobs

variable {d : Desk} {slot : String} {poll : Search → Search.Outcome × List Notice}

theorem advance_pending {search search' : Search} (h : d.get? slot = some (.running search))
    (hp : (poll search).1 = .pending search') :
    (d.advance slot poll).1 = d.put slot (.running search') ∧
      (d.advance slot poll).2.1 = .pending search'.pauses := by
  obtain ⟨notices, hpoll⟩ : ∃ notices, poll search = (.pending search', notices) :=
    ⟨_, by rw [← hp]⟩
  simp only [advance, h, hpoll, and_self]

theorem advance_finished {search : Search} {pauses : Nat} {results : Option (List Ranked)}
    (h : d.get? slot = some (.running search)) (hp : (poll search).1 = .finished pauses results) :
    (d.advance slot poll).1 = d.put slot (.finished results) ∧
      (d.advance slot poll).2.1 = .finished pauses results := by
  obtain ⟨notices, hpoll⟩ : ∃ notices, poll search = (.finished pauses results, notices) :=
    ⟨_, by rw [← hp]⟩
  simp only [advance, h, hpoll, and_self]

theorem advance_done {results : Option (List Ranked)} (h : d.get? slot = some (.finished results)) :
    d.advance slot poll = (d, .alreadyDone, []) := by
  simp only [advance, h]

theorem get?_advance_of_ne {name : String} (h : name ≠ slot) :
    (d.advance slot poll).1.get? name = d.get? name := by
  unfold advance
  split
  · rfl
  · rfl
  · split <;> exact get?_put_of_ne d h _

/-- Only a search whose token is not cancelled gives results, and it is no longer running then. -/
theorem live_of_advance_finished {tokens : Tokens} {n : Nat} {results : List Ranked}
    (h : (d.advance slot (Search.poll tokens)).2.1 = .finished n (some results)) :
    (∃ search, d.get? slot = some (.running search) ∧ tokens.isCancelled search.token = false) ∧
      (d.advance slot (Search.poll tokens)).1.get? slot = some (.finished (some results)) := by
  cases hj : d.get? slot with
  | none => simp [advance, hj] at h
  | some job =>
    cases job with
    | finished results => simp [advance_done hj] at h
    | running search =>
      cases ho : (search.poll tokens).1 with
      | pending search' =>
        rw [(advance_pending hj ho).2] at h
        cases h
      | finished pauses results' =>
        obtain ⟨hd, hr⟩ := advance_finished hj ho
        rw [hr] at h
        cases h
        rw [hd, get?_put_self]
        refine ⟨⟨search, rfl, ?_⟩, rfl⟩
        cases hl : tokens.isCancelled search.token with
        | false => rfl
        | true =>
          rw [Search.poll_revoked hl] at ho
          cases ho

/-- All that a poll can leave in a slot. -/
theorem get?_advance_cases {name : String} {job : Job}
    (h : (d.advance slot poll).1.get? name = some job) :
    d.get? name = some job ∨
      ∃ search, d.get? name = some (.running search) ∧ job = (poll search).1.job := by
  by_cases hn : name = slot
  · subst hn
    cases hj : d.get? name with
    | none => simp [advance, hj] at h
    | some old =>
      cases old with
      | finished results =>
        rw [advance_done hj, hj] at h
        exact .inl h
      | running search =>
        refine .inr ⟨search, rfl, ?_⟩
        cases ho : (poll search).1 with
        | pending next =>
          rw [(advance_pending hj ho).1, get?_put_self] at h
          exact (Option.some.inj h).symm
        | finished pauses results =>
          rw [(advance_finished hj ho).1, get?_put_self] at h
          exact (Option.some.inj h).symm
  · rw [get?_advance_of_ne hn] at h
    exact .inl h

/-- A poll starts no search and keeps every token. -/
theorem running_of_advance {tokens : Tokens} {name : String} {search' : Search}
    (h : (d.advance slot (Search.poll tokens)).1.get? name = some (.running search')) :
    ∃ search, d.get? name = some (.running search) ∧ search.token = search'.token := by
  rcases get?_advance_cases h with hsame | ⟨search, hj, hjob⟩
  · exact ⟨search', hsame, rfl⟩
  · cases ho : (search.poll tokens).1 with
    | pending next =>
      rw [ho] at hjob
      cases hjob
      exact ⟨search, hj, (Search.token_of_poll ho).symm⟩
    | finished pauses results =>
      rw [ho] at hjob
      cases hjob

end Desk

end DocPages
