import DocPages.Proofs.Ranking.Loop

/-! When a ranking ends, and with what. The pauses of a ranking are counted from the number of its
entries alone; a cancellation ends it at its pause, and one that comes too late changes nothing. -/

namespace DocPages

/-- The pauses of a ranking that nobody cancels. -/
def rankPauses (query : String) (o : SearchOptions) (entries : List Entry) : Nat :=
  if (Fuzzy.parseQuery query).isEmpty || entries.isEmpty then 0
  else (entries.length - 1) / max o.yieldEvery 1

namespace Ranking

theorem pausesLeft_start (query : String) (o : SearchOptions) (entries : List Entry) :
    (start query o entries).pausesLeft = rankPauses query o entries := by
  unfold rankPauses pausesLeft
  cases hq : (Fuzzy.parseQuery query).isEmpty with
  | true => simp [isIdle, start, ofScorer, Fuzzy.scorer, hq]
  | false =>
    cases entries with
    | nil => simp [start, ofScorer]
    | cons e es => simp [isIdle, start, ofScorer, Fuzzy.scorer, hq, SearchOptions.chunk]

theorem answer_start (query : String) (o : SearchOptions) (entries : List Entry) :
    (start query o entries).answer =
      if (Fuzzy.scorer query).isEmpty then []
      else (Fuzzy.scorer query).best o.limit ((Fuzzy.scorer query).scoreAll entries) := rfl

end Ranking

open Ranking

theorem rankPauses_eq_zero {query : String} {o : SearchOptions} {entries : List Entry}
    (h : entries.length < o.yieldEvery) : rankPauses query o entries = 0 := by
  unfold rankPauses
  split
  · rfl
  · exact Nat.div_eq_of_lt (by omega)

theorem rankPauses_le (query : String) (o : SearchOptions) (entries : List Entry) :
    rankPauses query o entries ≤ entries.length := by
  rw [← pausesLeft_start]
  exact pausesLeft_le _

theorem rank_completed (query : String) (o : SearchOptions) (entries : List Entry)
    {cancelAt : Option Nat} (h : ∀ k ≤ rankPauses query o entries, cancelAt ≠ some k) :
    rank query o cancelAt entries =
      ⟨rankPauses query o entries, some (start query o entries).answer, []⟩ := by
  have hp := pausesLeft_start query o entries
  have hr := (start query o entries).run_wanted (wantedUntil cancelAt) (by
    intro k hk
    rw [hp] at hk
    cases cancelAt with
    | none => rfl
    | some c =>
      have hc : ¬ c ≤ rankPauses query o entries := fun hc => h c hc rfl
      simp only [wantedUntil, decide_eq_true_eq]
      omega)
  rw [hp] at hr
  exact hr

theorem rank_uncancelled (query : String) (o : SearchOptions) (entries : List Entry) :
    rank query o none entries =
      ⟨rankPauses query o entries, some (start query o entries).answer, []⟩ :=
  rank_completed query o entries fun _ _ hk => nomatch hk

theorem rank_cancelled {query : String} {o : SearchOptions} {entries : List Entry} {k : Nat}
    (h : k ≤ rankPauses query o entries) :
    rank query o (some k) entries = ⟨k, none,
      if 0 < k then [.rankingCancelled query (k * o.chunk)] else []⟩ := by
  have hf : k < (start query o entries).rest.length + 1 :=
    Nat.lt_succ_of_le (Nat.le_trans h (rankPauses_le query o entries))
  have hr := @runFrom_cancelled (wantedUntil (some k)) _ 0 k (start query o entries) hf
    (by rw [pausesLeft_start]; exact h)
    (by intro j hj; simpa [wantedUntil] using hj)
    (by simp [wantedUntil])
  rw [rank, run, hr]
  simp [start, ofScorer]

/-- A cancellation before the start or during one of the pauses ends the ranking there and then.
Any other schedule leaves the ranking of a run without pauses, and no schedule lets it score more
than a chunk between two checks. -/
theorem rank_under_cancellation (query : String) (o : SearchOptions) (entries : List Entry) :
    rank query o (some 0) entries = ⟨0, none, []⟩ ∧
    (∀ k, 1 ≤ k → k ≤ rankPauses query o entries →
      rank query o (some k) entries =
        ⟨k, none, [.rankingCancelled query (k * max o.yieldEvery 1)]⟩ ∧
      Act.scored (loop (Fuzzy.scorer query) o (wantedUntil (some k)) entries).acts =
        entries.take (k * max o.yieldEvery 1)) ∧
    (∀ cancelAt, (∀ k ≤ rankPauses query o entries, cancelAt ≠ some k) →
      ∃ results,
        rank query o cancelAt entries = ⟨rankPauses query o entries, some results, []⟩ ∧
        ∀ unpaused : SearchOptions, unpaused.limit = o.limit →
          entries.length < unpaused.yieldEvery →
          rank query unpaused none entries = ⟨0, some results, []⟩) ∧
    (∀ o' : SearchOptions, o'.limit = o.limit →
      (rank query o' none entries).results = (rank query o none entries).results) ∧
    ∀ cancelAt,
      (loop (Fuzzy.scorer query) o (wantedUntil cancelAt) entries).results =
        (rank query o cancelAt entries).results ∧
      (loop (Fuzzy.scorer query) o (wantedUntil cancelAt) entries).acts.count .pause =
        (rank query o cancelAt entries).pauses ∧
      Act.within (max o.yieldEvery 1) 0
        (loop (Fuzzy.scorer query) o (wantedUntil cancelAt) entries).acts = true := by
  have hloop (cancelAt : Option Nat) :=
    run_eq_loop query (Fuzzy.scorer query) o (wantedUntil cancelAt) entries
  refine ⟨rank_cancelled (Nat.zero_le _), ?_, ?_, ?_, ?_⟩
  · intro k h1 hk
    have hr := rank_cancelled hk
    rw [if_pos (Nat.lt_of_succ_le h1)] at hr
    refine ⟨hr, ?_⟩
    have he : (Fuzzy.scorer query).isEmpty = false := by
      cases hq : (Fuzzy.scorer query).isEmpty with
      | false => rfl
      | true =>
        have h0 : rankPauses query o entries = 0 := by
          have hq' : (Fuzzy.parseQuery query).isEmpty = true := hq
          simp [rankPauses, hq']
        omega
    obtain ⟨hres, hpau⟩ := hloop (some k)
    rw [rank, start] at hr
    rw [hr] at hres hpau
    rw [scored_loop (wantedUntil (some k)) entries he, ← hres, ← hpau]
    rfl
  · intro cancelAt hc
    refine ⟨_, rank_completed query o entries hc, ?_⟩
    intro unpaused hl hn
    rw [rank_uncancelled, rankPauses_eq_zero hn, answer_start, answer_start, hl]
  · intro o' hl
    rw [rank_uncancelled, rank_uncancelled, answer_start, answer_start, hl]
  · intro cancelAt
    exact ⟨(hloop cancelAt).1.symm, (hloop cancelAt).2.symm, within_loop _ _ _ _⟩

end DocPages
