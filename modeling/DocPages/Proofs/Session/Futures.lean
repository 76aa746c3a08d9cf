import DocPages.Proofs.Ranking.Cancellation
import DocPages.Proofs.Session.Desk
import DocPages.Proofs.Session.Tokens

/-! The life of a search on a desk, among all other events of its session. As long as nothing
interrupts it every poll brings it one pause further, up to its answer; after an interruption its
next poll ends it. -/

namespace DocPages

def SessionEvent.slot? : SessionEvent → Option String
  | .search slot _ | .poll slot | .await slot => some slot
  | .begin | .cancel => none

/-- A job that nothing has interrupted, after a number of polls. -/
inductive Job.Fresh (token pauses : Nat) (answer : List Ranked) : Nat → Job → Prop
  | running {search : Search} (own : search.token = token)
      (left : search.ranking.pausesLeft + search.pauses = pauses)
      (result : search.ranking.answer = answer) :
      Fresh token pauses answer search.pauses (.running search)
  | finished {polls : Nat} (late : pauses < polls) :
      Fresh token pauses answer polls (.finished (some answer))

/-- A job that was interrupted on its way, a number of polls later. -/
inductive Job.Stale (token pauses : Nat) : Nat → Job → Prop
  | running {search : Search} (own : search.token = token) (same : search.pauses = pauses) :
      Stale token pauses 0 (.running search)
  | finished {polls : Nat} : Stale token pauses (polls + 1) (.finished none)

/-- The answer to one more poll of a search that nothing has interrupted. -/
def freshReply (pauses : Nat) (answer : List Ranked) (polls : Nat) : Desk.Reply :=
  if polls < pauses then .pending (polls + 1)
  else if polls = pauses then .finished pauses (some answer)
  else .alreadyDone

def staleReply (pauses polls : Nat) : Desk.Reply :=
  if polls = 0 then .finished pauses none else .alreadyDone

theorem freshReply_finished_iff {pauses polls : Nat} {answer : List Ranked} :
    (∃ n shown, freshReply pauses answer polls = .finished n (some shown)) ↔ polls = pauses := by
  unfold freshReply
  constructor
  · rintro ⟨n, shown, h⟩
    split at h
    · cases h
    · split at h
      · assumption
      · cases h
  · rintro rfl
    exact ⟨polls, answer, by rw [if_neg (Nat.lt_irrefl _), if_pos rfl]⟩

theorem staleReply_ne_finished (pauses polls n : Nat) (shown : List Ranked) :
    staleReply pauses polls ≠ .finished n (some shown) := by
  unfold staleReply
  split <;> exact fun h => nomatch h

section Polls

variable {d : Desk} {slot : String} {tokens : Tokens} {token pauses polls : Nat}
  {answer : List Ranked}
  {job : Job}

theorem Job.Fresh.poll (h : job.Fresh token pauses answer polls) (hj : d.get? slot = some job)
    (hl : tokens.isCancelled token = false) :
    (d.advance slot (Search.poll tokens)).2.1 = freshReply pauses answer polls ∧
      ∃ job', (d.advance slot (Search.poll tokens)).1.get? slot = some job' ∧
        job'.Fresh token pauses answer (polls + 1) := by
  cases h with
  | @running search own left result =>
    rw [← own] at hl
    by_cases hp : search.ranking.pausesLeft = 0
    · obtain ⟨hd, hr⟩ := Desk.advance_finished hj (Search.poll_last hl hp)
      rw [hd, hr, result, Desk.get?_put_self]
      have he : search.pauses = pauses := by omega
      refine ⟨by simp [freshReply, he], _, rfl, .finished (by omega)⟩
    · obtain ⟨hd, hr⟩ := Desk.advance_pending hj (Search.poll_more hl hp)
      obtain ⟨n, hn⟩ := Nat.exists_eq_succ_of_ne_zero hp
      have hnext := Ranking.pausesLeft_next hn
      have hanswer := Ranking.answer_next (Ranking.isIdle_of_pausesLeft hp)
      rw [hd, hr, Desk.get?_put_self]
      refine ⟨?_, _, rfl, ?_⟩
      · have hlt : search.pauses < pauses := by omega
        simp [freshReply, hlt]
      · refine @Job.Fresh.running _ _ _ ⟨search.token, search.pauses + 1, search.ranking.next⟩
          own ?_ (hanswer.trans result)
        simp only [hnext]
        omega
  | finished late =>
    rw [Desk.advance_done hj]
    have h1 : ¬ polls < pauses := by omega
    have h2 : ¬ polls = pauses := by omega
    exact ⟨by simp [freshReply, h1, h2], _, hj, .finished (by omega)⟩

theorem Job.Stale.poll (h : job.Stale token pauses polls) (hj : d.get? slot = some job)
    (hl : tokens.isCancelled token = true) :
    (d.advance slot (Search.poll tokens)).2.1 = staleReply pauses polls ∧
      ∃ job', (d.advance slot (Search.poll tokens)).1.get? slot = some job' ∧
        job'.Stale token pauses (polls + 1) := by
  cases h with
  | @running search own same =>
    rw [← own] at hl
    obtain ⟨hd, hr⟩ := Desk.advance_finished hj (Search.poll_revoked hl)
    rw [hd, hr, same, Desk.get?_put_self]
    exact ⟨rfl, _, rfl, .finished⟩
  | finished =>
    rw [Desk.advance_done hj]
    exact ⟨by simp [staleReply], _, hj, .finished⟩

end Polls

namespace SessionRun

variable {index : Index} {slot : String}

theorem get?_step_of_ne (r : SessionRun) {e : SessionEvent} (h : e.slot? ≠ some slot) :
    (r.step index e).1.desk.get? slot = r.desk.get? slot := by
  have hn {name : String} (hs : some name ≠ some slot) : slot ≠ name := fun he => hs (by rw [he])
  cases e with
  | begin | cancel => rfl
  | search name query => exact Desk.get?_put_of_ne _ (hn h) _
  | poll name | await name => exact Desk.get?_advance_of_ne (hn h)

/-- What each poll of a slot carries on is carried on by a run that only polls the slot. -/
theorem get?_run {P : Nat → Job → Prop} {Q : Session → Prop}
    (hpoll : ∀ {d : Desk} {s : Session} {polls : Nat} {job : Job}, Q s → d.get? slot = some job →
      P polls job → ∃ job', (d.advance slot (Search.poll s.tokens)).1.get? slot = some job' ∧
        P (polls + 1) job')
    {events : List SessionEvent} (hslot : ∀ e ∈ events, e.slot? = some slot → e = .poll slot)
    (hsession : ∀ e ∈ events, ∀ s, Q s → Q (s.after e))
    {r : SessionRun} {polls : Nat} {job : Job} (hq : Q r.session)
    (hj : r.desk.get? slot = some job) (h : P polls job) :
    ∃ job', (r.run index events).desk.get? slot = some job' ∧
      P (polls + events.count (.poll slot)) job' := by
  induction events generalizing r polls job with
  | nil => exact ⟨job, hj, h⟩
  | cons e events ih =>
    have hs := hsession e List.mem_cons_self _ hq
    rw [← session_step index] at hs
    have ih' := @ih (fun x hx => hslot x (List.mem_cons_of_mem _ hx))
      (fun x hx => hsession x (List.mem_cons_of_mem _ hx)) (r.step index e).1
    rw [run_cons]
    by_cases he : e.slot? = some slot
    · obtain rfl := hslot e List.mem_cons_self he
      obtain ⟨job', hj', h'⟩ := hpoll hq hj h
      obtain ⟨last, hlast, hp⟩ := ih' hs hj' h'
      refine ⟨last, hlast, ?_⟩
      rw [List.count_cons_self, Nat.add_comm _ 1, ← Nat.add_assoc]
      exact hp
    · rw [List.count_cons_of_ne (fun heq => he (by rw [heq]; rfl))]
      exact ih' hs ((get?_step_of_ne r he).trans hj) h

theorem fresh_run {r : SessionRun} (hr : r.session.Exclusive) (query : String)
    {calm : List SessionEvent} (hcalm : ∀ e ∈ calm, e.interrupts = false)
    (hslot : ∀ e ∈ calm, e.slot? = some slot → e = .poll slot) :
    (r.run index (.search slot query :: calm)).session = r.session.begin.2 ∧
      ∃ job, (r.run index (.search slot query :: calm)).desk.get? slot = some job ∧
        job.Fresh r.session.begin.1 (rankPauses query r.session.options index.entries)
          (Ranking.start query r.session.options index.entries).answer
          (calm.count (.poll slot)) := by
  rw [run_cons]
  refine ⟨session_run_calm index _ hcalm, ?_⟩
  have hj : (r.step index (.search slot query)).1.desk.get? slot =
      some (.running (r.session.search query index).1) := Desk.get?_put_self _ _ _
  have hf : (Job.running (r.session.search query index).1).Fresh r.session.begin.1
      (rankPauses query r.session.options index.entries)
      (Ranking.start query r.session.options index.entries).answer 0 := by
    rw [Session.search_eq]
    exact @Job.Fresh.running _ _ _ ⟨r.session.begin.1, 0, _⟩ rfl
      (Ranking.pausesLeft_start query _ index.entries) rfl
  have hrun := @get?_run index slot _
    (fun s => s.tokens.isCancelled r.session.begin.1 = false)
    (fun hl hj h => (h.poll hj hl).2) calm hslot
    (by
      intro e he s hs
      rw [Session.after_calm (hcalm e he)]
      exact hs)
    _ _ _ hr.live_begin hj hf
  rw [Nat.zero_add] at hrun
  exact hrun

theorem reply_calm {r : SessionRun} (hr : r.session.Exclusive) (query : String)
    {calm : List SessionEvent} (hcalm : ∀ e ∈ calm, e.interrupts = false)
    (hslot : ∀ e ∈ calm, e.slot? = some slot → e = .poll slot) :
    ((r.run index (.search slot query :: calm)).step index (.poll slot)).2.1 =
      .job (freshReply (rankPauses query r.session.options index.entries)
        (Ranking.start query r.session.options index.entries).answer
        (calm.count (.poll slot))) := by
  obtain ⟨hs, job, hj, hf⟩ := @fresh_run index slot r hr query calm hcalm hslot
  have hl := hr.live_begin
  rw [← hs] at hl
  exact congrArg Reply.job (hf.poll hj hl).1

theorem reply_interrupted {r : SessionRun} (hr : r.session.Exclusive) (query : String)
    {calm rest : List SessionEvent} {e : SessionEvent}
    (hcalm : ∀ x ∈ calm, x.interrupts = false) (he : e.interrupts = true)
    (hslot : ∀ x ∈ calm ++ e :: rest, x.slot? = some slot → x = .poll slot) :
    ((r.run index (.search slot query :: (calm ++ e :: rest))).step index (.poll slot)).2.1 =
      .job (if rankPauses query r.session.options index.entries < calm.count (.poll slot) then
          .alreadyDone
        else staleReply (calm.count (.poll slot)) (rest.count (.poll slot))) := by
  obtain ⟨hs, job, hj, hf⟩ := @fresh_run index slot r hr query calm hcalm
    fun x hx => hslot x (List.mem_append_left _ hx)
  have hrest : ∀ x ∈ rest, x.slot? = some slot → x = .poll slot :=
    fun x hx => hslot x (List.mem_append_right _ (List.mem_cons_of_mem _ hx))
  have hne : e.slot? ≠ some slot := by
    intro hsl
    rw [hslot e (List.mem_append_right _ List.mem_cons_self) hsl] at he
    cases he
  rw [← List.cons_append, run_append]
  generalize r.run index (.search slot query :: calm) = q at hs hj
  have hj' := (@get?_step_of_ne index slot q e hne).trans hj
  have hrevoked : (q.step index e).1.session.tokens.Revoked r.session.begin.1 := by
    rw [session_step, hs]
    exact hr.begin.revoked_after (Tokens.lt_size_of_not_cancelled hr.live_begin) he
  rw [run_cons]
  generalize (q.step index e).1 = q' at hj' hrevoked
  generalize calm.count (.poll slot) = polls at hf
  cases hf with
  | @running search own left result =>
    -- the first poll after the interruption ends the search
    obtain ⟨job', hget, hstale⟩ := @get?_run index slot (Job.Stale r.session.begin.1 search.pauses)
      (fun s => s.tokens.Revoked r.session.begin.1) (fun hr hj h => (h.poll hj hr.2).2) rest hrest
      (fun x _ _ hs => Session.revoked_after hs x) q' 0 _ hrevoked hj' (.running own rfl)
    have hl := (revoked_run index hrevoked rest).2
    rw [if_neg (by omega), ← Nat.zero_add (rest.count (.poll slot))]
    exact congrArg Reply.job (hstale.poll hget hl).1
  | finished late =>
    -- an interruption after the end finds nothing to stop
    obtain ⟨job', hget, rfl⟩ := @get?_run index slot
      (fun _ job => job = .finished
        (some (Ranking.start query r.session.options index.entries).answer))
      (fun _ => True)
      (fun _ hj h => by
        subst h
        exact ⟨_, by rw [Desk.advance_done hj]; exact hj, rfl⟩)
      rest hrest (fun _ _ _ _ => trivial) q' 0 _ trivial hj' rfl
    rw [if_pos late, step, Desk.advance_done hget]

def reached (index : Index) (options : SearchOptions) (events : List SessionEvent) : SessionRun :=
  (new options).run index events

def pollReply (index : Index) (options : SearchOptions) (events : List SessionEvent)
    (slot : String) : Reply := ((reached index options events).step index (.poll slot)).2.1

theorem reached_append_cons (index : Index) (options : SearchOptions)
    (before events : List SessionEvent) (e : SessionEvent) :
    reached index options (before ++ e :: events) =
      (reached index options before).run index (e :: events) := run_append _ _ _ _

theorem exclusive_reached (index : Index) (options : SearchOptions) (events : List SessionEvent) :
    (reached index options events).session.Exclusive :=
  exclusive_run index (Session.exclusive_new options) events

theorem options_reached (index : Index) (options : SearchOptions) (events : List SessionEvent) :
    (reached index options events).session.options = options :=
  options_run index (new options) events

end SessionRun

theorem SessionEvent.calm_or_interrupted (events : List SessionEvent) :
    (∀ x ∈ events, x.interrupts = false) ∨ ∃ calm e rest, events = calm ++ e :: rest ∧
      (∀ x ∈ calm, x.interrupts = false) ∧ e.interrupts = true := by
  induction events with
  | nil => exact .inl fun x hx => nomatch hx
  | cons e events ih =>
    cases he : e.interrupts with
    | true => exact .inr ⟨[], e, events, rfl, (fun x hx => nomatch hx), he⟩
    | false =>
      rcases ih with hall | ⟨calm, e', rest, rfl, hcalm, he'⟩
      · exact .inl (List.forall_mem_cons.mpr ⟨he, hall⟩)
      · exact .inr ⟨e :: calm, e', rest, rfl, List.forall_mem_cons.mpr ⟨he, hcalm⟩, he'⟩

open SessionRun

/-- Tokens and searches under every interleaving. No token is handed out twice. The flag of a token
is unset exactly as long as its search is the outstanding one, so at most one of those handed out is
not cancelled: the one of the last opening if nothing interrupted it. A search that is polled among
other events gives its answer at the poll after its last pause if nothing has interrupted it by
then; if something has, its next poll gives nothing, and makes no further pause. -/
theorem session_under_interleaving (index : Index) (options : SearchOptions) :
    (∀ events, ((new options).tokens index events).Nodup ∧
      (((new options).tokens index events).filter fun token =>
        !(reached index options events).session.tokens.isCancelled token).length ≤ 1 ∧
      ∀ token, (reached index options events).session.tokens.isCancelled token = false ↔
        (reached index options events).session.current = some token) ∧
    (∀ before e events, e.opens = true →
      ((reached index options (before ++ e :: events)).session.tokens.isCancelled
          (reached index options before).session.begin.1 = false ↔
        ∀ x ∈ events, x.interrupts = false)) ∧
    ∀ before slot query, ∃ results,
      rank query options none index.entries =
        ⟨rankPauses query options index.entries, some results, []⟩ ∧
      ∀ events, (∀ x ∈ events, x.slot? = some slot → x = .poll slot) →
        ((∀ x ∈ events, x.interrupts = false) →
          pollReply index options (before ++ .search slot query :: events) slot =
            .job (freshReply (rankPauses query options index.entries) results
              (events.count (.poll slot)))) ∧
        (∀ calm e rest, events = calm ++ e :: rest → (∀ x ∈ calm, x.interrupts = false) →
          e.interrupts = true →
          pollReply index options (before ++ .search slot query :: events) slot =
            .job (if rankPauses query options index.entries < calm.count (.poll slot) then
                .alreadyDone
              else staleReply (calm.count (.poll slot)) (rest.count (.poll slot)))) ∧
        ((∃ pauses shown, pollReply index options (before ++ .search slot query :: events) slot =
            .job (.finished pauses (some shown))) ↔
          (∀ x ∈ events, x.interrupts = false) ∧
            events.count (.poll slot) = rankPauses query options index.entries) := by
  refine ⟨fun events => ?_, ?_, ?_⟩
  · have hexclusive := exclusive_reached index options events
    have hnodup := tokens_nodup index (new options) events
    exact ⟨hnodup, hexclusive.length_live_le hnodup, hexclusive⟩
  · intro before e events he
    rw [reached_append_cons]
    exact not_cancelled_run_iff index (exclusive_reached index options before) he events
  · intro before slot query
    refine ⟨_, rank_uncancelled query options index.entries, ?_⟩
    intro events hslot
    have hr := exclusive_reached index options before
    have ho := options_reached index options before
    have hcalm (h : ∀ x ∈ events, x.interrupts = false) :=
      @reply_calm index slot _ hr query events h hslot
    have hcut (calm rest : List SessionEvent) (e : SessionEvent) (h : events = calm ++ e :: rest)
        (hc : ∀ x ∈ calm, x.interrupts = false) (he : e.interrupts = true) :=
      @reply_interrupted index slot _ hr query calm rest e hc he (h ▸ hslot)
    rw [ho] at hcalm
    simp only [ho] at hcut
    unfold pollReply
    rw [reached_append_cons]
    refine ⟨hcalm, ?_, ?_⟩
    · intro calm e rest h hc he
      have hr := hcut calm rest e h hc he
      rw [← h] at hr
      exact hr
    · rcases SessionEvent.calm_or_interrupted events with hall | ⟨calm, e, rest, h, hc, he⟩
      · rw [hcalm hall]
        simp only [Reply.job.injEq, freshReply_finished_iff]
        exact ⟨fun hp => ⟨hall, hp⟩, fun hp => hp.2⟩
      · have hr := hcut calm rest e h hc he
        rw [← h] at hr
        rw [hr]
        constructor
        · rintro ⟨n, shown, hj⟩
          have hn := Reply.job.inj hj
          split at hn
          · cases hn
          · exact absurd hn (staleReply_ne_finished _ _ _ _)
        · rintro ⟨hall, -⟩
          have hf := hall e (by rw [h]; exact List.mem_append_right _ List.mem_cons_self)
          rw [he] at hf
          cases hf

end DocPages
