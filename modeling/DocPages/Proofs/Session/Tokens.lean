import DocPages.Session.Desk

/-! The tokens of a session. Every search and every `begin` hands out a token of its own, and a
token is wanted until something interrupts it. The invariant behind this is that the outstanding
search has the one token whose flag is not set: a new token is made only after the flag of the old
one was set. -/

namespace DocPages

namespace SessionEvent

def opens : SessionEvent → Bool
  | .begin | .search _ _ => true
  | .cancel | .poll _ | .await _ => false

/-- Cancels the outstanding search, if there is one. -/
def interrupts : SessionEvent → Bool
  | .begin | .cancel | .search _ _ => true
  | .poll _ | .await _ => false

end SessionEvent

namespace Tokens

/-- The token was made and its flag is set. -/
def Revoked (t : Tokens) (token : Nat) : Prop := token < t.size ∧ t.isCancelled token = true

variable {t : Tokens} {token : Nat}

theorem lt_size_of_not_cancelled (h : t.isCancelled token = false) : token < t.size := by
  refine Nat.lt_of_not_le fun hle => ?_
  rw [isCancelled, List.getD_eq_getElem?_getD, List.getElem?_eq_none hle] at h
  cases h

theorem size_make (t : Tokens) : t.make.2.size = t.size + 1 := List.length_append

theorem size_cancel (t : Tokens) (token : Nat) : (t.cancel token).size = t.size :=
  List.length_set

theorem isCancelled_make (t : Tokens) (token : Nat) :
    t.make.2.isCancelled token = (token != t.size && t.isCancelled token) := by
  simp only [isCancelled, make, List.getD_eq_getElem?_getD, List.getElem?_append, size]
  grind

theorem isCancelled_cancel (t : Tokens) (old token : Nat) :
    (t.cancel old).isCancelled token = (token == old || t.isCancelled token) := by
  simp only [isCancelled, cancel, List.getD_eq_getElem?_getD, List.getElem?_set]
  grind

theorem Revoked.make (h : t.Revoked token) : t.make.2.Revoked token := by
  refine ⟨by rw [size_make]; exact Nat.lt_succ_of_lt h.1, ?_⟩
  rw [isCancelled_make, h.2, Bool.and_true]
  simpa using Nat.ne_of_lt h.1

theorem Revoked.cancel (h : t.Revoked token) (old : Nat) : (t.cancel old).Revoked token := by
  refine ⟨by rw [size_cancel]; exact h.1, ?_⟩
  rw [isCancelled_cancel, h.2, Bool.or_true]

end Tokens

namespace Session

def after (s : Session) : SessionEvent → Session
  | .begin | .search _ _ => s.begin.2
  | .cancel => s.cancel
  | .poll _ | .await _ => s

/-- The token of the outstanding search is the only one that is not cancelled. -/
def Exclusive (s : Session) : Prop :=
  ∀ token, s.tokens.isCancelled token = false ↔ s.current = some token

section Steps

variable {s : Session} {token : Nat}

theorem size_cancel (s : Session) : s.cancel.tokens.size = s.tokens.size := by
  unfold cancel
  split
  · rfl
  · exact Tokens.size_cancel _ _

theorem options_cancel (s : Session) : s.cancel.options = s.options := by
  unfold cancel
  split <;> rfl

theorem token_begin (s : Session) : s.begin.1 = s.tokens.size := s.size_cancel

theorem current_begin (s : Session) : s.begin.2.current = some s.begin.1 := rfl

theorem size_begin (s : Session) : s.begin.2.tokens.size = s.tokens.size + 1 := by
  rw [← s.size_cancel]
  exact Tokens.size_make _

theorem options_begin (s : Session) : s.begin.2.options = s.options := s.options_cancel

/-- A search starts with a new token and the options of its session. -/
theorem search_eq (s : Session) (query : String) (index : Index) :
    (s.search query index).1 = ⟨s.begin.1, 0, .start query s.options index.entries⟩ := by
  rw [← s.options_begin]
  rfl

theorem exclusive_new (options : SearchOptions) : (new options).Exclusive := fun _ =>
  ⟨fun h => absurd (Tokens.lt_size_of_not_cancelled h) (Nat.not_lt_zero _), nofun⟩

/-- After a cancellation no token is left that is not cancelled. -/
theorem Exclusive.isCancelled_cancel (h : s.Exclusive) (token : Nat) :
    s.cancel.tokens.isCancelled token = true := by
  rw [← Bool.not_eq_false]
  intro hlive
  unfold cancel at hlive
  split at hlive
  · rename_i hnone
    have hcurrent := (h token).mp hlive
    rw [hnone] at hcurrent
    cases hcurrent
  · rename_i old hold
    rw [Tokens.isCancelled_cancel, Bool.or_eq_false_iff] at hlive
    have hcurrent := (h token).mp hlive.2
    rw [hold, Option.some.injEq] at hcurrent
    simp [hcurrent] at hlive

theorem Exclusive.cancel (h : s.Exclusive) : s.cancel.Exclusive := by
  intro token
  rw [h.isCancelled_cancel]
  refine ⟨nofun, fun hcurrent => ?_⟩
  unfold Session.cancel at hcurrent
  split at hcurrent
  · rename_i hnone
    rw [hnone] at hcurrent
    cases hcurrent
  · cases hcurrent

/-- Only the new token is not cancelled, since the cancellation came first. -/
theorem Exclusive.begin (h : s.Exclusive) : s.begin.2.Exclusive := by
  intro token
  change s.cancel.tokens.make.2.isCancelled token = false ↔ some s.cancel.tokens.size = some token
  rw [Tokens.isCancelled_make, h.isCancelled_cancel, Bool.and_true, Option.some.injEq,
    bne_eq_false_iff_eq, eq_comm]

theorem Exclusive.live_begin (h : s.Exclusive) :
    s.begin.2.tokens.isCancelled s.begin.1 = false := (h.begin _).mpr s.current_begin

theorem Exclusive.eq_of_live (h : s.Exclusive) {other : Nat}
    (ht : s.tokens.isCancelled token = false) (ho : s.tokens.isCancelled other = false) :
    token = other := Option.some.inj (((h _).mp ht).symm.trans ((h _).mp ho))

/-- Of tokens without repetition at most one is not cancelled. -/
theorem Exclusive.length_live_le (h : s.Exclusive) {handed : List Nat} (hn : handed.Nodup) :
    (handed.filter fun token => !s.tokens.isCancelled token).length ≤ 1 := by
  have hlive {token : Nat} (ht : token ∈ handed.filter fun token => !s.tokens.isCancelled token) :
      s.tokens.isCancelled token = false := by simpa using (List.mem_filter.mp ht).2
  have hnodup : (handed.filter fun token => !s.tokens.isCancelled token).Nodup := hn.filter _
  cases hfilter : handed.filter fun token => !s.tokens.isCancelled token with
  | nil => exact Nat.zero_le _
  | cons token rest =>
    rw [hfilter] at hlive hnodup
    have hsame : token :: rest = .replicate (rest.length + 1) token :=
      List.eq_replicate_of_mem fun other ho => h.eq_of_live (hlive ho) (hlive List.mem_cons_self)
    rw [hsame, List.nodup_replicate] at hnodup
    exact hnodup

theorem Exclusive.after (h : s.Exclusive) (e : SessionEvent) : (s.after e).Exclusive := by
  cases e with
  | begin | search => exact h.begin
  | cancel => exact h.cancel
  | poll | await => exact h

theorem after_calm {e : SessionEvent} (h : e.interrupts = false) : s.after e = s := by
  cases e <;> first | rfl | cases h

theorem options_after (s : Session) (e : SessionEvent) : (s.after e).options = s.options := by
  cases e with
  | begin | search => exact s.options_begin
  | cancel => exact s.options_cancel
  | poll | await => rfl

theorem size_after (s : Session) (e : SessionEvent) :
    (s.after e).tokens.size = if e.opens then s.tokens.size + 1 else s.tokens.size := by
  cases e with
  | begin | search => exact s.size_begin
  | cancel => exact s.size_cancel
  | poll | await => rfl

theorem revoked_cancel (h : s.tokens.Revoked token) : s.cancel.tokens.Revoked token := by
  unfold cancel
  split
  · exact h
  · exact h.cancel _

theorem revoked_after (h : s.tokens.Revoked token) (e : SessionEvent) :
    (s.after e).tokens.Revoked token := by
  cases e with
  | begin | search => exact (revoked_cancel h).make
  | cancel => exact revoked_cancel h
  | poll | await => exact h

/-- An interruption leaves no older token that is not cancelled. -/
theorem Exclusive.revoked_after (h : s.Exclusive) {e : SessionEvent} (ht : token < s.tokens.size)
    (he : e.interrupts = true) : (s.after e).tokens.Revoked token := by
  have hcancelled : s.cancel.tokens.Revoked token :=
    ⟨by rw [s.size_cancel]; exact ht, h.isCancelled_cancel token⟩
  cases e with
  | begin | search => exact hcancelled.make
  | cancel => exact hcancelled
  | poll | await => cases he

end Steps

end Session

namespace SessionRun

def run (index : Index) (r : SessionRun) (events : List SessionEvent) : SessionRun :=
  events.foldl (fun r e => (r.step index e).1) r

def tokens (index : Index) (r : SessionRun) : List SessionEvent → List Nat
  | [] => []
  | e :: events =>
    if e.opens then r.session.begin.1 :: tokens index (r.step index e).1 events
    else tokens index (r.step index e).1 events

theorem run_cons (index : Index) (r : SessionRun) (e : SessionEvent) (events : List SessionEvent) :
    r.run index (e :: events) = (r.step index e).1.run index events := rfl

theorem run_append (index : Index) (r : SessionRun) (as bs : List SessionEvent) :
    r.run index (as ++ bs) = (r.run index as).run index bs := List.foldl_append

theorem session_step (index : Index) (r : SessionRun) (e : SessionEvent) :
    (r.step index e).1.session = r.session.after e := by
  cases e <;> rfl

/-- What every event keeps of a session, a run keeps. -/
theorem run_invariant (index : Index) {P : Session → Prop} (hstep : ∀ s e, P s → P (s.after e))
    {r : SessionRun} (h : P r.session) (events : List SessionEvent) :
    P (r.run index events).session := by
  induction events generalizing r with
  | nil => exact h
  | cons e events ih =>
    rw [run_cons]
    refine ih ?_
    rw [session_step]
    exact hstep _ e h

theorem options_run (index : Index) (r : SessionRun) (events : List SessionEvent) :
    (r.run index events).session.options = r.session.options :=
  run_invariant (P := fun s => s.options = r.session.options) index
    (fun s e h => (s.options_after e).trans h) rfl events

theorem exclusive_run (index : Index) {r : SessionRun} (h : r.session.Exclusive)
    (events : List SessionEvent) : (r.run index events).session.Exclusive :=
  run_invariant index (fun _ e hs => hs.after e) h events

theorem session_run_calm (index : Index) (r : SessionRun) {events : List SessionEvent}
    (h : ∀ e ∈ events, e.interrupts = false) : (r.run index events).session = r.session := by
  induction events generalizing r with
  | nil => rfl
  | cons e events ih =>
    rw [run_cons, ih _ fun x hx => h x (List.mem_cons_of_mem _ hx), session_step,
      Session.after_calm (h e List.mem_cons_self)]

theorem revoked_run (index : Index) {r : SessionRun} {token : Nat}
    (h : r.session.tokens.Revoked token) (events : List SessionEvent) :
    (r.run index events).session.tokens.Revoked token :=
  run_invariant (P := fun s => s.tokens.Revoked token) index
    (fun _ e hs => Session.revoked_after hs e) h events

theorem revoked_run_of_interrupt (index : Index) {r : SessionRun} {token : Nat}
    (hr : r.session.Exclusive) (ht : token < r.session.tokens.size) {events : List SessionEvent}
    (h : ∃ e ∈ events, e.interrupts = true) :
    (r.run index events).session.tokens.Revoked token := by
  induction events generalizing r with
  | nil =>
    obtain ⟨e, he, -⟩ := h
    cases he
  | cons e events ih =>
    rw [run_cons]
    cases he : e.interrupts with
    | true =>
      apply revoked_run
      rw [session_step]
      exact hr.revoked_after ht he
    | false =>
      have hsame : (r.step index e).1.session = r.session := by
        rw [session_step, Session.after_calm he]
      refine ih (by rw [hsame]; exact hr) (by rw [hsame]; exact ht) ?_
      obtain ⟨x, hx, hi⟩ := h
      rcases List.mem_cons.mp hx with rfl | hx
      · rw [he] at hi
        cases hi
      · exact ⟨x, hx, hi⟩

theorem session_step_of_opens (index : Index) (r : SessionRun) {e : SessionEvent}
    (h : e.opens = true) : (r.step index e).1.session = r.session.begin.2 := by
  rw [session_step]
  cases e <;> first | rfl | cases h

/-- A token stays uncancelled exactly until the next interruption. -/
theorem not_cancelled_run_iff (index : Index) {r : SessionRun} (hr : r.session.Exclusive)
    {e : SessionEvent} (he : e.opens = true) (events : List SessionEvent) :
    (r.run index (e :: events)).session.tokens.isCancelled r.session.begin.1 = false ↔
      ∀ x ∈ events, x.interrupts = false := by
  have hopened := session_step_of_opens index r he
  rw [run_cons]
  constructor
  · intro h x hx
    cases hi : x.interrupts with
    | false => rfl
    | true =>
      have ht : r.session.begin.1 < (r.step index e).1.session.tokens.size := by
        rw [hopened, r.session.size_begin, r.session.token_begin]
        exact Nat.lt_succ_self _
      have hrevoked := revoked_run_of_interrupt index (by rw [hopened]; exact hr.begin) ht
        ⟨x, hx, hi⟩
      rw [hrevoked.2] at h
      cases h
  · intro h
    rw [session_run_calm index _ h, hopened]
    exact hr.live_begin

theorem size_le_of_mem_tokens (index : Index) (r : SessionRun) {events : List SessionEvent}
    {token : Nat} (h : token ∈ r.tokens index events) : r.session.tokens.size ≤ token := by
  induction events generalizing r with
  | nil => cases h
  | cons e events ih =>
    have hn : r.session.tokens.size ≤ (r.step index e).1.session.tokens.size := by
      rw [session_step, Session.size_after]
      split <;> omega
    unfold tokens at h
    split at h
    · rcases List.mem_cons.mp h with rfl | h
      · exact Nat.le_of_eq r.session.token_begin.symm
      · exact Nat.le_trans hn (ih _ h)
    · exact Nat.le_trans hn (ih _ h)

theorem tokens_nodup (index : Index) (r : SessionRun) (events : List SessionEvent) :
    (r.tokens index events).Nodup := by
  induction events generalizing r with
  | nil => exact List.nodup_nil
  | cons e events ih =>
    unfold tokens
    split
    · rename_i he
      rw [List.nodup_cons]
      refine ⟨fun hm => ?_, ih _⟩
      have hle := size_le_of_mem_tokens index _ hm
      rw [session_step_of_opens index r he, r.session.size_begin, r.session.token_begin] at hle
      exact absurd hle (Nat.not_succ_le_self _)
    · exact ih _

end SessionRun

end DocPages
