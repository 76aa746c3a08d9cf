import DocPages.Ranking

/-! How far a ranking is from its end. A ranking fixes how often it still pauses and what it will
answer, and a poll moves towards that end without changing it. A run is therefore determined by the
pause at which it is cancelled, if it is. -/

namespace DocPages

theorem Scorer.scoreAll_append (s : Scorer) (as bs : List Entry) :
    s.scoreAll (as ++ bs) = s.scoreAll as ++ s.scoreAll bs := by
  simp only [scoreAll, List.map_append, List.filter_append]

theorem SearchOptions.chunk_pos (o : SearchOptions) : 0 < o.chunk := by
  unfold chunk
  omega

namespace Ranking

/-- Nothing has been scored and the query asks for nothing. -/
def isIdle (r : Ranking) : Bool := !r.started && r.scorer.isEmpty

/-- The pauses to come if nobody cancels. -/
def pausesLeft (r : Ranking) : Nat := if r.isIdle then 0 else (r.rest.length - 1) / r.options.chunk

def answer (r : Ranking) : List Ranked :=
  if r.isIdle then [] else r.scorer.best r.options.limit (r.scored ++ r.scorer.scoreAll r.rest)

/-- The ranking at its next pause. -/
def next (r : Ranking) : Ranking :=
  { r with
    started := true
    handled := r.handled + r.options.chunk
    scored := r.scored ++ r.scorer.scoreAll (r.rest.take r.options.chunk)
    rest := r.rest.drop r.options.chunk }

@[simp] theorem isIdle_next (r : Ranking) : r.next.isIdle = false := rfl

theorem isIdle_of_pausesLeft {r : Ranking} (h : r.pausesLeft ≠ 0) : r.isIdle = false := by
  cases hi : r.isIdle with
  | false => rfl
  | true => exact absurd (by simp [pausesLeft, hi]) h

theorem pausesLeft_eq_zero_iff {r : Ranking} (h : r.isIdle = false) :
    r.pausesLeft = 0 ↔ r.rest.length ≤ r.options.chunk := by
  have hc := r.options.chunk_pos
  simp only [pausesLeft, h, Bool.false_eq_true, if_false, Nat.div_eq_zero_iff]
  omega

theorem pausesLeft_next {r : Ranking} {n : Nat} (h : r.pausesLeft = n + 1) :
    r.next.pausesLeft = n := by
  have hi : r.isIdle = false := isIdle_of_pausesLeft (by omega)
  have hn : (r.rest.length - 1) / r.options.chunk = n + 1 := by simpa [pausesLeft, hi] using h
  -- a chunk less is one less in the quotient
  have hd : (r.rest.length - 1 - r.options.chunk * 1) / r.options.chunk = n := by
    rw [Nat.sub_mul_div, hn]
    rfl
  have hl : r.next.rest.length - 1 = r.rest.length - 1 - r.options.chunk * 1 := by
    simp only [next, List.length_drop]
    omega
  simp only [pausesLeft, isIdle_next, Bool.false_eq_true, if_false, hl]
  exact hd

theorem answer_next {r : Ranking} (h : r.isIdle = false) : r.next.answer = r.answer := by
  simp only [answer, isIdle_next, h, Bool.false_eq_true, if_false]
  rw [next, List.append_assoc, ← Scorer.scoreAll_append, List.take_append_drop]

theorem poll_unwanted (r : Ranking) :
    r.poll false =
      (.finished none, if r.started then [.rankingCancelled r.query r.handled] else []) := rfl

theorem poll_last {r : Ranking} (h : r.pausesLeft = 0) :
    r.poll true = (.finished (some r.answer), []) := by
  unfold poll
  cases hi : r.isIdle with
  | true =>
    rw [isIdle] at hi
    simp only [hi, answer, isIdle, Bool.not_true, Bool.false_eq_true, if_false, if_true]
  | false =>
    have hl := (pausesLeft_eq_zero_iff hi).mp h
    have he : (r.rest.drop r.options.chunk).isEmpty = true := by
      rw [List.isEmpty_iff, List.drop_eq_nil_iff]
      exact hl
    have ht : r.rest.take r.options.chunk = r.rest := List.take_of_length_le hl
    have hi' := hi
    rw [isIdle] at hi'
    simp only [hi', answer, hi, advance, he, ht, Bool.not_true, Bool.false_eq_true, if_false,
      if_true]

theorem poll_more {r : Ranking} (h : r.pausesLeft ≠ 0) : r.poll true = (.paused r.next, []) := by
  have hi := isIdle_of_pausesLeft h
  have he : (r.rest.drop r.options.chunk).isEmpty = false := by
    rw [List.isEmpty_eq_false_iff, Ne, List.drop_eq_nil_iff, ← pausesLeft_eq_zero_iff hi]
    exact h
  rw [isIdle] at hi
  simp only [poll, hi, advance, he, Bool.not_true, Bool.false_eq_true, if_false, next]

theorem runFrom_wanted {wanted : Nat → Bool} (fuel pauses : Nat) (r : Ranking)
    (hf : r.pausesLeft < fuel) (hw : ∀ k ≤ r.pausesLeft, wanted (pauses + k) = true) :
    runFrom wanted pauses fuel r = ⟨pauses + r.pausesLeft, some r.answer, []⟩ := by
  induction fuel generalizing pauses r with
  | zero => omega
  | succ fuel ih =>
    have h0 : wanted pauses = true := hw 0 (Nat.zero_le _)
    cases hn : r.pausesLeft with
    | zero => simp only [runFrom, h0, poll_last hn, Nat.add_zero]
    | succ n =>
      have hp := pausesLeft_next hn
      have hi := isIdle_of_pausesLeft (r := r) (by omega)
      have hr := ih (pauses + 1) r.next (by omega) (by
        intro k hk
        rw [Nat.add_assoc, Nat.add_comm 1]
        exact hw (k + 1) (by omega))
      simp only [runFrom, h0, poll_more (r := r) (by omega), hr, hp, answer_next hi,
        List.append_nil]
      rw [Nat.add_assoc, Nat.add_comm 1]

theorem runFrom_cancelled {wanted : Nat → Bool} (fuel pauses k : Nat) (r : Ranking)
    (hf : k < fuel) (hk : k ≤ r.pausesLeft) (hw : ∀ j < k, wanted (pauses + j) = true)
    (hc : wanted (pauses + k) = false) :
    runFrom wanted pauses fuel r = ⟨pauses + k, none,
      if r.started || 0 < k then
        [.rankingCancelled r.query (r.handled + k * r.options.chunk)] else []⟩ := by
  induction k generalizing fuel pauses r with
  | zero =>
    obtain ⟨fuel, rfl⟩ := Nat.exists_eq_succ_of_ne_zero (Nat.ne_of_gt hf)
    have h0 : wanted pauses = false := hc
    simp [runFrom, h0, poll_unwanted]
  | succ k ih =>
    obtain ⟨fuel, rfl⟩ := Nat.exists_eq_succ_of_ne_zero (Nat.ne_of_gt (Nat.zero_lt_of_lt hf))
    have h0 : wanted pauses = true := hw 0 (Nat.succ_pos k)
    have hm : r.pausesLeft ≠ 0 := by omega
    obtain ⟨n, hn⟩ := Nat.exists_eq_succ_of_ne_zero hm
    have hr := ih fuel (pauses + 1) r.next (by omega)
      (by rw [pausesLeft_next hn]; omega)
      (by
        intro j hj
        rw [Nat.add_assoc, Nat.add_comm 1]
        exact hw (j + 1) (by omega))
      (by rw [Nat.add_assoc, Nat.add_comm 1]; exact hc)
    have hh : r.handled + r.options.chunk + k * r.options.chunk =
        r.handled + (k + 1) * r.options.chunk := by
      rw [Nat.succ_mul]
      omega
    simp only [runFrom, h0, poll_more hm, hr, List.nil_append]
    simp only [next, Bool.true_or, if_true, hh, Nat.succ_pos, decide_true, Bool.or_true]
    rw [Nat.add_assoc, Nat.add_comm 1]

theorem pausesLeft_le (r : Ranking) : r.pausesLeft ≤ r.rest.length := by
  unfold pausesLeft
  split
  · exact Nat.zero_le _
  · exact Nat.le_trans (Nat.div_le_self _ _) (Nat.sub_le _ _)

theorem run_wanted (r : Ranking) (wanted : Nat → Bool)
    (hw : ∀ k ≤ r.pausesLeft, wanted k = true) :
    r.run wanted = ⟨r.pausesLeft, some r.answer, []⟩ := by
  have hr := @runFrom_wanted wanted (r.rest.length + 1) 0 r (Nat.lt_succ_of_le r.pausesLeft_le) (by
    intro k hk
    rw [Nat.zero_add]
    exact hw k hk)
  rw [Nat.zero_add] at hr
  exact hr

end Ranking

end DocPages
