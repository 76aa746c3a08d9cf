import DocPages.Proofs.Ranking.Progress

/-! Ranking told entry by entry, as one loop over the numbered entries that writes down all it does.
The chunks of a ranking and this loop agree for every way to cancel them, and the loop never scores
more than one chunk without looking whether it is still wanted. -/

namespace DocPages

namespace Ranking

inductive Act where
  /-- Looks whether the ranking is still wanted. -/
  | check
  | score (entry : Entry)
  | pause
  deriving DecidableEq, Repr

namespace Act

def scored : List Act → List Entry
  | [] => []
  | .score e :: acts => e :: scored acts
  | _ :: acts => scored acts

/-- At most `left` entries are scored before the first check, and at most `y` between two. -/
def within (y : Nat) : Nat → List Act → Bool
  | _, [] => true
  | _, .check :: acts => within y y acts
  | left, .pause :: acts => within y left acts
  | 0, .score _ :: _ => false
  | left + 1, .score _ :: acts => within y left acts

@[simp] theorem scored_append (as bs : List Act) : scored (as ++ bs) = scored as ++ scored bs := by
  induction as with
  | nil => rfl
  | cons a as ih => cases a <;> simp [scored, ih]

@[simp] theorem scored_map_score (es : List Entry) : scored (es.map .score) = es := by
  induction es with
  | nil => rfl
  | cons e es ih => simp [scored, ih]

@[simp] theorem count_pause_map_score (es : List Entry) : (es.map Act.score).count .pause = 0 := by
  rw [List.count_eq_zero]
  intro h
  obtain ⟨e, -, he⟩ := List.mem_map.mp h
  cases he

end Act

structure Log where
  acts : List Act
  results : Option (List Ranked)

def Log.after (acts : List Act) (log : Log) : Log := { log with acts := acts ++ log.acts }

@[simp] theorem Log.after_append (as bs : List Act) (log : Log) :
    (log.after bs).after as = log.after (as ++ bs) := by
  simp only [after, List.append_assoc]

/-- The loop from the entry with number `idx` on, after some pauses. -/
def loopFrom (s : Scorer) (o : SearchOptions) (wanted : Nat → Bool) (idx pauses : Nat)
    (scored : List Scored) : List Entry → Log
  | [] => ⟨[.check], if wanted pauses then some (s.best o.limit scored) else none⟩
  | e :: es =>
    if 0 < idx && idx % o.chunk = 0 then
      if wanted (pauses + 1) then
        (loopFrom s o wanted (idx + 1) (pauses + 1) (scored ++ s.scoreAll [e]) es).after
          [.pause, .check, .score e]
      else ⟨[.pause, .check], none⟩
    else (loopFrom s o wanted (idx + 1) pauses (scored ++ s.scoreAll [e]) es).after [.score e]

def loop (s : Scorer) (o : SearchOptions) (wanted : Nat → Bool) (entries : List Entry) : Log :=
  if !wanted 0 then ⟨[.check], none⟩
  else if s.isEmpty then ⟨[.check], some []⟩
  else (loopFrom s o wanted 0 0 [] entries).after [.check]

variable {s : Scorer} {o : SearchOptions} {wanted : Nat → Bool}

theorem loopFrom_stretch (batch es : List Entry) (idx pauses : Nat) (scored : List Scored)
    (h : ∀ i < batch.length, (idx + i) % o.chunk ≠ 0) :
    loopFrom s o wanted idx pauses scored (batch ++ es) =
      (loopFrom s o wanted (idx + batch.length) pauses (scored ++ s.scoreAll batch) es).after
        (batch.map .score) := by
  induction batch generalizing idx scored with
  | nil => simp [Log.after, Scorer.scoreAll]
  | cons e batch ih =>
    have h0 : idx % o.chunk ≠ 0 := h 0 (Nat.succ_pos _)
    have hr := ih (idx + 1) (scored ++ s.scoreAll [e]) (by
      intro i hi
      rw [Nat.add_assoc, Nat.add_comm 1]
      exact h (i + 1) (Nat.succ_lt_succ hi))
    rw [List.append_assoc, ← Scorer.scoreAll_append, List.singleton_append, Nat.add_assoc,
      Nat.add_comm 1] at hr
    simp only [List.cons_append, loopFrom, h0, decide_false, Bool.and_false, Bool.false_eq_true,
      if_false, hr, Log.after_append, List.map_cons, List.length_cons, List.nil_append]

/-- The loop goes on right after a check that stands before the entry with number `idx`. -/
def resume (s : Scorer) (o : SearchOptions) (wanted : Nat → Bool) (idx pauses : Nat)
    (scored : List Scored) : List Entry → Log
  | [] => loopFrom s o wanted idx pauses scored []
  | e :: es =>
    (loopFrom s o wanted (idx + 1) pauses (scored ++ s.scoreAll [e]) es).after [.score e]

theorem resume_zero (pauses : Nat) (scored : List Scored) (es : List Entry) :
    resume s o wanted 0 pauses scored es = loopFrom s o wanted 0 pauses scored es := by
  cases es <;> simp [resume, loopFrom]

theorem mul_add_mod_ne {k y i : Nat} (h0 : 0 < i) (hy : i < y) : (k * y + i) % y ≠ 0 := by
  rw [Nat.mul_comm, Nat.mul_add_mod, Nat.mod_eq_of_lt hy]
  omega

theorem resume_stretch (batch es : List Entry) (k : Nat) (scored : List Scored)
    (h0 : batch ≠ []) (h : batch.length ≤ o.chunk) :
    resume s o wanted (k * o.chunk) k scored (batch ++ es) =
      (loopFrom s o wanted (k * o.chunk + batch.length) k (scored ++ s.scoreAll batch) es).after
        (batch.map .score) := by
  cases batch with
  | nil => exact absurd rfl h0
  | cons e batch =>
    have hl : ∀ i < batch.length, (k * o.chunk + 1 + i) % o.chunk ≠ 0 := by
      intro i hi
      rw [Nat.add_assoc]
      exact mul_add_mod_ne (by omega) (by simp only [List.length_cons] at h; omega)
    have hr := @loopFrom_stretch s o wanted batch es (k * o.chunk + 1) k
      (scored ++ s.scoreAll [e]) hl
    rw [List.append_assoc, ← Scorer.scoreAll_append, List.singleton_append, Nat.add_assoc,
      Nat.add_comm 1] at hr
    simp only [List.cons_append, resume, hr, Log.after_append, List.map_cons, List.length_cons,
      List.nil_append]

theorem loopFrom_pause (e : Entry) (es : List Entry) (k : Nat) (scored : List Scored) :
    loopFrom s o wanted ((k + 1) * o.chunk) k scored (e :: es) =
      if wanted (k + 1) then
        (resume s o wanted ((k + 1) * o.chunk) (k + 1) scored (e :: es)).after [.pause, .check]
      else ⟨[.pause, .check], none⟩ := by
  have hp : 0 < (k + 1) * o.chunk := Nat.mul_pos (Nat.succ_pos k) o.chunk_pos
  simp only [loopFrom, hp, decide_true, Nat.mul_mod_left, Bool.and_self, if_true, resume,
    Log.after_append, List.cons_append, List.nil_append]

theorem resume_last (es : List Entry) (k : Nat) (scored : List Scored)
    (h : es.length ≤ o.chunk) (hw : wanted k = true) :
    resume s o wanted (k * o.chunk) k scored es =
      ⟨es.map .score ++ [.check], some (s.best o.limit (scored ++ s.scoreAll es))⟩ := by
  cases es with
  | nil => simp [resume, loopFrom, hw, Scorer.scoreAll]
  | cons e es =>
    have hs := @resume_stretch s o wanted (e :: es) [] k scored (List.cons_ne_nil _ _) h
    rw [List.append_nil] at hs
    simp only [hs, loopFrom, hw, if_true, Log.after]

theorem resume_more (es : List Entry) (k : Nat) (scored : List Scored)
    (h : o.chunk < es.length) :
    resume s o wanted (k * o.chunk) k scored es =
      (if wanted (k + 1) then
        (resume s o wanted ((k + 1) * o.chunk) (k + 1) (scored ++ s.scoreAll (es.take o.chunk))
          (es.drop o.chunk)).after [.pause, .check]
      else ⟨[.pause, .check], none⟩).after ((es.take o.chunk).map .score) := by
  have hc := o.chunk_pos
  have ht : (es.take o.chunk).length = o.chunk := by
    rw [List.length_take]
    omega
  obtain ⟨e, rest, hd⟩ : ∃ e rest, es.drop o.chunk = e :: rest := by
    rw [← List.ne_nil_iff_exists_cons, Ne, List.drop_eq_nil_iff]
    omega
  have hs := @resume_stretch s o wanted (es.take o.chunk) (es.drop o.chunk) k scored
    (List.ne_nil_of_length_pos (by omega)) (Nat.le_of_eq ht)
  rw [List.take_append_drop, ht, ← Nat.succ_mul, Nat.succ_eq_add_one, hd, loopFrom_pause] at hs
  rw [hs, hd]

theorem runFrom_eq_resume (fuel k : Nat) (r : Ranking) (hi : r.isIdle = false)
    (hf : r.pausesLeft < fuel) (hw : wanted k = true) :
    (runFrom wanted k fuel r).results =
        (resume r.scorer r.options wanted (k * r.options.chunk) k r.scored r.rest).results ∧
      (runFrom wanted k fuel r).pauses = k +
        (resume r.scorer r.options wanted (k * r.options.chunk) k r.scored r.rest).acts.count
          .pause := by
  induction fuel generalizing k r with
  | zero => omega
  | succ fuel ih =>
    cases hn : r.pausesLeft with
    | zero =>
      have hl := (pausesLeft_eq_zero_iff hi).mp hn
      simp [runFrom, hw, poll_last hn, resume_last r.rest k r.scored hl hw, answer, hi]
    | succ n =>
      have hl : r.options.chunk < r.rest.length := by
        apply Nat.lt_of_not_le
        rw [← pausesLeft_eq_zero_iff hi]
        omega
      have hp : r.pausesLeft ≠ 0 := by omega
      simp only [runFrom, hw, poll_more hp, resume_more r.rest k r.scored hl]
      cases hw1 : wanted (k + 1) with
      | false =>
        cases fuel with
        | zero => omega
        | succ fuel =>
          simp [runFrom, hw1, poll_unwanted, Log.after, List.count_append, -List.map_take]
      | true =>
        obtain ⟨hres, hpau⟩ := ih (k + 1) r.next rfl (by rw [pausesLeft_next hn]; omega) hw1
        refine ⟨hres, ?_⟩
        rw [hpau]
        simp [Log.after, next, List.count_append, Nat.add_assoc, Nat.add_comm 1, -List.map_take]

/-- The ranking in chunks and the loop over the entries agree, however they are cancelled. -/
theorem run_eq_loop (query : String) (s : Scorer) (o : SearchOptions) (wanted : Nat → Bool)
    (entries : List Entry) :
    ((ofScorer query s o entries).run wanted).results = (loop s o wanted entries).results ∧
      ((ofScorer query s o entries).run wanted).pauses =
        (loop s o wanted entries).acts.count .pause := by
  have hf := Nat.lt_succ_of_le (ofScorer query s o entries).pausesLeft_le
  cases hw : wanted 0 with
  | false => simp [run, runFrom, hw, poll_unwanted, loop]
  | true =>
    cases he : s.isEmpty with
    | true => simp [run, runFrom, hw, poll, ofScorer, loop, he]
    | false =>
      obtain ⟨hr, hp⟩ := runFrom_eq_resume _ 0 (ofScorer query s o entries) he hf hw
      rw [Nat.zero_mul, ofScorer, resume_zero] at hr hp
      simp only [loop, hw, he, Bool.not_true, Bool.false_eq_true, if_false, Log.after,
        List.count_append, run]
      exact ⟨hr, by rw [ofScorer, hp]; simp⟩

theorem scored_resume (n k : Nat) (es : List Entry) (scored : List Scored) (hn : es.length ≤ n)
    (hw : wanted k = true) :
    Act.scored (resume s o wanted (k * o.chunk) k scored es).acts =
      match (resume s o wanted (k * o.chunk) k scored es).results with
      | some _ => es
      | none =>
        es.take ((resume s o wanted (k * o.chunk) k scored es).acts.count .pause * o.chunk) := by
  have hc := o.chunk_pos
  -- from check to check: each round drops a chunk of the entries
  induction n generalizing k es scored with
  | zero =>
    rw [resume_last es k scored (by omega) hw]
    simp [Act.scored]
  | succ n ih =>
    by_cases hl : es.length ≤ o.chunk
    · rw [resume_last es k scored hl hw]
      simp [Act.scored]
    · rw [resume_more es k scored (Nat.lt_of_not_le hl)]
      cases hw1 : wanted (k + 1) with
      | false => simp [Log.after, Act.scored, List.count_append, -List.map_take]
      | true =>
        have hr := ih (k + 1) (es.drop o.chunk) (scored ++ s.scoreAll (es.take o.chunk))
          (by rw [List.length_drop]; omega) hw1
        generalize resume s o wanted ((k + 1) * o.chunk) (k + 1)
          (scored ++ s.scoreAll (es.take o.chunk)) (es.drop o.chunk) = log at hr
        cases hres : log.results with
        | some results =>
          simp only [hres] at hr
          simp [Log.after, hres, Act.scored, hr, -List.map_take]
        | none =>
          simp only [hres] at hr
          have ha : (log.acts.count .pause + 1) * o.chunk =
              o.chunk + log.acts.count .pause * o.chunk := by
            rw [Nat.succ_mul, Nat.add_comm]
          simp [Log.after, hres, Act.scored, hr, List.count_append, ha, List.take_add,
            -List.map_take]

theorem succ_mod {y : Nat} (n : Nat) (hy : 0 < y) :
    (n + 1) % y = 0 ∨ (n + 1) % y = n % y + 1 := by
  have hr := Nat.mod_lt n hy
  have hs : (n + 1) % y = (n % y + 1) % y := (Nat.mod_add_mod n y 1).symm
  by_cases h : n % y + 1 = y
  · exact .inl (by rw [hs, h, Nat.mod_self])
  · exact .inr (by rw [hs, Nat.mod_eq_of_lt (by omega)])

theorem within_loopFrom (es : List Entry) (idx pauses left : Nat) (scored : List Scored)
    (h : 0 < idx ∧ idx % o.chunk = 0 ∨ o.chunk ≤ left + idx % o.chunk) :
    Act.within o.chunk left (loopFrom s o wanted idx pauses scored es).acts = true := by
  have hc := o.chunk_pos
  -- what is left of the allowance lasts to the next pause
  induction es generalizing idx pauses left scored with
  | nil => rfl
  | cons e es ih =>
    have hm := Nat.mod_lt idx hc
    have hs := succ_mod idx hc
    by_cases hp : 0 < idx ∧ idx % o.chunk = 0
    · obtain ⟨y, hy⟩ := Nat.exists_eq_succ_of_ne_zero (Nat.ne_of_gt hc)
      have hr := ih (idx + 1) (pauses + 1) y (scored ++ s.scoreAll [e]) (by omega)
      simp only [loopFrom, hp, decide_true, Bool.and_self, if_true]
      cases wanted (pauses + 1) with
      | false => rfl
      | true =>
        rw [hy] at hr ⊢
        exact hr
    · obtain ⟨left, rfl⟩ := Nat.exists_eq_succ_of_ne_zero (n := left) (by omega)
      have hr := ih (idx + 1) pauses left (scored ++ s.scoreAll [e]) (by omega)
      have hif : (decide (0 < idx) && decide (idx % o.chunk = 0)) = false := by
        simpa using hp
      simp only [loopFrom, hif, Bool.false_eq_true, if_false]
      exact hr

theorem scored_loop (wanted : Nat → Bool) (entries : List Entry) (hs : s.isEmpty = false) :
    Act.scored (loop s o wanted entries).acts =
      match (loop s o wanted entries).results with
      | some _ => entries
      | none => entries.take ((loop s o wanted entries).acts.count .pause * o.chunk) := by
  cases hw : wanted 0 with
  | false => simp [loop, hw, Act.scored]
  | true =>
    have hr := @scored_resume s o wanted entries.length 0 entries [] (Nat.le_refl _) hw
    rw [Nat.zero_mul, resume_zero] at hr
    simp only [loop, hw, hs, Log.after, Bool.not_true, Bool.false_eq_true, if_false,
      List.count_append]
    simpa [Act.scored] using hr

theorem within_loop (s : Scorer) (o : SearchOptions) (wanted : Nat → Bool) (entries : List Entry) :
    Act.within o.chunk 0 (loop s o wanted entries).acts = true := by
  unfold loop
  split
  · rfl
  · split
    · rfl
    · exact within_loopFrom entries 0 0 o.chunk [] (.inr (Nat.le_add_right _ _))

end Ranking

end DocPages
