import DocPages.Json.Text
import DocPages.Proofs.Text.Escaped

/-! String literals of a script, and what a text stands for that was escaped for an attribute and
then put into one. A script does not know the references of markup, and it has escapes of its own:
the literal means the text again only if there is nothing in it that either escape touches. -/

namespace DocPages.Script

/-- The code units of a code point. -/
def unitsOf (n : Nat) : List Nat :=
  if n < 0x10000 then [n]
  else [0xd800 + (n - 0x10000) / 0x400, 0xdc00 + (n - 0x10000) % 0x400]

/-- A text as a script holds it. -/
def encode (cs : List Char) : List Nat := cs.flatMap fun c => unitsOf c.toNat

inductive Mode where
  | text
  /-- Behind a backslash. -/
  | escape
  /-- Behind an escaped carriage return; a line feed belongs to it. -/
  | lineEnd
  /-- Behind an escaped zero; no digit may follow. -/
  | zero
  | hex (left value : Nat)
  | unicode
  /-- Inside the braces of a code point. -/
  | point (value : Option Nat)
  deriving DecidableEq, Repr

def isLineEnd (c : Char) : Bool := c == '\n' || c == '\r' || c == '\u2028' || c == '\u2029'

/-- The code point of an escape that is one character long. -/
def singleEscape : Char → Nat
  | 'b' => 8
  | 't' => 9
  | 'n' => 10
  | 'v' => 11
  | 'f' => 12
  | 'r' => 13
  | c => c.toNat

def stepText (c : Char) : Option (List Nat × Mode) :=
  if c = '\x5c' then some ([], .escape)
  else if c = '\n' ∨ c = '\r' then none
  else some (unitsOf c.toNat, .text)

def stepEscape (c : Char) : Option (List Nat × Mode) :=
  if c = 'x' then some ([], .hex 2 0)
  else if c = 'u' then some ([], .unicode)
  else if c = '0' then some ([0], .zero)
  else if c.isDigit then none
  else if c = '\r' then some ([], .lineEnd)
  else if isLineEnd c then some ([], .text)
  else some (unitsOf (singleEscape c), .text)

/-- The units that a character completes, and where the reader is behind it. -/
def step : Mode → Char → Option (List Nat × Mode)
  | .text, c => stepText c
  | .escape, c => stepEscape c
  | .lineEnd, c => if c = '\n' then some ([], .text) else stepText c
  | .zero, c => if c.isDigit then none else stepText c
  | .hex left value, c => (Json.hexValue? c).map fun d =>
    if left ≤ 1 then ([16 * value + d], .text) else ([], .hex (left - 1) (16 * value + d))
  | .unicode, c =>
    if c = '\x7b' then some ([], .point none)
    else (Json.hexValue? c).map fun d => ([], .hex 3 d)
  | .point value, c =>
    if c = '\x7d' then
      value.bind fun n => if n ≤ 0x10ffff then some (unitsOf n, .text) else none
    else (Json.hexValue? c).map fun d => ([], .point (some (16 * value.getD 0 + d)))

/-- Whether a quote ends the literal. -/
def Mode.closes : Mode → Bool
  | .text | .lineEnd | .zero => true
  | _ => false

/-- What the literal stands for, and what follows its closing quote. -/
def readLiteral (m : Mode) : List Char → Option (List Nat × List Char)
  | [] => none
  | c :: cs =>
    if c = '\x22' ∧ m.closes then some ([], cs)
    else (step m c).bind fun x => (readLiteral x.2 cs).map fun y => (x.1 ++ y.1, y.2)

/-- The value of a text that is one literal in double quotes and nothing else. -/
def literalValue? : List Char → Option (List Nat)
  | '\x22' :: cs =>
    match readLiteral .text cs with
    | some (value, []) => some value
    | _ => none
  | _ => none

example : literalValue? "\"a\\x41\\u{1F600}\\\"\\0é😀\"".toList =
    some (encode "aA😀\"\x00é😀".toList) := by
  decide +kernel

example : literalValue? "\"a\\\"".toList = none ∧ literalValue? "\"a\"\"".toList = none ∧
    literalValue? "\"\\u{110000}\"".toList = none := by
  decide +kernel

def run (m : Mode) : List Char → Option (List Nat × Mode)
  | [] => some ([], m)
  | c :: cs => (step m c).bind fun x => (run x.2 cs).map fun y => (x.1 ++ y.1, y.2)

section Run

variable {m : Mode} {cs : List Char}

theorem run_cons {c : Char} {cs : List Char} {v : List Nat} {m m' : Mode} :
    run m (c :: cs) = some (v, m') ↔
      ∃ u next w, step m c = some (u, next) ∧ run next cs = some (w, m') ∧ u ++ w = v := by
  simp only [run, Option.bind_eq_some_iff, Option.map_eq_some_iff, Prod.exists, Prod.mk.injEq]
  constructor
  · rintro ⟨u, next, hstep, w, m'', hrun, rfl, rfl⟩
    exact ⟨u, next, w, hstep, hrun, rfl⟩
  · rintro ⟨u, next, w, hstep, hrun, rfl⟩
    exact ⟨u, next, hstep, w, m', hrun, rfl, rfl⟩

theorem run_append (m : Mode) (as bs : List Char) :
    run m (as ++ bs) = (run m as).bind fun x => (run x.2 bs).map fun y => (x.1 ++ y.1, y.2) := by
  induction as generalizing m with
  | nil => simp [run]
  | cons c as ih =>
    rw [List.cons_append, run, run]
    cases step m c with
    | none => rfl
    | some x =>
      simp only [Option.bind_some, ih]
      cases run x.2 as with
      | none => rfl
      | some y => simp [Function.comp_def]

theorem readLiteral_append (h : '\x22' ∉ cs) (rest : List Char) :
    readLiteral m (cs ++ rest) =
      (run m cs).bind fun x => (readLiteral x.2 rest).map fun y => (x.1 ++ y.1, y.2) := by
  induction cs generalizing m with
  | nil => simp [run]
  | cons c cs ih =>
    rw [List.mem_cons, not_or] at h
    have hquote : ¬ (c = '\x22' ∧ m.closes = true) := fun hc => h.1 hc.1.symm
    rw [List.cons_append, readLiteral, if_neg hquote, run]
    cases step m c with
    | none => rfl
    | some x =>
      simp only [Option.bind_some, ih h.2]
      cases run x.2 cs with
      | none => rfl
      | some y => simp [Function.comp_def]

theorem readLiteral_quote (m : Mode) :
    readLiteral m ['\x22'] = if m.closes then some ([], []) else none := by
  cases m <;> rfl

theorem literalValue?_eq_some_iff (h : '\x22' ∉ cs) {v : List Nat} :
    literalValue? ('\x22' :: (cs ++ ['\x22'])) = some v ↔
      ∃ m, m.closes = true ∧ run .text cs = some (v, m) := by
  rw [literalValue?, readLiteral_append h]
  cases run .text cs with
  | none => simp
  | some x =>
    obtain ⟨w, m⟩ := x
    rw [Option.bind_some, readLiteral_quote]
    cases hm : m.closes with
    | true => simp [hm]
    | false => simp [hm]

end Run

section Attribute

theorem attrChar_cases (c : Char) :
    (attrChar c = [c] ∧ c ∉ ['&', '<', '>', '\x22', '\x27']) ∨
      (c ∈ ['&', '<', '>', '\x22', '\x27'] ∧ ∃ rest, attrChar c = '&' :: rest) := by
  fun_cases attrChar c
  all_goals first
    | exact .inr ⟨by decide, _, String.toList_ofList⟩
    | simp_all

theorem quote_not_mem_attr (s : List Char) : '\x22' ∉ s.flatMap attrChar := by
  have hchar (c : Char) : '\x22' ∉ attrChar c := by
    fun_cases attrChar c
    all_goals try decide
    simp_all [eq_comm]
  rw [List.mem_flatMap]
  rintro ⟨c, -, hc⟩
  exact hchar c hc

end Attribute

section Behind

variable {m m' : Mode} {c : Char} {s : List Char} {u v w : List Nat}

theorem length_unitsOf_pos (n : Nat) : 1 ≤ (unitsOf n).length := by
  unfold unitsOf
  split <;> simp

theorem length_unitsOf_le (n : Nat) : (unitsOf n).length ≤ 2 := by
  unfold unitsOf
  split <;> simp

theorem length_unitsOf_singleEscape (c : Char) :
    (unitsOf (singleEscape c)).length ≤ (unitsOf c.toNat).length := by
  fun_cases singleEscape c
  all_goals first
    | exact length_unitsOf_pos _
    | exact Nat.le_refl _

theorem ampersand_not_mem_unitsOf (hc : c ≠ '&') : 38 ∉ unitsOf c.toNat := by
  have hne : c.toNat ≠ 38 := fun heq => hc (Char.toNat_inj.mp heq)
  unfold unitsOf
  split
  · simpa using hne.symm
  · simp only [List.mem_cons, List.not_mem_nil, or_false, not_or]
    omega

/-- How many units at least have been taken and not given back when the reader got here by an
escape. -/
def Mode.owed : Mode → Nat
  | .point _ => 2
  | _ => 1

theorem Mode.owed_pos (m : Mode) : 1 ≤ m.owed := by
  cases m <;> simp [owed]

/-- No character completes more than has been taken. -/
theorem step_owed (h : step m c = some (u, m')) :
    u.length + m'.owed ≤ m.owed + (unitsOf c.toNat).length := by
  have hpos := length_unitsOf_pos c.toNat
  have htext : stepText c = some (u, m') → u.length + m'.owed ≤ 1 + (unitsOf c.toNat).length := by
    unfold stepText
    repeat' split
    all_goals
      simp only [Option.some.injEq, Prod.mk.injEq, reduceCtorEq, false_imp_iff]
    all_goals
      rintro ⟨rfl, rfl⟩
      simp only [Mode.owed, List.length_nil]
      omega
  cases m with
  | text => exact htext h
  | escape =>
    have hsingle := length_unitsOf_singleEscape c
    revert h
    simp only [step, stepEscape]
    repeat' split
    all_goals
      simp only [Option.some.injEq, Prod.mk.injEq, reduceCtorEq, false_imp_iff]
    all_goals
      rintro ⟨rfl, rfl⟩
      simp only [Mode.owed, List.length_nil, List.length_cons]
      omega
  | lineEnd =>
    rw [step] at h
    split at h
    · cases h
      simp only [Mode.owed, List.length_nil]
      omega
    · exact htext h
  | zero =>
    rw [step] at h
    split at h
    · cases h
    · exact htext h
  | hex left value =>
    obtain ⟨d, -, hd⟩ := Option.map_eq_some_iff.mp h
    split at hd
    all_goals
      cases hd
      simp only [Mode.owed, List.length_nil, List.length_cons]
      omega
  | unicode =>
    rw [step] at h
    split at h
    · cases h
      simp only [Mode.owed, List.length_nil]
      omega
    · obtain ⟨d, -, hd⟩ := Option.map_eq_some_iff.mp h
      cases hd
      simp only [Mode.owed, List.length_nil]
      omega
  | point value =>
    rw [step] at h
    split at h
    · obtain ⟨n, -, hn⟩ := Option.bind_eq_some_iff.mp h
      have hle := length_unitsOf_le n
      split at hn
      · cases hn
        simp only [Mode.owed]
        omega
      · cases hn
    · obtain ⟨d, -, hd⟩ := Option.map_eq_some_iff.mp h
      cases hd
      simp only [Mode.owed, List.length_nil]
      omega

theorem step_ampersand (h : step m '&' = some (u, m')) : u = [38] := by
  cases m with
  | hex | unicode | point => cases h
  | _ =>
    cases h
    rfl

/-- A reader that owes units never gives them back: a reference would have to be among them, and
everything else makes them no fewer. -/
theorem run_ne_of_behind (hw : 38 ∉ w) (howed : m.owed ≤ w.length)
    (h : run m (s.flatMap attrChar) = some (v, m')) : v ≠ w ++ encode s := by
  induction s generalizing m w v with
  | nil =>
    have hpos := m.owed_pos
    cases h
    intro hnil
    have hlength := congrArg List.length hnil
    simp only [List.length_nil, List.length_append] at hlength
    omega
  | cons c s ih =>
    rw [List.flatMap_cons] at h
    obtain ⟨hself, hplain⟩ | ⟨-, rest, hrest⟩ := attrChar_cases c
    · rw [hself, List.singleton_append, run_cons] at h
      obtain ⟨u, next, v, hstep, hrun, rfl⟩ := h
      have hle := step_owed hstep
      intro heq
      have hcode : encode (c :: s) = unitsOf c.toNat ++ encode s := rfl
      rw [hcode, ← List.append_assoc] at heq
      -- What the step completes has been taken before, and more than that.
      have hfront : u <+: w ++ unitsOf c.toNat := by
        refine List.prefix_of_prefix_length_le (List.prefix_append u v)
          (heq ▸ List.prefix_append _ _) ?_
        have hnext := next.owed_pos
        rw [List.length_append]
        omega
      obtain ⟨w', hw'⟩ := hfront
      have hlength := congrArg List.length hw'
      rw [List.length_append, List.length_append] at hlength
      have hamp : 38 ∉ w' := by
        intro hmem
        have hmem' : 38 ∈ w ++ unitsOf c.toNat := hw' ▸ List.mem_append_right u hmem
        have hne : c ≠ '&' := fun hc => hplain (by simp [hc])
        exact (List.mem_append.mp hmem').elim hw (ampersand_not_mem_unitsOf hne)
      refine ih hamp (by omega) hrun ?_
      rw [← hw', List.append_assoc, List.append_cancel_left_eq] at heq
      exact heq
    · rw [hrest, List.cons_append, run_cons] at h
      obtain ⟨u, next, v, hstep, -, rfl⟩ := h
      obtain rfl := step_ampersand hstep
      intro heq
      cases w with
      | nil =>
        have hpos := m.owed_pos
        rw [List.length_nil] at howed
        omega
      | cons n w =>
        rw [List.singleton_append, List.cons_append, List.cons.injEq] at heq
        exact hw (heq.1 ▸ List.mem_cons_self)

end Behind

section Ahead

variable {m : Mode} {s : List Char} {u v : List Nat}

theorem step_reference {c : Char} (h : c ∈ ['a', 'm', 'p', ';']) :
    attrChar c = [c] ∧ unitsOf c.toNat = [c.toNat] ∧ c.toNat < 128 ∧
      step .text c = some ([c.toNat], .text) := by
  simp only [List.mem_cons, List.not_mem_nil, or_false] at h
  rcases h with rfl | rfl | rfl | rfl <;> exact ⟨rfl, rfl, by decide, rfl⟩

theorem eq_of_unitsOf_append {c : Char} {n : Nat} (hn : n < 128)
    (h : unitsOf c.toNat ++ u = n :: v) : c.toNat = n ∧ u = v := by
  unfold unitsOf at h
  split at h
  · exact List.cons.inj h
  · have hhead := (List.cons.inj h).1
    omega

/-- A reader that has given out letters of a reference which the text does not have stays ahead of
the text: these letters would have to come next, and they give out themselves. -/
theorem run_ne_of_ahead {ahead : List Char} (hne : ahead ≠ [])
    (hahead : ∀ c ∈ ahead, c ∈ ['a', 'm', 'p', ';'])
    (h : run .text (s.flatMap attrChar) = some (v, m)) : encode s ≠ encode ahead ++ v := by
  induction s generalizing ahead v with
  | nil =>
    cases ahead with
    | nil => exact absurd rfl hne
    | cons d ahead =>
      obtain ⟨-, hunits, -, -⟩ := step_reference (hahead d List.mem_cons_self)
      simp [encode, hunits]
  | cons c s ih =>
    cases ahead with
    | nil => exact absurd rfl hne
    | cons d ahead =>
      obtain ⟨hd, hlater⟩ := List.forall_mem_cons.mp hahead
      obtain ⟨hself, hunits, hlow, hstep⟩ := step_reference hd
      intro heq
      rw [encode, encode, List.flatMap_cons, List.flatMap_cons, hunits] at heq
      obtain ⟨hcd, heq⟩ := eq_of_unitsOf_append hlow heq
      obtain rfl := Char.toNat_inj.mp hcd
      rw [List.flatMap_cons, hself, List.singleton_append, run_cons, hstep] at h
      obtain ⟨_, _, v, hsome, hrun, rfl⟩ := h
      cases hsome
      -- The letter that was taken is now the last one that is ahead.
      refine ih (List.concat_ne_nil c ahead) ?_ hrun ?_
      · exact List.forall_mem_append.mpr ⟨hlater, by simpa using hd⟩
      · simpa [encode, hunits] using heq

end Ahead

/-- What stands for itself in an attribute value and in a literal. -/
def IsPlain (c : Char) : Prop := c ∉ ['&', '<', '>', '\x22', '\x27', '\x5c']

instance : DecidablePred IsPlain := fun _ => inferInstanceAs (Decidable (_ ∉ _))

section Literal

variable {s : List Char}

theorem step_text_plain {c : Char} (hslash : c ≠ '\x5c') (hline : 32 ≤ c.toNat) :
    step .text c = some (unitsOf c.toNat, .text) := by
  have hbreak : ¬ (c = '\n' ∨ c = '\r') := by
    rintro (rfl | rfl) <;> exact absurd hline (by decide)
  rw [step, stepText, if_neg hslash, if_neg hbreak]

theorem run_attr_of_plain (hline : ∀ c ∈ s, 32 ≤ c.toNat) (h : ∀ c ∈ s, IsPlain c) :
    run .text (s.flatMap attrChar) = some (encode s, .text) := by
  induction s with
  | nil => rfl
  | cons c s ih =>
    obtain ⟨hc, hs⟩ := List.forall_mem_cons.mp hline
    obtain ⟨hplain, hrest⟩ := List.forall_mem_cons.mp h
    obtain ⟨hself, -⟩ | ⟨hmem, -⟩ := attrChar_cases c
    · have hslash : c ≠ '\x5c' := fun heq => hplain (by simp [heq])
      rw [List.flatMap_cons, hself, List.singleton_append, run_cons]
      exact ⟨_, _, _, step_text_plain hslash hc, ih hs hrest, rfl⟩
    · exact absurd (List.mem_append_left ['\x5c'] hmem) hplain

theorem plain_of_run_attr {m : Mode} (hline : ∀ c ∈ s, 32 ≤ c.toNat)
    (h : run .text (s.flatMap attrChar) = some (encode s, m)) : ∀ c ∈ s, IsPlain c := by
  induction s with
  | nil => simp
  | cons c s ih =>
    obtain ⟨hc, hs⟩ := List.forall_mem_cons.mp hline
    have hcode : encode (c :: s) = unitsOf c.toNat ++ encode s := rfl
    rw [List.flatMap_cons, hcode] at h
    obtain ⟨hself, hnot⟩ | ⟨hmem, rest, hrest⟩ := attrChar_cases c
    · rw [hself, List.singleton_append, run_cons] at h
      obtain ⟨u, next, v, hstep, hrun, heq⟩ := h
      by_cases hslash : c = '\x5c'
      · -- The reader takes the backslash and gives nothing for it.
        subst hslash
        cases hstep
        exact absurd heq (run_ne_of_behind (by decide) (by decide) hrun)
      · rw [step_text_plain hslash hc] at hstep
        cases hstep
        rw [List.append_cancel_left_eq] at heq
        subst heq
        refine List.forall_mem_cons.mpr ⟨?_, ih hs hrun⟩
        rw [IsPlain]
        intro hin
        exact (List.mem_append.mp hin).elim hnot fun hlast => hslash (List.mem_singleton.mp hlast)
    · -- A reference begins with an ampersand, so the character is one, and the rest is ahead.
      rw [hrest, List.cons_append, run_cons] at h
      obtain ⟨u, next, v, hstep, hrun, heq⟩ := h
      cases hstep
      obtain ⟨hamp, htail⟩ := eq_of_unitsOf_append (by decide) heq.symm
      obtain rfl := Char.toNat_inj.mp hamp
      obtain rfl : rest = ['a', 'm', 'p', ';'] :=
        (List.cons.inj (hrest.symm.trans String.toList_ofList)).2
      have hletters : run .text ['a', 'm', 'p', ';'] =
          some (encode ['a', 'm', 'p', ';'], .text) := rfl
      rw [run_append, hletters, Option.bind_some] at hrun
      obtain ⟨⟨w, last⟩, hlast, hvalue⟩ := Option.map_eq_some_iff.mp hrun
      refine absurd ?_ (run_ne_of_ahead (List.cons_ne_nil _ _) (fun _ hd => hd) hlast)
      exact htail.trans (Prod.mk.inj hvalue).1.symm

/-- A text that was escaped for an attribute and then put into a literal is the value of the literal
if and only if all its characters stand for themselves in both. -/
theorem literalValue?_attr_iff (hline : ∀ c ∈ s, 32 ≤ c.toNat) :
    literalValue? ('\x22' :: (s.flatMap attrChar ++ ['\x22'])) = some (encode s) ↔
      ∀ c ∈ s, IsPlain c := by
  rw [literalValue?_eq_some_iff (quote_not_mem_attr s)]
  constructor
  · rintro ⟨m, -, hrun⟩
    exact plain_of_run_attr hline hrun
  · intro hplain
    exact ⟨.text, rfl, run_attr_of_plain hline hplain⟩

end Literal

end DocPages.Script
