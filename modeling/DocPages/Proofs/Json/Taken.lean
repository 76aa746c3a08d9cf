import DocPages.Proofs.Json.Passed
import Mathlib.Data.List.DropRight

/-! What the readers make of a value, in whatever way it is spelled. It is a function of the value
alone, and here that of texts and numbers. -/

namespace DocPages.Json

/-- Of every text of the value the reader makes the given result, and stops behind the value.
Nothing stands for a fault. -/
def Takes {α : Type} (read : Reader α) (v : Datum) (result : Option α) : Prop :=
  ∀ ws text rest, Blank ws → Spells v text → Stops rest →
    (read (ws ++ (text ++ rest))).toOption = result.map fun x => (x, rest)

def Datum.text? : Datum → Option String
  | .text s => some s
  | _ => none

/-- A number without sign, places and exponent. -/
def Datum.natural? : Datum → Option Nat
  | .number ⟨false, n, none, none⟩ => some n
  | _ => none

def Datum.naturalUpTo (greatest : Nat) (v : Datum) : Option Nat := v.natural?.filter (· ≤ greatest)

theorem Datum.natural?_of_naturalUpTo {greatest n : Nat} {v : Datum}
    (h : v.naturalUpTo greatest = some n) : v.natural? = some n :=
  (Option.filter_eq_some_iff.mp h).1

def Datum.null? : Datum → Option Unit
  | .null => some ()
  | _ => none

/-- The name of a variant that carries nothing. -/
def Datum.variant? : Datum → Option String
  | .text s => some s
  | .object [(key, .null)] => some key
  | _ => none

theorem Takes.cases {α : Type} {read : Reader α} {v : Datum} {result : Option α}
    (h : Takes read v result) {ws text rest : List Char} (hws : Blank ws) (hv : Spells v text)
    (hrest : Stops rest) :
    (result = none ∧ ∃ f, read (ws ++ (text ++ rest)) = .error f) ∨
      ∃ x, result = some x ∧ read (ws ++ (text ++ rest)) = .ok (x, rest) := by
  have hread := h ws text rest hws hv hrest
  cases hr : read (ws ++ (text ++ rest)) with
  | error f =>
    rw [hr] at hread
    exact .inl ⟨Option.map_eq_none_iff.mp hread.symm, f, rfl⟩
  | ok y =>
    rw [hr] at hread
    obtain ⟨x, hx, rfl⟩ := Option.map_eq_some_iff.mp hread.symm
    exact .inr ⟨x, hx, rfl⟩

section Scalars

variable {α : Type} {v : Datum}

/-- A reader that skips white space first may be started behind it. -/
theorem takes_of_skips {read : Reader α} (hskips : ∀ cs, read cs = read (skipBlanks cs))
    {result : Option α} (h : ∀ text rest, Spells v text → Stops rest →
      (read (text ++ rest)).toOption = result.map fun x => (x, rest)) : Takes read v result := by
  intro ws text rest hws hv hrest
  rw [hskips, hws.skipBlanks_append, ← hskips, h text rest hv hrest]

theorem skipBlanks_skipBlanks (cs : List Char) : skipBlanks (skipBlanks cs) = skipBlanks cs :=
  List.dropWhile_idempotent _ _

/-- A reader that only takes values with a certain start fails on the others. -/
theorem toOption_of_not_starts {read : Reader α} {P : Char → Prop}
    (hread : ∀ c cs, isBlank c = false → ¬ P c → (read (c :: cs)).toOption = none)
    (hv : ∀ c, v.Starts c → ¬ P c) {text : List Char} (h : Spells v text) (rest : List Char) :
    (read (text ++ rest)).toOption = none := by
  obtain ⟨c, cs, rfl, hc⟩ := h.starts
  exact hread c (cs ++ rest) hc.isBlank (hv c hc)

theorem takes_text (v : Datum) : Takes readText v v.text? := by
  refine takes_of_skips (fun cs => ?_) fun text rest h _ => ?_
  · simp only [readText, skipBlanks_skipBlanks]
  · have herror (hv : ∀ c, v.Starts c → c ≠ '\x22') :
        (readText (text ++ rest)).toOption = none := by
      refine toOption_of_not_starts (fun c cs hc hne => ?_) hv h rest
      simp [readText, skipBlanks_cons hc, hne, Except.toOption]
    cases h with
    | text hbody =>
      rw [List.cons_append, List.append_assoc, List.singleton_append, readText_eq_readChars,
        hbody.readChars_append]
      simp [Except.map, Except.toOption, Datum.text?]
    | _ =>
      refine herror ?_
      rintro c hc rfl
      cases hc

theorem takes_null (v : Datum) : Takes readNull v v.null? := by
  refine takes_of_skips (fun cs => ?_) fun text rest h _ => ?_
  · simp only [readNull, skipBlanks_skipBlanks]
  · have herror (hv : ∀ c, v.Starts c → c ≠ 'n') : (readNull (text ++ rest)).toOption = none := by
      refine toOption_of_not_starts (fun c cs hc hne => ?_) hv h rest
      simp [readNull, skipBlanks_cons hc, hne, Except.toOption]
    cases h with
    | null => rfl
    | _ =>
      refine herror ?_
      rintro c hc rfl
      cases hc

end Scalars

section Numbers

/-- Not a whole number without a sign. -/
def Unnatural (x : Except Fault (Number × List Char)) : Prop :=
  ∀ n rest, x ≠ .ok (.natural n, rest)

theorem unnatural_error (f : Fault) : Unnatural (.error f) := by
  intro n rest h
  cases h

theorem unnatural_realOf (positive : Bool) (significand : Nat) (e : Int) (rest : List Char) :
    Unnatural (realOf positive significand e rest) := by
  intro n rest'
  unfold realOf
  split
  all_goals nofun

theorem unnatural_readExponent (positive : Bool) (significand : Nat) (e : Int) (cs : List Char) :
    Unnatural (readExponent positive significand e cs) := by
  simp only [readExponent]
  split
  · exact unnatural_error _
  · split
    · exact unnatural_error _
    · split
      · exact unnatural_realOf _ _ _ _
      · split
        · exact unnatural_error _
        · exact unnatural_realOf _ _ _ _

theorem unnatural_readFraction (positive : Bool) (significand : Nat) (e : Int) (cs : List Char) :
    Unnatural (readFraction positive significand e cs) := by
  simp only [readFraction]
  split
  · exact unnatural_error _
  · split
    · split
      · exact unnatural_readExponent _ _ _ _
      · exact unnatural_realOf _ _ _ _
    · exact unnatural_realOf _ _ _ _

theorem unnatural_readMagnitude_false (cs : List Char) : Unnatural (readMagnitude false cs) := by
  have hwhole (n : Nat) (rest : List Char) : Unnatural (.ok (wholeOf false n, rest)) := by
    intro m rest'
    unfold wholeOf
    split
    · contradiction
    · split
      all_goals nofun
  simp only [readMagnitude]
  split
  · exact unnatural_error _
  · exact unnatural_error _
  · split
    · exact unnatural_readFraction _ _ _ _
    · split
      · exact unnatural_readExponent _ _ _ _
      · split
        · exact hwhole _ _
        · exact unnatural_realOf _ _ _ _
    · split
      · exact hwhole _ _
      · exact unnatural_realOf _ _ _ _

theorem absorb_ne_nil {n : Nat} {ds : List Char} (hn : n ≤ maxNatural)
    (h : maxNatural < Nat.ofDigitChars 10 ds n) : (absorb n ds).2 ≠ [] := by
  induction ds generalizing n with
  | nil => exact absurd hn (Nat.not_le.mpr h)
  | cons c ds ih =>
    rw [absorb]
    split
    · rename_i hle
      rw [Nat.ofDigitChars_cons] at h
      exact ih hle h
    · exact List.cons_ne_nil c ds

theorem Numeral.tail_cons {n : Numeral} (h : n.places ≠ none ∨ n.exponent ≠ none) :
    ∃ c cs, n.tail = c :: cs ∧ (c = '.' ∨ isExponentMark c = true) := by
  unfold tail
  cases hp : n.places with
  | some digits => exact ⟨_, _, rfl, .inl rfl⟩
  | none =>
    cases he : n.exponent with
    | some e =>
      have hmem := e.mark_mem
      simp only [List.mem_cons, List.not_mem_nil, or_false] at hmem
      exact ⟨_, _, rfl, .inr (by simpa [isExponentMark] using hmem)⟩
    | none => simp [hp, he] at h

theorem unnatural_readMagnitude_true (n : Nat) {c : Char} (hc : c = '.' ∨ isExponentMark c = true)
    (cs : List Char) : Unnatural (readMagnitude true (writeNat n ++ c :: cs)) := by
  simp only [isExponentMark, Bool.or_eq_true, beq_iff_eq] at hc
  have hhead : ∀ d ∈ (c :: cs).head?, d.isDigit = false := by
    rintro _ ⟨⟩
    rcases hc with rfl | rfl | rfl <;> rfl
  obtain ⟨htake, hdrop⟩ := span_writeNat n hhead
  simp only [readMagnitude, htake, hdrop]
  split
  · exact unnatural_error _
  · exact unnatural_error _
  · rcases hc with rfl | rfl | rfl
    · exact unnatural_readFraction _ _ _ _
    · exact unnatural_readExponent _ _ _ _
    · exact unnatural_readExponent _ _ _ _

theorem unnatural_readMagnitude_of_lt {n : Nat} (hn : maxNatural < n) {rest : List Char}
    (hrest : EndsNumber rest) : Unnatural (readMagnitude true (writeNat n ++ rest)) := by
  obtain ⟨htake, hdrop⟩ := span_writeNat n fun c hc => (hrest c hc).1
  have hextra : (absorb 0 (writeNat n)).2.isEmpty = false := by
    rw [List.isEmpty_eq_false_iff]
    refine absorb_ne_nil (Nat.zero_le _) ?_
    rwa [writeNat, Nat.ofDigitChars_toDigits (by decide) (by decide)]
  simp only [readMagnitude, htake, hdrop]
  split
  · exact unnatural_error _
  · exact unnatural_error _
  · split
    · exact absurd rfl (hrest '.' rfl).2.1
    · rename_i c cs _
      simp only [(hrest c rfl).2.2, hextra]
      exact unnatural_realOf _ _ _ _
    · simp only [hextra]
      exact unnatural_realOf _ _ _ _

theorem Numeral.readNumber_of_positive (n : Numeral) (h : n.negative = false) (rest : List Char) :
    readNumber (n.write ++ rest) = readMagnitude true (writeNat n.whole ++ (n.tail ++ rest)) := by
  obtain ⟨c, ds, hd, hdigit⟩ := exists_digits n.whole
  simp [Numeral.write, h, hd, readNumber_of_isDigit hdigit]

theorem unnatural_readNumber {n : Numeral} {rest : List Char} (hrest : Stops rest)
    (h : n = .ofNat n.whole → maxNatural < n.whole) :
    Unnatural (readNumber (n.write ++ rest)) := by
  cases hneg : n.negative with
  | true =>
    have hminus : n.write = '-' :: (writeNat n.whole ++ n.tail) := by simp [Numeral.write, hneg]
    rw [hminus]
    exact unnatural_readMagnitude_false _
  | false =>
    rw [n.readNumber_of_positive hneg]
    by_cases htail : n.places ≠ none ∨ n.exponent ≠ none
    · obtain ⟨c, cs, hcons, hc⟩ := Numeral.tail_cons htail
      rw [hcons]
      exact unnatural_readMagnitude_true n.whole hc (cs ++ rest)
    · obtain ⟨negative, whole, places, exponent⟩ := n
      simp only [ne_eq, not_or, not_not] at hneg htail
      obtain ⟨rfl, rfl⟩ := htail
      subst hneg
      exact unnatural_readMagnitude_of_lt (h rfl) hrest.endsNumber

theorem toOption_readNat {c : Char} (hc : startsNumber c) (expected : String) (greatest : Nat)
    (cs : List Char) :
    (readNat expected greatest (c :: cs)).toOption =
      match readNumber (c :: cs) with
      | .ok (.natural m, rest) => if m ≤ greatest then some (m, rest) else none
      | _ => none := by
  have hblank : isBlank c = false := Datum.Starts.isBlank (v := .number (.ofNat 0)) hc
  simp only [readNat, skipBlanks_cons hblank, hc, if_true]
  cases readNumber (c :: cs) with
  | error f => rfl
  | ok x =>
    obtain ⟨m, rest⟩ := x
    cases m with
    | natural m =>
      dsimp only
      split <;> rfl
    | _ => rfl

theorem Datum.natural?_number (n : Numeral) :
    (Datum.number n).natural? = if n = .ofNat n.whole then some n.whole else none := by
  obtain ⟨negative, whole, places, exponent⟩ := n
  cases negative <;> cases places <;> cases exponent <;> simp [natural?, Numeral.ofNat]

theorem Numeral.toOption_readNat (n : Numeral) (expected : String) {greatest : Nat}
    (hg : greatest ≤ maxNatural) {rest : List Char} (hrest : Stops rest) :
    (readNat expected greatest (n.write ++ rest)).toOption =
      ((Datum.number n).naturalUpTo greatest).map fun m => (m, rest) := by
  obtain ⟨c, cs, hwrite, hc⟩ := n.write_cons
  rw [hwrite, List.cons_append, Json.toOption_readNat hc, ← List.cons_append, ← hwrite,
    Datum.naturalUpTo, Datum.natural?_number]
  by_cases hn : n = .ofNat n.whole ∧ n.whole ≤ maxNatural
  · have hread : readNumber (n.write ++ rest) = .ok (.natural n.whole, rest) := by
      have hneg : n.negative = false := congrArg Numeral.negative hn.1
      have htail : n.tail = [] := congrArg Numeral.tail hn.1
      rw [n.readNumber_of_positive hneg, htail]
      exact readMagnitude_writeNat hn.2 hrest.endsNumber
    rw [hread, if_pos hn.1]
    by_cases hle : n.whole ≤ greatest <;> simp [Option.filter, hle]
  · have hlarge (heq : n = .ofNat n.whole) : maxNatural < n.whole :=
      Nat.not_le.mp fun hle => hn ⟨heq, hle⟩
    have hun := unnatural_readNumber hrest hlarge
    have hnone : (if n = .ofNat n.whole then some n.whole else none).filter
        (fun m => decide (m ≤ greatest)) = none := by
      split
      · rename_i heq
        simp [Option.filter, Nat.not_le.mpr (Nat.lt_of_le_of_lt hg (hlarge heq))]
      · rfl
    rw [hnone]
    split
    · rename_i heq
      exact absurd heq (hun _ _)
    · rfl

theorem takes_nat (expected : String) {greatest : Nat} (hg : greatest ≤ maxNatural) (v : Datum) :
    Takes (readNat expected greatest) v (v.naturalUpTo greatest) := by
  refine takes_of_skips (fun cs => ?_) fun text rest h hrest => ?_
  · simp only [readNat, skipBlanks_skipBlanks]
  · have herror (hv : ∀ c, v.Starts c → ¬ startsNumber c) :
        (readNat expected greatest (text ++ rest)).toOption = none := by
      refine toOption_of_not_starts (fun c cs hc hne => ?_) hv h rest
      simp [readNat, skipBlanks_cons hc, hne, Except.toOption]
    cases h with
    | number n => exact n.toOption_readNat expected hg hrest
    | _ =>
      refine herror ?_
      rintro c rfl
      decide

end Numbers

section Documents

variable {α : Type} {read : Reader α} {v : Datum} {text : String}

/-- A document is read if its value is, and then to its end. -/
theorem toOption_parse {result : Option α} (h : Takes read v result)
    (hdoc : HeldBy v text.toList) : (parse read text).toOption = result := by
  generalize htext : text.toList = cs at hdoc
  obtain ⟨hws, hv, hws'⟩ := hdoc
  have hstops : Stops _ := List.append_nil _ ▸ hws'.stops_append (show Stops [] from nofun)
  have hskip : skipBlanks _ = [] := List.append_nil _ ▸ hws'.skipBlanks_append []
  obtain ⟨rfl, f, hf⟩ | ⟨x, rfl, hx⟩ := h.cases hws hv hstops
  · simp [parse, htext, hf, Except.toOption]
  · simp [parse, htext, hx, hskip, Except.toOption]

theorem parse_eq_ok {x : α} (h : Takes read v (some x)) (hdoc : HeldBy v text.toList) :
    parse read text = .ok x := by
  have hparse := toOption_parse h hdoc
  cases hp : parse read text with
  | error e => simp [hp, Except.toOption] at hparse
  | ok y =>
    rw [hp] at hparse
    cases hparse
    rfl

theorem parse_eq_error (h : Takes read v none) (hdoc : HeldBy v text.toList) :
    ∃ e, parse read text = .error e := by
  have hparse := toOption_parse h hdoc
  cases hp : parse read text with
  | error e => exact ⟨e, rfl⟩
  | ok y => simp [hp, Except.toOption] at hparse

end Documents

end DocPages.Json
