import DocPages.Proofs.Json.Written

/-! The grammar of JSON: which texts spell which value. White space may stand around every value,
every character of a string may be escaped, and objects may have their members in any order and
more than once. Numbers are kept as they are written. -/

namespace DocPages.Json

def Blank (ws : List Char) : Prop := ∀ c ∈ ws, c ∈ [' ', '\n', '\r', '\t']

/-- One digit at least. -/
structure Digits where
  text : List Char
  ne_nil : text ≠ []
  isDigit : text.all Char.isDigit
  deriving DecidableEq

structure Exponent where
  mark : Char
  /-- A plus sign, a minus sign or nothing. -/
  sign : List Char
  digits : Digits
  mark_mem : mark ∈ ['e', 'E']
  sign_mem : sign ∈ [[], ['+'], ['-']]
  deriving DecidableEq

/-- A number, with its places behind the point and its exponent if it is written with them. -/
structure Numeral where
  negative : Bool
  whole : Nat
  places : Option Digits
  exponent : Option Exponent
  deriving DecidableEq

namespace Numeral

def ofNat (n : Nat) : Numeral := ⟨false, n, none, none⟩

/-- What follows the whole part. -/
def tail (n : Numeral) : List Char :=
  n.places.elim [] (fun digits => '.' :: digits.text) ++
    n.exponent.elim [] fun e => e.mark :: (e.sign ++ e.digits.text)

def write (n : Numeral) : List Char :=
  (if n.negative then ['-'] else []) ++ (writeNat n.whole ++ n.tail)

end Numeral

inductive Datum where
  | null
  | boolean (b : Bool)
  | number (n : Numeral)
  | text (s : String)
  | list (items : List Datum)
  | object (members : List (String × Datum))

/-- Letters behind a backslash, and what they stand for there. -/
def escapes : List (Char × Char) :=
  [('\x22', '\x22'), ('\x5c', '\x5c'), ('/', '/'), ('b', '\x08'), ('f', '\x0c'), ('n', '\n'),
    ('r', '\r'), ('t', '\t')]

/-- The two forms of a hexadecimal digit. -/
def hexForms (i : Fin 16) : List Char := [Nat.digitChar i, (Nat.digitChar i).toUpper]

/-- Four hexadecimal digits of the given value. -/
inductive Hex : Nat → List Char → Prop where
  | digits {i j k l : Fin 16} {a b c d : Char} : a ∈ hexForms i → b ∈ hexForms j →
    c ∈ hexForms k → d ∈ hexForms l → Hex (((i * 16 + j) * 16 + k) * 16 + l : Nat) [a, b, c, d]

/-- Characters and what may stand for them between quotes. Those beyond 16 bits are escaped as a
pair of surrogates. -/
inductive Quoted : List Char → List Char → Prop where
  | nil : Quoted [] []
  | plain {c : Char} {cs body : List Char} : c ≠ '\x22' → c ≠ '\x5c' → 32 ≤ c.toNat →
    Quoted cs body → Quoted (c :: cs) (c :: body)
  | short {e c : Char} {cs body : List Char} : (e, c) ∈ escapes → Quoted cs body →
    Quoted (c :: cs) ('\x5c' :: e :: body)
  | unit {c : Char} {hex cs body : List Char} : Hex c.toNat hex → Quoted cs body →
    Quoted (c :: cs) ('\x5c' :: 'u' :: (hex ++ body))
  | pair {c : Char} {high low cs body : List Char} : 0x10000 ≤ c.toNat →
    Hex (0xd800 + (c.toNat - 0x10000) / 0x400) high →
    Hex (0xdc00 + (c.toNat - 0x10000) % 0x400) low → Quoted cs body →
    Quoted (c :: cs) ('\x5c' :: 'u' :: (high ++ '\x5c' :: 'u' :: (low ++ body)))

section Spelling

variable {α : Type} (Spells : α → List Char → Prop)

/-- Things with commas between them, one at least. -/
inductive Items : List α → List Char → Prop where
  | one {x : α} {ws text ws' : List Char} : Blank ws → Spells x text → Blank ws' →
    Items [x] (ws ++ (text ++ ws'))
  | more {x : α} {xs : List α} {ws text ws' rest : List Char} : Blank ws → Spells x text →
    Blank ws' → Items xs rest → Items (x :: xs) (ws ++ (text ++ (ws' ++ ',' :: rest)))

inductive Member : String × α → List Char → Prop where
  | colon {key : String} {x : α} {body ws ws' text : List Char} : Quoted key.toList body →
    Blank ws → Blank ws' → Spells x text →
    Member (key, x) ('\x22' :: (body ++ '\x22' :: (ws ++ ':' :: (ws' ++ text))))

end Spelling

inductive Spells : Datum → List Char → Prop where
  | null : Spells .null ['n', 'u', 'l', 'l']
  | yes : Spells (.boolean true) ['t', 'r', 'u', 'e']
  | no : Spells (.boolean false) ['f', 'a', 'l', 's', 'e']
  | number (n : Numeral) : Spells (.number n) n.write
  | text {s : String} {body : List Char} : Quoted s.toList body →
    Spells (.text s) ('\x22' :: (body ++ ['\x22']))
  | emptyList {ws : List Char} : Blank ws → Spells (.list []) ('[' :: (ws ++ [']']))
  | list {items : List Datum} {text : List Char} : Items Spells items text →
    Spells (.list items) ('[' :: (text ++ [']']))
  | emptyObject {ws : List Char} : Blank ws → Spells (.object []) ('\x7b' :: (ws ++ ['\x7d']))
  | object {members : List (String × Datum)} {text : List Char} :
    Items (Member Spells) members text → Spells (.object members) ('\x7b' :: (text ++ ['\x7d']))

/-- A text that holds the value and nothing else. -/
inductive HeldBy (v : Datum) : List Char → Prop where
  | value {ws text ws' : List Char} : Blank ws → Spells v text → Blank ws' →
    HeldBy v (ws ++ (text ++ ws'))

/-- What may stand behind a value. -/
def Stops (rest : List Char) : Prop :=
  ∀ c ∈ rest.head?, c ∈ [' ', '\n', '\r', '\t', ',', ']', '\x7d']

section Blanks

variable {ws : List Char}

theorem isBlank_iff {c : Char} : isBlank c = true ↔ c ∈ [' ', '\n', '\r', '\t'] := by
  simp [isBlank, or_assoc]

theorem Blank.skipBlanks_append (h : Blank ws) (cs : List Char) :
    skipBlanks (ws ++ cs) = skipBlanks cs :=
  List.dropWhile_append_of_pos fun c hc => isBlank_iff.mpr (h c hc)

theorem skipBlanks_cons {c : Char} (h : isBlank c = false) (cs : List Char) :
    skipBlanks (c :: cs) = c :: cs :=
  List.dropWhile_cons_of_neg (by simp [h])

theorem stops_cons {c : Char} (h : c ∈ [',', ']', '\x7d']) (rest : List Char) :
    Stops (c :: rest) := by
  intro c' hc'
  cases hc'
  exact List.mem_append_right [' ', '\n', '\r', '\t'] h

theorem Stops.endsNumber {rest : List Char} (h : Stops rest) : EndsNumber rest := by
  intro c hc
  have hmem := h c hc
  simp only [List.mem_cons, List.not_mem_nil, or_false] at hmem
  rcases hmem with rfl | rfl | rfl | rfl | rfl | rfl | rfl <;> decide

theorem Blank.stops_append {rest : List Char} (hws : Blank ws) (hrest : Stops rest) :
    Stops (ws ++ rest) := by
  cases ws with
  | nil => exact hrest
  | cons c ws =>
    intro c' hc'
    cases hc'
    exact List.mem_append_left [',', ']', '\x7d'] (hws c List.mem_cons_self)

end Blanks

section Built

/-- What may stand for itself between quotes. -/
def standsForItself (c : Char) : Bool := c != '\x22' && c != '\x5c' && 32 ≤ c.toNat

theorem quoted_self {cs : List Char} (h : cs.all standsForItself) : Quoted cs cs := by
  induction cs with
  | nil => exact .nil
  | cons c cs ih =>
    rw [List.all_cons, Bool.and_eq_true] at h
    obtain ⟨hc, hcs⟩ := h
    simp only [standsForItself, Bool.and_eq_true, bne_iff_ne, decide_eq_true_eq] at hc
    exact .plain hc.1.1 hc.1.2 hc.2 (ih hcs)

theorem Quoted.append {cs body ds rest : List Char} (h : Quoted cs body) (hrest : Quoted ds rest) :
    Quoted (cs ++ ds) (body ++ rest) := by
  induction h with
  | nil => exact hrest
  | plain hquote hslash hlow _ ih => exact .plain hquote hslash hlow ih
  | short hmem _ ih => exact .short hmem ih
  | unit hhex _ ih =>
    rw [List.cons_append, List.cons_append, List.cons_append, List.append_assoc]
    exact .unit hhex ih
  | pair hc hhigh hlow _ ih =>
    simp only [List.cons_append, List.append_assoc]
    exact .pair hc hhigh hlow ih

end Built

section Heads

/-- What a value of the given kind starts with. -/
def Datum.Starts : Datum → Char → Prop
  | .null, c => c = 'n'
  | .boolean b, c => c = if b then 't' else 'f'
  | .number _, c => startsNumber c
  | .text _, c => c = '\x22'
  | .list _, c => c = '['
  | .object _, c => c = '\x7b'

theorem Numeral.write_cons (n : Numeral) : ∃ c cs, n.write = c :: cs ∧ startsNumber c := by
  cases hneg : n.negative with
  | true => exact ⟨'-', writeNat n.whole ++ n.tail, by simp [write, hneg], rfl⟩
  | false =>
    obtain ⟨c, ds, hd, hdigit⟩ := exists_digits n.whole
    exact ⟨c, ds ++ n.tail, by simp [write, hneg, hd], by simp [startsNumber, hdigit]⟩

theorem Spells.starts {v : Datum} {text : List Char} (h : Spells v text) :
    ∃ c cs, text = c :: cs ∧ v.Starts c := by
  cases h with
  | number n => exact n.write_cons
  | _ => exact ⟨_, _, rfl, rfl⟩

theorem Datum.Starts.isBlank {v : Datum} {c : Char} (h : v.Starts c) : Json.isBlank c = false := by
  cases v with
  | number n =>
    simp only [Starts, startsNumber, Bool.or_eq_true, beq_iff_eq] at h
    rcases h with rfl | h
    · rfl
    · exact isBlank_of_isDigit h
  | boolean b => cases b <;> (cases h; rfl)
  | _ => cases h; rfl

theorem Spells.opens {v : Datum} {text : List Char} (h : Spells v text) : Opens text := by
  obtain ⟨c, cs, rfl, hc⟩ := h.starts
  refine ⟨c, cs, rfl, hc.isBlank, ?_⟩
  rintro rfl
  cases v with
  | boolean b => cases b <;> cases hc
  | _ => cases hc

/-- The first character that is not white space. -/
theorem Items.head {α : Type} {P : α → List Char → Prop} {xs : List α} {text : List Char}
    (h : Items P xs text) {Q : Char → Prop} (hP : ∀ x t, P x t → ∃ c cs, t = c :: cs ∧ Q c) :
    ∃ ws c cs, Blank ws ∧ text = ws ++ c :: cs ∧ Q c := by
  cases h with
  | @one x ws t ws' hws hx _ =>
    obtain ⟨c, cs, rfl, hc⟩ := hP x t hx
    exact ⟨ws, c, _, hws, rfl, hc⟩
  | @more x xs ws t ws' rest hws hx _ _ =>
    obtain ⟨c, cs, rfl, hc⟩ := hP x t hx
    exact ⟨ws, c, _, hws, rfl, hc⟩

end Heads

section Strings

theorem hexValue?_of_mem {i : Fin 16} {c : Char} (h : c ∈ hexForms i) :
    hexValue? c = some i.val := by
  have hforms : ∀ i : Fin 16, hexValue? (Nat.digitChar i) = some i.val ∧
      hexValue? (Nat.digitChar i).toUpper = some i.val := by decide
  simp only [hexForms, List.mem_cons, List.not_mem_nil, or_false] at h
  rcases h with rfl | rfl
  · exact (hforms i).1
  · exact (hforms i).2

theorem Hex.value {n : Nat} {hex : List Char} (h : Hex n hex) :
    ∃ a b c d, hex = [a, b, c, d] ∧ hexValue4? a b c d = some n := by
  obtain ⟨ha, hb, hc, hd⟩ := h
  refine ⟨_, _, _, _, rfl, ?_⟩
  simp [hexValue4?, hexValue?_of_mem ha, hexValue?_of_mem hb, hexValue?_of_mem hc,
    hexValue?_of_mem hd]

theorem shortEscape?_of_mem {e c : Char} (h : (e, c) ∈ escapes) : shortEscape? e = some c := by
  have htable : ∀ p ∈ escapes, shortEscape? p.1 = some p.2 := by decide
  exact htable _ h

theorem readChars_short {e c : Char} (h : (e, c) ∈ escapes) (rest : List Char) :
    readChars ('\x5c' :: e :: rest) = prepend c (readChars rest) := by
  have htable : ∀ p ∈ escapes, p.1 ≠ 'u' := by decide
  have hu : e ≠ 'u' := htable _ h
  rw [readChars, shortEscape?_of_mem h]
  all_goals simp [hu]

/-- No character is a surrogate. -/
theorem not_isSurrogate (c : Char) : isLowSurrogate c.toNat = false ∧
    isHighSurrogate c.toNat = false := by
  have hvalid : c.toNat < 0xd800 ∨ 0xdfff < c.toNat := by
    rcases c.valid with h | h
    · exact .inl h
    · exact .inr h.1
  simp only [isLowSurrogate, isHighSurrogate, Bool.and_eq_false_imp, decide_eq_true_eq,
    decide_eq_false_iff_not]
  omega

theorem readChars_unit {c : Char} {hex : List Char} (h : Hex c.toNat hex) (rest : List Char) :
    readChars ('\x5c' :: 'u' :: (hex ++ rest)) = prepend c (readChars rest) := by
  obtain ⟨a, b, x, d, rfl, hvalue⟩ := h.value
  obtain ⟨hlow, hhigh⟩ := not_isSurrogate c
  simp [readChars, hvalue, hlow, hhigh]

theorem readChars_pair {c : Char} {high low : List Char} (hc : 0x10000 ≤ c.toNat)
    (hhigh : Hex (0xd800 + (c.toNat - 0x10000) / 0x400) high)
    (hlow : Hex (0xdc00 + (c.toNat - 0x10000) % 0x400) low) (rest : List Char) :
    readChars ('\x5c' :: 'u' :: (high ++ '\x5c' :: 'u' :: (low ++ rest))) =
      prepend c (readChars rest) := by
  have hmax : c.toNat < 0x110000 := by
    rcases c.valid with h | h
    · exact Nat.lt_trans h (by decide)
    · exact h.2
  obtain ⟨a, b, x, d, rfl, hvalue⟩ := hhigh.value
  obtain ⟨a', b', x', d', rfl, hvalue'⟩ := hlow.value
  have hnotLow : isLowSurrogate (0xd800 + (c.toNat - 0x10000) / 0x400) = false := by
    simp only [isLowSurrogate, Bool.and_eq_false_imp, decide_eq_true_eq, decide_eq_false_iff_not]
    omega
  have hisHigh : isHighSurrogate (0xd800 + (c.toNat - 0x10000) / 0x400) = true := by
    simp only [isHighSurrogate, Bool.and_eq_true, decide_eq_true_eq]
    omega
  have hisLow : isLowSurrogate (0xdc00 + (c.toNat - 0x10000) % 0x400) = true := by
    simp only [isLowSurrogate, Bool.and_eq_true, decide_eq_true_eq]
    omega
  have hpair : pairValue (0xd800 + (c.toNat - 0x10000) / 0x400)
      (0xdc00 + (c.toNat - 0x10000) % 0x400) = c.toNat := by
    unfold pairValue
    omega
  simp [readChars, hvalue, hvalue', hnotLow, hisHigh, hisLow, hpair]

theorem Quoted.readChars_append {cs body : List Char} (h : Quoted cs body) (rest : List Char) :
    readChars (body ++ '\x22' :: rest) = .ok (cs, rest) := by
  induction h with
  | nil => rfl
  | plain hquote hslash hlow _ ih =>
    rw [List.cons_append, readChars_plain hquote hslash (Nat.not_lt.mpr hlow), ih]
    rfl
  | short hmem _ ih =>
    rw [List.cons_append, List.cons_append, readChars_short hmem, ih]
    rfl
  | unit hhex _ ih =>
    rw [List.cons_append, List.cons_append, List.append_assoc, readChars_unit hhex, ih]
    rfl
  | pair hc hhigh hlow _ ih =>
    simp only [List.cons_append, List.append_assoc]
    rw [readChars_pair hc hhigh hlow, ih]
    rfl

end Strings

end DocPages.Json
