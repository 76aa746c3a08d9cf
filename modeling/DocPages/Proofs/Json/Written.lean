import DocPages.Json.Record
import DocPages.Json.Write

/-! Reading back what was written: strings, whole numbers and records. A reader is followed through
the text of one value, whatever comes behind it in a list or an object. -/

namespace DocPages.Json

/-- What may stand behind a value. -/
def Ends (rest : List Char) : Prop := ∀ c ∈ rest.head?, c = ',' ∨ c = ']' ∨ c = '\x7d'

/-- The reader takes the whole text and nothing more, and gives the value. -/
def Reads {α : Type} (read : Reader α) (text : List Char) (x : α) : Prop :=
  ∀ rest, Ends rest → read (text ++ rest) = .ok (x, rest)

theorem ends_nil : Ends [] := nofun

theorem ends_comma (rest : List Char) : Ends (',' :: rest) := by
  intro c hc
  cases hc
  exact .inl rfl

theorem ends_bracket (rest : List Char) : Ends (']' :: rest) := by
  intro c hc
  cases hc
  exact .inr (.inl rfl)

theorem ends_brace (rest : List Char) : Ends ('\x7d' :: rest) := by
  intro c hc
  cases hc
  exact .inr (.inr rfl)

section Text

theorem hexValue?_hexDigit : ∀ n < 16, hexValue? (hexDigit n) = some n := by decide

theorem readChars_plain {c : Char} (hquote : c ≠ '\x22') (hslash : c ≠ '\x5c')
    (hlow : ¬ c.toNat < 32) (rest : List Char) :
    readChars (c :: rest) = prepend c (readChars rest) := by
  rw [readChars, if_neg hlow]
  all_goals simp [hquote, hslash]

theorem readChars_control {c : Char} (hlow : c.toNat < 32) (rest : List Char) :
    readChars (['\x5c', 'u', '0', '0', hexDigit (c.toNat / 16), hexDigit (c.toNat % 16)] ++ rest) =
      prepend c (readChars rest) := by
  have hvalue : hexValue4? '0' '0' (hexDigit (c.toNat / 16)) (hexDigit (c.toNat % 16)) =
      some c.toNat := by
    have hhigh := hexValue?_hexDigit (c.toNat / 16) (by omega)
    have hrest := hexValue?_hexDigit (c.toNat % 16) (by omega)
    have hzero : hexValue? '0' = some 0 := by decide
    simp [hexValue4?, hzero, hhigh, hrest]
    omega
  have hlowSurrogate : isLowSurrogate c.toNat = false := by
    simp [isLowSurrogate]
    omega
  have hhighSurrogate : isHighSurrogate c.toNat = false := by
    simp [isHighSurrogate]
    omega
  simp [readChars, hvalue, hlowSurrogate, hhighSurrogate, Char.ofNat_toNat]

theorem readChars_quoteChar (c : Char) (rest : List Char) :
    readChars (quoteChar c ++ rest) = prepend c (readChars rest) := by
  by_cases hshort : c ∈ ['\x22', '\x5c', '\x08', '\x0c', '\n', '\r', '\t']
  · simp only [List.mem_cons, List.not_mem_nil, or_false] at hshort
    rcases hshort with rfl | rfl | rfl | rfl | rfl | rfl | rfl <;> rfl
  · simp only [List.mem_cons, List.not_mem_nil, or_false, not_or] at hshort
    obtain ⟨hquote, hslash, hb, hf, hn, hr, ht⟩ := hshort
    simp only [quoteChar, if_neg hquote, if_neg hslash, if_neg hb, if_neg hf, if_neg hn, if_neg hr,
      if_neg ht]
    split
    · rename_i hlow
      exact readChars_control hlow rest
    · rename_i hlow
      exact readChars_plain hquote hslash hlow rest

theorem readChars_quoted (text rest : List Char) :
    readChars (text.flatMap quoteChar ++ '\x22' :: rest) = .ok (text, rest) := by
  induction text with
  | nil => rfl
  | cons c text ih =>
    rw [List.flatMap_cons, List.append_assoc, readChars_quoteChar, ih]
    rfl

theorem readText_eq_readChars (rest : List Char) :
    readText ('\x22' :: rest) = (readChars rest).map fun x => (String.ofList x.1, x.2) := by
  have hskip : skipBlanks ('\x22' :: rest) = '\x22' :: rest := rfl
  simp only [readText, hskip]
  cases readChars rest <;> rfl

theorem writeText_append (s : String) (rest : List Char) :
    writeText s ++ rest = '\x22' :: (s.toList.flatMap quoteChar ++ '\x22' :: rest) := by
  simp [writeText]

theorem reads_text (s : String) : Reads readText (writeText s) s := by
  intro rest _
  rw [writeText_append, readText_eq_readChars, readChars_quoted]
  simp [Except.map]

theorem reads_variant {α : Type} {choose : String → Except Cause α} {s : String} {x : α}
    (h : choose s = .ok x) : Reads (readVariant choose) (writeText s) x := by
  intro rest _
  have hskip (cs : List Char) : skipBlanks ('\x22' :: cs) = '\x22' :: cs := rfl
  simp only [writeText_append, readVariant, hskip, readChars_quoted, String.ofList_toList, h]

end Text

section Number

theorem le_ofDigitChars (n : Nat) (ds : List Char) : n ≤ Nat.ofDigitChars 10 ds n := by
  induction ds generalizing n with
  | nil => exact Nat.le_refl n
  | cons c ds ih =>
    rw [Nat.ofDigitChars_cons]
    exact Nat.le_trans (by omega) (ih _)

theorem absorb_eq {n : Nat} {ds : List Char} (h : Nat.ofDigitChars 10 ds n ≤ maxNatural) :
    absorb n ds = (Nat.ofDigitChars 10 ds n, []) := by
  induction ds generalizing n with
  | nil => rfl
  | cons c ds ih =>
    rw [Nat.ofDigitChars_cons] at h ⊢
    have hle : 10 * n + digitValue c ≤ maxNatural := Nat.le_trans (le_ofDigitChars _ ds) h
    rw [absorb, if_pos hle]
    exact ih h

/-- Only zero is written with a zero in front. -/
theorem toDigits_ne_zero_cons (n : Nat) (c : Char) (ds : List Char) :
    Nat.toDigits 10 n ≠ '0' :: c :: ds := by
  induction n using Nat.strongRecOn generalizing c ds with
  | ind n ih =>
    rw [Nat.toDigits_eq_if (by decide)]
    split
    · exact fun h => by simpa using congrArg List.length h
    · rename_i hn
      intro h
      cases hd : Nat.toDigits 10 (n / 10) with
      | nil => exact Nat.toDigits_ne_nil hd
      | cons x xs =>
        rw [hd, List.cons_append] at h
        obtain ⟨rfl, htail⟩ := List.cons.inj h
        cases xs with
        | nil =>
          have hzero : n / 10 = 0 := by
            have hof := @Nat.ofDigitChars_toDigits 10 (n / 10) (by decide) (by decide)
            rw [hd] at hof
            exact hof.symm
          omega
        | cons y ys => exact ih (n / 10) (by omega) y ys hd

/-- No number goes on with what follows. -/
def EndsNumber (rest : List Char) : Prop :=
  ∀ c ∈ rest.head?, c.isDigit = false ∧ c ≠ '.' ∧ isExponentMark c = false

theorem Ends.endsNumber {rest : List Char} (h : Ends rest) : EndsNumber rest := by
  intro c hc
  rcases h c hc with rfl | rfl | rfl <;> decide

theorem span_writeNat (n : Nat) {rest : List Char} (h : ∀ c ∈ rest.head?, c.isDigit = false) :
    (writeNat n ++ rest).takeWhile Char.isDigit = writeNat n ∧
      (writeNat n ++ rest).dropWhile Char.isDigit = rest := by
  have hdigits : ∀ c ∈ writeNat n, c.isDigit = true :=
    fun c hc => Nat.isDigit_of_mem_toDigits (by decide) (by decide) hc
  rw [List.takeWhile_append_of_pos hdigits, List.dropWhile_append_of_pos hdigits]
  cases rest with
  | nil => simp
  | cons c rest => simp [h c rfl]

theorem readMagnitude_writeNat {n : Nat} (hn : n ≤ maxNatural) {rest : List Char}
    (hr : EndsNumber rest) : readMagnitude true (writeNat n ++ rest) = .ok (.natural n, rest) := by
  obtain ⟨htake, hdrop⟩ := span_writeNat n fun c hc => (hr c hc).1
  have hof : Nat.ofDigitChars 10 (writeNat n) 0 = n :=
    Nat.ofDigitChars_toDigits (by decide) (by decide)
  have habsorb : absorb 0 (writeNat n) = (n, []) := by
    rw [absorb_eq (by rw [hof]; exact hn), hof]
  unfold readMagnitude
  simp only [htake, hdrop]
  split
  · rename_i hd
    exact absurd hd Nat.toDigits_ne_nil
  · rename_i c ds hd
    exact absurd hd (toDigits_ne_zero_cons n c ds)
  · simp only [habsorb]
    split
    · exact absurd rfl (hr '.' rfl).2.1
    · rename_i c cs _
      simp [(hr c rfl).2.2, wholeOf]
    · simp [wholeOf]

theorem isBlank_of_isDigit {c : Char} (h : c.isDigit = true) : isBlank c = false := by
  cases hb : isBlank c with
  | false => rfl
  | true =>
    simp only [isBlank, Bool.or_eq_true, beq_iff_eq] at hb
    rcases hb with ((rfl | rfl) | rfl) | rfl <;> cases h

theorem readNumber_of_isDigit {c : Char} (h : c.isDigit = true) (cs : List Char) :
    readNumber (c :: cs) = readMagnitude true (c :: cs) := by
  rw [readNumber]
  rintro cs heq
  cases heq
  cases h

theorem exists_digits (n : Nat) : ∃ c ds, writeNat n = c :: ds ∧ c.isDigit = true := by
  cases hd : writeNat n with
  | nil => exact absurd hd Nat.toDigits_ne_nil
  | cons c ds =>
    exact ⟨c, ds, rfl,
      Nat.isDigit_of_mem_toDigits (by decide) (by decide) (hd ▸ List.mem_cons_self)⟩

theorem reads_nat {expected : String} {greatest n : Nat} (hn : n ≤ greatest)
    (hg : greatest ≤ maxNatural) : Reads (readNat expected greatest) (writeNat n) n := by
  intro rest hr
  have hread := readMagnitude_writeNat (Nat.le_trans hn hg) hr.endsNumber
  obtain ⟨c, ds, hd, hdigit⟩ := exists_digits n
  rw [hd, List.cons_append, ← readNumber_of_isDigit hdigit] at hread
  have hskip : skipBlanks (c :: (ds ++ rest)) = c :: (ds ++ rest) := by
    simp [skipBlanks, isBlank_of_isDigit hdigit]
  simp [hd, readNat, hskip, startsNumber, hdigit, hread, hn]

end Number

section Items

theorem writeItems_cons (x : List Char) (xs : List (List Char)) :
    writeItems (x :: xs) = x ++ xs.flatMap (',' :: ·) := by
  induction xs generalizing x with
  | nil => simp [writeItems]
  | cons y ys ih => simp [writeItems, ih]

theorem length_le_length_writeItems {items : List (List Char)} (h : ∀ x ∈ items, x ≠ []) :
    items.length ≤ (writeItems items).length := by
  induction items with
  | nil => exact Nat.le_refl 0
  | cons x xs ih =>
    obtain ⟨hx, hxs⟩ := List.forall_mem_cons.mp h
    have hpos : 0 < x.length := List.length_pos_iff.mpr hx
    have hrest := ih hxs
    cases xs with
    | nil => exact hpos
    | cons y ys =>
      simp only [writeItems, List.length_append, List.length_cons] at hrest ⊢
      omega

/-- The first character of a value; none is a blank or closes a list. -/
def Opens (text : List Char) : Prop := ∃ c cs, text = c :: cs ∧ isBlank c = false ∧ c ≠ ']'

variable {α : Type} {element : Reader α} {write : α → List Char}

theorem nextElement_opens {text : List Char} (h : Opens text) (rest : List Char) :
    nextElement true (text ++ rest) = .ok (true, text ++ rest) ∧
      nextElement false (',' :: (text ++ rest)) = .ok (true, text ++ rest) := by
  obtain ⟨c, cs, rfl, hblank, hclose⟩ := h
  have hskip : skipBlanks (c :: (cs ++ rest)) = c :: (cs ++ rest) := by
    rw [skipBlanks, List.dropWhile_cons_of_neg (by simp [hblank])]
  have hcomma (cs : List Char) : skipBlanks (',' :: cs) = ',' :: cs := rfl
  constructor
  · simp [nextElement, hskip]
  · simp [nextElement, hcomma, hskip, hclose]

theorem ends_elements (xs : List α) (rest : List Char) :
    Ends (xs.flatMap (fun x => ',' :: write x) ++ ']' :: rest) := by
  cases xs with
  | nil => exact ends_bracket rest
  | cons x xs => exact ends_comma _

theorem readElements_rest {xs : List α} (hread : ∀ x ∈ xs, Reads element (write x) x)
    (hopens : ∀ x ∈ xs, Opens (write x)) {fuel : Nat} (hfuel : xs.length < fuel)
    (rest : List Char) :
    readElements element fuel false (xs.flatMap (fun x => ',' :: write x) ++ ']' :: rest) =
      .ok (xs, rest) := by
  induction xs generalizing fuel with
  | nil =>
    obtain ⟨fuel, rfl⟩ := Nat.exists_eq_succ_of_ne_zero (Nat.ne_zero_of_lt hfuel)
    rfl
  | cons x xs ih =>
    obtain ⟨fuel, rfl⟩ := Nat.exists_eq_succ_of_ne_zero (Nat.ne_zero_of_lt hfuel)
    obtain ⟨hx, hxs⟩ := List.forall_mem_cons.mp hread
    obtain ⟨hopen, hopens⟩ := List.forall_mem_cons.mp hopens
    have hends : Ends (xs.flatMap (fun x => ',' :: write x) ++ ']' :: rest) := ends_elements xs rest
    have hnext := (nextElement_opens hopen (xs.flatMap (fun x => ',' :: write x) ++ ']' :: rest)).2
    have hrest := ih hxs hopens (Nat.lt_of_succ_lt_succ hfuel)
    rw [List.flatMap_cons, List.cons_append, List.cons_append, List.append_assoc, readElements,
      hnext]
    simp only [hx _ hends, hrest]

/-- A list is read back from its written elements. -/
theorem reads_list {xs : List α} (hread : ∀ x ∈ xs, Reads element (write x) x)
    (hopens : ∀ x ∈ xs, Opens (write x)) :
    Reads (readList element) (writeList (xs.map write)) xs := by
  intro rest _
  have htext : writeList (xs.map write) ++ rest =
      '[' :: (writeItems (xs.map write) ++ ']' :: rest) := by simp [writeList]
  have hskip (cs : List Char) : skipBlanks ('[' :: cs) = '[' :: cs := rfl
  have hfuel : xs.length < (writeItems (xs.map write) ++ ']' :: rest).length + 1 := by
    have hle := @length_le_length_writeItems (xs.map write) fun text htext => by
      obtain ⟨x, hx, rfl⟩ := List.mem_map.mp htext
      obtain ⟨c, cs, heq, -⟩ := hopens x hx
      exact heq ▸ List.cons_ne_nil c cs
    simp only [List.length_map, List.length_append] at hle ⊢
    omega
  rw [htext]
  simp only [readList, hskip]
  cases xs with
  | nil => rfl
  | cons x xs =>
    obtain ⟨hx, hxs⟩ := List.forall_mem_cons.mp hread
    obtain ⟨hopen, hopens⟩ := List.forall_mem_cons.mp hopens
    have hends : Ends (xs.flatMap (fun x => ',' :: write x) ++ ']' :: rest) := ends_elements xs rest
    have hitems : writeItems ((x :: xs).map write) ++ ']' :: rest =
        write x ++ (xs.flatMap (fun x => ',' :: write x) ++ ']' :: rest) := by
      rw [List.map_cons, writeItems_cons, List.flatMap_map, List.append_assoc]
    have hnext := (nextElement_opens hopen (xs.flatMap (fun x => ',' :: write x) ++ ']' :: rest)).1
    generalize (writeItems ((x :: xs).map write) ++ ']' :: rest).length = fuel at hfuel ⊢
    rw [hitems, readElements, hnext]
    simp only [hx _ hends, readElements_rest hxs hopens (Nat.lt_of_succ_lt_succ hfuel)]

end Items

section Record

variable {ρ : Type}

/-- Members with the names of the fields, each with a text that its field reads: from the first
record to the last one. -/
inductive Fills : List (Field ρ) → List (String × List Char) → ρ → ρ → Prop where
  | done {r : ρ} : Fills [] [] r r
  | field {field : Field ρ} {fields : List (Field ρ)} {text : List Char}
      {members : List (String × List Char)} {r s t : ρ} :
      Reads (field.read r) text s → Fills fields members s t →
      Fills (field :: fields) ((field.name, text) :: members) r t

theorem Fills.of {α : Type} {name : String} {read : Reader α} {set : ρ → α → ρ} {text : List Char}
    {x : α} {fields : List (Field ρ)} {members : List (String × List Char)} {r t : ρ}
    (h : Reads read text x) (hrest : Fills fields members (set r x) t) :
    Fills (.of name read set :: fields) ((name, text) :: members) r t := by
  have hfield : Reads ((Field.of name read set).read r) text (set r x) := by
    intro rest hr
    simp [Field.of, h rest hr]
  exact .field hfield hrest

def memberText (m : String × List Char) : List Char := writeText m.1 ++ ':' :: m.2

namespace Shape

variable {shape : Shape ρ}

theorem missing?_eq_none {seen : List String}
    (h : ∀ field ∈ shape.fields, field.name ∈ seen) : shape.missing? seen = none := by
  unfold missing?
  split
  · rw [List.find?_eq_none]
    intro name hname
    obtain ⟨field, hf, rfl⟩ := List.mem_map.mp hname
    simpa using h field hf
  · rfl

theorem find?_field {fields : List (Field ρ)} {field : Field ρ}
    (hn : (fields.map (·.name)).Nodup) (hf : field ∈ fields) :
    (fields.find? fun x => x.name == field.name) = some field := by
  induction fields with
  | nil => cases hf
  | cons x fields ih =>
    obtain ⟨hx, hn⟩ := List.nodup_cons.mp hn
    rcases List.mem_cons.mp hf with rfl | hf
    · simp
    · have hne : (x.name == field.name) = false := by
        simp only [beq_eq_false_iff_ne]
        exact fun heq => hx (List.mem_map.mpr ⟨field, hf, heq.symm⟩)
      rw [List.find?_cons, hne]
      exact ih hn hf

/-- What follows a key once the reader stands behind its opening quote. -/
theorem readMembers_key {fuel : Nat} {first : Bool} {seen : List String} {field : Field ρ}
    {r s : ρ} {cs text rest : List Char} (hn : (shape.fields.map (·.name)).Nodup)
    (hf : field ∈ shape.fields) (hnew : field.name ∉ seen)
    (hkey : nextKey first cs =
      .ok (true, field.name.toList.flatMap quoteChar ++ '\x22' :: ':' :: (text ++ rest)))
    (hread : Reads (field.read r) text s) (hr : Ends rest) :
    shape.readMembers (fuel + 1) first seen r cs =
      shape.readMembers fuel false (field.name :: seen) s rest := by
  have hcolon : readColon (':' :: (text ++ rest)) = .ok (text ++ rest) := rfl
  have hseen : seen.contains field.name = false := by simpa using hnew
  rw [readMembers, hkey]
  simp only [readChars_quoted, String.ofList_toList, find?_field hn hf, hseen, Bool.false_eq_true,
    if_false, hcolon, hread rest hr]

theorem readMembers_end {fuel : Nat} {first : Bool} {seen : List String} {r : ρ}
    (h : ∀ field ∈ shape.fields, field.name ∈ seen) (rest : List Char) :
    shape.readMembers (fuel + 1) first seen r ('\x7d' :: rest) = .ok (r, '\x7d' :: rest) := by
  have hkey : nextKey first ('\x7d' :: rest) = .ok (false, '\x7d' :: rest) := rfl
  simp only [readMembers, hkey, missing?_eq_none h]

theorem ends_members (members : List (String × List Char)) (rest : List Char) :
    Ends (members.flatMap (fun m => ',' :: memberText m) ++ '\x7d' :: rest) := by
  cases members with
  | nil => exact ends_brace rest
  | cons m members => exact ends_comma _

theorem readMembers_rest {fields : List (Field ρ)} {members : List (String × List Char)} {r t : ρ}
    (hn : (shape.fields.map (·.name)).Nodup) (h : Fills fields members r t) {fuel : Nat}
    {seen : List String} (hfuel : members.length < fuel) (hsub : ∀ f ∈ fields, f ∈ shape.fields)
    (hnew : ∀ f ∈ fields, f.name ∉ seen) (hdistinct : (fields.map (·.name)).Nodup)
    (hall : ∀ f ∈ shape.fields, f.name ∈ seen ∨ f ∈ fields) (rest : List Char) :
    shape.readMembers fuel false seen r
      (members.flatMap (fun m => ',' :: memberText m) ++ '\x7d' :: rest) =
        .ok (t, '\x7d' :: rest) := by
  induction h generalizing fuel seen with
  | done =>
    obtain ⟨fuel, rfl⟩ := Nat.exists_eq_succ_of_ne_zero (Nat.ne_zero_of_lt hfuel)
    exact readMembers_end (fun f hf => (hall f hf).resolve_right (List.not_mem_nil)) rest
  | @field field fields text members r s t hread hrest ih =>
    obtain ⟨fuel, rfl⟩ := Nat.exists_eq_succ_of_ne_zero (Nat.ne_zero_of_lt hfuel)
    obtain ⟨hhead, htail⟩ := List.nodup_cons.mp hdistinct
    obtain ⟨hnewHead, hnewTail⟩ := List.forall_mem_cons.mp hnew
    obtain ⟨hsubHead, hsubTail⟩ := List.forall_mem_cons.mp hsub
    have hkey : nextKey false (((field.name, text) :: members).flatMap
        (fun m => ',' :: memberText m) ++ '\x7d' :: rest) =
        .ok (true, field.name.toList.flatMap quoteChar ++ '\x22' :: ':' ::
          (text ++ (members.flatMap (fun m => ',' :: memberText m) ++ '\x7d' :: rest))) := by
      simp only [List.flatMap_cons, memberText, List.cons_append, List.append_assoc,
        writeText_append]
      rfl
    rw [readMembers_key hn hsubHead hnewHead hkey hread (ends_members members rest)]
    refine ih (Nat.lt_of_succ_lt_succ hfuel) hsubTail ?_ htail ?_
    · intro f hf hmem
      rcases List.mem_cons.mp hmem with heq | hmem
      · exact hhead (List.mem_map.mpr ⟨f, hf, heq⟩)
      · exact hnewTail f hf hmem
    · intro f hf
      rcases hall f hf with hseen | hmem
      · exact .inl (List.mem_cons_of_mem _ hseen)
      · rcases List.mem_cons.mp hmem with rfl | hmem
        · exact .inl List.mem_cons_self
        · exact .inr hmem

theorem readMembers_first {members : List (String × List Char)} {t : ρ}
    (hn : (shape.fields.map (·.name)).Nodup) (h : Fills shape.fields members shape.blank t)
    {fuel : Nat} (hfuel : members.length < fuel) (rest : List Char) :
    shape.readMembers fuel true [] shape.blank
      (writeItems (members.map memberText) ++ '\x7d' :: rest) = .ok (t, '\x7d' :: rest) := by
  obtain ⟨fuel, rfl⟩ := Nat.exists_eq_succ_of_ne_zero (Nat.ne_zero_of_lt hfuel)
  generalize hfields : shape.fields = fields at h
  cases h with
  | done => exact readMembers_end (fun f hf => by rw [hfields] at hf; cases hf) rest
  | @field field fields text members _ s _ hread hrest =>
    have hmem : field ∈ shape.fields := hfields ▸ List.mem_cons_self
    have hsub : ∀ f ∈ fields, f ∈ shape.fields := fun f hf => hfields ▸ List.mem_cons_of_mem _ hf
    obtain ⟨hhead, htail⟩ := List.nodup_cons.mp (hfields ▸ hn)
    have hkey : nextKey true (writeItems (((field.name, text) :: members).map memberText)
        ++ '\x7d' :: rest) = .ok (true, field.name.toList.flatMap quoteChar ++ '\x22' :: ':' ::
          (text ++ (members.flatMap (fun m => ',' :: memberText m) ++ '\x7d' :: rest))) := by
      simp only [List.map_cons, writeItems_cons, List.flatMap_map, memberText, List.cons_append,
        List.append_assoc, writeText_append]
      rfl
    rw [readMembers_key hn hmem List.not_mem_nil hkey hread (ends_members members rest)]
    refine readMembers_rest hn hrest (Nat.lt_of_succ_lt_succ hfuel) hsub ?_ htail ?_ rest
    · intro f hf heq
      exact hhead (List.mem_map.mpr ⟨f, hf, List.mem_singleton.mp heq⟩)
    · intro f hf
      rw [hfields] at hf
      rcases List.mem_cons.mp hf with rfl | hf
      · exact .inl List.mem_cons_self
      · exact .inr hf

/-- A record is read back from an object with all its fields in order. -/
theorem reads_object {members : List (String × List Char)} {t : ρ}
    (hn : (shape.fields.map (·.name)).Nodup) (h : Fills shape.fields members shape.blank t) :
    Reads shape.read (writeObject members) t := by
  intro rest _
  have htext : writeObject members ++ rest =
      '\x7b' :: (writeItems (members.map memberText) ++ '\x7d' :: rest) := by
    simp only [writeObject, List.cons_append, List.append_assoc]
    rfl
  have hskip (cs : List Char) : skipBlanks ('\x7b' :: cs) = '\x7b' :: cs := rfl
  have hfuel : members.length <
      (writeItems (members.map memberText) ++ '\x7d' :: rest).length + 1 := by
    have hle := @length_le_length_writeItems (members.map memberText) fun text htext => by
      obtain ⟨m, -, rfl⟩ := List.mem_map.mp htext
      exact List.cons_ne_nil _ _
    simp only [List.length_map, List.length_append] at hle ⊢
    omega
  have hclose : closeObject ('\x7d' :: rest) = (rest, none) := rfl
  rw [htext]
  simp only [read, hskip, readMembers_first hn h hfuel rest, finish, hclose]

end Shape

end Record

theorem parse_of_reads {α : Type} {read : Reader α} {text : List Char} {x : α}
    (h : Reads read text x) : parse read (String.ofList text) = .ok x := by
  have hread := h [] ends_nil
  rw [List.append_nil] at hread
  simp [parse, hread, skipBlanks]

end DocPages.Json
