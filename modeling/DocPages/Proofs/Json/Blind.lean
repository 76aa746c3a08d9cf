import DocPages.Proofs.Json.Written
import DocPages.Proofs.Text.Escaped

/-! Readers do not see the guard. A `<` may only stand inside a string, and there the backslash
behind it is read as part of an escaped slash. So a reader makes the same of a guarded text as of
the plain one: it gives the same value and leaves the same rest, or fails on both. Where it fails
and why may differ. -/

namespace DocPages.Json

section Guard

/-- A text and its guarded form, as far as the first character tells. -/
inductive Peeled : List Char → List Char → Prop
  | nil : Peeled [] []
  | cons {c : Char} (cs : List Char) : c ≠ '<' → Peeled (c :: cs) (c :: guardClosers cs)
  | opener {cs ds : List Char} :
    guardClosers ('<' :: cs) = '<' :: ds → Peeled ('<' :: cs) ('<' :: ds)

theorem peeled (cs : List Char) : Peeled cs (guardClosers cs) := by
  fun_cases guardClosers cs with
  | case1 => exact .nil
  | case2 cs => exact .opener rfl
  | case3 c cs hne =>
    by_cases hc : c = '<'
    · subst hc
      exact .opener (by rw [guardClosers]; exact hne)
    · exact .cons cs hc

theorem exists_guardClosers_cons (c : Char) (cs : List Char) :
    ∃ ds, guardClosers (c :: cs) = c :: ds :=
  List.head?_eq_some_iff.mp (head?_guardClosers (c :: cs))

theorem guardClosers_of_ne {c : Char} (h : c ≠ '<') (cs : List Char) :
    guardClosers (c :: cs) = c :: guardClosers cs :=
  guardClosers_cons fun hc => absurd hc h

theorem Peeled.eq {cs ds : List Char} (h : Peeled cs ds) : ds = guardClosers cs := by
  cases h with
  | nil => rfl
  | cons cs hc => exact (guardClosers_of_ne hc cs).symm
  | opener h => exact h.symm

variable {p : Char → Bool}

theorem takeWhile_guardClosers (hp : p '<' = false) (cs : List Char) :
    (guardClosers cs).takeWhile p = cs.takeWhile p := by
  fun_induction guardClosers cs with
  | case1 => rfl
  | case2 cs ih => simp [hp]
  | case3 c cs _ ih => rw [List.takeWhile_cons, List.takeWhile_cons, ih]

theorem dropWhile_guardClosers (hp : p '<' = false) (cs : List Char) :
    (guardClosers cs).dropWhile p = guardClosers (cs.dropWhile p) := by
  fun_induction guardClosers cs with
  | case1 => rfl
  | case2 cs ih => simp [hp, guardClosers]
  | case3 c cs hne ih =>
    rw [List.dropWhile_cons, List.dropWhile_cons, ih]
    split
    · rfl
    · rw [guardClosers]
      exact hne

theorem skipBlanks_guardClosers (cs : List Char) :
    skipBlanks (guardClosers cs) = guardClosers (skipBlanks cs) :=
  dropWhile_guardClosers (by decide) cs

theorem length_le_guardClosers (cs : List Char) : cs.length ≤ (guardClosers cs).length := by
  fun_induction guardClosers cs with
  | case1 => exact Nat.le_refl _
  | case2 cs ih =>
    simp only [List.length_cons]
    omega
  | case3 c cs _ ih =>
    simp only [List.length_cons]
    omega

/-- A shorter end of a text is also shorter when both are guarded. -/
theorem length_guardClosers_lt (c : Char) (cs : List Char) :
    (guardClosers cs).length < (guardClosers (c :: cs)).length := by
  generalize hds : c :: cs = ds
  fun_cases guardClosers ds with
  | case1 => cases hds
  | case2 ds =>
    cases hds
    rw [guardClosers_of_ne (by decide)]
    simp
  | case3 d ds _ =>
    cases hds
    simp

theorem length_guardClosers_le {rest cs : List Char} (h : rest <:+ cs) :
    (guardClosers rest).length ≤ (guardClosers cs).length := by
  obtain ⟨front, rfl⟩ := h
  induction front with
  | nil => exact Nat.le_refl _
  | cons c front ih => exact Nat.le_of_lt (Nat.lt_of_le_of_lt ih (length_guardClosers_lt c _))

end Guard

section Alike

variable {ε α β : Type}

/-- Results on a plain text and on the guarded one: both are faults, or the values are equal and
the second rest is the first one, guarded. -/
def Alike (cs : List Char) (x y : Except ε (α × List Char)) : Prop :=
  (∃ e e', x = .error e ∧ y = .error e') ∨
    ∃ a rest, rest <:+ cs ∧ x = .ok (a, rest) ∧ y = .ok (a, guardClosers rest)

/-- The same for steps that give no value. -/
def Passes (cs : List Char) (x y : Except ε (List Char)) : Prop :=
  (∃ e e', x = .error e ∧ y = .error e') ∨
    ∃ rest, rest <:+ cs ∧ x = .ok rest ∧ y = .ok (guardClosers rest)

/-- The reader does not see the guard. -/
def Blind (read : Reader α) : Prop := ∀ cs, Alike cs (read cs) (read (guardClosers cs))

variable {cs rest : List Char} {e e' : ε} {a : α}

@[simp]
theorem Alike.error : Alike cs (.error e : Except ε (α × List Char)) (.error e') :=
  .inl ⟨e, e', rfl, rfl⟩

theorem Alike.ok (h : rest <:+ cs) :
    Alike cs (.ok (a, rest) : Except ε (α × List Char)) (.ok (a, guardClosers rest)) :=
  .inr ⟨a, rest, h, rfl, rfl⟩

theorem Alike.mono {x y : Except ε (α × List Char)} (hsub : rest <:+ cs) (h : Alike rest x y) :
    Alike cs x y := by
  obtain herror | ⟨a, rest', hrest, hx, hy⟩ := h
  · exact .inl herror
  · exact .inr ⟨a, rest', hrest.trans hsub, hx, hy⟩

@[simp]
theorem Passes.error : Passes cs (.error e) (.error e') := .inl ⟨e, e', rfl, rfl⟩

theorem Peeled.alike {ds : List Char} (h : Peeled cs ds) :
    Alike cs (.ok (a, cs) : Except ε (α × List Char)) (.ok (a, ds)) :=
  h.eq ▸ .ok (List.suffix_refl cs)

theorem Passes.ok (h : rest <:+ cs) :
    Passes cs (.ok rest : Except ε (List Char)) (.ok (guardClosers rest)) :=
  .inr ⟨rest, h, rfl, rfl⟩

theorem Passes.mono {x y : Except ε (List Char)} (hsub : rest <:+ cs) (h : Passes rest x y) :
    Passes cs x y := by
  obtain herror | ⟨rest', hrest, hx, hy⟩ := h
  · exact .inl herror
  · exact .inr ⟨rest', hrest.trans hsub, hx, hy⟩

theorem Alike.bind {x y : Except ε (α × List Char)}
    {next next' : α × List Char → Except ε (β × List Char)} (h : Alike cs x y)
    (hnext : ∀ a rest, rest <:+ cs → x = .ok (a, rest) → y = .ok (a, guardClosers rest) →
      Alike rest (next (a, rest)) (next' (a, guardClosers rest))) :
    Alike cs (x >>= next) (y >>= next') := by
  obtain ⟨e, e', rfl, rfl⟩ | ⟨a, rest, hrest, rfl, rfl⟩ := h
  · exact .error
  · exact (hnext a rest hrest rfl rfl).mono hrest

theorem Passes.bind {x y : Except ε (List Char)}
    {next next' : List Char → Except ε (β × List Char)} (h : Passes cs x y)
    (hnext : ∀ rest, rest <:+ cs → Alike rest (next rest) (next' (guardClosers rest))) :
    Alike cs (x >>= next) (y >>= next') := by
  obtain ⟨e, e', rfl, rfl⟩ | ⟨rest, hrest, rfl, rfl⟩ := h
  · exact .error
  · exact (hnext rest hrest).mono hrest

/-- A value that is put together from what was read. -/
theorem Alike.map {x y : Except ε (α × List Char)} (g : α → β) (h : Alike cs x y) :
    Alike cs (x >>= fun z => pure (g z.1, z.2)) (y >>= fun z => pure (g z.1, z.2)) :=
  h.bind fun _ rest _ _ _ => .ok (List.suffix_refl rest)

/-- Blanks in front of a value are skipped alike, and then the first characters agree. -/
theorem peeled_skipBlanks (cs : List Char) :
    ∃ es ds, skipBlanks cs = es ∧ skipBlanks (guardClosers cs) = ds ∧ es <:+ cs ∧ Peeled es ds :=
  ⟨_, _, rfl, rfl, List.dropWhile_suffix _, skipBlanks_guardClosers cs ▸ peeled _⟩

end Alike

section Scalars

theorem passes_readWord {letters : List Char} (h : '<' ∉ letters) (cs : List Char) :
    Passes cs (readWord letters cs) (readWord letters (guardClosers cs)) := by
  induction letters generalizing cs with
  | nil => exact .ok (List.suffix_refl cs)
  | cons w letters ih =>
    rw [List.mem_cons, not_or] at h
    have hpeel := peeled cs
    generalize guardClosers cs = ds at hpeel ⊢
    cases hpeel with
    | nil => exact .error
    | opener =>
      rw [readWord, readWord, if_neg h.1, if_neg h.1]
      exact .error
    | cons cs hc =>
      rw [readWord, readWord]
      split
      · exact (ih h.2 cs).mono (List.suffix_cons _ cs)
      · exact .error

theorem readExponentDigits_guardClosers (n : Nat) (cs : List Char) :
    (∃ rest, rest <:+ cs ∧ readExponentDigits n cs = .error rest ∧
      readExponentDigits n (guardClosers cs) = .error (guardClosers rest)) ∨
    ∃ m rest, rest <:+ cs ∧ readExponentDigits n cs = .ok (m, rest) ∧
      readExponentDigits n (guardClosers cs) = .ok (m, guardClosers rest) := by
  fun_induction readExponentDigits n cs with
  | case1 n => exact .inr ⟨n, [], List.suffix_refl _, rfl, rfl⟩
  | case2 n c cs hc =>
    obtain ⟨ds, hds⟩ := exists_guardClosers_cons c cs
    refine .inr ⟨n, c :: cs, List.suffix_refl _, rfl, ?_⟩
    rw [hds, readExponentDigits, if_pos hc]
  | case3 n c cs hc hlarge =>
    have hne : c ≠ '<' := by
      rintro rfl
      exact hc rfl
    refine .inl ⟨cs, List.suffix_cons c cs, rfl, ?_⟩
    rw [guardClosers_of_ne hne, readExponentDigits, if_neg hc, if_pos hlarge]
  | case4 n c cs hc hsmall ih =>
    have hne : c ≠ '<' := by
      rintro rfl
      exact hc rfl
    rw [guardClosers_of_ne hne, readExponentDigits, if_neg hc, if_neg hsmall]
    obtain ⟨rest, hrest, h⟩ | ⟨m, rest, hrest, h⟩ := ih
    · exact .inl ⟨rest, hrest.trans (List.suffix_cons c cs), h⟩
    · exact .inr ⟨m, rest, hrest.trans (List.suffix_cons c cs), h⟩

variable {positive : Bool} {significand : Nat} {e : Int} {cs rest : List Char}

theorem alike_realOf (h : rest <:+ cs) :
    Alike cs (realOf positive significand e rest)
      (realOf positive significand e (guardClosers rest)) := by
  unfold realOf
  split
  · exact .ok h
  · exact .error

theorem alike_readExponent (cs : List Char) :
    Alike cs (readExponent positive significand e cs)
      (readExponent positive significand e (guardClosers cs)) := by
  have hsign : (if cs.head? == some '+' || cs.head? == some '-' then (guardClosers cs).tail
      else guardClosers cs) =
      guardClosers (if cs.head? == some '+' || cs.head? == some '-' then cs.tail else cs) := by
    split
    · rename_i hhead
      cases cs with
      | nil => rfl
      | cons c cs =>
        have hne : c ≠ '<' := by
          rintro rfl
          simp at hhead
        rw [guardClosers_of_ne hne, List.tail_cons, List.tail_cons]
    · rfl
  have hsub : (if cs.head? == some '+' || cs.head? == some '-' then cs.tail else cs) <:+ cs := by
    split
    · exact List.tail_suffix cs
    · exact List.suffix_refl cs
  unfold readExponent
  simp only [head?_guardClosers, hsign]
  refine .mono hsub ?_
  generalize (if cs.head? == some '+' || cs.head? == some '-' then cs.tail else cs) = digits
  have hread := readExponentDigits_guardClosers 0 digits
  have hpeel := peeled digits
  generalize guardClosers digits = ds at hpeel hread ⊢
  cases hpeel with
  | nil => exact .error
  | opener => exact .error
  | @cons c digits hc =>
    simp only
    split
    · exact .error
    · obtain ⟨rest, hrest, h, h'⟩ | ⟨m, rest, hrest, h, h'⟩ := hread
      · simp only [h, h']
        split
        · exact .error
        · rw [dropWhile_guardClosers (by decide)]
          exact alike_realOf ((List.dropWhile_suffix _).trans hrest)
      · simp only [h, h']
        exact alike_realOf hrest

theorem alike_readFraction (cs : List Char) :
    Alike cs (readFraction positive significand e cs)
      (readFraction positive significand e (guardClosers cs)) := by
  unfold readFraction
  simp only [takeWhile_guardClosers (show Char.isDigit '<' = false by decide),
    dropWhile_guardClosers (show Char.isDigit '<' = false by decide)]
  split
  · exact .error
  · refine .mono (List.dropWhile_suffix Char.isDigit) ?_
    generalize cs.dropWhile Char.isDigit = rest
    cases rest with
    | nil => exact alike_realOf (List.suffix_refl _)
    | cons c rest =>
      obtain ⟨ds, hds⟩ := exists_guardClosers_cons c rest
      by_cases hmark : isExponentMark c
      · have hne : c ≠ '<' := by
          rintro rfl
          cases hmark
        simp only [guardClosers_of_ne hne, if_pos hmark]
        exact (alike_readExponent rest).mono (List.suffix_cons c rest)
      · simp only [hds, if_neg hmark]
        rw [← hds]
        exact alike_realOf (List.suffix_refl _)

theorem alike_readMagnitude (cs : List Char) :
    Alike cs (readMagnitude positive cs) (readMagnitude positive (guardClosers cs)) := by
  unfold readMagnitude
  simp only [takeWhile_guardClosers (show Char.isDigit '<' = false by decide),
    dropWhile_guardClosers (show Char.isDigit '<' = false by decide)]
  split
  · exact .error
  · exact .error
  · refine .mono (List.dropWhile_suffix Char.isDigit) ?_
    generalize cs.dropWhile Char.isDigit = rest, absorb 0 (cs.takeWhile Char.isDigit) = digits
    -- The number may end with its digits, with or without a character behind it.
    have hend : Alike rest
        (if digits.2.isEmpty then .ok (wholeOf positive digits.1, rest)
          else realOf positive digits.1 digits.2.length rest)
        (if digits.2.isEmpty then .ok (wholeOf positive digits.1, guardClosers rest)
          else realOf positive digits.1 digits.2.length (guardClosers rest)) := by
      split
      · exact .ok (List.suffix_refl rest)
      · exact alike_realOf (List.suffix_refl rest)
    cases rest with
    | nil => exact hend
    | cons c rest =>
      by_cases hpoint : c = '.'
      · subst hpoint
        rw [guardClosers_of_ne (by decide)]
        exact (alike_readFraction rest).mono (List.suffix_cons _ rest)
      · by_cases hmark : isExponentMark c
        · have hne : c ≠ '<' := by
            rintro rfl
            cases hmark
          simp only [guardClosers_of_ne hne, if_pos hmark]
          exact (alike_readExponent rest).mono (List.suffix_cons c rest)
        · obtain ⟨ds, hds⟩ := exists_guardClosers_cons c rest
          rw [hds] at hend ⊢
          simpa only [if_neg hmark] using hend

theorem blind_readNumber : Blind readNumber := by
  intro cs
  cases cs with
  | nil => exact .error
  | cons c cs =>
    by_cases hminus : c = '-'
    · subst hminus
      rw [guardClosers_of_ne (by decide)]
      exact (alike_readMagnitude cs).mono (List.suffix_cons _ cs)
    · have hplain (ds : List Char) : readNumber (c :: ds) = readMagnitude true (c :: ds) := by
        rw [readNumber]
        simp [hminus]
      obtain ⟨ds, hds⟩ := exists_guardClosers_cons c cs
      rw [hds, hplain, hplain, ← hds]
      exact alike_readMagnitude (c :: cs)

end Scalars

section Text

variable {a b c d : Char} {n : Nat} {cs : List Char}

theorem of_guardClosers_eq_cons {rest : List Char} (h : guardClosers cs = c :: rest)
    (hc : c ≠ '<') :
    ∃ cs', cs = c :: cs' ∧ guardClosers cs' = rest := by
  cases cs with
  | nil => cases h
  | cons x cs =>
    obtain ⟨ds, hds⟩ := exists_guardClosers_cons x cs
    obtain ⟨rfl, -⟩ := List.cons.inj (hds.symm.trans h)
    rw [guardClosers_of_ne hc] at h
    exact ⟨cs, rfl, (List.cons.inj h).2⟩

/-- Four hexadecimal digits and what follows them. -/
def hexRun? : List Char → Option (Nat × List Char)
  | a :: b :: c :: d :: cs => (hexValue4? a b c d).map (·, cs)
  | _ => none

/-- The second half of a surrogate pair. -/
def secondHalf? : List Char → Option (Nat × List Char)
  | '\x5c' :: 'u' :: cs => hexRun? cs
  | _ => none

theorem ne_of_hexValue4? (h : hexValue4? a b c d = some n) :
    a ≠ '<' ∧ b ≠ '<' ∧ c ≠ '<' ∧ d ≠ '<' := by
  refine ⟨?_, ?_, ?_, ?_⟩
  all_goals
    rintro rfl
    simp [hexValue4?, show hexValue? '<' = none by decide] at h

theorem guardClosers_hex (h : hexValue4? a b c d = some n) (cs : List Char) :
    guardClosers (a :: b :: c :: d :: cs) = a :: b :: c :: d :: guardClosers cs := by
  obtain ⟨ha, hb, hc, hd⟩ := ne_of_hexValue4? h
  rw [guardClosers_of_ne ha, guardClosers_of_ne hb, guardClosers_of_ne hc, guardClosers_of_ne hd]

theorem hexRun?_guardClosers (h : hexRun? cs = none) : hexRun? (guardClosers cs) = none := by
  generalize hds : guardClosers cs = ds
  fun_cases hexRun? ds with
  | case1 a b c d ds =>
    -- Digits of the guarded text are digits of the plain one, as none of them is a `<`.
    cases hvalue : hexValue4? a b c d with
    | none => rfl
    | some n =>
      obtain ⟨ha, hb, hc, hd⟩ := ne_of_hexValue4? hvalue
      obtain ⟨cs, rfl, hbs⟩ := of_guardClosers_eq_cons hds ha
      obtain ⟨cs, rfl, hcs⟩ := of_guardClosers_eq_cons hbs hb
      obtain ⟨cs, rfl, hlast⟩ := of_guardClosers_eq_cons hcs hc
      obtain ⟨cs, rfl, -⟩ := of_guardClosers_eq_cons hlast hd
      simp [hexRun?, hvalue] at h
  | case2 => rfl

theorem secondHalf?_guardClosers (h : secondHalf? cs = none) :
    secondHalf? (guardClosers cs) = none := by
  generalize hds : guardClosers cs = ds
  fun_cases secondHalf? ds with
  | case1 ds =>
    obtain ⟨cs, rfl, hus⟩ := of_guardClosers_eq_cons hds (by decide)
    obtain ⟨cs, rfl, rfl⟩ := of_guardClosers_eq_cons hus (by decide)
    exact hexRun?_guardClosers h
  | case2 => rfl

theorem readChars_of_hexRun? (h : hexRun? cs = none) :
    ∃ f, readChars ('\x5c' :: 'u' :: cs) = .error f := by
  fun_cases hexRun? cs with
  | case1 a b c d cs =>
    have hvalue : hexValue4? a b c d = none := by simpa [hexRun?] using h
    exact ⟨_, by rw [readChars, hvalue]⟩
  | case2 cs hshort => exact ⟨_, by rw [readChars]; exact hshort⟩

theorem readChars_of_secondHalf? (hvalue : hexValue4? a b c d = some n) (hlow : ¬ isLowSurrogate n)
    (hhigh : isHighSurrogate n) (h : secondHalf? cs = none) :
    ∃ f, readChars ('\x5c' :: 'u' :: a :: b :: c :: d :: cs) = .error f := by
  rw [readChars, hvalue]
  simp only [if_neg hlow, if_pos hhigh]
  split
  · rename_i a b c d cs
    have hnone : hexValue4? a b c d = none := by simpa [secondHalf?, hexRun?] using h
    exact ⟨_, by rw [hnone]⟩
  · exact ⟨_, rfl⟩
  · exact ⟨_, rfl⟩
  · exact ⟨_, rfl⟩

theorem alike_prepend {x y : Except Fault (List Char × List Char)} (h : Alike cs x y) :
    Alike cs (prepend c x) (prepend c y) := by
  obtain ⟨e, e', rfl, rfl⟩ | ⟨text, rest, hrest, rfl, rfl⟩ := h
  · exact .error
  · exact .ok hrest

theorem guardClosers_unicode (cs : List Char) :
    guardClosers ('\x5c' :: 'u' :: cs) = '\x5c' :: 'u' :: guardClosers cs := by
  rw [guardClosers_of_ne (by decide), guardClosers_of_ne (by decide)]

theorem readChars_escape {e : Char} (hu : e ≠ 'u') (hc : shortEscape? e = some c)
    (cs : List Char) : readChars ('\x5c' :: e :: cs) = prepend c (readChars cs) := by
  rw [readChars, hc]
  · exact fun _ _ _ _ _ he => absurd he hu
  · exact hu

theorem readChars_bad_escape {e : Char} (hu : e ≠ 'u') (hc : shortEscape? e = none)
    (cs : List Char) :
    readChars ('\x5c' :: e :: cs) = .error (.next .invalidEscape (e :: cs)) := by
  rw [readChars, hc]
  · exact fun _ _ _ _ _ he => absurd he hu
  · exact hu

/-- The guard of a slash is read as a part of it. -/
theorem readChars_guarded_opener (cs : List Char) :
    readChars (guardClosers ('<' :: cs)) = prepend '<' (readChars (guardClosers cs)) := by
  by_cases hslash : cs.head? = some '/'
  · obtain ⟨cs, rfl⟩ := List.head?_eq_some_iff.mp hslash
    rw [guardClosers, guardClosers_of_ne (by decide)]
    rfl
  · rw [guardClosers_cons fun _ => hslash]
    rfl

theorem blind_readChars : Blind readChars := by
  intro cs
  -- Where the second half of a surrogate pair is missing, the guarded text has none either.
  have hlone {a b c d : Char} {n : Nat} {cs : List Char} {f : Fault}
      (hvalue : hexValue4? a b c d = some n) (hlow : ¬ isLowSurrogate n)
      (hhigh : isHighSurrogate n) (h : secondHalf? cs = none) :
      Alike ('\x5c' :: 'u' :: a :: b :: c :: d :: cs) (.error f)
        (readChars (guardClosers ('\x5c' :: 'u' :: a :: b :: c :: d :: cs))) := by
    obtain ⟨f, hf⟩ := readChars_of_secondHalf? hvalue hlow hhigh (secondHalf?_guardClosers h)
    rw [guardClosers_unicode, guardClosers_hex hvalue, hf]
    exact .error
  have hbad {cs : List Char} {f : Fault} (h : hexRun? cs = none) :
      Alike ('\x5c' :: 'u' :: cs) (.error f) (readChars (guardClosers ('\x5c' :: 'u' :: cs))) := by
    obtain ⟨f, hf⟩ := readChars_of_hexRun? (hexRun?_guardClosers h)
    rw [guardClosers_unicode, hf]
    exact .error
  have hplain {c : Char} {cs : List Char} (hend : c = '\x5c' → cs = [] → False)
      (hescape : ∀ e cs', c = '\x5c' → cs = e :: cs' → False) : c ≠ '\x5c' := by
    intro hc
    cases cs with
    | nil => exact hend hc rfl
    | cons e cs => exact hescape e cs hc rfl
  -- Only the last case can take a `<`; all others keep their characters under the guard.
  fun_induction readChars cs with
  | case1 => exact .error
  | case2 cs =>
    rw [guardClosers_of_ne (by decide)]
    exact .ok (List.suffix_cons _ cs)
  | case3 => exact .error
  | case4 a b c d cs hvalue => exact hbad (by simp [hexRun?, hvalue])
  | case5 a b c d cs n hvalue hlow =>
    rw [guardClosers_unicode, guardClosers_hex hvalue, readChars, hvalue]
    simp only [if_pos hlow]
    exact .error
  | case6 a b c d n hvalue hlow hhigh a' b' c' d' cs hvalue' =>
    exact hlone hvalue hlow hhigh (by simp [secondHalf?, hexRun?, hvalue'])
  | case7 a b c d n hvalue hlow hhigh a' b' c' d' cs m hvalue' hlow' ih =>
    rw [guardClosers_unicode, guardClosers_hex hvalue, guardClosers_unicode,
      guardClosers_hex hvalue', readChars, hvalue]
    simp only [if_neg hlow, if_pos hhigh, hvalue', if_pos hlow']
    exact alike_prepend (ih.mono ⟨['\x5c', 'u', a, b, c, d, '\x5c', 'u', a', b', c', d'], rfl⟩)
  | case8 a b c d n hvalue hlow hhigh a' b' c' d' cs m hvalue' hlow' =>
    rw [guardClosers_unicode, guardClosers_hex hvalue, guardClosers_unicode,
      guardClosers_hex hvalue', readChars, hvalue]
    simp only [if_neg hlow, if_pos hhigh, hvalue', if_neg hlow']
    exact .error
  | case9 a b c d n hvalue hlow hhigh cs hshort =>
    refine hlone hvalue hlow hhigh ?_
    rw [secondHalf?, hexRun?]
    exact hshort
  | case10 a b c d n hvalue hlow hhigh cs hshort hu =>
    refine hlone hvalue hlow hhigh ?_
    rw [secondHalf?]
    rintro cs ⟨⟩
    exact hu cs rfl
  | case11 a b c d n hvalue hlow hhigh cs hshort hu hslash =>
    refine hlone hvalue hlow hhigh ?_
    rw [secondHalf?]
    exact hu
  | case12 a b c d cs n hvalue hlow hhigh ih =>
    rw [guardClosers_unicode, guardClosers_hex hvalue, readChars, hvalue]
    simp only [if_neg hlow, if_neg hhigh]
    exact alike_prepend (ih.mono ⟨['\x5c', 'u', a, b, c, d], rfl⟩)
  | case13 cs hshort =>
    refine hbad ?_
    rw [hexRun?]
    exact hshort
  | case14 e cs _ hu c hc ih =>
    have hne : e ≠ '<' := by
      rintro rfl
      cases hc
    rw [guardClosers_of_ne (by decide), guardClosers_of_ne hne, readChars_escape hu hc]
    exact alike_prepend (ih.mono ⟨['\x5c', e], rfl⟩)
  | case15 e cs _ hu hnone =>
    -- The guard goes behind a `<`, so `\<` is the same bad escape in both texts.
    obtain ⟨ds, hds⟩ := exists_guardClosers_cons e cs
    rw [guardClosers_of_ne (by decide), hds, readChars_bad_escape hu hnone]
    exact .error
  | case16 c cs hquote hend _ _ hescape hcontrol =>
    obtain ⟨ds, hds⟩ := exists_guardClosers_cons c cs
    have hslash := hplain hend hescape
    rw [hds, readChars, if_pos hcontrol]
    · exact .error
    · exact hquote
    all_goals simp [hslash]
  | case17 c cs hquote hend _ _ hescape hcontrol ih =>
    have hslash := hplain hend hescape
    have hguard : readChars (guardClosers (c :: cs)) = prepend c (readChars (guardClosers cs)) := by
      by_cases hc : c = '<'
      · rw [hc, readChars_guarded_opener]
      · rw [guardClosers_of_ne hc, readChars_plain hquote hslash hcontrol]
    rw [hguard]
    exact alike_prepend (ih.mono (List.suffix_cons c cs))

end Text

section Skip

/-- No word with a `<` is expected. -/
def Mode.Spelled : Mode → Prop
  | .word letters => '<' ∉ letters
  | _ => True

namespace Step

def Spelled : Step → Prop
  | .go mode _ => mode.Spelled
  | _ => True

/-- The character is not taken. -/
def Refuses : Step → Prop
  | .past | .fail _ _ | .badHex _ => True
  | .go _ _ | .last => False

variable (opened : List Bracket) (c : Char)

theorem spelled_complete : (complete opened).Spelled := by
  cases opened <;> trivial

theorem spelled_afterValue : (afterValue opened c).Spelled := by
  unfold afterValue
  repeat' split
  all_goals first | trivial | exact spelled_complete _

theorem spelled_startValue : (startValue opened c).Spelled := by
  unfold startValue
  repeat' split
  all_goals simp [Spelled, Mode.Spelled]

theorem spelled_startKey {again : Mode} (h : again.Spelled) :
    (startKey again opened c).Spelled := by
  unfold startKey
  repeat' split
  all_goals first | exact h | trivial

theorem spelled_inNumber {stay : Option Mode} (h : ∀ mode ∈ stay, mode.Spelled)
    (point exponent : Bool) : (inNumber stay point exponent opened c).Spelled := by
  unfold inNumber
  repeat' split
  all_goals first | exact h _ rfl | trivial | exact spelled_afterValue _ _

theorem refuses_afterValue : (afterValue opened '<').Refuses := by
  cases opened with
  | nil => trivial
  | cons b opened => cases b <;> trivial

end Step

open Step in
theorem spelled_skipStep {mode : Mode} (h : mode.Spelled) (opened : List Bracket) (c : Char) :
    (skipStep opened c mode).Spelled := by
  fun_cases skipStep opened c mode with
  | case26 w letters => exact fun hmem => h (List.mem_cons_of_mem w hmem)
  | _ =>
    first
    | trivial
    | exact spelled_complete _
    | exact spelled_startValue _ _
    | exact spelled_afterValue _ _
    | exact spelled_startKey _ _ trivial
    | exact spelled_inNumber _ _ (by simp [Mode.Spelled]) _ _

/-- Outside strings a `<` is never taken. -/
theorem refuses_skipStep {mode : Mode} (h : mode.Spelled) (htext : ∀ isKey, mode ≠ .text isKey)
    (opened : List Bracket) : (skipStep opened '<' mode).Refuses := by
  cases mode with
  | text isKey => exact absurd rfl (htext isKey)
  | word letters =>
    cases letters with
    | nil => trivial
    | cons w letters =>
      have hw : '<' ≠ w := fun hw => h (hw ▸ List.mem_cons_self)
      rw [skipStep, if_pos hw]
      trivial
  | after | zero | digits | fraction | exponentDigits => exact Step.refuses_afterValue opened
  | _ => trivial

theorem passes_of_refuses {mode : Mode} {opened : List Bracket} {c : Char} {cs ds : List Char}
    (h : (skipStep opened c mode).Refuses) (hds : guardClosers (c :: cs) = c :: ds) :
    Passes (c :: cs) (skipFrom mode opened (c :: cs)) (skipFrom mode opened (c :: ds)) := by
  rw [skipFrom, skipFrom]
  revert h
  cases skipStep opened c mode with
  | past =>
    intro _
    rw [← hds]
    exact .ok (List.suffix_refl _)
  | fail | badHex => exact fun _ => .error
  | go | last => exact False.elim

theorem passes_skipFrom {mode : Mode} (h : mode.Spelled) (opened : List Bracket) (cs : List Char) :
    Passes cs (skipFrom mode opened cs) (skipFrom mode opened (guardClosers cs)) := by
  fun_induction guardClosers cs generalizing mode opened with
  | case1 =>
    rw [skipFrom]
    split
    · exact .ok (List.suffix_refl [])
    · exact .error
  | case2 cs ih =>
    -- In a string the slash is skipped with its guard, anywhere else the `<` is the end.
    by_cases htext : ∃ isKey, mode = .text isKey
    · obtain ⟨isKey, rfl⟩ := htext
      have htext : (Mode.text isKey).Spelled := trivial
      exact (ih htext opened).mono ⟨['<', '/'], rfl⟩
    · exact passes_of_refuses
        (refuses_skipStep h (fun isKey hmode => htext ⟨isKey, hmode⟩) opened) rfl
  | case3 c cs hne ih =>
    have hstep := spelled_skipStep h opened c
    rw [skipFrom, skipFrom]
    revert hstep
    cases skipStep opened c mode with
    | go mode opened => exact fun hmode => (ih hmode opened).mono (List.suffix_cons c cs)
    | last => exact fun _ => .ok (List.suffix_cons c cs)
    | past =>
      intro _
      have hcs : c :: guardClosers cs = guardClosers (c :: cs) := by
        rw [guardClosers]
        exact hne
      rw [hcs]
      exact .ok (List.suffix_refl _)
    | fail | badHex => exact fun _ => .error

theorem passes_skipValue (cs : List Char) :
    Passes cs (skipValue cs) (skipValue (guardClosers cs)) :=
  passes_skipFrom (show Mode.value.Spelled from trivial) [] cs

end Skip

end DocPages.Json
