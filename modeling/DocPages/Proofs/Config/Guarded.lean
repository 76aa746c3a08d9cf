import DocPages.Markup
import DocPages.Proofs.Json.Written
import DocPages.Proofs.Text.Escaped

/-! A configuration survives the way into a script element. The backslash that goes into every `</`
of its stored form is read as part of an escape, so the guarded text is read as the plain one. -/

namespace DocPages

open Json

section Guard

theorem guardClosers_append_of_not_mem {as : List Char} (h : '<' ∉ as) (bs : List Char) :
    guardClosers (as ++ bs) = as ++ guardClosers bs := by
  induction as with
  | nil => rfl
  | cons a as ih =>
    rw [List.mem_cons, not_or] at h
    rw [List.cons_append, guardClosers_cons fun ha => absurd ha.symm h.1, ih h.2]
    rfl

theorem guardClosers_eq_self {cs : List Char} (h : '<' ∉ cs) : guardClosers cs = cs := by
  simpa [guardClosers] using guardClosers_append_of_not_mem h []

/-- What follows a separator is guarded on its own. -/
theorem guardClosers_append_cons {c : Char} (hclose : c ≠ '/') (hopen : c ≠ '<')
    (as bs : List Char) :
    guardClosers (as ++ c :: bs) = guardClosers as ++ c :: guardClosers bs := by
  fun_induction guardClosers as with
  | case1 => exact guardClosers_cons fun hc => absurd hc hopen
  | case2 as ih => simpa [guardClosers] using ih
  | case3 a as hne ih =>
    rw [List.cons_append, List.cons_append, ← ih]
    refine guardClosers_cons fun ha hhead => ?_
    cases as with
    | nil => exact hclose (by simpa using hhead)
    | cons x as =>
      obtain rfl : x = '/' := by simpa using hhead
      exact hne as ha rfl

end Guard

section Text

theorem not_mem_quoteChar {c : Char} (h : c ≠ '<') : '<' ∉ quoteChar c := by
  have hhex : ∀ n < 16, hexDigit n ≠ '<' := by decide
  have hhigh : c.toNat < 32 → '<' ≠ hexDigit (c.toNat / 16) :=
    fun hlow => (hhex (c.toNat / 16) (by omega)).symm
  have hlow : '<' ≠ hexDigit (c.toNat % 16) := (hhex (c.toNat % 16) (by omega)).symm
  unfold quoteChar
  repeat' split
  all_goals simp_all [Ne.symm h]

theorem head?_quoteChar {c : Char} (h : c ≠ '/') (rest : List Char) :
    (quoteChar c ++ rest).head? ≠ some '/' := by
  unfold quoteChar
  repeat' split
  all_goals simp_all

theorem readChars_guarded (text rest : List Char) :
    readChars (guardClosers (text.flatMap quoteChar) ++ '\x22' :: rest) = .ok (text, rest) := by
  induction text using guardClosers.induct with
  | case1 => rfl
  | case2 text ih =>
    have hplain : quoteChar '<' ++ (quoteChar '/' ++ text.flatMap quoteChar) =
        '<' :: '/' :: text.flatMap quoteChar := rfl
    have hslash (cs : List Char) : readChars ('\x5c' :: '/' :: cs) = prepend '/' (readChars cs) :=
      rfl
    rw [List.flatMap_cons, List.flatMap_cons, hplain, guardClosers, List.cons_append,
      List.cons_append, List.cons_append, readChars_plain (by decide) (by decide) (by decide),
      hslash, ih]
    rfl
  | case3 c text hne ih =>
    have hguard : guardClosers (quoteChar c ++ text.flatMap quoteChar) =
        quoteChar c ++ guardClosers (text.flatMap quoteChar) := by
      by_cases hc : c = '<'
      · subst hc
        refine guardClosers_cons fun _ => ?_
        cases text with
        | nil => simp
        | cons d text =>
          exact head?_quoteChar (fun hd => hne text rfl (by rw [hd])) _
      · exact guardClosers_append_of_not_mem (not_mem_quoteChar hc) _
    rw [List.flatMap_cons, hguard, List.append_assoc, readChars_quoteChar, ih]
    rfl

theorem guardClosers_writeText (s : String) :
    guardClosers (writeText s) =
      '\x22' :: (guardClosers (s.toList.flatMap quoteChar) ++ ['\x22']) := by
  rw [writeText, List.cons_append, guardClosers_cons fun hc => absurd hc (by decide),
    guardClosers_append_cons (by decide) (by decide)]
  rfl

theorem reads_guarded_text (s : String) : Reads readText (guardClosers (writeText s)) s := by
  intro rest _
  rw [guardClosers_writeText, List.cons_append, List.append_assoc, readText_eq_readChars,
    List.singleton_append, readChars_guarded]
  simp [Except.map]

end Text

section Object

theorem guardClosers_writeItems (xs : List (List Char)) :
    guardClosers (writeItems xs) = writeItems (xs.map guardClosers) := by
  induction xs with
  | nil => rfl
  | cons x xs ih =>
    cases xs with
    | nil => rfl
    | cons y ys =>
      rw [writeItems, guardClosers_append_cons (by decide) (by decide), ih]
      · rfl
      · simp

theorem guardClosers_writeObject {members : List (String × List Char)}
    (h : ∀ name ∈ members.map (·.1), '<' ∉ writeText name) :
    guardClosers (writeObject members) =
      writeObject (members.map fun m => (m.1, guardClosers m.2)) := by
  have hitems : (members.map fun m => writeText m.1 ++ ':' :: m.2).map guardClosers =
      (members.map fun m => (m.1, guardClosers m.2)).map fun m => writeText m.1 ++ ':' :: m.2 := by
    rw [List.map_map, List.map_map]
    apply List.map_congr_left
    intro m hm
    have hname := guardClosers_eq_self (h m.1 (List.mem_map_of_mem hm))
    simp [guardClosers_append_cons, hname]
  unfold writeObject
  rw [List.cons_append, guardClosers_cons fun hc => absurd hc (by decide),
    guardClosers_append_cons (by decide) (by decide), guardClosers_writeItems, hitems]
  rfl

end Object

namespace ElementIds

theorem reads_guarded (ids : ElementIds) :
    Reads ElementIds.shape.read (guardClosers ids.write) ids := by
  rw [ElementIds.write, guardClosers_writeObject (by simp only [List.map]; decide)]
  refine Shape.reads_object (by decide) ?_
  exact .of (reads_guarded_text _) <| .of (reads_guarded_text _) <| .of (reads_guarded_text _) <|
    .of (reads_guarded_text _) <| .of (reads_guarded_text _) .done

end ElementIds

namespace Config

theorem reads_breakStyle (style : BreakStyle) :
    Reads BreakStyle.reader (guardClosers (writeText style.name)) style := by
  have hplain : guardClosers (writeText style.name) = writeText style.name :=
    guardClosers_eq_self (by cases style <;> decide)
  rw [hplain]
  exact reads_variant (by cases style <;> rfl)

theorem reads_guarded_nat {expected : String} {greatest n : Nat} (hn : n ≤ greatest)
    (hg : greatest ≤ maxNatural) :
    Reads (readNat expected greatest) (guardClosers (writeNat n)) n := by
  have hplain : guardClosers (writeNat n) = writeNat n := by
    refine guardClosers_eq_self fun hmem => ?_
    have hdigit := Nat.isDigit_of_mem_toDigits (by decide) (by decide) hmem
    cases hdigit
  rw [hplain]
  exact reads_nat hn hg

variable {c : Config}

theorem reads_guarded (hm : c.maxResults ≤ maxNatural) (hb : c.breakpoint ≤ 4294967295)
    (hy : c.yieldEvery ≤ maxNatural) : Reads Config.shape.read (guardClosers c.write) c := by
  rw [Config.write, guardClosers_writeObject (by simp only [List.map]; decide)]
  refine Shape.reads_object (by decide) ?_
  exact .of (reads_guarded_text _) <| .of (reads_guarded_nat hm (Nat.le_refl _)) <|
    .of (reads_guarded_nat hb (by decide)) <| .of (reads_breakStyle _) <|
    .of (reads_guarded_nat hy (Nat.le_refl _)) <| .of (reads_guarded_text _) <|
    .of (ElementIds.reads_guarded _) .done

theorem violation?_eq_none_iff : c.violation? = none ↔
    (1 ≤ c.maxResults ∧ c.maxResults ≤ maxShown) ∧ 1 ≤ c.yieldEvery ∧ 1 ≤ c.breakpoint := by
  unfold violation?
  grind

/-- A configuration within its limits is read back from its guarded stored form. -/
theorem ofJson_escapeScript (hv : c.violation? = none) (hb : c.breakpoint ≤ 4294967295)
    (hy : c.yieldEvery ≤ maxNatural) : ofJson (escapeScript c.toJson) = .ok c := by
  have hm : c.maxResults ≤ maxNatural :=
    Nat.le_trans (violation?_eq_none_iff.mp hv).1.2 (by decide)
  have hparse := parse_of_reads (reads_guarded hm hb hy)
  rw [escapeScript, toJson, String.toList_ofList]
  simp only [ofJson, hparse, hv]

end Config

end DocPages
