import DocPages.Proofs.Json.Blind

/-! Lists, records and variants do not see the guard either. Their loops are bounded by the length
of the text, which the guard changes, so the two runs have bounds of their own; each is enough. -/

namespace DocPages.Json

section Readers

variable {α : Type}

theorem blind_readText : Blind readText := by
  intro cs
  obtain ⟨es, ds, hes, hds, hsub, hpeel⟩ := peeled_skipBlanks cs
  simp only [readText, hes, hds]
  refine .mono hsub ?_
  cases hpeel with
  | nil => exact .error
  | opener => exact .error
  | @cons c cs hc =>
    by_cases hquote : c = '\x22'
    · subst hquote
      obtain ⟨f, f', hf, hf'⟩ | ⟨text, rest, hrest, hok, hok'⟩ := blind_readChars cs
      · simp [hf, hf']
      · simp only [hok, hok']
        exact .ok (hrest.trans (List.suffix_cons _ cs))
    · simp [hquote]

theorem blind_readNat (expected : String) (greatest : Nat) : Blind (readNat expected greatest) := by
  intro cs
  obtain ⟨es, ds, hes, hds, hsub, hpeel⟩ := peeled_skipBlanks cs
  simp only [readNat, hes, hds]
  refine .mono hsub ?_
  have hread := blind_readNumber es
  rw [← hpeel.eq] at hread
  cases hpeel with
  | nil => exact .error
  | opener => exact .error
  | @cons c cs hc =>
    by_cases hstart : startsNumber c
    · obtain ⟨f, f', hf, hf'⟩ | ⟨number, rest, hrest, hok, hok'⟩ := hread
      · simp [hstart, hf, hf']
      · simp only [hstart, if_true, hok, hok']
        cases number with
        | natural n =>
          by_cases hn : n ≤ greatest
          · simp only [if_pos hn]
            exact .ok hrest
          · simp [hn]
        | negative | real => exact .error
    · simp [hstart]

theorem blind_readNull : Blind readNull := by
  intro cs
  obtain ⟨es, ds, hes, hds, hsub, hpeel⟩ := peeled_skipBlanks cs
  simp only [readNull, hes, hds]
  refine .mono hsub ?_
  cases hpeel with
  | nil => exact .error
  | opener => exact .error
  | @cons c cs hc =>
    by_cases hn : c = 'n'
    · subst hn
      obtain ⟨f, f', hf, hf'⟩ | ⟨rest, hrest, hok, hok'⟩ :=
        passes_readWord (show '<' ∉ ['u', 'l', 'l'] by decide) cs
      · simp [hf, hf']
      · simp only [hok, hok']
        exact .ok (hrest.trans (List.suffix_cons _ cs))
    · simp [hn]

theorem passes_readColon (cs : List Char) :
    Passes cs (readColon cs) (readColon (guardClosers cs)) := by
  obtain ⟨es, ds, hes, hds, hsub, hpeel⟩ := peeled_skipBlanks cs
  simp only [readColon, hes, hds]
  refine .mono hsub ?_
  cases hpeel with
  | nil => exact .error
  | opener => exact .error
  | @cons c cs hc =>
    by_cases hcolon : c = ':'
    · subst hcolon
      exact .ok (List.suffix_cons _ cs)
    · simp [hcolon]

theorem alike_nextElement (first : Bool) (cs : List Char) :
    Alike cs (nextElement first cs) (nextElement first (guardClosers cs)) := by
  obtain ⟨es, ds, hes, hds, hsub, hpeel⟩ := peeled_skipBlanks cs
  simp only [nextElement, hes, hds]
  refine .mono hsub ?_
  cases hpeel with
  | nil => exact .error
  | opener h =>
    cases first with
    | true => exact (Peeled.opener h).alike
    | false => exact .error
  | @cons c cs hc =>
    by_cases hend : c = ']'
    · subst hend
      exact (Peeled.cons cs hc).alike
    · simp only
      split
      · exact (Peeled.cons cs hc).alike
      · split
        · obtain ⟨es, ds, hes, hds, hsub, hpeel⟩ := peeled_skipBlanks cs
          simp only [hes, hds]
          refine .mono (hsub.trans (List.suffix_cons c cs)) ?_
          cases hpeel with
          | nil => exact .error
          | opener h => exact (Peeled.opener h).alike
          | @cons c cs hc =>
            by_cases hend : c = ']'
            · simp [hend]
            · simp only [List.cons.injEq, hend, false_and, imp_self, implies_true]
              exact (Peeled.cons cs hc).alike
        · exact .error

theorem length_lt_of_skipBlanks {c : Char} {cs rest : List Char} (h : skipBlanks cs = c :: rest) :
    rest.length < cs.length := by
  have hle : (skipBlanks cs).length ≤ cs.length := (List.dropWhile_suffix _).length_le
  rw [h, List.length_cons] at hle
  exact hle

/-- Every element but the first takes a comma. -/
theorem length_lt_of_nextElement {first : Bool} {cs rest : List Char}
    (h : nextElement first cs = .ok (true, rest)) : rest.length < cs.length + first.toNat := by
  revert h
  fun_cases nextElement first cs with
  | case3 c rest' _ hskip hfirst =>
    rintro ⟨⟩
    have hlt := length_lt_of_skipBlanks hskip
    rw [hfirst, List.length_cons, Bool.toNat_true]
    omega
  | case6 rest' hfirst _ hskip _ _ =>
    rintro ⟨⟩
    have hlt := length_lt_of_skipBlanks hskip
    have hle : (skipBlanks rest').length ≤ rest'.length := (List.dropWhile_suffix _).length_le
    omega
  | _ => nofun

theorem alike_nextKey (first : Bool) (cs : List Char) :
    Alike cs (nextKey first cs) (nextKey first (guardClosers cs)) := by
  obtain ⟨es, ds, hes, hds, hsub, hpeel⟩ := peeled_skipBlanks cs
  simp only [nextKey, hes, hds]
  refine .mono hsub ?_
  cases hpeel with
  | nil => exact .error
  | opener h => cases first <;> exact .error
  | @cons c cs hc =>
    by_cases hend : c = '\x7d'
    · subst hend
      exact (Peeled.cons cs hc).alike
    · simp only
      split
      · split
        · exact .ok (List.suffix_cons c cs)
        · exact .error
      · split
        · obtain ⟨es, ds, hes, hds, hsub, hpeel⟩ := peeled_skipBlanks cs
          simp only [hes, hds]
          refine .mono (hsub.trans (List.suffix_cons c cs)) ?_
          cases hpeel with
          | nil => exact .error
          | opener h => exact .error
          | @cons c cs hc =>
            by_cases hquote : c = '\x22'
            · subst hquote
              exact .ok (List.suffix_cons _ cs)
            · by_cases hend : c = '\x7d'
              · simp [hend]
              · simp [hquote, hend]
        · exact .error

theorem of_nextElement_false {first : Bool} {cs rest : List Char}
    (h : nextElement first cs = .ok (false, rest)) : ∃ rest', rest = ']' :: rest' := by
  revert h
  fun_cases nextElement first cs with
  | case2 rest' _ =>
    rintro ⟨⟩
    exact ⟨rest', rfl⟩
  | _ => nofun

theorem of_nextKey_false {first : Bool} {cs rest : List Char}
    (h : nextKey first cs = .ok (false, rest)) : ∃ rest', rest = '\x7d' :: rest' := by
  revert h
  fun_cases nextKey first cs with
  | case2 rest' _ =>
    rintro ⟨⟩
    exact ⟨rest', rfl⟩
  | _ => nofun

/-- Every key takes its quote. -/
theorem length_lt_of_nextKey {first : Bool} {cs rest : List Char}
    (h : nextKey first cs = .ok (true, rest)) : rest.length < cs.length := by
  revert h
  fun_cases nextKey first cs with
  | case3 rest' hfirst _ hskip =>
    rintro ⟨⟩
    exact length_lt_of_skipBlanks hskip
  | case6 rest' hfirst _ hskip rest'' hquote =>
    rintro ⟨⟩
    have hlt := length_lt_of_skipBlanks hskip
    have hlt' := length_lt_of_skipBlanks hquote
    omega
  | _ => nofun

end Readers

section Loops

variable {α : Type}

theorem readElements_nil (element : Reader α) (n : Nat) (first : Bool) :
    ∃ f, readElements element n first [] = .error f := by
  cases n <;> exact ⟨_, rfl⟩

/-- The two runs go through the elements side by side. The bounds hold after each of them, as the
next one has to take a comma. -/
theorem alike_readElements {element : Reader α} (helement : Blind element) {n m : Nat}
    {first : Bool} {cs : List Char} (hn : cs.length + first.toNat ≤ n)
    (hm : (guardClosers cs).length + first.toNat ≤ m) :
    Alike cs (readElements element n first cs)
      (readElements element m first (guardClosers cs)) := by
  induction n generalizing m first cs with
  | zero =>
    -- A bound that is used up leaves no text to either run.
    obtain rfl : cs = [] := List.eq_nil_of_length_eq_zero (by omega)
    obtain ⟨f, hf⟩ := readElements_nil element m first
    rw [guardClosers, hf]
    exact .error
  | succ n ih =>
    cases m with
    | zero =>
      have hle := length_le_guardClosers cs
      obtain rfl : cs = [] := List.eq_nil_of_length_eq_zero (by omega)
      exact .error
    | succ m =>
      rw [readElements, readElements]
      obtain ⟨f, f', hf, hf'⟩ | ⟨more, rest, hrest, hnext, hnext'⟩ := alike_nextElement first cs
      · simp [hf, hf']
      · cases more with
        | false =>
          obtain ⟨rest, rfl⟩ := of_nextElement_false hnext
          simp only [hnext, hnext', guardClosers_of_ne (show ']' ≠ '<' by decide), List.tail_cons]
          exact .ok ((List.suffix_cons _ rest).trans hrest)
        | true =>
          have hlt := length_lt_of_nextElement hnext
          have hlt' := length_lt_of_nextElement hnext'
          simp only [hnext, hnext']
          obtain ⟨f, f', hf, hf'⟩ | ⟨x, tail, htail, hx, hx'⟩ := helement rest
          · simp [hf, hf']
          · have hloop : Alike tail (readElements element n false tail)
                (readElements element m false (guardClosers tail)) := by
              have hle := htail.length_le
              have hle' := length_guardClosers_le htail
              apply ih <;> rw [Bool.toNat_false] <;> omega
            simp only [hx, hx']
            obtain ⟨f, f', hf, hf'⟩ | ⟨xs, last, hlast, hxs, hxs'⟩ := hloop
            · simp [hf, hf']
            · simp only [hxs, hxs']
              exact .ok (hlast.trans (htail.trans hrest))

end Loops

section Variant

variable {α : Type}

/-- The object form of a variant. -/
theorem alike_keyed (choose : String → Except Cause α) (cs : List Char) :
    Alike cs (readVariant choose ('\x7b' :: cs))
      (readVariant choose ('\x7b' :: guardClosers cs)) := by
  have hskip (cs : List Char) : skipBlanks ('\x7b' :: cs) = '\x7b' :: cs := rfl
  obtain ⟨es, ds, hes, hds, hsub, hpeel⟩ := peeled_skipBlanks cs
  simp only [readVariant, hskip, hes, hds]
  refine .mono hsub ?_
  cases hpeel with
  | nil => exact .error
  | opener => exact .error
  | @cons c cs hc =>
    by_cases hquote : c = '\x22'
    · subst hquote
      refine .mono (List.suffix_cons _ cs) ?_
      refine (blind_readChars cs).bind fun text rest _ _ _ => ?_
      cases choose (String.ofList text) with
      | error cause => exact .error
      | ok x =>
        refine (passes_readColon rest).bind fun start _ => ?_
        refine (blind_readNull start).bind fun _ tail _ _ _ => ?_
        obtain ⟨es, ds, hes, hds, hsub, hpeel⟩ := peeled_skipBlanks tail
        simp only [hes, hds]
        refine .mono hsub ?_
        cases hpeel with
        | nil => exact .error
        | opener => exact .error
        | @cons c cs hc =>
          by_cases hend : c = '\x7d'
          · subst hend
            exact .ok (List.suffix_cons _ cs)
          · simp [hend]
    · by_cases hend : c = '\x7d'
      · subst hend
        exact .error
      · simp [hquote, hend]

theorem blind_readVariant (choose : String → Except Cause α) : Blind (readVariant choose) := by
  intro cs
  obtain ⟨es, ds, hes, hds, hsub, hpeel⟩ := peeled_skipBlanks cs
  simp only [readVariant, hes, hds]
  refine .mono hsub ?_
  cases hpeel with
  | nil => exact .error
  | opener => exact .error
  | @cons c cs hc =>
    by_cases hquote : c = '\x22'
    · subst hquote
      obtain ⟨f, f', hf, hf'⟩ | ⟨text, rest, hrest, hok, hok'⟩ := blind_readChars cs
      · simp [hf, hf']
      · simp only [hok, hok']
        split
        · exact .ok (hrest.trans (List.suffix_cons _ cs))
        · exact .error
    · by_cases hopen : c = '\x7b'
      · subst hopen
        refine .mono (List.suffix_cons _ cs) ?_
        exact alike_keyed choose cs
      · simp [hquote, hopen]

end Variant

section Record

variable {ρ α : Type}

def Field.Blind (field : Field ρ) : Prop := ∀ r, Json.Blind (field.read r)

theorem Field.blind_of {name : String} {read : Reader α} {set : ρ → α → ρ} (h : Json.Blind read) :
    (Field.of name read set).Blind := by
  intro r cs
  obtain ⟨f, f', hf, hf'⟩ | ⟨x, rest, hrest, hx, hx'⟩ := h cs
  · simp [Field.of, hf, hf']
  · simp only [Field.of, hx, hx']
    exact .ok hrest

namespace Shape

variable {shape : Shape ρ}

theorem readMembers_nil (shape : Shape ρ) (n : Nat) (first : Bool) (seen : List String) (r : ρ) :
    ∃ f, shape.readMembers n first seen r [] = .error f := by
  cases n <;> exact ⟨_, rfl⟩

theorem alike_readMembers (hfields : ∀ field ∈ shape.fields, field.Blind) {n m : Nat}
    {first : Bool} {seen : List String} {r : ρ} {cs : List Char} (hn : cs.length ≤ n)
    (hm : (guardClosers cs).length ≤ m) :
    Alike cs (shape.readMembers n first seen r cs)
      (shape.readMembers m first seen r (guardClosers cs)) := by
  induction n generalizing m first seen r cs with
  | zero =>
    obtain rfl : cs = [] := List.eq_nil_of_length_eq_zero (by omega)
    obtain ⟨f, hf⟩ := readMembers_nil shape m first seen r
    rw [guardClosers, hf]
    exact .error
  | succ n ih =>
    cases m with
    | zero =>
      have hle := length_le_guardClosers cs
      obtain rfl : cs = [] := List.eq_nil_of_length_eq_zero (by omega)
      exact .error
    | succ m =>
      rw [readMembers, readMembers]
      obtain ⟨f, f', hf, hf'⟩ | ⟨more, rest, hrest, hnext, hnext'⟩ := alike_nextKey first cs
      · simp [hf, hf']
      · cases more with
        | false =>
          simp only [hnext, hnext']
          split
          · exact .error
          · exact .ok hrest
        | true =>
          have hlt := length_lt_of_nextKey hnext
          have hlt' := length_lt_of_nextKey hnext'
          simp only [hnext, hnext']
          -- What stands behind a key is read with bounds that are one smaller.
          have hloop {seen : List String} {r : ρ} {tail : List Char} (htail : tail <:+ rest) :
              Alike cs (shape.readMembers n false seen r tail)
                (shape.readMembers m false seen r (guardClosers tail)) := by
            have hle := htail.length_le
            have hle' := length_guardClosers_le htail
            exact (ih (by omega) (by omega)).mono (htail.trans hrest)
          obtain ⟨f, f', hf, hf'⟩ | ⟨key, behind, hbehind, hkey, hkey'⟩ := blind_readChars rest
          · simp [hf, hf']
          · simp only [hkey, hkey']
            split
            -- No field has this key: the value is skipped, and the record stays as it is.
            · obtain ⟨f, f', hf, hf'⟩ | ⟨start, hstart, hcolon, hcolon'⟩ := passes_readColon behind
              · simp [hf, hf']
              · simp only [hcolon, hcolon']
                obtain ⟨f, f', hf, hf'⟩ | ⟨tail, htail, hskip, hskip'⟩ := passes_skipValue start
                · simp [hf, hf']
                · simp only [hskip, hskip']
                  exact hloop (htail.trans (hstart.trans hbehind))
            · rename_i field hfield
              split
              · exact .error
              · obtain ⟨f, f', hf, hf'⟩ | ⟨start, hstart, hcolon, hcolon'⟩ :=
                  passes_readColon behind
                · simp [hf, hf']
                · simp only [hcolon, hcolon']
                  obtain ⟨f, f', hf, hf'⟩ | ⟨x, tail, htail, hread, hread'⟩ :=
                    hfields field (List.mem_of_find?_eq_some hfield) r start
                  · simp [hf, hf']
                  · simp only [hread, hread']
                    exact hloop (htail.trans (hstart.trans hbehind))

theorem alike_readPositional (shape : Shape ρ) {fields : List (Field ρ)}
    (hfields : ∀ field ∈ fields, field.Blind) (n : Nat) (r : ρ) (cs : List Char) :
    Alike cs (shape.readPositional n r cs fields)
      (shape.readPositional n r (guardClosers cs) fields) := by
  induction fields generalizing n r cs with
  | nil => exact .ok (List.suffix_refl cs)
  | cons field fields ih =>
    rw [List.forall_mem_cons] at hfields
    rw [readPositional, readPositional]
    obtain ⟨f, f', hf, hf'⟩ | ⟨more, rest, hrest, hnext, hnext'⟩ := alike_nextElement (n == 0) cs
    · simp [hf, hf']
    · cases more with
      | false =>
        simp only [hnext, hnext']
        split
        · exact .error
        · exact .ok hrest
      | true =>
        simp only [hnext, hnext']
        obtain ⟨f, f', hf, hf'⟩ | ⟨x, tail, htail, hread, hread'⟩ := hfields.1 r rest
        · simp [hf, hf']
        · simp only [hread, hread']
          exact (ih hfields.2 (n + 1) x tail).mono (htail.trans hrest)

/-- The end of a record is found in both texts or in none. -/
def Closed (cs : List Char) (x y : List Char × Option Fault) : Prop :=
  (x.2.isSome ∧ y.2.isSome) ∨ ∃ rest, rest <:+ cs ∧ x = (rest, none) ∧ y = (guardClosers rest, none)

theorem Closed.mono {cs es : List Char} {x y : List Char × Option Fault} (hsub : es <:+ cs)
    (h : Closed es x y) : Closed cs x y := by
  obtain hfault | ⟨rest, hrest, hx, hy⟩ := h
  · exact .inl hfault
  · exact .inr ⟨rest, hrest.trans hsub, hx, hy⟩

theorem closed_closeObject (cs : List Char) :
    Closed cs (closeObject cs) (closeObject (guardClosers cs)) := by
  obtain ⟨es, ds, hes, hds, hsub, hpeel⟩ := peeled_skipBlanks cs
  simp only [closeObject, hes, hds]
  refine .mono hsub ?_
  cases hpeel with
  | nil => exact .inl ⟨rfl, rfl⟩
  | opener => exact .inl ⟨rfl, rfl⟩
  | @cons c cs hc =>
    by_cases hend : c = '\x7d'
    · subst hend
      exact .inr ⟨cs, List.suffix_cons _ cs, rfl, rfl⟩
    · by_cases hcomma : c = ','
      · subst hcomma
        exact .inl ⟨rfl, rfl⟩
      · simp [Closed, hend, hcomma]

theorem closed_closeList (cs : List Char) :
    Closed cs (closeList cs) (closeList (guardClosers cs)) := by
  have hcomma (cs : List Char) : (closeList (',' :: cs)).2.isSome := by
    have hskip : skipBlanks (',' :: cs) = ',' :: cs := rfl
    simp only [closeList, hskip]
    split <;> rfl
  obtain ⟨es, ds, hes, hds, hsub, hpeel⟩ := peeled_skipBlanks cs
  simp only [closeList, hes, hds]
  refine .mono hsub ?_
  cases hpeel with
  | nil => exact .inl ⟨rfl, rfl⟩
  | opener => exact .inl ⟨rfl, rfl⟩
  | @cons c cs hc =>
    by_cases hend : c = ']'
    · subst hend
      exact .inr ⟨cs, List.suffix_cons _ cs, rfl, rfl⟩
    · by_cases hc : c = ','
      · subst hc
        exact .inl ⟨hcomma cs, hcomma _⟩
      · simp [Closed, hend, hc]

theorem alike_finish {close : List Char → List Char × Option Fault}
    (hclose : ∀ cs, Closed cs (close cs) (close (guardClosers cs))) {cs : List Char}
    {x y : Except Issue (ρ × List Char)} (h : Alike cs x y) :
    Alike cs (finish close x) (finish close y) := by
  obtain ⟨e, e', rfl, rfl⟩ | ⟨r, rest, hrest, rfl, rfl⟩ := h
  · cases e <;> cases e' <;> exact .error
  · rw [finish, finish]
    obtain ⟨hfault, hfault'⟩ | ⟨tail, htail, hend, hend'⟩ := hclose rest
    · obtain ⟨f, hf⟩ := Option.isSome_iff_exists.mp hfault
      obtain ⟨f', hf'⟩ := Option.isSome_iff_exists.mp hfault'
      rw [← Prod.eta (close rest), ← Prod.eta (close (guardClosers rest)), hf, hf']
      exact .error
    · rw [hend, hend']
      exact .ok (htail.trans hrest)

theorem blind_read (hfields : ∀ field ∈ shape.fields, field.Blind) :
    Blind shape.read := by
  intro cs
  obtain ⟨es, ds, hes, hds, hsub, hpeel⟩ := peeled_skipBlanks cs
  simp only [read, hes, hds]
  refine .mono hsub ?_
  cases hpeel with
  | nil => exact .error
  | opener => exact .error
  | @cons c cs hc =>
    by_cases hobject : c = '\x7b'
    · subst hobject
      have hmembers : Alike cs (shape.readMembers (cs.length + 1) true [] shape.blank cs)
          (shape.readMembers ((guardClosers cs).length + 1) true [] shape.blank
            (guardClosers cs)) :=
        alike_readMembers hfields (Nat.le_succ _) (Nat.le_succ _)
      exact (alike_finish closed_closeObject hmembers).mono (List.suffix_cons _ cs)
    · by_cases hlist : c = '['
      · subst hlist
        have hmembers := alike_readPositional shape hfields 0 shape.blank cs
        exact (alike_finish closed_closeList hmembers).mono (List.suffix_cons _ cs)
      · simp [hobject, hlist]

end Shape

end Record

end DocPages.Json
