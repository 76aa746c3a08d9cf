import DocPages.Proofs.Json.Compound

/-! Values of any shape. They are read with the steps that the readers for records take, down to a
given depth of brackets, and what they are does not depend on the guard either. -/

namespace DocPages.Json

/-- An object has its members in the order of the text, also those that repeat a key. -/
inductive Value where
  | null
  | boolean (b : Bool)
  | number (n : Number)
  | text (s : String)
  | list (items : List Value)
  | object (members : List (String × Value))
  deriving Repr

/-- A value without brackets. -/
def readScalar : Reader Value := fun cs =>
  match skipBlanks cs with
  | [] => .error (.next .eofValue [])
  | 'n' :: rest => do return (.null, ← readWord ['u', 'l', 'l'] rest)
  | 't' :: rest => do return (.boolean true, ← readWord ['r', 'u', 'e'] rest)
  | 'f' :: rest => do return (.boolean false, ← readWord ['a', 'l', 's', 'e'] rest)
  | '\x22' :: rest => do
    let (text, rest) ← readChars rest
    return (.text (String.ofList text), rest)
  | c :: rest =>
    if startsNumber c then do
      let (n, rest) ← readNumber (c :: rest)
      return (.number n, rest)
    else .error (.next .expectedValue (c :: rest))

/-- The members of an object and its closing bracket. Every member takes characters, so the length
of the input bounds their number. -/
def readPairs {α : Type} (value : Reader α) : Nat → Bool → Reader (List (String × α))
  | 0, _, cs => .error (.next .eofObject cs)
  | fuel + 1, first, cs => do
    match ← nextKey first cs with
    | (false, cs) => return ([], cs.tail)
    | (true, cs) =>
      let (key, cs) ← readChars cs
      let cs ← readColon cs
      let (x, cs) ← value cs
      let (members, cs) ← readPairs value fuel false cs
      return ((String.ofList key, x) :: members, cs)

/-- A value whose brackets are nested no deeper than the given number. -/
def readValue : Nat → Reader Value
  | 0, cs => readScalar cs
  | depth + 1, cs =>
    match skipBlanks cs with
    | '[' :: rest => do
      let (items, rest) ← readElements (readValue depth) (rest.length + 1) true rest
      return (.list items, rest)
    | '\x7b' :: rest => do
      let (members, rest) ← readPairs (readValue depth) (rest.length + 1) true rest
      return (.object members, rest)
    | cs => readScalar cs

example : (parse (readValue 2) "\x7b\"a\":[1,null],\"b\":\"<\\/\"\x7d").toOption =
    some (.object [("a", .list [.number (.natural 1), .null]), ("b", .text "</")]) := rfl

theorem blind_readScalar : Blind readScalar := by
  intro cs
  obtain ⟨es, ds, hes, hds, hsub, hpeel⟩ := peeled_skipBlanks cs
  simp only [readScalar, hes, hds]
  refine .mono hsub ?_
  have hnumber := blind_readNumber es
  rw [← hpeel.eq] at hnumber
  have hword {letters : List Char} (v : Value) (h : '<' ∉ letters) (c : Char) (cs : List Char) :
      Alike (c :: cs) (do return (v, ← readWord letters cs))
        (do return (v, ← readWord letters (guardClosers cs)) : Except Fault (Value × List Char)) :=
    ((passes_readWord h cs).bind fun rest _ => Alike.ok (List.suffix_refl rest)).mono
      (List.suffix_cons c cs)
  cases hpeel with
  | nil => exact .error
  | opener => exact .error
  | @cons c cs hc =>
    by_cases hn : c = 'n'
    · subst hn
      exact hword .null (by decide) _ cs
    by_cases ht : c = 't'
    · subst ht
      exact hword (.boolean true) (by decide) _ cs
    by_cases hf : c = 'f'
    · subst hf
      exact hword (.boolean false) (by decide) _ cs
    by_cases hquote : c = '\x22'
    · subst hquote
      exact ((blind_readChars cs).map fun text => Value.text (String.ofList text)).mono
        (List.suffix_cons _ cs)
    simp only
    split
    · exact hnumber.map Value.number
    · exact .error

theorem readPairs_nil {α : Type} (value : Reader α) (n : Nat) (first : Bool) :
    ∃ f, readPairs value n first [] = .error f := by
  cases n <;> exact ⟨_, rfl⟩

theorem alike_readPairs {α : Type} {value : Reader α} (hvalue : Blind value) {n m : Nat}
    {first : Bool} {cs : List Char} (hn : cs.length ≤ n) (hm : (guardClosers cs).length ≤ m) :
    Alike cs (readPairs value n first cs) (readPairs value m first (guardClosers cs)) := by
  induction n generalizing m first cs with
  | zero =>
    obtain rfl : cs = [] := List.eq_nil_of_length_eq_zero (by omega)
    obtain ⟨f, hf⟩ := readPairs_nil value m first
    rw [guardClosers, hf]
    exact .error
  | succ n ih =>
    cases m with
    | zero =>
      have hle := length_le_guardClosers cs
      obtain rfl : cs = [] := List.eq_nil_of_length_eq_zero (by omega)
      exact .error
    | succ m =>
      rw [readPairs, readPairs]
      refine (alike_nextKey first cs).bind fun more rest _ hnext hnext' => ?_
      cases more with
      | false =>
        obtain ⟨rest, rfl⟩ := of_nextKey_false hnext
        rw [guardClosers_of_ne (by decide)]
        exact .ok (List.suffix_cons _ rest)
      | true =>
        have hlt := length_lt_of_nextKey hnext
        have hlt' := length_lt_of_nextKey hnext'
        refine (blind_readChars rest).bind fun key behind hbehind _ _ => ?_
        refine (passes_readColon behind).bind fun start hstart => ?_
        refine (hvalue start).bind fun x tail htail _ _ => ?_
        have hsub := htail.trans (hstart.trans hbehind)
        have hle := hsub.length_le
        have hle' := length_guardClosers_le hsub
        have hloop : Alike tail (readPairs value n false tail)
            (readPairs value m false (guardClosers tail)) := ih (by omega) (by omega)
        exact hloop.map fun members => (String.ofList key, x) :: members

theorem blind_readValue (depth : Nat) : Blind (readValue depth) := by
  induction depth with
  | zero => exact blind_readScalar
  | succ depth ih =>
    intro cs
    have hscalar := blind_readScalar (skipBlanks cs)
    rw [← skipBlanks_guardClosers] at hscalar
    obtain ⟨es, ds, hes, hds, hsub, hpeel⟩ := peeled_skipBlanks cs
    rw [hes, hds] at hscalar
    rw [readValue, readValue, hes, hds]
    refine .mono hsub ?_
    cases hpeel with
    | nil => exact .error
    | opener => exact .error
    | @cons c cs hc =>
      by_cases hlist : c = '['
      · subst hlist
        have hitems : Alike cs (readElements (readValue depth) (cs.length + 1) true cs)
            (readElements (readValue depth) ((guardClosers cs).length + 1) true
              (guardClosers cs)) :=
          alike_readElements ih (Nat.le_refl _) (Nat.le_refl _)
        exact (hitems.map Value.list).mono (List.suffix_cons _ cs)
      by_cases hobject : c = '\x7b'
      · subst hobject
        have hmembers : Alike cs (readPairs (readValue depth) (cs.length + 1) true cs)
            (readPairs (readValue depth) ((guardClosers cs).length + 1) true (guardClosers cs)) :=
          alike_readPairs ih (Nat.le_succ _) (Nat.le_succ _)
        exact (hmembers.map Value.object).mono (List.suffix_cons _ cs)
      simpa [hlist, hobject] using hscalar

end DocPages.Json
