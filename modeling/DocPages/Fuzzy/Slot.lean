import DocPages.Fuzzy.CharClass
import DocPages.Fuzzy.Query

/-! A name as one atom sees it. -/

namespace DocPages.Fuzzy

/-- One character of a name. Two folded forms are kept: the wide one is used to search, the
narrow one to score. They differ for few characters, such as the final sigma. -/
structure Slot where
  pos : Nat
  wide : Char
  narrow : Char
  /-- Class of the character in front. -/
  before : CharClass
  here : CharClass
  deriving DecidableEq, Repr

namespace Slot

def bonus (s : Slot) : Nat := s.before.bonus s.here

def wideForm (plain : Bool) (c : Char) : Char := foldChar (if plain then plainChar c else c)

def narrowForm (plain : Bool) (c : Char) : Char :=
  if isAscii c then foldChar c
  else if plain then foldChar (plainChar c)
  else if CharClass.ofChar c = .upper then foldChar c
  else c

def ofChar (plain : Bool) (pos : Nat) (before : CharClass) (c : Char) : Slot :=
  ⟨pos, wideForm plain c, narrowForm plain c, before, CharClass.ofChar c⟩

def ofChars (plain : Bool) (pos : Nat) (before : CharClass) : List Char → List Slot
  | [] => []
  | c :: cs =>
    let s := ofChar plain pos before c
    s :: ofChars plain (pos + 1) s.here cs

end Slot

/-- The slots of a name; a name begins as if white space stood in front of it. -/
def slots (plain : Bool) (name : List Char) : List Slot := Slot.ofChars plain 0 .whitespace name

/-- An atom's match: how good it is and where. -/
structure Hit where
  score : Nat
  positions : List Nat
  deriving DecidableEq, Repr

end DocPages.Fuzzy
