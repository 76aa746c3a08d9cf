import DocPages.Text.Cluster
import DocPages.Text.Fold

/-! A query is a sequence of atoms, all of which have to match. -/

namespace DocPages.Fuzzy

structure Atom where
  needle : List Char
  /-- Names are read in their plain form: the needle itself has no modified letter. -/
  plain : Bool
  /-- The atom was typed with a character outside ASCII. -/
  wide : Bool
  deriving DecidableEq, Repr

/-- Cuts at every space that does not directly follow a backslash. -/
def splitWords (prev : Option Char) : List Char → List (List Char)
  | [] => [[]]
  | c :: cs =>
    let rest := splitWords (some c) cs
    if c = ' ' && prev != some '\x5c' then [] :: rest
    else (c :: rest.headD []) :: rest.tail

/-- Drops the backslash of an escaped space. -/
def unescapeSpaces : List Char → List Char
  | [] => []
  | '\x5c' :: ' ' :: cs => ' ' :: unescapeSpaces cs
  | c :: cs => c :: unescapeSpaces cs

/-- Folds the case of a piece with a character outside ASCII. A backslash is doubled unless a
space follows, and then it stays. -/
def foldWide (afterBackslash : Bool) : List Char → List Char
  | [] => []
  | c :: cs =>
    if afterBackslash && c = ' ' then ' ' :: foldWide false cs
    else if afterBackslash then '\x5c' :: foldChar c :: foldWide (c = '\x5c') cs
    else foldChar c :: foldWide (c = '\x5c') cs

namespace Atom

def ofPiece (piece : List Char) : Atom :=
  if piece.all isAscii then ⟨(unescapeSpaces piece).map Char.toLower, true, false⟩
  else
    let needle := foldWide false (clusterHeads piece)
    ⟨needle, needle.all fun c => plainChar c == c, true⟩

/-- The characters that a needle stands for when it is compared with a whole run of a name. -/
def target (a : Atom) : List Char :=
  if a.wide then a.needle.map fun c => foldChar (if a.plain then plainChar c else c)
  else a.needle.map foldChar

end Atom

/-- The atoms of a query; pieces without a character give none. -/
def parseQuery (query : String) : List Atom :=
  ((splitWords none query.toList).map Atom.ofPiece).filter fun a => !a.needle.isEmpty

end DocPages.Fuzzy
