import DocPages.Text.Table.Conjuncts
import DocPages.Text.Table.Marks
import DocPages.Text.Table.Pictographs
import DocPages.Text.Table.Unseen

/-! User-perceived characters: where one cluster of characters ends and the next begins. -/

namespace DocPages

/-- What a character does at a cluster boundary. -/
inductive Joining where
  | returns
  | newline
  | control
  /-- It extends the character in front. -/
  | mark
  /-- A mark that also links two consonants. -/
  | linker
  /-- It extends the character in front and keeps consonants apart. -/
  | nonJoiner
  | joiner
  | spacing
  | prepended
  | regional
  | pictograph
  | consonant
  | lead
  | vowel
  | trail
  | leadVowel
  | leadVowelTrail
  | other
  deriving DecidableEq, Repr

namespace Joining

def leads : List CodeRange := [(0x1100, 0x115f), (0xa960, 0xa97c)]

def vowels : List CodeRange :=
  [(0x1160, 0x11a7), (0xd7b0, 0xd7c6), (0x16d63, 0x16d63), (0x16d67, 0x16d6a)]

def trails : List CodeRange := [(0x11a8, 0x11ff), (0xd7cb, 0xd7fb)]

/-- A syllable without a trailing consonant is the first of each twenty-eight. -/
def ofSyllable (n : Nat) : Joining := if (n - 0xac00) % 28 = 0 then leadVowel else leadVowelTrail

def ofChar (c : Char) : Joining :=
  let n := c.toNat
  if n = 0x0d then returns
  else if n = 0x0a then newline
  else if n = 0x200c then nonJoiner
  else if n = 0x200d then joiner
  else if CodeRange.anyContains Table.controls c then control
  else if n < 0x80 then other
  else if Table.linkers.contains n then linker
  else if [Table.marks, Table.extendingMarks, Table.extenders].any
      fun ranges => CodeRange.anyContains ranges c then mark
  else if CodeRange.anyContains Table.spacingMarks c then spacing
  else if CodeRange.anyContains Table.prepended c then prepended
  else if CodeRange.anyContains Table.consonants c then consonant
  else if CodeRange.anyContains leads c then lead
  else if CodeRange.anyContains vowels c then vowel
  else if CodeRange.anyContains trails c then trail
  else if 0xac00 ≤ n && n ≤ 0xd7a3 then ofSyllable n
  else if 0x1f1e6 ≤ n && n ≤ 0x1f1ff then regional
  else if CodeRange.anyContains Table.pictographs c then pictograph
  else other

/-- Extends the character in front, whatever that is. -/
def isExtender (j : Joining) : Bool := j == mark || j == linker || j == nonJoiner

/-- Where a cluster stands in a conjunct: after a consonant and marks, with or without a linker
among them, or at neither. -/
inductive Conjunct where
  | none
  | consonant
  | linked
  deriving DecidableEq, Repr

def Conjunct.push (x : Conjunct) : Joining → Conjunct
  | .consonant => .consonant
  | .linker => if x = .none then .none else .linked
  | .mark | .joiner => x
  | _ => .none

/-- What has been read of the current cluster: its last character, whether an odd number of
regional indicators ends it, whether it is a pictograph with marks only behind it, or such
a pictograph and a joiner, and the conjunct at its end. -/
structure Context where
  last : Joining
  oddRegional : Bool
  picture : Bool
  pictureJoiner : Bool
  conjunct : Conjunct

def Context.push (x : Context) (j : Joining) : Context where
  last := j
  oddRegional := j == regional && !x.oddRegional
  picture := j == pictograph || x.picture && j.isExtender
  pictureJoiner := x.picture && j == joiner
  conjunct := x.conjunct.push j

/-- The context after the first character of a cluster. -/
def Context.start (j : Joining) : Context := push ⟨other, false, false, false, .none⟩ j

/-- Whether a character continues the cluster read so far. -/
def joins (x : Context) (j : Joining) : Bool :=
  match x.last, j with
  | returns, newline => true
  | returns, _ | newline, _ | control, _ => false
  | _, returns | _, newline | _, control => false
  | lead, lead | lead, vowel | lead, leadVowel | lead, leadVowelTrail => true
  | leadVowel, vowel | leadVowel, trail | vowel, vowel | vowel, trail => true
  | leadVowelTrail, trail | trail, trail => true
  | _, mark | _, linker | _, nonJoiner | _, joiner | _, spacing => true
  | prepended, _ => true
  | _, consonant => x.conjunct == .linked
  | joiner, pictograph => x.pictureJoiner
  | regional, regional => x.oddRegional
  | _, _ => false

end Joining

def clusterHeadsFrom (x : Joining.Context) : List Char → List Char
  | [] => []
  | c :: cs =>
    let j := Joining.ofChar c
    if Joining.joins x j then clusterHeadsFrom (x.push j) cs
    else c :: clusterHeadsFrom (.start j) cs

/-- The first character of every cluster. -/
def clusterHeads : List Char → List Char
  | [] => []
  | c :: cs => c :: clusterHeadsFrom (.start (Joining.ofChar c)) cs

end DocPages
