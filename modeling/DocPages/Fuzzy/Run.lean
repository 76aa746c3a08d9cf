import DocPages.Fuzzy.Slot

/-! Scoring a run of slots from left to right, without choosing between places. -/

namespace DocPages.Fuzzy

def charScore : Nat := 16

def gapStart : Nat := 3

def gapExtension : Nat := 1

/-- A matched run is worth at least this much for each further character. -/
def runBonus : Nat := 4

def boundaryBonus : Nat := 8

/-- Scores are sixteen bits wide and start again from zero. -/
def scoreRange : Nat := 65536

/-- What has been collected so far. `lead` is the bonus that the current run carries on and
`wanted` starts with the needle character to be found next; the last one stays. -/
structure Tally where
  score : Nat
  lead : Nat
  inGap : Bool
  wanted : List Char
  positions : List Nat

namespace Tally

def advance : List Char → List Char
  | [] => []
  | [c] => [c]
  | _ :: cs => cs

def start (needle : List Char) (s : Slot) : Tally :=
  ⟨charScore + 2 * s.bonus, s.bonus, false, advance needle, [s.pos]⟩

def lead' (t : Tally) (b : Nat) : Nat :=
  if t.inGap then b else if boundaryBonus ≤ b && t.lead < b then b else t.lead

def step (t : Tally) (s : Slot) : Tally :=
  if t.wanted.head? == some s.narrow then
    let lead := t.lead' s.bonus
    let gain := if t.inGap then s.bonus else max s.bonus (max lead runBonus)
    ⟨(t.score + charScore + gain) % scoreRange, lead, false, advance t.wanted,
      s.pos :: t.positions⟩
  else
    ⟨t.score - (if t.inGap then gapExtension else gapStart), t.lead, true, t.wanted, t.positions⟩

end Tally

/-- The score of a run whose first slot matches. -/
def scoreRun (needle : List Char) : List Slot → Option Hit
  | [] => none
  | s :: rest =>
    let t := rest.foldl Tally.step (Tally.start needle s)
    some ⟨t.score, t.positions.reverse⟩

/-- A run that has to be the needle itself. -/
def exactRun (a : Atom) (run : List Slot) : Option Hit :=
  if run.map (·.wide) = a.target then scoreRun a.needle run else none

end DocPages.Fuzzy
