import DocPages.Fuzzy.Run

/-! The best placement of a needle in a window of slots, by rows: one row for each character of
the needle, one cell for each slot. -/

namespace DocPages.Fuzzy

/-- The best placement that ends in a slot. `lead` is the bonus its last run carries on, and
`path` holds the places, last first. -/
structure Cell where
  score : Nat
  lead : Nat
  path : List Nat

/-- The best placement that ends somewhere in front of a slot, less the cost of the gap. -/
structure Carry where
  score : Nat
  path : List Nat

namespace Cell

def first (c : Char) (s : Slot) : Option Cell :=
  if s.narrow = c then some ⟨charScore + 2 * s.bonus, s.bonus, [s.pos]⟩ else none

def afterGap (p : Carry) (s : Slot) : Cell :=
  ⟨p.score + s.bonus + charScore, s.bonus, s.pos :: p.path⟩

def runLead (m : Cell) (b : Nat) : Nat :=
  if boundaryBonus ≤ b && max m.lead runBonus < b then b else max m.lead runBonus

def inRun (m : Cell) (s : Slot) : Cell :=
  let lead := m.runLead s.bonus
  ⟨m.score + max lead s.bonus + charScore, lead, s.pos :: m.path⟩

/-- Continues in slot `s` from the slot directly in front or over a gap; a tie goes to the gap. -/
def extend (m : Option Cell) (p : Option Carry) (s : Slot) : Option Cell :=
  match m, p with
  | none, none => none
  | none, some p => some (afterGap p s)
  | some m, none => some (inRun m s)
  | some m, some p =>
    if (afterGap p s).score < (inRun m s).score then some (inRun m s) else some (afterGap p s)

end Cell

namespace Carry

/-- Moves one slot on; a tie goes to the older placement. -/
def next (m : Option Cell) (p : Option Carry) : Option Carry :=
  match m, p with
  | none, none => none
  | none, some p => some ⟨p.score - gapExtension, p.path⟩
  | some m, none => some ⟨m.score - gapStart, m.path⟩
  | some m, some p =>
    if p.score - gapExtension < m.score - gapStart then some ⟨m.score - gapStart, m.path⟩
    else some ⟨p.score - gapExtension, p.path⟩

end Carry

def firstRow (c : Char) (window : List Slot) : List (Option Cell) := window.map (Cell.first c)

/-- The row of needle character `c` under the row above; `m` and `p` belong to the slot in front. -/
def nextRow (c : Char) (m : Option Cell) (p : Option Carry) :
    List Slot → List (Option Cell) → List (Option Cell)
  | s :: window, above :: row =>
    (if s.narrow = c then Cell.extend m p s else none) ::
      nextRow c above (Carry.next m p) window row
  | _, _ => []

def lastRow (window : List Slot) (row : List (Option Cell)) : List Char → List (Option Cell)
  | [] => row
  | c :: cs => lastRow window (nextRow c none none window row) cs

/-- The cell with the greatest score; of equals the last. -/
def bestCell (row : List (Option Cell)) : Option Cell :=
  row.reduceOption.foldl
    (fun best cell => match best with
      | none => some cell
      | some b => if b.score ≤ cell.score then some cell else some b) none

def bestPlacement (needle : List Char) (window : List Slot) : Option Hit :=
  match needle with
  | [] => none
  | c :: cs =>
    (bestCell (lastRow window (firstRow c window) cs)).map fun cell =>
      ⟨cell.score, cell.path.reverse⟩

/-- Whether the rows are worth their space. `size` is the number of bytes that a window's
characters, bonuses and cells take, four bytes a character in a name outside ASCII. -/
def rowsFit (asciiName : Bool) (width rows : Nat) : Bool :=
  let roundUp (n k : Nat) := (n + k - 1) / k * k
  let cells := width + 1 - rows
  let size := roundUp (roundUp (width * (if asciiName then 1 else 4) + width) 2 + 2 * rows) 8
    + 8 * cells + cells * rows
  width * rows ≤ 102400 && width ≤ 65535 && rows ≤ 2048 && size ≤ 133120

end DocPages.Fuzzy
