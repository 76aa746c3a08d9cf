import DocPages.Fuzzy.Table

/-! Matching an atom and a query against a name. -/

namespace DocPages.Fuzzy

/-- The shortest start of `run` that holds the needle, and what follows it. -/
def shortestStart : List Char → List Slot → Option (List Slot × List Slot)
  | [], run => some ([], run)
  | _ :: _, [] => none
  | c :: cs, s :: run =>
    (shortestStart (if s.wide = c then cs else c :: cs) run).map fun (taken, rest) =>
      (s :: taken, rest)

/-- Drops what follows the last slot that holds `c`. -/
def cutAfterLast (c : Char) (run : List Slot) : List Slot :=
  (run.reverse.dropWhile fun s => s.wide != c).reverse

/-- One placement, found in two scans: the shortest start that holds the needle, and of that the
shortest end. -/
def quickPlacement (needle : List Char) (run : List Slot) : Option Hit := do
  let (start, _) ← shortestStart needle run
  let (tight, _) ← shortestStart needle.reverse start.reverse
  scoreRun needle tight.reverse

def placement (asciiName : Bool) (needle : List Char) (window : List Slot) : Option Hit :=
  if rowsFit asciiName window.length needle.length then bestPlacement needle window
  else quickPlacement needle window

namespace Atom

/-- One character: the place with the greatest bonus, of equals the first. -/
def matchSingleAscii (c : Char) (name : List Slot) : Option Hit :=
  (name.filter fun s => s.wide == c).foldl
    (fun best s => match best with
      | none => some ⟨charScore + 2 * s.bonus, [s.pos]⟩
      | some b =>
        if b.score < charScore + 2 * s.bonus then some ⟨charScore + 2 * s.bonus, [s.pos]⟩
        else some b) none

/-- One character in a name outside ASCII: the bonus counts from the last place found instead of
the character in front. -/
def matchSingleWide (c : Char) (name : List Slot) : Option Hit :=
  match name.dropWhile fun s => s.wide != c with
  | [] => none
  | s :: rest =>
    let best := ((s :: rest).filter fun s => s.narrow == c).foldl
      (fun (best : Hit × CharClass) s =>
        let score := charScore + 2 * best.2.bonus s.here
        (if best.1.score < score then ⟨score, [s.pos]⟩ else best.1, s.here))
      (⟨0, [s.pos]⟩, s.before)
    some best.1

def matchManyAscii (needle : List Char) (last : Char) (name : List Slot) : Option Hit := do
  let run := name.dropWhile fun s => some s.wide != needle.head?
  let (start, rest) ← shortestStart needle run
  let window := start ++ cutAfterLast last rest
  if window.length = needle.length then scoreRun needle window else placement true needle window

def matchManyWide (a : Atom) (last : Char) (name : List Slot) : Option Hit :=
  match name.dropWhile fun s => some s.wide != a.needle.head? with
  | [] => none
  | s :: rest =>
    let window := s :: cutAfterLast last rest
    if window.length < a.needle.length then none
    else if window.length = a.needle.length then exactRun a window
    else placement false a.needle window

/-- The match of an atom in a name whose characters are all ASCII. -/
def matchAscii (a : Atom) (name : List Slot) : Option Hit :=
  if a.wide || name.length < a.needle.length then none
  else if name.length = a.needle.length then exactRun a name
  else match a.needle, a.needle.getLast? with
    | [c], _ => matchSingleAscii c name
    | needle, some last => matchManyAscii needle last name
    | _, none => none

/-- The match of an atom in any name, character by character. -/
def matchWide (a : Atom) (name : List Slot) : Option Hit :=
  if name.length < a.needle.length then none
  else if name.length = a.needle.length then exactRun a name
  else match a.needle, a.needle.getLast? with
    | [c], _ => matchSingleWide c name
    | _, some last => matchManyWide a last name
    | _, none => none

def hit? (a : Atom) (name : String) : Option Hit :=
  if name.toList.all isAscii then a.matchAscii (slots a.plain name.toList)
  else a.matchWide (slots a.plain name.toList)

end Atom

/-- One hit for each atom, or nothing if an atom does not match. -/
def hits? (name : String) : List Atom → Option (List Hit)
  | [] => some []
  | a :: atoms =>
    match a.hit? name, hits? name atoms with
    | some hit, some hits => some (hit :: hits)
    | _, _ => none

def totalScore : List Hit → Nat
  | [] => 0
  | hit :: hits => hit.score + totalScore hits

def baseScore? (atoms : List Atom) (name : String) : Option Nat :=
  (hits? name atoms).map totalScore

/-- Keeps one of equal neighbours. -/
def dropRepeats : List Nat → List Nat
  | [] => []
  | n :: ns =>
    match dropRepeats ns with
    | [] => [n]
    | m :: rest => if n = m then m :: rest else n :: m :: rest

/-- Looks for the atoms in turn and collects the offsets of their characters. An atom that does not
match ends this, and what the atoms before it have left stays. -/
def collect (name : String) : List Atom → Option Nat × List Nat
  | [] => (some 0, [])
  | a :: atoms =>
    match a.hit? name with
    | none => (none, [])
    | some hit =>
      let (score, offsets) := collect name atoms
      (score.map (hit.score + ·), hit.positions ++ offsets)

/-- The matched offsets in increasing order, each once; none if an atom does not match. -/
def positions (atoms : List Atom) (name : String) : List Nat :=
  match collect name atoms with
  | (none, _) => []
  | (some _, offsets) => dropRepeats offsets.mergeSort

end DocPages.Fuzzy
