/-! Splitting a name into matched and unmatched runs. -/

namespace DocPages

structure Segment where
  text : String
  isMatch : Bool
  deriving DecidableEq, Repr

namespace Segment

/-- Flags the characters from offset `i` on. Positions are used up in order, so one that comes
after a larger one is lost. -/
def flags (i : Nat) (positions : List Nat) : List Char → List (Char × Bool)
  | [] => []
  | c :: cs =>
    let pending := positions.dropWhile (· < i)
    (c, pending.head? == some i) :: flags (i + 1) pending cs

/-- Joins neighbours with the same flag. -/
def runs : List (Char × Bool) → List (List Char × Bool)
  | [] => []
  | (c, m) :: rest =>
    match runs rest with
    | [] => [([c], m)]
    | (cs, m') :: more => if m = m' then (c :: cs, m) :: more else ([c], m) :: (cs, m') :: more

end Segment

/-- The runs of `name`; positions past its end have no effect. -/
def highlightSegments (name : String) (positions : List Nat) : List Segment :=
  (Segment.runs (Segment.flags 0 positions name.toList)).map fun (cs, m) => ⟨String.ofList cs, m⟩

end DocPages
