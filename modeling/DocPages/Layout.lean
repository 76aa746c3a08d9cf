/-! The two page layouts. -/

namespace DocPages

inductive Layout where
  | mobile
  | desktop
  deriving DecidableEq, Repr

namespace Layout

/-- The layout for the verdict of the desktop media query. -/
def ofQuery (holds : Bool) : Layout := if holds then desktop else mobile

def ofWidth (breakpoint width : Nat) : Layout := ofQuery (breakpoint ≤ width)

def name : Layout → String
  | mobile => "Mobile"
  | desktop => "Desktop"

end Layout

end DocPages
