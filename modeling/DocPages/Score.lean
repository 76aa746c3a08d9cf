import DocPages.Kind

/-! Scores in exact tenths, so that the bonus of a type breaks a tie and nothing else. -/

namespace DocPages

structure Score where
  tenths : Int
  deriving DecidableEq, Repr

namespace Score

def bonus (kind : EntryKind) : Score := ⟨if kind.isType then 1 else 0⟩

/-- A fuzzy score together with the bonus of the entry's kind. -/
def ofBase (base : Nat) (kind : EntryKind) : Score := ⟨10 * base + (bonus kind).tenths⟩

/-- Results below this score are dropped. -/
def cutoff : Score := ⟨-100000⟩

def noMatch : Score := ⟨-100010⟩

def atLeast (a b : Score) : Bool := b.tenths ≤ a.tenths

/-- Always one decimal. -/
def render (s : Score) : String :=
  (if s.tenths < 0 then "-" else "") ++
    toString (s.tenths.natAbs / 10) ++ "." ++ toString (s.tenths.natAbs % 10)

end Score

end DocPages
