/-! Binary64 values, taken apart. -/

namespace DocPages

/-- The size `mantissa * 2 ^ exponent` of a finite value. At the bottom of a binade the value below
is only half as far away as the value above. -/
structure Binary where
  mantissa : Nat
  exponent : Int
  atBottom : Bool
  deriving DecidableEq, Repr

inductive Binary64 where
  | notANumber
  | infinite (negative : Bool)
  | finite (negative : Bool) (size : Binary)
  deriving DecidableEq, Repr

namespace Binary64

def signWeight : Nat := Nat.pow 2 63

def hiddenBit : Nat := Nat.pow 2 52

def sizeOf (field fraction : Nat) : Binary :=
  if field = 0 then ⟨fraction, -1074, false⟩
  else ⟨hiddenBit + fraction, (field : Int) - 1075, fraction == 0 && 1 < field⟩

def ofBits (bits : UInt64) : Binary64 :=
  let magnitude := bits.toNat % signWeight
  let negative := bits.toNat != magnitude
  let field := magnitude / hiddenBit
  let fraction := magnitude % hiddenBit
  if field = 2047 then if fraction = 0 then infinite negative else notANumber
  else finite negative (sizeOf field fraction)

end Binary64

namespace Binary

/-- The exact value. -/
def toRat (negative : Bool) (b : Binary) : Rat :=
  let n : Int := b.mantissa * Nat.pow 2 b.exponent.toNat
  mkRat (if negative then -n else n) (Nat.pow 2 (-b.exponent).toNat)

end Binary

end DocPages
