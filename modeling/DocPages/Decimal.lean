import DocPages.Binary

/-! The shortest decimal that reads back as a given binary64 value. -/

namespace DocPages

/-- `digits * 10 ^ exponent`. -/
structure Decimal where
  digits : Nat
  exponent : Int
  deriving DecidableEq, Repr

namespace Binary

/-- A quarter of the distance to the value above, in units that make it, the value and `10 ^ e`
whole numbers. -/
def quarter (b : Binary) (e : Int) : Nat := Nat.pow 2 b.exponent.toNat * Nat.pow 10 (-e).toNat

/-- The value in these units. -/
def size (b : Binary) (e : Int) : Nat := 4 * b.mantissa * b.quarter e

/-- `10 ^ e` in these units. -/
def gridStep (b : Binary) (e : Int) : Nat :=
  4 * Nat.pow 2 (-b.exponent).toNat * Nat.pow 10 e.toNat

/-- The multiple of `10 ^ e` that rounds to the value, if there is one, the nearer of two. It is
one of the value's two neighbours on that grid. The ends of the interval belong to it if the
mantissa is even. -/
def gridPoint? (b : Binary) (e : Int) : Option Nat :=
  let low := b.size e / b.gridStep e
  let lowGap := b.size e - low * b.gridStep e
  let highGap := (low + 1) * b.gridStep e - b.size e
  let within (gap reach : Nat) : Bool := if b.mantissa % 2 = 0 then gap ≤ reach else gap < reach
  let lowFits := 0 < low && within lowGap ((if b.atBottom then 1 else 2) * b.quarter e)
  let highFits := within highGap (2 * b.quarter e)
  if lowFits && (!highFits || lowGap < highGap || lowGap == highGap && low % 2 == 0) then some low
  else if highFits then some (low + 1)
  else none

/-- The greatest `e` from the given one downwards with `10 ^ e` at most the value. -/
def leadingExponent (b : Binary) : Nat → Int → Int
  | 0, e => e
  | fuel + 1, e => if b.gridStep e ≤ b.size e then e else leadingExponent b fuel (e - 1)

/-- Tries one grid after the other, each ten times as fine. -/
def shortestFrom (b : Binary) : Nat → Int → Decimal
  | 0, e => ⟨0, e⟩
  | fuel + 1, e =>
    match b.gridPoint? e with
    | some digits => if digits = 10 then ⟨1, e + 1⟩ else ⟨digits, e⟩
    | none => shortestFrom b fuel (e - 1)

/-- Seventeen digits always suffice, and no value lies outside `10 ^ -324` to `10 ^ 309`. -/
def shortest (b : Binary) : Decimal := b.shortestFrom 17 (b.leadingExponent 633 309)

end Binary

/-- How reals are written: with all their places if the leading digit's exponent lies between
`least` and `greatest`, and with an exponent otherwise. -/
structure RealLayout where
  least : Int
  greatest : Int
  /-- A whole number has a point and a zero behind it. -/
  pointed : Bool

namespace RealLayout

def zeros (n : Nat) : List Char := List.replicate n '0'

def positional (l : RealLayout) (digits : List Char) (e : Int) : List Char :=
  if 0 ≤ e then digits ++ zeros e.toNat ++ if l.pointed then ['.', '0'] else []
  else
    let places := (-e).toNat
    let padded := zeros (places + 1 - digits.length) ++ digits
    padded.take (padded.length - places) ++ '.' :: padded.drop (padded.length - places)

def scientific (digits : List Char) (lead : Int) : List Char :=
  let places := digits.drop 1
  digits.take 1 ++ (if places.isEmpty then [] else '.' :: places) ++
    ['e', if 0 ≤ lead then '+' else '-'] ++ (toString lead.natAbs).toList

def write (l : RealLayout) (d : Decimal) : String :=
  let digits := Nat.toDigits 10 d.digits
  let lead := d.exponent + digits.length - 1
  String.ofList (if l.least ≤ lead && lead ≤ l.greatest then l.positional digits d.exponent
    else scientific digits lead)

end RealLayout

/-- Reals in messages. -/
def messageReal : RealLayout := ⟨-5, 15, true⟩

/-- Reals as a script shows them, always with all their places. -/
def scriptReal : RealLayout := ⟨-324, 308, false⟩

/-- The text of a binary64 value. -/
def Binary64.render (l : RealLayout) : Binary64 → String
  | notANumber => "NaN"
  | infinite negative => if negative then "-inf" else "inf"
  | finite negative b =>
    (if negative then "-" else "") ++ l.write (if b.mantissa = 0 then ⟨0, 0⟩ else b.shortest)

def showReal (bits : UInt64) : String := (Binary64.ofBits bits).render messageReal

end DocPages
