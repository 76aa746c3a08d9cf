import DocPages.Json.Fault

/-! Numbers in JSON text: whole numbers of up to 64 bits and reals. -/

namespace DocPages.Json

inductive Number where
  | natural (n : Nat)
  /-- The number `-n`. -/
  | negative (n : Nat)
  /-- Bits of a binary64 value. -/
  | real (bits : UInt64)
  deriving DecidableEq, Repr

def Number.found : Number → Found
  | natural n => .integer n
  | negative n => .integer (-n)
  | real bits => .real bits

/-- Bits of the nearest binary64 value. -/
def Number.bits : Number → UInt64
  | natural n => n.toUInt64.toFloat.toBits
  | negative n => (-n.toUInt64.toFloat).toBits
  | real bits => bits

/-- The greatest number of 64 bits. -/
def maxNatural : Nat := 18446744073709551615

/-- The size of the least number of 64 bits with a sign. -/
def maxNegative : Nat := 9223372036854775808

def digitValue (c : Char) : Nat := c.toNat - '0'.toNat

/-- Appends digits to a number as long as it stays within 64 bits; the others are left over. -/
def absorb (n : Nat) : List Char → Nat × List Char
  | [] => (n, [])
  | c :: cs =>
    if 10 * n + digitValue c ≤ maxNatural then absorb (10 * n + digitValue c) cs else (n, c :: cs)

/-- `x * 10 ^ e` by one multiplication or by divisions by at most `10 ^ 308` each, nothing if it is
infinite. Two divisions leave nothing of a 64-bit number. -/
def scaleReal (x : Float) (e : Int) : Nat → Option Float
  | 0 => some 0
  | fuel + 1 =>
    let power := Float.ofScientific 1 false
    if 0 ≤ e then
      if x == 0 then some x
      else if 308 < e then none
      else
        let y := x * power e.toNat
        if y.isInf then none else some y
    else if -308 ≤ e then some (x / power (-e).toNat)
    else if x == 0 then some x
    else scaleReal (x / power 308) (e + 308) fuel

/-- The real `significand * 10 ^ e`. -/
def realOf (positive : Bool) (significand : Nat) (e : Int) (rest : List Char) :
    Except Fault (Number × List Char) :=
  match scaleReal significand.toUInt64.toFloat e 4 with
  | some x => .ok (.real (if positive then x else -x).toBits, rest)
  | none => .error (.here .numberOutOfRange rest)

/-- A number without point and exponent. Minus zero and what does not fit is a real. -/
def wholeOf (positive : Bool) (n : Nat) : Number :=
  if positive then .natural n
  else if n ≠ 0 && n ≤ maxNegative then .negative n
  else .real (-n.toUInt64.toFloat).toBits

def maxExponent : Nat := 2147483647

/-- The digits of an exponent. Fails behind the digit with which it becomes too large. -/
def readExponentDigits (n : Nat) : List Char → Except (List Char) (Nat × List Char)
  | [] => .ok (n, [])
  | c :: cs =>
    if !c.isDigit then .ok (n, c :: cs)
    else if maxExponent < 10 * n + digitValue c then .error cs
    else readExponentDigits (10 * n + digitValue c) cs

/-- What follows the letter of an exponent. An exponent that is too large makes the number too
large, or zero. -/
def readExponent (positive : Bool) (significand : Nat) (e : Int) (cs : List Char) :
    Except Fault (Number × List Char) :=
  let up := cs.head? != some '-'
  let digits := if cs.head? == some '+' || cs.head? == some '-' then cs.tail else cs
  match digits with
  | [] => .error (.here .eofValue [])
  | c :: _ =>
    if !c.isDigit then .error (.next .invalidNumber digits)
    else match readExponentDigits 0 digits with
      | .ok (n, rest) => realOf positive significand (if up then e + n else e - n) rest
      | .error rest =>
        if up && significand ≠ 0 then .error (.here .numberOutOfRange rest)
        else realOf positive 0 0 (rest.dropWhile Char.isDigit)

def isExponentMark (c : Char) : Bool := c == 'e' || c == 'E'

/-- What follows the point. -/
def readFraction (positive : Bool) (significand : Nat) (e : Int) (cs : List Char) :
    Except Fault (Number × List Char) :=
  let digits := cs.takeWhile Char.isDigit
  let rest := cs.dropWhile Char.isDigit
  if digits.isEmpty then
    .error (.next (if rest.isEmpty then .eofValue else .invalidNumber) rest)
  else
    let (n, extra) := absorb significand digits
    let exponent := e - (digits.length - extra.length : Nat)
    match rest with
    | c :: cs =>
      if isExponentMark c then readExponent positive n exponent cs
      else realOf positive n exponent rest
    | [] => realOf positive n exponent rest

/-- A number less its sign. -/
def readMagnitude (positive : Bool) (cs : List Char) : Except Fault (Number × List Char) :=
  let digits := cs.takeWhile Char.isDigit
  let rest := cs.dropWhile Char.isDigit
  match digits with
  | [] => .error (if cs.isEmpty then .here .eofValue [] else .next .invalidNumber cs)
  | '0' :: _ :: _ => .error (.next .invalidNumber cs.tail)
  | _ =>
    let (n, extra) := absorb 0 digits
    match rest with
    | '.' :: cs => readFraction positive n extra.length cs
    | c :: cs =>
      if isExponentMark c then readExponent positive n extra.length cs
      else if extra.isEmpty then .ok (wholeOf positive n, rest)
      else realOf positive n extra.length rest
    | [] =>
      if extra.isEmpty then .ok (wholeOf positive n, rest)
      else realOf positive n extra.length rest

/-- A number, given that it starts with a minus sign or a digit. -/
def readNumber : Reader Number
  | '-' :: cs => readMagnitude false cs
  | cs => readMagnitude true cs

/-- The binary64 value that a number stands for, if the text is one. -/
def realBits? (text : String) : Option UInt64 :=
  match readNumber text.toList with
  | .ok (n, []) => some n.bits
  | _ => none

def startsNumber (c : Char) : Bool := c == '-' || c.isDigit

end DocPages.Json
