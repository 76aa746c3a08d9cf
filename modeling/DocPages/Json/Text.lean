import DocPages.Json.Fault

/-! Strings in JSON text. -/

namespace DocPages.Json

def hexDigit (n : Nat) : Char := Nat.digitChar n

/-- The written form of a character. -/
def quoteChar (c : Char) : List Char :=
  if c = '\x22' then ['\x5c', '\x22']
  else if c = '\x5c' then ['\x5c', '\x5c']
  else if c = '\x08' then ['\x5c', 'b']
  else if c = '\x0c' then ['\x5c', 'f']
  else if c = '\n' then ['\x5c', 'n']
  else if c = '\r' then ['\x5c', 'r']
  else if c = '\t' then ['\x5c', 't']
  else if c.toNat < 32 then
    ['\x5c', 'u', '0', '0', hexDigit (c.toNat / 16), hexDigit (c.toNat % 16)]
  else [c]

def writeText (s : String) : List Char := '\x22' :: s.toList.flatMap quoteChar ++ ['\x22']

/-- The character that a one-letter escape stands for. -/
def shortEscape? : Char → Option Char
  | '\x22' => some '\x22'
  | '\x5c' => some '\x5c'
  | '/' => some '/'
  | 'b' => some '\x08'
  | 'f' => some '\x0c'
  | 'n' => some '\n'
  | 'r' => some '\r'
  | 't' => some '\t'
  | _ => none

def hexValue? (c : Char) : Option Nat :=
  if c.isDigit then some (c.toNat - '0'.toNat)
  else if 'a' ≤ c && c ≤ 'f' then some (c.toNat - 'a'.toNat + 10)
  else if 'A' ≤ c && c ≤ 'F' then some (c.toNat - 'A'.toNat + 10)
  else none

def hexValue4? (a b c d : Char) : Option Nat := do
  return (((← hexValue? a) * 16 + (← hexValue? b)) * 16 + (← hexValue? c)) * 16 + (← hexValue? d)

/-- Fewer than `n` bytes were left for hexadecimal digits, or they are others. -/
def hexFault (n : Nat) (cs : List Char) : Fault :=
  if byteCount cs < n then .here .eofString [] else ⟨.invalidEscape, cs, n⟩

def isHighSurrogate (n : Nat) : Bool := 0xd800 ≤ n && n < 0xdc00

def isLowSurrogate (n : Nat) : Bool := 0xdc00 ≤ n && n < 0xe000

def pairValue (high low : Nat) : Nat := 0x10000 + (high - 0xd800) * 0x400 + (low - 0xdc00)

def prepend (c : Char) : Except Fault (List Char × List Char) → Except Fault (List Char × List Char)
  | .ok (cs, rest) => .ok (c :: cs, rest)
  | .error f => .error f

/-- The characters of a string up to its closing quote. -/
def readChars : List Char → Except Fault (List Char × List Char)
  | [] => .error (.here .eofString [])
  | '\x22' :: cs => .ok ([], cs)
  | ['\x5c'] => .error (.here .eofString [])
  | '\x5c' :: 'u' :: a :: b :: c :: d :: cs =>
    match hexValue4? a b c d with
    | none => .error (hexFault 4 (a :: b :: c :: d :: cs))
    | some n =>
      if isLowSurrogate n then .error (.here .loneSurrogate cs)
      else if isHighSurrogate n then
        match cs with
        | '\x5c' :: 'u' :: a :: b :: c :: d :: cs =>
          match hexValue4? a b c d with
          | none => .error (hexFault 4 (a :: b :: c :: d :: cs))
          | some m =>
            if isLowSurrogate m then prepend (Char.ofNat (pairValue n m)) (readChars cs)
            else .error (.here .loneSurrogate cs)
        | '\x5c' :: 'u' :: cs => .error (hexFault 4 cs)
        | '\x5c' :: cs => .error (if cs.isEmpty then .here .eofString [] else .next .hexEnd cs)
        | cs => .error (if cs.isEmpty then .here .eofString [] else .next .hexEnd cs)
      else prepend (Char.ofNat n) (readChars cs)
  | '\x5c' :: 'u' :: cs => .error (hexFault 4 cs)
  | '\x5c' :: e :: cs =>
    match shortEscape? e with
    | some c => prepend c (readChars cs)
    | none => .error (.next .invalidEscape (e :: cs))
  | c :: cs =>
    if c.toNat < 32 then .error (.next .controlCharacter (c :: cs)) else prepend c (readChars cs)

end DocPages.Json
