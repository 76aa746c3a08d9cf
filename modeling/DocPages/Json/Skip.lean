import DocPages.Json.Text

/-! Passing over a value of any shape, one character at a time. -/

namespace DocPages.Json

def isBlank (c : Char) : Bool := c == ' ' || c == '\n' || c == '\r' || c == '\t'

inductive Bracket where
  | list
  | object
  deriving DecidableEq, Repr

/-- What is expected next, inside the brackets that are open. A text is a key or a value. -/
inductive Mode where
  | value
  | firstValue
  | key
  | firstKey
  | colon
  | after
  | text (isKey : Bool)
  | escape (isKey : Bool)
  | hex (isKey : Bool) (left : Nat)
  | word (letters : List Char)
  | minus
  | zero
  | digits
  | point
  | fraction
  | exponent
  | exponentSign
  | exponentDigits
  deriving DecidableEq, Repr

/-- What a character does. -/
inductive Step where
  /-- It is taken, and more has to follow. -/
  | go (mode : Mode) (opened : List Bracket)
  /-- It is taken and ends the value. -/
  | last
  /-- The value ended in front of it. -/
  | past
  | fail (cause : Cause) (ahead : Nat)
  | badHex (left : Nat)

namespace Step

/-- A value inside the given brackets has ended with the character. -/
def complete : List Bracket → Step
  | [] => last
  | b :: opened => go .after (b :: opened)

def afterValue (opened : List Bracket) (c : Char) : Step :=
  match opened with
  | [] => past
  | b :: outer =>
    if isBlank c then go .after opened
    else match b, c with
      | .list, ',' => go .value opened
      | .object, ',' => go .key opened
      | .list, ']' => complete outer
      | .object, '\x7d' => complete outer
      | .list, _ => fail .expectedListEnd 1
      | .object, _ => fail .expectedObjectEnd 1

def startValue (opened : List Bracket) (c : Char) : Step :=
  if isBlank c then go .value opened
  else match c with
    | 'n' => go (.word ['u', 'l', 'l']) opened
    | 't' => go (.word ['r', 'u', 'e']) opened
    | 'f' => go (.word ['a', 'l', 's', 'e']) opened
    | '\x22' => go (.text false) opened
    | '[' => go .firstValue (.list :: opened)
    | '\x7b' => go .firstKey (.object :: opened)
    | '-' => go .minus opened
    | '0' => go .zero opened
    | c => if c.isDigit then go .digits opened else fail .expectedValue 1

def startKey (again : Mode) (opened : List Bracket) (c : Char) : Step :=
  if isBlank c then go again opened
  else if c = '\x22' then go (.text true) opened
  else fail .keyNotString 1

def inNumber (stay : Option Mode) (pointFollows exponentFollows : Bool) (opened : List Bracket)
    (c : Char) : Step :=
  if c.isDigit then
    match stay with
    | some mode => go mode opened
    | none => fail .invalidNumber 1
  else if pointFollows && c = '.' then go .point opened
  else if exponentFollows && (c = 'e' || c = 'E') then go .exponent opened
  else afterValue opened c

end Step

open Step in
/-- The step of each mode. -/
def skipStep (opened : List Bracket) (c : Char) : Mode → Step
  | .value => startValue opened c
  | .firstValue =>
    if isBlank c then go .firstValue opened
    else if c = ']' then complete opened.tail
    else startValue opened c
  | .key => startKey .key opened c
  | .firstKey => if c = '\x7d' then complete opened.tail else startKey .firstKey opened c
  | .colon =>
    if isBlank c then go .colon opened
    else if c = ':' then go .value opened
    else fail .expectedColon 1
  | .after => afterValue opened c
  | .text isKey =>
    if c = '\x22' then if isKey then go .colon opened else complete opened
    else if c = '\x5c' then go (.escape isKey) opened
    else if c.toNat < 32 then fail .controlCharacter 0
    else go (.text isKey) opened
  | .escape isKey =>
    if c = 'u' then go (.hex isKey 4) opened
    else if (shortEscape? c).isSome then go (.text isKey) opened
    else fail .invalidEscape 1
  | .hex isKey left =>
    if (hexValue? c).isNone then badHex left
    else if left ≤ 1 then go (.text isKey) opened
    else go (.hex isKey (left - 1)) opened
  | .word [] => past
  | .word (w :: ws) =>
    if c ≠ w then fail .expectedIdent 1
    else if ws.isEmpty then complete opened
    else go (.word ws) opened
  | .minus =>
    if c = '0' then go .zero opened
    else if c.isDigit then go .digits opened
    else fail .invalidNumber 1
  | .zero => inNumber none true true opened c
  | .digits => inNumber (some .digits) true true opened c
  | .point => if c.isDigit then go .fraction opened else fail .invalidNumber 1
  | .fraction => inNumber (some .fraction) false true opened c
  | .exponent =>
    if c = '+' || c = '-' then go .exponentSign opened
    else if c.isDigit then go .exponentDigits opened
    else fail .invalidNumber 1
  | .exponentSign => if c.isDigit then go .exponentDigits opened else fail .invalidNumber 1
  | .exponentDigits => inNumber (some .exponentDigits) false false opened c

/-- What the end of the input means: nothing if a value may end here. -/
def skipEnd (opened : List Bracket) : Mode → Option Cause
  | .value | .word _ => some .eofValue
  | .key | .firstKey | .colon => some .eofObject
  | .text _ | .escape _ | .hex _ _ => some .eofString
  | .minus | .point | .exponent | .exponentSign => some .invalidNumber
  | .firstValue | .after | .zero | .digits | .fraction | .exponentDigits =>
    match opened with
    | [] => none
    | .list :: _ => some .eofList
    | .object :: _ => some .eofObject

/-- What is left of the input behind the value. -/
def skipFrom (mode : Mode) (opened : List Bracket) : List Char → Except Fault (List Char)
  | [] =>
    match skipEnd opened mode with
    | none => .ok []
    | some cause => .error (.here cause [])
  | c :: cs =>
    match skipStep opened c mode with
    | .go mode opened => skipFrom mode opened cs
    | .last => .ok cs
    | .past => .ok (c :: cs)
    | .fail cause ahead => .error ⟨cause, c :: cs, ahead⟩
    | .badHex left => .error (hexFault left (c :: cs))

/-- Passes over one value. -/
def skipValue (cs : List Char) : Except Fault (List Char) := skipFrom .value [] cs

end DocPages.Json
