import DocPages.Json.Number
import DocPages.Json.Skip

/-! Readers for values of an expected shape. White space in front of a value is skipped. -/

namespace DocPages.Json

def skipBlanks (cs : List Char) : List Char := cs.dropWhile isBlank

/-- The letters that have to follow. -/
def readWord : List Char → List Char → Except Fault (List Char)
  | [], cs => .ok cs
  | _ :: _, [] => .error (.here .eofValue [])
  | w :: ws, c :: cs =>
    if c = w then readWord ws cs else .error (.next .expectedIdent (c :: cs))

/-- A value of the wrong kind. It is read unless it is a list or an object. -/
def unexpected (expected : String) (cs : List Char) : Fault :=
  let found (found : Found) (rest : List Char) : Fault := .here (.wrongType found expected) rest
  let word (letters : List Char) (value : Found) (rest : List Char) : Fault :=
    match readWord letters rest with
    | .ok rest => found value rest
    | .error f => f
  match cs with
  | [] => .next .eofValue []
  | 'n' :: rest => word ['u', 'l', 'l'] .null rest
  | 't' :: rest => word ['r', 'u', 'e'] (.boolean true) rest
  | 'f' :: rest => word ['a', 'l', 's', 'e'] (.boolean false) rest
  | '[' :: _ => found .sequence cs
  | '\x7b' :: _ => found .map cs
  | '\x22' :: rest =>
    match readChars rest with
    | .ok (text, rest) => found (.text (String.ofList text)) rest
    | .error f => f
  | c :: _ =>
    if startsNumber c then
      match readNumber cs with
      | .ok (n, rest) => found n.found rest
      | .error f => f
    else .next .expectedValue cs

def readText : Reader String := fun cs =>
  match skipBlanks cs with
  | '\x22' :: rest =>
    match readChars rest with
    | .ok (text, rest) => .ok (String.ofList text, rest)
    | .error f => .error f
  | cs => .error (unexpected "a string" cs)

/-- A whole number from zero to `greatest`. -/
def readNat (expected : String) (greatest : Nat) : Reader Nat := fun cs =>
  match skipBlanks cs with
  | [] => .error (.next .eofValue [])
  | c :: cs =>
    if startsNumber c then
      match readNumber (c :: cs) with
      | .error f => .error f
      | .ok (.natural n, rest) =>
        if n ≤ greatest then .ok (n, rest) else .error (.here (.badInteger n expected) rest)
      | .ok (.negative n, rest) => .error (.here (.badInteger (-n) expected) rest)
      | .ok (.real bits, rest) => .error (.here (.wrongType (.real bits) expected) rest)
    else .error (unexpected expected (c :: cs))

def readNull : Reader Unit := fun cs =>
  match skipBlanks cs with
  | 'n' :: rest =>
    match readWord ['u', 'l', 'l'] rest with
    | .ok rest => .ok ((), rest)
    | .error f => .error f
  | cs => .error (unexpected "unit" cs)

def readColon (cs : List Char) : Except Fault (List Char) :=
  match skipBlanks cs with
  | ':' :: rest => .ok rest
  | [] => .error (.next .eofObject [])
  | cs => .error (.next .expectedColon cs)

/-- Goes to the next element of a list, or to the closing bracket and answers `false`. -/
def nextElement (first : Bool) (cs : List Char) : Except Fault (Bool × List Char) :=
  match skipBlanks cs with
  | [] => .error (.next .eofList [])
  | ']' :: rest => .ok (false, ']' :: rest)
  | c :: rest =>
    if first then .ok (true, c :: rest)
    else if c = ',' then
      match skipBlanks rest with
      | [] => .error (.next .eofValue [])
      | ']' :: rest => .error (.next .trailingComma (']' :: rest))
      | cs => .ok (true, cs)
    else .error (.next .expectedListEnd (c :: rest))

/-- Goes behind the opening quote of the next key of an object, or to the closing bracket and
answers `false`. -/
def nextKey (first : Bool) (cs : List Char) : Except Fault (Bool × List Char) :=
  match skipBlanks cs with
  | [] => .error (.next .eofObject [])
  | '\x7d' :: rest => .ok (false, '\x7d' :: rest)
  | c :: rest =>
    if first then if c = '\x22' then .ok (true, rest) else .error (.next .keyNotString (c :: rest))
    else if c = ',' then
      match skipBlanks rest with
      | [] => .error (.next .eofValue [])
      | '\x22' :: rest => .ok (true, rest)
      | '\x7d' :: rest => .error (.next .trailingComma ('\x7d' :: rest))
      | cs => .error (.next .keyNotString cs)
    else .error (.next .expectedObjectEnd (c :: rest))

/-- The elements of a list and its closing bracket. Every element but the first follows a comma,
so the length of the input bounds their number. -/
def readElements {α : Type} (element : Reader α) : Nat → Bool → Reader (List α)
  | 0, _, cs => .error (.next .eofList cs)
  | fuel + 1, first, cs =>
    match nextElement first cs with
    | .error f => .error f
    | .ok (false, cs) => .ok ([], cs.tail)
    | .ok (true, cs) =>
      match element cs with
      | .error f => .error f
      | .ok (x, cs) =>
        match readElements element fuel false cs with
        | .error f => .error f
        | .ok (xs, cs) => .ok (x :: xs, cs)

def readList {α : Type} (element : Reader α) : Reader (List α) := fun cs =>
  match skipBlanks cs with
  | '[' :: rest => readElements element (rest.length + 1) true rest
  | cs => .error (unexpected "a sequence" cs)

/-- The name of a variant that carries nothing: a string, or an object with that one key and a
null. -/
def readVariant {α : Type} (choose : String → Except Cause α) : Reader α := fun cs =>
  let named (text rest : List Char) : Except Fault (α × List Char) :=
    match choose (String.ofList text) with
    | .ok x => .ok (x, rest)
    | .error cause => .error (.here cause rest)
  match skipBlanks cs with
  | [] => .error (.next .eofValue [])
  | '\x22' :: rest =>
    match readChars rest with
    | .ok (text, rest) => named text rest
    | .error f => .error f
  | '\x7b' :: rest =>
    match skipBlanks rest with
    | [] => .error (.next .eofObject [])
    | '\x7d' :: rest => .error (.next .expectedValue ('\x7d' :: rest))
    | '\x22' :: rest => do
      let (text, rest) ← readChars rest
      let (x, rest) ← named text rest
      let rest ← readColon rest
      let (_, rest) ← readNull rest
      match skipBlanks rest with
      | '\x7d' :: rest => .ok (x, rest)
      | [] => .error (.here .eofObject [])
      | cs => .error (.here .expectedValue cs)
    | cs => .error (.next .keyNotString cs)
  | cs => .error (.next .expectedValue cs)

/-- Reads a text that holds one value and nothing else. -/
def parse {α : Type} (read : Reader α) (text : String) : Except Error α :=
  match read text.toList with
  | .error f => .error (f.locate text.toList)
  | .ok (x, rest) =>
    match skipBlanks rest with
    | [] => .ok x
    | cs => .error ((Fault.next .trailingCharacters cs).locate text.toList)

end DocPages.Json
