import DocPages.Text.Shown
import DocPages.Decimal

/-! Why and where reading stopped. -/

namespace DocPages.Json

/-- A value that stands where another kind of value was expected. -/
inductive Found where
  | null
  | boolean (b : Bool)
  | integer (n : Int)
  | real (bits : UInt64)
  | text (s : String)
  | sequence
  | map
  deriving DecidableEq, Repr

def Found.describe : Found → String
  | null => "null"
  | boolean true => "boolean `true`"
  | boolean false => "boolean `false`"
  | integer n => "integer `" ++ toString n ++ "`"
  | real bits => "floating point `" ++ showReal bits ++ "`"
  | text s => "string " ++ showText s
  | sequence => "sequence"
  | map => "map"

inductive Cause where
  | eofValue
  | eofString
  | eofList
  | eofObject
  | expectedIdent
  | expectedValue
  | expectedColon
  | expectedListEnd
  | expectedObjectEnd
  | keyNotString
  | trailingComma
  | trailingCharacters
  | invalidNumber
  | numberOutOfRange
  | invalidEscape
  | controlCharacter
  | loneSurrogate
  | hexEnd
  | wrongType (found : Found) (expected : String)
  | badInteger (n : Int) (expected : String)
  | unknownVariant (name : String) (known : List String)
  | duplicateField (name : String)
  | missingField (name : String)
  | shortRecord (found : Nat) (expected : String)
  deriving DecidableEq, Repr

def Cause.message : Cause → String
  | eofValue => "EOF while parsing a value"
  | eofString => "EOF while parsing a string"
  | eofList => "EOF while parsing a list"
  | eofObject => "EOF while parsing an object"
  | expectedIdent => "expected ident"
  | expectedValue => "expected value"
  | expectedColon => "expected `:`"
  | expectedListEnd => "expected `,` or `]`"
  | expectedObjectEnd => "expected `,` or `\x7d`"
  | keyNotString => "key must be a string"
  | trailingComma => "trailing comma"
  | trailingCharacters => "trailing characters"
  | invalidNumber => "invalid number"
  | numberOutOfRange => "number out of range"
  | invalidEscape => "invalid escape"
  | controlCharacter => "control character (\\u0000-\\u001F) found while parsing a string"
  | loneSurrogate => "lone leading surrogate in hex escape"
  | hexEnd => "unexpected end of hex escape"
  | wrongType found expected => "invalid type: " ++ found.describe ++ ", expected " ++ expected
  | badInteger n expected =>
    "invalid value: " ++ (Found.integer n).describe ++ ", expected " ++ expected
  | unknownVariant name known =>
    "unknown variant `" ++ name ++ "`, expected " ++
      String.intercalate " or " (known.map fun k => "`" ++ k ++ "`")
  | duplicateField name => "duplicate field `" ++ name ++ "`"
  | missingField name => "missing field `" ++ name ++ "`"
  | shortRecord found expected =>
    "invalid length " ++ toString found ++ ", expected " ++ expected

/-- A cause, the input that was still unread, and how many bytes of it the place lies ahead. -/
structure Fault where
  cause : Cause
  rest : List Char
  ahead : Nat
  deriving DecidableEq, Repr

/-- A reader takes a value off the front of the input. -/
abbrev Reader (α : Type) := List Char → Except Fault (α × List Char)

/-- The place is behind what has been read. -/
def Fault.here (cause : Cause) (rest : List Char) : Fault := ⟨cause, rest, 0⟩

/-- The place is behind the next byte. -/
def Fault.next (cause : Cause) (rest : List Char) : Fault := ⟨cause, rest, 1⟩

/-- Bytes of the characters in UTF-8. -/
def byteCount : List Char → Nat
  | [] => 0
  | c :: cs => c.utf8Size + byteCount cs

structure Error where
  cause : Cause
  line : Nat
  column : Nat
  deriving DecidableEq, Repr

/-- Lines and columns count bytes, and a line begins after a line feed. -/
def Fault.locate (f : Fault) (input : List Char) : Error :=
  let offset := min (byteCount input) (byteCount input - byteCount f.rest + f.ahead)
  let read := (String.ofList input).toUTF8.toList.take offset
  ⟨f.cause, 1 + read.count 10, (read.reverse.takeWhile (· != 10)).length⟩

def Error.message (e : Error) : String :=
  e.cause.message ++ " at line " ++ toString e.line ++ " column " ++ toString e.column

end DocPages.Json
