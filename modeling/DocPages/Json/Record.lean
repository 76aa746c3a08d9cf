import DocPages.Json.Reader

/-! Readers for records, which are written as objects, or as lists of their fields in order. -/

namespace DocPages.Json

/-- A field of records of type `ρ`. Reading it fills it in. -/
structure Field (ρ : Type) where
  name : String
  read : ρ → Reader ρ

def Field.of {ρ α : Type} (name : String) (read : Reader α) (set : ρ → α → ρ) : Field ρ where
  name := name
  read r cs :=
    match read cs with
    | .ok (x, cs) => .ok (set r x, cs)
    | .error f => .error f

/-- What a record looks like. Fields that are not given keep their value in `blank`, unless all
are required. -/
structure Shape (ρ : Type) where
  title : String
  blank : ρ
  fields : List (Field ρ)
  required : Bool

namespace Shape

variable {ρ : Type}

def expectedLength (shape : Shape ρ) : String :=
  let n := shape.fields.length
  shape.title ++ " with " ++ toString n ++ (if n = 1 then " element" else " elements")

/-- A fault in the members of a record. One that is not bound to a place gets its place when the
end of the record has been looked for. -/
inductive Issue where
  | placed (fault : Fault)
  | unplaced (cause : Cause) (rest : List Char)

def missing? (shape : Shape ρ) (seen : List String) : Option String :=
  if shape.required then (shape.fields.map (·.name)).find? fun name => !seen.contains name else none

/-- The members of an object up to its closing bracket; `seen` are the names that have come. -/
def readMembers (shape : Shape ρ) : Nat → Bool → List String → ρ → List Char →
    Except Issue (ρ × List Char)
  | 0, _, _, _, cs => .error (.placed (.next .eofObject cs))
  | fuel + 1, first, seen, r, cs =>
    match nextKey first cs with
    | .error f => .error (.placed f)
    | .ok (false, cs) =>
      match shape.missing? seen with
      | some name => .error (.unplaced (.missingField name) cs)
      | none => .ok (r, cs)
    | .ok (true, cs) =>
      match readChars cs with
      | .error f => .error (.placed f)
      | .ok (key, cs) =>
        match shape.fields.find? fun field => field.name == String.ofList key with
        | none =>
          match readColon cs with
          | .error f => .error (.placed f)
          | .ok cs =>
            match skipValue cs with
            | .error f => .error (.placed f)
            | .ok cs => readMembers shape fuel false seen r cs
        | some field =>
          if seen.contains field.name then .error (.unplaced (.duplicateField field.name) cs)
          else match readColon cs with
            | .error f => .error (.placed f)
            | .ok cs =>
              match field.read r cs with
              | .error f => .error (.placed f)
              | .ok (r, cs) => readMembers shape fuel false (field.name :: seen) r cs

/-- The elements of a list in the order of the fields; `n` have come. -/
def readPositional (shape : Shape ρ) (n : Nat) (r : ρ) (cs : List Char) : List (Field ρ) →
    Except Issue (ρ × List Char)
  | [] => .ok (r, cs)
  | field :: fields =>
    match nextElement (n == 0) cs with
    | .error f => .error (.placed f)
    | .ok (false, cs) =>
      if shape.required then .error (.unplaced (.shortRecord n shape.expectedLength) cs)
      else .ok (r, cs)
    | .ok (true, cs) =>
      match field.read r cs with
      | .error f => .error (.placed f)
      | .ok (r, cs) => readPositional shape (n + 1) r cs fields

/-- Looks for the end of an object: what is then left, and the fault if it is not there. -/
def closeObject (cs : List Char) : List Char × Option Fault :=
  match skipBlanks cs with
  | '\x7d' :: rest => (rest, none)
  | [] => ([], some (.next .eofObject []))
  | ',' :: rest => (',' :: rest, some (.next .trailingComma (',' :: rest)))
  | cs => (cs, some (.next .trailingCharacters cs))

def closeList (cs : List Char) : List Char × Option Fault :=
  match skipBlanks cs with
  | ']' :: rest => (rest, none)
  | [] => ([], some (.next .eofList []))
  | ',' :: rest =>
    match skipBlanks rest with
    | ']' :: rest => (']' :: rest, some (.next .trailingComma (']' :: rest)))
    | cs => (cs, some (.next .trailingCharacters cs))
  | cs => (cs, some (.next .trailingCharacters cs))

/-- A fault of the members comes before one of the end. -/
def finish (close : List Char → List Char × Option Fault) :
    Except Issue (ρ × List Char) → Except Fault (ρ × List Char)
  | .error (.placed f) => .error f
  | .error (.unplaced cause cs) => .error (.here cause (close cs).1)
  | .ok (r, cs) =>
    match close cs with
    | (rest, none) => .ok (r, rest)
    | (_, some f) => .error f

def read (shape : Shape ρ) : Reader ρ := fun cs =>
  match skipBlanks cs with
  | '\x7b' :: rest =>
    finish closeObject (shape.readMembers (rest.length + 1) true [] shape.blank rest)
  | '[' :: rest => finish closeList (shape.readPositional 0 shape.blank rest shape.fields)
  | cs => .error (unexpected shape.title cs)

end Shape

end DocPages.Json
