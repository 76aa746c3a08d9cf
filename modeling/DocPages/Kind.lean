/-! What an entry of the search index documents. -/

namespace DocPages

inductive EntryKind where
  | classType
  | structType
  | enumType
  | builtinType
  | function
  | member
  | constant
  | enumerator
  | unknown
  deriving DecidableEq, Repr

namespace EntryKind

/-- The name a kind has in a stored index. -/
def name : EntryKind → String
  | classType => "Class"
  | structType => "Struct"
  | enumType => "Enum"
  | builtinType => "Builtin"
  | function => "Function"
  | member => "Member"
  | constant => "Constant"
  | enumerator => "Enumerator"
  | unknown => "Unknown"

def known : List EntryKind :=
  [classType, structType, enumType, builtinType, function, member, constant, enumerator]

/-- Every name but the known ones is read as `unknown`. -/
def ofName (s : String) : EntryKind :=
  (known.find? fun kind => kind.name == s).getD unknown

def label : EntryKind → String
  | classType => "class"
  | structType => "struct"
  | enumType => "enum"
  | builtinType => "builtin"
  | function => "function"
  | member => "member"
  | constant => "constant"
  | enumerator => "enumerator"
  | unknown => "unknown"

/-- Enumerators share the colour of constants. -/
def cssClass : EntryKind → String
  | enumerator => "constant"
  | kind => kind.label

def isType : EntryKind → Bool
  | classType | structType | enumType | builtinType => true
  | _ => false

/-- The page of a type-level item; other kinds have none. -/
def page? (kind : EntryKind) (qualifiedName : String) : Option String :=
  if kind.isType then some (kind.label ++ "." ++ qualifiedName ++ ".html") else none

end EntryKind

end DocPages
