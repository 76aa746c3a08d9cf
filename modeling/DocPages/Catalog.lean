import DocPages.Entry

/-! Building the search index from declarations. A type has a page of its own, what is declared in
it an anchor on that page, and a global constant an anchor on the start page. -/

namespace DocPages

inductive ItemKind where
  | function
  | member
  | constant
  | enumerator
  deriving DecidableEq, Repr

def ItemKind.kind : ItemKind → EntryKind
  | function => .function
  | member => .member
  | constant => .constant
  | enumerator => .enumerator

/-- Something declared inside a type. -/
structure Item where
  kind : ItemKind
  name : String
  summary : String
  deriving DecidableEq, Repr

inductive Declaration where
  | globalConstant (name summary : String)
  | typeItem (kind : EntryKind) (qualifiedName summary : String) (items : List Item)
  deriving DecidableEq, Repr

/-- The owner with its final dot, and the last part of a dotted name. -/
def splitQualified (qualifiedName : String) : String × String :=
  let name := (qualifiedName.toList.reverse.takeWhile (· != '.')).reverse
  let owner := (qualifiedName.toList.reverse.dropWhile (· != '.')).reverse
  (String.ofList owner, String.ofList name)

def anchor (page : String) (kind : EntryKind) (name : String) : String :=
  page ++ "#" ++ kind.label ++ "." ++ name

def Item.entry (qualifiedName page : String) (item : Item) : Entry where
  owner := qualifiedName ++ "."
  name := item.name
  link := anchor page item.kind.kind item.name
  summary := item.summary
  kind := item.kind.kind

/-- The entries of a declaration; none for a kind that has no page. -/
def Declaration.entries? : Declaration → Option (List Entry)
  | globalConstant name summary =>
    some [⟨"", name, anchor "index.html" .constant name, summary, .constant⟩]
  | typeItem kind qualifiedName summary items =>
    (kind.page? qualifiedName).map fun page =>
      let (owner, name) := splitQualified qualifiedName
      ⟨owner, name, page, summary, kind⟩ :: items.map (Item.entry qualifiedName page)

structure Catalog where
  entries : List Entry
  deriving DecidableEq, Repr

namespace Catalog

def empty : Catalog := ⟨[]⟩

/-- Adds a declaration; tells whether it was accepted. -/
def declare (c : Catalog) (d : Declaration) : Bool × Catalog :=
  match d.entries? with
  | some entries => (true, ⟨c.entries ++ entries⟩)
  | none => (false, c)

def size (c : Catalog) : Nat := c.entries.length

def isEmpty (c : Catalog) : Bool := c.entries.isEmpty

def finish (c : Catalog) : Index := ⟨c.entries⟩

end Catalog

end DocPages
