import DocPages.Score

/-! Entries of the search index and the results a search gives. -/

namespace DocPages

structure Entry where
  /-- The qualified name of the owner with its final dot, or nothing. -/
  owner : String
  name : String
  link : String
  /-- Trusted markup. -/
  summary : String
  kind : EntryKind
  deriving DecidableEq, Repr

structure Index where
  entries : List Entry
  deriving DecidableEq, Repr

namespace Index

def size (index : Index) : Nat := index.entries.length

def isEmpty (index : Index) : Bool := index.entries.isEmpty

end Index

/-- An entry that a query matches. -/
structure Ranked where
  entry : Entry
  score : Score
  /-- Offsets, in characters, of the matched part of the name. -/
  positions : List Nat
  deriving DecidableEq, Repr

end DocPages
