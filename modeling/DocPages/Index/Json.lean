import DocPages.Entry
import DocPages.Json.Record
import DocPages.Json.Write

/-! The stored form of the search index. -/

namespace DocPages

open Json

def EntryKind.reader : Reader EntryKind := readVariant fun name => .ok (EntryKind.ofName name)

def EntryKind.parse (text : String) : Except Json.Error EntryKind :=
  Json.parse EntryKind.reader text

def Entry.shape : Shape Entry where
  title := "struct SearchEntry"
  blank := ⟨"", "", "", "", .unknown⟩
  required := true
  fields :=
    [.of "name_prelude" readText fun e s => { e with owner := s },
     .of "name" readText fun e s => { e with name := s },
     .of "link" readText fun e s => { e with link := s },
     .of "desc" readText fun e s => { e with summary := s },
     .of "kind" EntryKind.reader fun e k => { e with kind := k }]

def Entry.write (e : Entry) : List Char :=
  writeObject
    [("name_prelude", writeText e.owner), ("name", writeText e.name), ("link", writeText e.link),
     ("desc", writeText e.summary), ("kind", writeText e.kind.name)]

namespace Index

def shape : Shape Index where
  title := "struct SearchIndex"
  blank := ⟨[]⟩
  required := true
  fields := [.of "results" (readList Entry.shape.read) fun _ entries => ⟨entries⟩]

def write (index : Index) : List Char :=
  writeObject [("results", writeList (index.entries.map Entry.write))]

def toJson (index : Index) : String := String.ofList index.write

def ofJson (text : String) : Except Json.Error Index := Json.parse shape.read text

end Index

end DocPages
