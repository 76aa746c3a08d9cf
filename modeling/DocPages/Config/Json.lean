import DocPages.Config
import DocPages.Json.Record
import DocPages.Json.Write

/-! The stored form of a configuration, and the limits it has to keep. -/

namespace DocPages

open Json

def BreakStyle.reader : Reader BreakStyle := readVariant fun name =>
  match BreakStyle.ofName? name with
  | some style => .ok style
  | none => .error (.unknownVariant name [punctuation.name, punctuationAndCase.name])

def ElementIds.shape : Shape ElementIds where
  title := "struct ElementIds"
  blank := .default
  required := false
  fields :=
    [.of "search" readText fun ids s => { ids with search := s },
     .of "search_input" readText fun ids s => { ids with searchInput := s },
     .of "search_results" readText fun ids s => { ids with searchResults := s },
     .of "sidebar" readText fun ids s => { ids with sidebar := s },
     .of "header_button" readText fun ids s => { ids with headerButton := s }]

def ElementIds.write (ids : ElementIds) : List Char :=
  writeObject
    [("search", writeText ids.search), ("search_input", writeText ids.searchInput),
     ("search_results", writeText ids.searchResults), ("sidebar", writeText ids.sidebar),
     ("header_button", writeText ids.headerButton)]

inductive ConfigError where
  | json (error : Json.Error)
  | zero (field : String)
  | tooLarge (field : String) (greatest : Nat)
  deriving DecidableEq, Repr

def ConfigError.message : ConfigError → String
  | json error => "invalid site configuration: " ++ error.message
  | zero field => "`" ++ field ++ "` must be greater than zero"
  | tooLarge field greatest => "`" ++ field ++ "` must be at most " ++ toString greatest

namespace Config

/-- A size is read as a word of 64 bits. A target with words of 32 bits, as a page runs on, refuses
sizes from 2^32 on, as `readWidth` does; smaller ones are read alike. -/
def readSize : Reader Nat := readNat "usize" maxNatural

def readWidth : Reader Nat := readNat "u32" 4294967295

def shape : Shape Config where
  title := "struct SiteConfig"
  blank := .default
  required := false
  fields :=
    [.of "index_url" readText fun c s => { c with indexUrl := s },
     .of "max_results" readSize fun c n => { c with maxResults := n },
     .of "breakpoint_px" readWidth fun c n => { c with breakpoint := n },
     .of "break_style" BreakStyle.reader fun c s => { c with breakStyle := s },
     .of "yield_every" readSize fun c n => { c with yieldEvery := n },
     .of "log_level" readText fun c s => { c with logLevel := s },
     .of "ids" ElementIds.shape.read fun c ids => { c with ids := ids }]

def write (c : Config) : List Char :=
  writeObject
    [("index_url", writeText c.indexUrl), ("max_results", writeNat c.maxResults),
     ("breakpoint_px", writeNat c.breakpoint), ("break_style", writeText c.breakStyle.name),
     ("yield_every", writeNat c.yieldEvery), ("log_level", writeText c.logLevel),
     ("ids", c.ids.write)]

def toJson (c : Config) : String := String.ofList c.write

/-- The first limit that is not kept. -/
def violation? (c : Config) : Option ConfigError :=
  if c.maxResults = 0 then some (.zero "max_results")
  else if maxShown < c.maxResults then some (.tooLarge "max_results" maxShown)
  else if c.yieldEvery = 0 then some (.zero "yield_every")
  else if c.breakpoint = 0 then some (.zero "breakpoint_px")
  else none

/-- A configuration that may leave out fields. -/
def ofJson (text : String) : Except ConfigError Config :=
  match Json.parse shape.read text with
  | .error e => .error (.json e)
  | .ok c =>
    match c.violation? with
    | some e => .error e
    | none => .ok c

end Config

end DocPages
