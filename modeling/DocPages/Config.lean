import DocPages.Text.Breaks

/-! What a page can be told about itself. -/

namespace DocPages

/-- Ids of the elements that a page has to provide. -/
structure ElementIds where
  search : String
  searchInput : String
  searchResults : String
  sidebar : String
  headerButton : String
  deriving DecidableEq, Repr

def ElementIds.default : ElementIds where
  search := "search"
  searchInput := "search_input"
  searchResults := "search_results"
  sidebar := "sidebar"
  headerButton := "header_button"

/-- The most results a page ever shows. -/
def maxShown : Nat := 10

structure Config where
  indexUrl : String
  maxResults : Nat
  /-- The least viewport width of the desktop layout. -/
  breakpoint : Nat
  breakStyle : BreakStyle
  /-- Entries scored between two pauses of a search. -/
  yieldEvery : Nat
  logLevel : String
  ids : ElementIds
  deriving DecidableEq, Repr

namespace Config

def default : Config where
  indexUrl := "search.json"
  maxResults := maxShown
  breakpoint := 481
  breakStyle := .punctuationAndCase
  yieldEvery := 256
  logLevel := "info"
  ids := .default

/-- Results that are kept of a search. -/
def limit (c : Config) : Nat := min c.maxResults maxShown

/-- The media query that holds in the desktop layout. -/
def mediaQuery (c : Config) : String := "(min-width: " ++ toString c.breakpoint ++ "px)"

end Config

/-- The id of the element that holds a page's own configuration. -/
def configElementId : String := "doc_site_config"

end DocPages
