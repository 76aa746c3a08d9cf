import DocPages.Config
import DocPages.Panel
import DocPages.Section
import DocPages.Session
import DocPages.Sidebar

/-! The state of a page beside its document, and what each event does to both. -/

namespace DocPages

open Document

structure Page where
  config : Config
  sidebar : Sidebar
  layout : Option Layout
  session : Session
  deriving DecidableEq, Repr

namespace Page

def new (config : Config) : Page :=
  ⟨config, .initial, none, .new ⟨config.limit, config.yieldEvery⟩⟩

variable {δ : Type} [Document δ]

/-- Shows an element that the stylesheet hides. -/
def reveal (d : δ) (id : String) : δ × List Notice :=
  match setStyle d id "display" "block" with
  | some d => (d, [])
  | none => (d, [.elementMissing id])

/-- Prepares the sections and shows the search box and the header button; the answer lists the
sections that have a button. -/
def install (p : Page) (d : δ) : List String × δ × List Notice :=
  let (sections, d, forSections) := Section.install d
  let (d, forSearch) := reveal d p.config.ids.search
  let (d, forButton) := reveal d p.config.ids.headerButton
  (sections, d, forSections ++ forSearch ++ forButton ++ [.pageInstalled sections.length])

/-- Takes over the effect of an event on the sidebar. -/
def apply (p : Page) (d : δ) (e : Sidebar.Effect) : Page × δ × List Notice :=
  ({ p with sidebar := e.state }, applyEdits d p.config.ids.sidebar e.edits, e.notices)

def observe (p : Page) (d : δ) (layout : Layout) : Page × δ × List Notice :=
  let changed := if p.layout = some layout then [] else [Notice.layoutChanged layout]
  let (p, d, notices) := apply { p with layout := some layout } d (p.sidebar.applyLayout layout)
  (p, d, changed ++ notices)

/-- The desktop media query holds or does not. -/
def onViewport (p : Page) (d : δ) (desktop : Bool) : Page × δ × List Notice :=
  p.observe d (.ofQuery desktop)

def onWidth (p : Page) (d : δ) (width : Nat) : Page × δ × List Notice :=
  p.observe d (.ofWidth p.config.breakpoint width)

def onHeaderButton (p : Page) (d : δ) : Page × δ × List Notice := p.apply d p.sidebar.toggle

def onSidebarLink (p : Page) (d : δ) : Page × δ × List Notice := p.apply d p.sidebar.close

def onTransitionEnd (p : Page) (d : δ) : Page × δ × List Notice := p.apply d p.sidebar.transitionEnd

/-- Starts a search in place of the one before. -/
def startSearch (p : Page) (query : String) (index : Index) : Search × Page :=
  let (search, session) := p.session.search query index
  (search, { p with session := session })

/-- Takes the result panel away, if there is one. -/
def clearResults (p : Page) (d : δ) : δ := (remove d p.config.ids.searchResults).getD d

/-- Puts a panel into a document that has none; the answer is how many results it shows. -/
def presentResults (p : Page) (d : δ) (results : List Ranked) : Nat × δ × List Notice :=
  match panelHtml p.config results with
  | none => (0, d, [])
  | some html =>
    match append d p.config.ids.search p.config.ids.searchResults html with
    | none => (0, d, [.containerMissing p.config.ids.search])
    | some d => (min results.length p.config.limit, d, [])

def showResults (p : Page) (d : δ) (results : List Ranked) : Nat × δ × List Notice :=
  p.presentResults (p.clearResults d) results

/-- The focus left the search area. -/
def dismiss (p : Page) (d : δ) : Page × δ :=
  ({ p with session := p.session.cancel }, p.clearResults d)

end Page

end DocPages
