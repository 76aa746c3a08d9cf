import DocPages.Browser.State

/-! Moving the focus, and taking elements away that hold it. While the focus leaves an element
nothing is focused, so what the listeners then take away does not hold the focus. -/

namespace DocPages.Browser

/-- What is going on while an event is dispatched. -/
inductive Busy where
  | free
  /-- A method of this page is running: the page cannot react. -/
  | inPage (page : Nat)
  /-- This page's own listener is running, and is not entered again. -/
  | inListener (page : Nat)
  deriving DecidableEq, Repr

/-- The focus left an element for another or for nothing. A page whose search area it left drops
its results. -/
def focusLeft (b : Browser) (busy : Busy) (target : Nat) (related : Option Nat) : Browser :=
  (b.listenersAlong (b.tree.path target) "focusout").foldl
    (fun b l => match l.handler with
      | .focusOut container =>
        if busy = .inListener l.page || related.any (b.tree.contains container) then b
        else if busy = .inPage l.page then b.report [.reentrantEvent]
        else b.onPage l.page fun page tree =>
          let (page, tree) := page.dismiss tree
          (page, tree, [])
      | _ => b) b

/-- Takes an element out of the document; if it holds the focus, that is lost first. -/
def removeKey (b : Browser) (busy : Busy) (key : Nat) : Browser :=
  let b := match b.focus with
    | some focus =>
      if b.tree.contains key focus.key then
        { b with focus := none }.focusLeft busy focus.key none
      else b
    | none => b
  { b with tree := b.tree.removeKey key }

/-- Takes the first element with an id out of the document, if there is one. -/
def removeId (b : Browser) (busy : Busy) (id : String) : Bool × Browser :=
  match b.tree.get? id with
  | some e => (true, b.removeKey busy e.key)
  | none => (false, b)

/-- Puts the results of a search in place of those shown before. -/
def showResults (b : Browser) (i : Nat) (results : List Ranked) : Browser :=
  match b.pages[i]? with
  | none => b
  | some page =>
    let (_, b) := b.removeId (.inPage i) page.config.ids.searchResults
    let (_, tree, notices) := page.presentResults b.tree results
    { b with tree := tree }.report notices

/-- Drops a page's results on behalf of its listener. -/
def dismissResults (b : Browser) (i : Nat) : Browser :=
  match b.pages[i]? with
  | none => b
  | some page =>
    let page := { page with session := page.session.cancel }
    let b := { b with pages := b.pages.set i page }
    (b.removeId (.inListener i) page.config.ids.searchResults).2

/-- Starts a search for what stands in the input field. -/
def startSearch (b : Browser) (i : Nat) (input : Nat) (index : Index) : Browser :=
  match b.pages[i]? with
  | none => b
  | some page =>
    let query := ((b.tree.getKey? input).map (·.value)).getD ""
    let (search, page) := page.startSearch query index
    { b with pages := b.pages.set i page, ready := b.ready ++ [.search i search] }

/-- Moves the focus to an element or to nothing. An input field that gets it starts a search. -/
def moveFocus (b : Browser) (new : Option Focus) : Browser :=
  if new.map Focus.key = b.focus.map Focus.key then b
  else
    let b := match b.focus with
      | some old => { b with focus := none }.focusLeft .free old.key (new.map Focus.key)
      | none => b
    match new with
    | none => b
    | some focus =>
      (b.listenersAt (.element focus.key) "focus").foldl
        (fun b l => match l.handler with
          | .search input index => b.startSearch l.page input index
          | _ => b) { b with focus := some focus }

end DocPages.Browser
