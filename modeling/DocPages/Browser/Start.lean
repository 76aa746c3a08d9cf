import DocPages.Browser.Event
import DocPages.Config.Json
import DocPages.Markup

/-! Starting a page in a document: its configuration and its listeners. -/

namespace DocPages.Browser

/-- The configuration that the document holds, and what was wrong with it if it is not used. -/
def readConfig (tree : ElementTree) : Config × List Notice :=
  match tree.get? configElementId with
  | none => (.default, [])
  | some e =>
    match Config.ofJson e.text with
    | .ok config => (config, [])
    | .error error => (.default, [.defaultConfig error.message])

def wireSections (i : Nat) (b : Browser) (sections : List String) : Browser :=
  sections.foldl (fun b id => match b.tree.get? (Section.buttonId id) with
    | some button => b.listen (.element button.key) "click" i (.sectionButton id)
    | none => b) b

def wireSidebar (i : Nat) (b : Browser) (config : Config) : Browser :=
  let b := (b.tree.withClasses Markup.clickableClass).foldl
    (fun b link => b.listen (.element link.key) "click" i .sidebarLink) b
  let b := match b.tree.get? config.ids.headerButton with
    | some button => b.listen (.element button.key) "click" i .headerButton
    | none => b
  match b.tree.get? config.ids.sidebar with
  | some sidebar =>
    b.listen (.element sidebar.key) "transitionend" i (.transitionEnd sidebar.key)
  | none => b

/-- Follows the media query, or the width of the window if there is no query. -/
def wireLayout (i : Nat) (b : Browser) (config : Config) : Browser × Except Value Unit :=
  let b := { b with queries := b.queries ++ [config.mediaQuery] }
  match b.media with
  | .throws => (b, .error (.text "matchMedia failed"))
  | .missing =>
    (((b.report [.followingWidth]).observeWidth i).listen .window "resize" i .width, .ok ())
  | .list holds =>
    let b := b.onPage i fun page tree => page.onViewport tree holds
    (b.listen .mediaList "change" i .viewport, .ok ())

/-- All listeners of the search are added, or none. -/
def wireSearch (i : Nat) (b : Browser) (config : Config) (index : Index) : Browser :=
  match b.tree.get? config.ids.searchInput, b.tree.get? config.ids.search with
  | none, _ => b.report [.searchNotWired (Value.text "search input missing").shown]
  | some input, search =>
    if !input.isInput then b.report [.searchNotWired (Value.object input.interface).shown]
    else match search with
      | none => b.report [.searchNotWired (Value.text "search container missing").shown]
      | some search =>
        let run := Handler.search input.key index
        let b := b.listen (.element input.key) "input" i run
        let b := b.listen (.element input.key) "focus" i run
        let b := b.listen (.element search.key) "keydown" i .escape
        let b := b.listen (.element search.key) "focusout" i (.focusOut search.key)
        b.report [.searchEnabled index.size]

/-- Starts a page. The index is loaded afterwards. -/
def start (b : Browser) : Browser × Except Value Unit :=
  if !b.hasWindow then (b, .error (.text "no window"))
  else if !b.hasDocument then (b, .error (.text "no document"))
  else
    let (config, notices) := readConfig b.tree
    let b := { b with hooked := true }.report notices
    let page := Page.new config
    let i := b.pages.length
    let (sections, tree, notices) := page.install b.tree
    let b := { b with pages := b.pages ++ [page], tree := tree }.report notices
    let b := wireSidebar i (wireSections i b sections) config
    match wireLayout i b config with
    | (b, .error v) => (b, .error v)
    | (b, .ok ()) => ({ b with ready := b.ready ++ [.load i] }, .ok ())

end DocPages.Browser
