import DocPages.Browser.Focus

/-! Events and what the listeners do with them. -/

namespace DocPages.Browser

structure Event where
  target : Option Nat
  key : String
  /-- The media query holds now. -/
  holds : Bool

def observeWidth (b : Browser) (i : Nat) : Browser :=
  match b.width.pixels? with
  | some px => b.onPage i fun page tree => page.onWidth tree px
  | none => b

/-- Takes the focus away from an element that has it. -/
def blur (b : Browser) (key : Nat) : Browser :=
  if (b.tree.getKey? key).any (·.isHtml) && b.focus.any (·.key == key) then b.moveFocus none else b

def handle (e : Event) (b : Browser) (l : Listener) : Browser :=
  match l.handler with
  | .sectionButton id => b.onPage l.page fun page tree =>
      (page, ((Section.toggle tree id).map (·.2)).getD tree, [])
  | .sidebarLink => b.onPage l.page Page.onSidebarLink
  | .headerButton => b.onPage l.page Page.onHeaderButton
  | .transitionEnd sidebar =>
    if e.target = some sidebar then b.onPage l.page Page.onTransitionEnd else b
  | .viewport => b.onPage l.page fun page tree => page.onViewport tree e.holds
  | .width => b.observeWidth l.page
  | .search input index => b.startSearch l.page input index
  | .escape =>
    match e.target with
    | some key => if e.key = "Escape" then b.blur key else b
    | none => b
  | .focusOut _ => b.dismissResults l.page

/-- Dispatches an event at an element. All types bubble but `focus`. -/
def dispatch (b : Browser) (key : Nat) (type keyName : String) : Browser :=
  let path := if type = "focus" then [key] else b.tree.path key
  (b.listenersAlong path type).foldl (handle ⟨some key, keyName, false⟩) b

def dispatchAt (b : Browser) (target : Target) (type : String) (holds : Bool) : Browser :=
  (b.listenersAt target type).foldl (handle ⟨none, "", holds⟩) b

end DocPages.Browser
