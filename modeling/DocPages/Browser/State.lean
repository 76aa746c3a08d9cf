import DocPages.Browser.Value
import DocPages.Document.Tree
import DocPages.Page

/-! A browser that shows one document. -/

namespace DocPages

namespace Browser

/-- What the window answers to a media query. -/
inductive Media where
  | list (holds : Bool)
  | missing
  | throws
  deriving DecidableEq, Repr

inductive Target where
  | element (key : Nat)
  | window
  | mediaList
  deriving DecidableEq, Repr

/-- What a listener does for its page. -/
inductive Handler where
  | sectionButton (id : String)
  | sidebarLink
  | headerButton
  /-- Only for transitions of the sidebar itself. -/
  | transitionEnd (sidebar : Nat)
  | viewport
  | width
  | search (input : Nat) (index : Index)
  | escape
  | focusOut (container : Nat)
  deriving DecidableEq, Repr

structure Listener where
  target : Target
  type : String
  page : Nat
  handler : Handler
  deriving DecidableEq, Repr

/-- Work that goes on after the event that caused it. -/
inductive Task where
  | load (page : Nat)
  | loaded (page : Nat) (reply : FetchReply)
  | search (page : Nat) (search : Search)

/-- The focused element. -/
structure Focus where
  key : Nat
  id : String
  deriving DecidableEq, Repr

end Browser

structure Browser where
  hasWindow : Bool
  hasDocument : Bool
  hasTimers : Bool
  media : Browser.Media
  width : Browser.Width
  tree : ElementTree
  focus : Option Browser.Focus
  /-- The pages that were started in the document. -/
  pages : List Page
  listeners : List Browser.Listener
  /-- Tasks that can run, in the order in which they became ready. -/
  ready : List Browser.Task
  /-- Tasks that wait for a timer. -/
  timers : List Browser.Task
  /-- Pages that wait for their index. -/
  waiting : List Nat
  fetched : List String
  queries : List String
  /-- Panics are reported. -/
  hooked : Bool
  console : List Notice

namespace Browser

def report (b : Browser) (notices : List Notice) : Browser :=
  { b with console := b.console ++ notices }

def listen (b : Browser) (target : Target) (type : String) (page : Nat) (handler : Handler) :
    Browser := { b with listeners := b.listeners ++ [⟨target, type, page, handler⟩] }

def listenersAt (b : Browser) (target : Target) (type : String) : List Listener :=
  b.listeners.filter fun l => l.target == target && l.type == type

/-- The listeners that an event at an element reaches, from the inside out. -/
def listenersAlong (b : Browser) (path : List Nat) (type : String) : List Listener :=
  path.flatMap fun key => b.listenersAt (.element key) type

/-- Lets a page react to an event. -/
def onPage (b : Browser) (i : Nat) (act : Page → ElementTree → Page × ElementTree × List Notice) :
    Browser :=
  match b.pages[i]? with
  | none => b
  | some page =>
    let (page, tree, notices) := act page b.tree
    { b with pages := b.pages.set i page, tree := tree }.report notices

end Browser

end DocPages
