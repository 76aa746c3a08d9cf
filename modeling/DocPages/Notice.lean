import DocPages.Layout
import DocPages.Text.Blank
import DocPages.Text.Shown

/-! What the library reports while it works. -/

namespace DocPages

inductive Level where
  | error
  | warn
  | info
  | debug
  deriving DecidableEq, Repr

namespace Level

def name : Level → String
  | error => "ERROR"
  | warn => "WARN"
  | info => "INFO"
  | debug => "DEBUG"

/-- The console method for a level. -/
def method : Level → String
  | error => "error"
  | warn => "warn"
  | info => "info"
  | debug => "debug"

end Level

/-- Where a panic's text comes from: anything but text has none. -/
inductive PanicPayload where
  | text (s : String)
  | other
  deriving DecidableEq, Repr

inductive Notice where
  | sectionWithoutButton (id : String)
  | elementMissing (id : String)
  | pageInstalled (sections : Nat)
  | layoutChanged (layout : Layout)
  | sidebarOpened
  | sidebarClosing
  | rankingCancelled (query : String) (scored : Nat)
  | fetchingIndex (url : String)
  | indexLoaded (entries : Nat) (url : String)
  | containerMissing (parent : String)
  | indexWritten (entries : Nat) (dir : String)
  | defaultConfig (error : String)
  | followingWidth
  | searchEnabled (entries : Nat)
  /-- The search could not be set up; `thrown` is the shown form of a thrown value. -/
  | searchNotWired (thrown : String)
  | indexUnavailable (error : String) (url : String)
  | reentrantEvent
  | panic (payload : PanicPayload)
  deriving DecidableEq, Repr

/-- The value of a field; a quoted one is shown in quotes on the console. -/
inductive FieldValue where
  | plain (s : String)
  | quoted (s : String)
  deriving DecidableEq, Repr

namespace FieldValue

def raw : FieldValue → String
  | plain s | quoted s => s

def shown : FieldValue → String
  | plain s => s
  | quoted s => showText s

end FieldValue

namespace Notice

def level : Notice → Level
  | indexLoaded .. | indexWritten .. => .info
  | defaultConfig _ | followingWidth => .warn
  | searchNotWired _ | indexUnavailable .. | panic _ => .error
  | _ => .debug

/-- The part of the library that speaks. -/
def origin : Notice → String
  | sectionWithoutButton _ => "doc_site::collapsible"
  | elementMissing _ | pageInstalled _ => "doc_site::page"
  | layoutChanged _ => "doc_site::layout"
  | sidebarOpened | sidebarClosing => "doc_site::sidebar"
  | rankingCancelled .. => "doc_site::matcher"
  | fetchingIndex _ | indexLoaded .. => "doc_site::loader"
  | containerMissing _ => "doc_site::render"
  | indexWritten .. => "doc_site::site"
  | defaultConfig _ | followingWidth | searchEnabled _ | searchNotWired _ | indexUnavailable ..
  | reentrantEvent => "doc_site::web"
  | panic _ => "doc_site::logging"

def message : Notice → String
  | sectionWithoutButton _ => "collapsible without a button"
  | elementMissing _ => "element missing, left hidden"
  | pageInstalled _ => "page installed"
  | layoutChanged _ => "layout changed"
  | sidebarOpened => "sidebar opened"
  | sidebarClosing => "sidebar closing"
  | rankingCancelled .. => "ranking cancelled"
  | fetchingIndex _ => "fetching search index"
  | indexLoaded .. => "search index loaded"
  | containerMissing _ => "search container missing, results dropped"
  | indexWritten .. => "wrote search index"
  | defaultConfig _ => "using default configuration"
  | followingWidth => "matchMedia unavailable, following window width"
  | searchEnabled _ => "search enabled"
  | searchNotWired _ | indexUnavailable .. => "search unavailable"
  | reentrantEvent => "re-entrant event ignored"
  | panic (.text s) => "Panic occurred at LOCATION: " ++ s
  | panic .other => "Panic occurred at LOCATION: Unknown panic message"

def fields : Notice → List (String × FieldValue)
  | sectionWithoutButton id => [("section", .plain id)]
  | elementMissing id => [("id", .plain id)]
  | pageInstalled n => [("sections", .plain (toString n))]
  | layoutChanged layout => [("layout", .plain layout.name)]
  | rankingCancelled query n => [("query", .quoted query), ("scored", .plain (toString n))]
  | fetchingIndex url => [("url", .plain url)]
  | indexLoaded n url => [("entries", .plain (toString n)), ("url", .plain url)]
  | containerMissing parent => [("parent", .plain parent)]
  | indexWritten n dir => [("entries", .plain (toString n)), ("dir", .plain dir)]
  | defaultConfig error => [("err", .plain error)]
  | searchEnabled n => [("entries", .plain (toString n))]
  | searchNotWired thrown => [("err", .plain thrown)]
  | indexUnavailable error url => [("err", .plain error), ("url", .quoted url)]
  | sidebarOpened | sidebarClosing | followingWidth | reentrantEvent | panic _ => []

/-- Characters that could steer a terminal are shown by their codes in a message: in two digits
if they are ASCII. The fields stay as they are. -/
def quietChar (c : Char) : String :=
  if ['\x07', '\x08', '\x0c', '\x1b', '\x7f'].contains c then
    "\\x" ++ (if c.toNat < 16 then "0" else "") ++ hexDigits c.toNat
  else if 0x80 ≤ c.toNat && c.toNat ≤ 0x9f then showCode c
  else c.toString

def consoleMessage (n : Notice) : String := String.join (n.message.toList.map quietChar)

def trimEnd (s : String) : String := String.ofList (s.toList.reverse.dropWhile isBlank).reverse

/-- The line on the console: the level in five columns, the speaker, the message, the fields. -/
def consoleLine (n : Notice) : String :=
  let level := String.ofList (List.replicate (5 - n.level.name.length) ' ') ++ n.level.name
  let fields := n.fields.map fun (name, value) => " " ++ name ++ "=" ++ value.shown
  trimEnd (level ++ " " ++ n.origin ++ ": " ++ n.consoleMessage ++ String.join fields)

end Notice

end DocPages
