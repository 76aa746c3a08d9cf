import DocPages.Config.Json
import DocPages.Section
import DocPages.Text.Escape

/-! The markup of generated pages. Ids and classes are those that a page looks for. -/

namespace DocPages

namespace Markup

def clickableClass : String := "sidebar_clickable"

/-- The search box, hidden until the page shows it. -/
def searchBox (ids : ElementIds) : String :=
  "<div id=\"" ++ escapeAttr ids.search ++ "\" style=\"display: none\"><input id=\"" ++
    escapeAttr ids.searchInput ++ "\" placeholder=\"Search\" autocomplete=\"off\"/></div>"

/-- The menu button, hidden until the page shows it. -/
def headerButton (ids : ElementIds) : String :=
  "<button id=\"" ++ escapeAttr ids.headerButton ++
    "\" style=\"display: none\" aria-label=\"Toggle navigation\">&#9776;</button>"

/-- One line of the sidebar; without a target it is plain text. -/
structure SidebarLink where
  text : String
  target : Option String
  isHeader : Bool
  deriving DecidableEq, Repr

def sidebarLink (link : SidebarLink) : String :=
  let cssClass := if link.isHeader then "sidebar_header" else "sidebar_link"
  let title := "\" title=\"" ++ escapeAttr link.text ++ "\">" ++ escapeText link.text
  match link.target with
  | some target =>
    "<a class=\"" ++ cssClass ++ " " ++ clickableClass ++ "\" href=\"" ++ escapeAttr target ++
      title ++ "</a>"
  | none => "<p class=\"" ++ cssClass ++ title ++ "</p>"

def sidebar (ids : ElementIds) (links : List SidebarLink) : String :=
  "<nav id=\"" ++ escapeAttr ids.sidebar ++ "\">" ++ String.join (links.map sidebarLink) ++ "</nav>"

/-- A titled section with a button, which the page shows. -/
def collapsibleSection (id title body : String) (collapsed : Bool) : String :=
  let classes := if collapsed then Section.collapsibleClass ++ " " ++ Section.collapsedClass
    else Section.collapsibleClass
  "<section><h2>" ++ escapeText title ++ " <button id=\"" ++ escapeAttr (Section.buttonId id) ++
    "\" class=\"vis_button\" style=\"visibility: hidden\">[-]</button></h2><div id=\"" ++
    escapeAttr id ++ "\" class=\"" ++ classes ++ "\">" ++ body ++ "</div></section>"

end Markup

/-- What a full page is made from. The content is trusted markup. -/
structure PageShell where
  title : String
  stylesheet : String
  script : String
  sidebar : List Markup.SidebarLink
  content : String
  config : Config
  deriving DecidableEq, Repr

namespace PageShell

/-- The configuration, embedded only if it is not the default. -/
def configBlock (config : Config) : String :=
  if config = .default then ""
  else "\n  <script id=\"" ++ configElementId ++ "\" type=\"application/json\">" ++
    escapeScript config.toJson ++ "</script>"

def render (s : PageShell) : String :=
  let title := escapeText s.title
  "<!DOCTYPE html>\n<html lang=\"en\">\n<head>\n  <meta charset=\"UTF-8\">\n  " ++
    "<meta name=\"viewport\" content=\"width=device-width, initial-scale=1.0\">\n  <title>" ++
    title ++ "</title>\n  <link rel=\"stylesheet\" href=\"" ++ escapeAttr s.stylesheet ++ "\">" ++
    configBlock s.config ++ "\n  <script type=\"module\">import init from \"" ++
    escapeAttr s.script ++ "\"; init();</script>\n</head>\n<body>\n  <header>" ++
    Markup.headerButton s.config.ids ++ "<h1>" ++ title ++ "</h1></header>\n  " ++
    Markup.sidebar s.config.ids s.sidebar ++ "\n  <main>\n    " ++ Markup.searchBox s.config.ids ++
    "\n    " ++ s.content ++ "\n  </main>\n</body>\n</html>"

end PageShell

end DocPages
