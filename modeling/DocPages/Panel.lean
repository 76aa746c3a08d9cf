import DocPages.Config
import DocPages.Entry
import DocPages.Highlight
import DocPages.Text.Escape

/-! The markup of the result panel. -/

namespace DocPages

namespace Panel

def text (style : BreakStyle) (s : String) : String := escapeText (insertBreaks style s)

def segment (style : BreakStyle) (s : Segment) : String :=
  if s.isMatch then "<span class=\"highlight_emphasis\">" ++ text style s.text ++ "</span>"
  else text style s.text

/-- A name with its matched runs emphasised. -/
def highlightedName (style : BreakStyle) (name : String) (positions : List Nat) : String :=
  String.join ((highlightSegments name positions).map (segment style))

/-- One result; all but the last have a border below. -/
def block (style : BreakStyle) (border : Bool) (r : Ranked) : String :=
  "<a href=\"" ++ escapeAttr r.entry.link ++
    "\" class=\"search_result_link\"><div class=\"search_result" ++
    (if border then " search_result_border" else "") ++
    "\"><div class=\"search_text search_kind\">" ++ r.entry.kind.label ++
    "</div><div class=\"search_text search_name\">" ++ text style r.entry.owner ++
    "<span class=\"" ++ r.entry.kind.cssClass ++ "\">" ++
    highlightedName style r.entry.name r.positions ++
    "</span></div><div class=\"search_text search_desc\">" ++ r.entry.summary ++
    "</div></div></a>"

def blocks (style : BreakStyle) : List Ranked → List String
  | [] => []
  | [r] => [block style false r]
  | r :: rs => block style true r :: blocks style rs

end Panel

/-- The panel for a list of results, none if there is nothing to show. -/
def panelHtml (config : Config) (results : List Ranked) : Option String :=
  if results.isEmpty then none
  else some ("<div id=\"" ++ escapeAttr config.ids.searchResults ++ "\">" ++
    String.join (Panel.blocks config.breakStyle (results.take config.limit)) ++ "</div>")

end DocPages
