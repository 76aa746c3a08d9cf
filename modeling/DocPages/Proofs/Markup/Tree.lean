import DocPages.Markup
import DocPages.Proofs.Html.Tree

/-! A generated page as a reader of markup sees it: every text, id and address stands in one place
of a tree that depends on nothing else. -/

namespace DocPages

open Html Html.Node

namespace Markup

/-- Content made of escaped text and collapsible sections, which may be nested. -/
inductive Content where
  | empty
  | text (s : String) (rest : Content)
  | collapsible (id title : String) (collapsed : Bool) (body rest : Content)
  deriving DecidableEq, Repr

def Content.html : Content → String
  | .empty => ""
  | .text s rest => escapeText s ++ rest.html
  | .collapsible id title collapsed body rest =>
    collapsibleSection id title body.html collapsed ++ rest.html

def sectionClass (collapsed : Bool) : String :=
  if collapsed then "collapsible collapsed_by_default" else "collapsible"

def sectionButton (id : String) : Node :=
  .element "button" [("id", Section.buttonId id), ("class", "vis_button"),
    ("style", "visibility: hidden")] (Html.text "[-]")

def Content.nodes : Content → List Node
  | .empty => []
  | .text s rest => Html.text s ++ rest.nodes
  | .collapsible id title collapsed body rest =>
    .element "section" []
      [.element "h2" [] (Html.text title ++ Html.text " " ++ [sectionButton id]),
        .element "div" [("id", id), ("class", sectionClass collapsed)] body.nodes] :: rest.nodes

set_option maxRecDepth 1000 in
theorem runs_collapsibleSection (id title : String) (collapsed : Bool) {body : String}
    {nodes : List Node} (h : Runs .data body (tokensAll nodes) .data) :
    Runs .data (collapsibleSection id title body collapsed) (tokensAll [.element "section" []
      [.element "h2" [] (Html.text title ++ Html.text " " ++ [sectionButton id]),
        .element "div" [("id", id), ("class", sectionClass collapsed)] nodes]]) .data := by
  have hopen : Runs .data "<section><h2>" [.opening "section" [], .opening "h2" []] .data :=
    .text rfl
  have hbutton : Runs .data " <button id=\"" (chars " ".toList) (.inValue "button" [] "id" []) :=
    .text rfl
  have hlabel (value : List Char) : Runs (.inValue "button" [] "id" value)
      "\" class=\"vis_button\" style=\"visibility: hidden\">[-]</button></h2><div id=\""
      (.opening "button" [("id", String.ofList value), ("class", "vis_button"),
        ("style", "visibility: hidden")] :: chars "[-]".toList ++
          [.closing "button", .closing "h2"]) (.inValue "div" [] "id" []) := .text rfl
  have hid (value : List Char) : Runs (.inValue "div" [] "id" value) "\" class=\"" []
      (.inValue "div" [("id", String.ofList value)] "class" []) := .text rfl
  have hclass (attrs : Attrs) : Runs (.inValue "div" attrs "class" [])
      (if collapsed then Section.collapsibleClass ++ " " ++ Section.collapsedClass
        else Section.collapsibleClass) []
      (.inValue "div" attrs "class" (sectionClass collapsed).toList) := by
    have hname : (if collapsed then Section.collapsibleClass ++ " " ++ Section.collapsedClass
        else Section.collapsibleClass) = sectionClass collapsed := by
      cases collapsed <;> decide +kernel
    rw [hname]
    exact runs_plainAttr _ _ _ [] (by cases collapsed <;> decide +kernel)
  have hbody (attrs : Attrs) (value : List Char) : Runs (.inValue "div" attrs "class" value) "\">"
      [.opening "div" (attrs ++ [("class", String.ofList value)])] .data := .text rfl
  have hclose : Runs .data "</div></section>" [.closing "div", .closing "section"] .data :=
    .text rfl
  have hhead := ((hopen.append (runs_escapeText title)).append hbutton).append
    (runs_escapeAttr _ _ _ (Section.buttonId id))
  have hdiv := ((hhead.append (hlabel _)).append (runs_escapeAttr _ _ _ id)).append (hid _)
  unfold collapsibleSection
  refine ((((hdiv.append (hclass _)).append (hbody _ _)).append h).append hclose).of_eq ?_
  simp [sectionButton, tokens, tokensAll]

theorem Content.runs_html (c : Content) : Runs .data c.html (tokensAll c.nodes) .data := by
  induction c with
  | empty => exact .text rfl
  | text s rest ih =>
    rw [html, nodes, tokensAll_append, tokensAll_text]
    exact (runs_escapeText s).append ih
  | collapsible id title collapsed body rest hbody hrest =>
    have hsection := runs_collapsibleSection id title collapsed hbody
    rw [html, nodes, ← List.singleton_append, tokensAll_append]
    exact hsection.append hrest

def searchNode (ids : ElementIds) : Node :=
  .element "div" [("id", ids.search), ("style", "display: none")]
    [.void "input" [("id", ids.searchInput), ("placeholder", "Search"), ("autocomplete", "off")]]

theorem runs_searchBox (ids : ElementIds) :
    Runs .data (searchBox ids) (tokensAll [searchNode ids]) .data := by
  have hopen : Runs .data "<div id=\"" [] (.inValue "div" [] "id" []) := .text rfl
  have hinput (value : List Char) : Runs (.inValue "div" [] "id" value)
      "\" style=\"display: none\"><input id=\""
      [.opening "div" [("id", String.ofList value), ("style", "display: none")]]
      (.inValue "input" [] "id" []) := .text rfl
  have hclose (value : List Char) : Runs (.inValue "input" [] "id" value)
      "\" placeholder=\"Search\" autocomplete=\"off\"/></div>"
      [.void "input" [("id", String.ofList value), ("placeholder", "Search"),
        ("autocomplete", "off")], .closing "div"] .data := .text rfl
  refine ((((hopen.append (runs_escapeAttr _ _ _ ids.search)).append (hinput _)).append
    (runs_escapeAttr _ _ _ ids.searchInput)).append (hclose _)).of_eq ?_
  simp [searchNode, tokens, tokensAll]

def headerButtonNode (ids : ElementIds) : Node :=
  .element "button" [("id", ids.headerButton), ("style", "display: none"),
    ("aria-label", "Toggle navigation")] (Html.text "\u2630")

set_option maxRecDepth 1000 in
theorem runs_headerButton (ids : ElementIds) :
    Runs .data (headerButton ids) (tokensAll [headerButtonNode ids]) .data := by
  have hopen : Runs .data "<button id=\"" [] (.inValue "button" [] "id" []) := .text rfl
  have hclose (value : List Char) : Runs (.inValue "button" [] "id" value)
      "\" style=\"display: none\" aria-label=\"Toggle navigation\">&#9776;</button>"
      (.opening "button" [("id", String.ofList value), ("style", "display: none"),
        ("aria-label", "Toggle navigation")] :: chars "\u2630".toList ++ [.closing "button"])
      .data := .text rfl
  refine ((hopen.append (runs_escapeAttr _ _ _ ids.headerButton)).append (hclose _)).of_eq ?_
  simp [headerButtonNode, tokens, tokensAll]

def linkClass (link : SidebarLink) : String :=
  if link.isHeader then "sidebar_header" else "sidebar_link"

def linkNode (link : SidebarLink) : Node :=
  match link.target with
  | some target =>
    .element "a" [("class", linkClass link ++ " " ++ clickableClass), ("href", target),
      ("title", link.text)] (Html.text link.text)
  | none => .element "p" [("class", linkClass link), ("title", link.text)] (Html.text link.text)

theorem runs_sidebarLink (link : SidebarLink) :
    Runs .data (sidebarLink link) (tokensAll [linkNode link]) .data := by
  have hclass (tag : String) := runs_plainAttr tag [] "class" []
    (show escapeAttr (linkClass link) = linkClass link by
      unfold linkClass
      cases link.isHeader <;> decide +kernel)
  unfold sidebarLink linkNode
  cases link.target with
  | some target =>
    have hopen : Runs .data "<a class=\"" [] (.inValue "a" [] "class" []) := .text rfl
    have hspace (value : List Char) : Runs (.inValue "a" [] "class" value) " " []
        (.inValue "a" [] "class" (value ++ " ".toList)) := .text rfl
    have hclickable (value : List Char) : Runs (.inValue "a" [] "class" value) clickableClass []
        (.inValue "a" [] "class" (value ++ clickableClass.toList)) :=
      runs_plainAttr _ _ _ _ (by decide +kernel)
    have hhref (value : List Char) : Runs (.inValue "a" [] "class" value) "\" href=\"" []
        (.inValue "a" [("class", String.ofList value)] "href" []) := .text rfl
    have htitle (attrs : Attrs) (value : List Char) : Runs (.inValue "a" attrs "href" value)
        "\" title=\"" [] (.inValue "a" (attrs ++ [("href", String.ofList value)]) "title" []) :=
      .text rfl
    have htext (attrs : Attrs) (value : List Char) : Runs (.inValue "a" attrs "title" value) "\">"
        [.opening "a" (attrs ++ [("title", String.ofList value)])] .data := .text rfl
    have hclose : Runs .data "</a>" [.closing "a"] .data := .text rfl
    have hhead := ((((hopen.append (hclass "a")).append (hspace _)).append (hclickable _)).append
      (hhref _)).append (runs_escapeAttr _ _ _ target)
    have htail (attrs : Attrs) (value : List Char) := (((htitle attrs value).append
      (runs_escapeAttr _ _ _ link.text)).append (htext _ _)).append (runs_escapeText link.text)
    refine ((hhead.append (htail _ _)).append hclose).of_eq ?_
    simp [tokens, tokensAll, String.append_assoc]
  | none =>
    have hopen : Runs .data "<p class=\"" [] (.inValue "p" [] "class" []) := .text rfl
    have htitle (value : List Char) : Runs (.inValue "p" [] "class" value) "\" title=\"" []
        (.inValue "p" [("class", String.ofList value)] "title" []) := .text rfl
    have htext (attrs : Attrs) (value : List Char) : Runs (.inValue "p" attrs "title" value) "\">"
        [.opening "p" (attrs ++ [("title", String.ofList value)])] .data := .text rfl
    have hclose : Runs .data "</p>" [.closing "p"] .data := .text rfl
    have htail (value : List Char) := (((htitle value).append
      (runs_escapeAttr _ _ _ link.text)).append (htext _ _)).append (runs_escapeText link.text)
    refine (((hopen.append (hclass "p")).append (htail _)).append hclose).of_eq ?_
    simp [tokens, tokensAll]

def sidebarNode (ids : ElementIds) (links : List SidebarLink) : Node :=
  .element "nav" [("id", ids.sidebar)] (links.map linkNode)

theorem runs_sidebar (ids : ElementIds) (links : List SidebarLink) :
    Runs .data (sidebar ids links) (tokensAll [sidebarNode ids links]) .data := by
  have hopen : Runs .data "<nav id=\"" [] (.inValue "nav" [] "id" []) := .text rfl
  have hid (value : List Char) : Runs (.inValue "nav" [] "id" value) "\">"
      [.opening "nav" [("id", String.ofList value)]] .data := .text rfl
  have hclose : Runs .data "</nav>" [.closing "nav"] .data := .text rfl
  have hlinks := runs_join fun link (_ : link ∈ links) => runs_sidebarLink link
  refine ((((hopen.append (runs_escapeAttr _ _ _ ids.sidebar)).append (hid _)).append
    hlinks).append hclose).of_eq ?_
  simp [sidebarNode, tokens, tokensAll, ← List.map_eq_flatMap]

end Markup

namespace PageShell

open Markup

def configNodes (c : Config) : List Node :=
  if c = .default then []
  else Html.text "\n  " ++ [.element "script" [("id", configElementId),
    ("type", "application/json")] (Html.text (escapeScript c.toJson))]

theorem runs_configBlock (c : Config) :
    Runs .data (configBlock c) (tokensAll (configNodes c)) .data := by
  unfold configBlock configNodes
  split
  · exact .text rfl
  · have hopen : Runs .data "\n  <script id=\"" (chars "\n  ".toList)
        (.inValue "script" [] "id" []) := .text rfl
    have hid : Runs (.inValue "script" [] "id" []) configElementId []
        (.inValue "script" [] "id" configElementId.toList) :=
      runs_plainAttr _ _ _ [] (by decide +kernel)
    have htype (value : List Char) : Runs (.inValue "script" [] "id" value)
        "\" type=\"application/json\">"
        [.opening "script" [("id", String.ofList value), ("type", "application/json")]] (.raw []) :=
      .text rfl
    have hjson : Runs (.raw []) (escapeScript c.toJson ++ "</script>")
        (chars (escapeScript c.toJson).toList ++ [.closing "script"]) .data := by
      apply Runs.script
      rw [escapeScript, String.toList_ofList]
      exact lacks_guardClosers _
    refine (((hopen.append hid).append (htype _)).append hjson).assoc.of_eq ?_
    simp [tokens, tokensAll]

def moduleScript (s : PageShell) : String :=
  "import init from \"" ++ escapeAttr s.script ++ "\"; init();"

def headNode (s : PageShell) : Node :=
  .element "head" [] (Html.text "\n  " ++ [.void "meta" [("charset", "UTF-8")]] ++
    Html.text "\n  " ++ [.void "meta" [("name", "viewport"),
      ("content", "width=device-width, initial-scale=1.0")]] ++
    Html.text "\n  " ++ [.element "title" [] (Html.text s.title)] ++
    Html.text "\n  " ++ [.void "link" [("rel", "stylesheet"), ("href", s.stylesheet)]] ++
    configNodes s.config ++
    Html.text "\n  " ++ [.element "script" [("type", "module")] (Html.text s.moduleScript)] ++
    Html.text "\n")

def bodyNode (s : PageShell) (content : List Node) : Node :=
  .element "body" [] (Html.text "\n  " ++
    [.element "header" [] [headerButtonNode s.config.ids, .element "h1" [] (Html.text s.title)]] ++
    Html.text "\n  " ++ [sidebarNode s.config.ids s.sidebar] ++
    Html.text "\n  " ++ [.element "main" [] (Html.text "\n    " ++ [searchNode s.config.ids] ++
      Html.text "\n    " ++ content ++ Html.text "\n  ")] ++
    Html.text "\n")

def nodes (s : PageShell) (content : List Node) : List Node :=
  Html.text "\n" ++ [.element "html" [("lang", "en")] (Html.text "\n" ++ [s.headNode] ++
    Html.text "\n" ++ [s.bodyNode content] ++ Html.text "\n")]

set_option maxRecDepth 1000 in
theorem runs_render (s : PageShell) {content : List Node}
    (h : Runs .data s.content (tokensAll content) .data) :
    Runs .data s.render (tokensAll (s.nodes content)) .data := by
  have hdoctype : Runs .data
      "<!DOCTYPE html>\n<html lang=\"en\">\n<head>\n  <meta charset=\"UTF-8\">\n  "
      (chars "\n".toList ++ .opening "html" [("lang", "en")] :: chars "\n".toList ++
        .opening "head" [] :: chars "\n  ".toList ++ .void "meta" [("charset", "UTF-8")] ::
        chars "\n  ".toList) .data := .text rfl
  have hmeta : Runs .data
      "<meta name=\"viewport\" content=\"width=device-width, initial-scale=1.0\">\n  <title>"
      (.void "meta" [("name", "viewport"), ("content", "width=device-width, initial-scale=1.0")] ::
        chars "\n  ".toList ++ [.opening "title" []]) .data := .text rfl
  have hlink : Runs .data "</title>\n  <link rel=\"stylesheet\" href=\""
      (.closing "title" :: chars "\n  ".toList)
      (.inValue "link" [("rel", "stylesheet")] "href" []) := .text rfl
  have hsheet (value : List Char) : Runs (.inValue "link" [("rel", "stylesheet")] "href" value)
      "\">" [.void "link" [("rel", "stylesheet"), ("href", String.ofList value)]] .data := .text rfl
  have hmodule : Runs .data "\n  <script type=\"module\">import init from \""
      (chars "\n  ".toList ++ .opening "script" [("type", "module")] ::
        chars "import init from \"".toList) (.raw []) := .text rfl
  have hscript : Runs (.raw []) (escapeAttr s.script) (chars (escapeAttr s.script).toList)
      (.raw []) := .raw (not_mem_escapeAttr _)
  have hheader : Runs (.raw []) "\"; init();</script>\n</head>\n<body>\n  <header>"
      (chars "\"; init();".toList ++ .closing "script" :: chars "\n".toList ++
        .closing "head" :: chars "\n".toList ++ .opening "body" [] :: chars "\n  ".toList ++
        [.opening "header" []]) .data := .text rfl
  have hheading : Runs .data "<h1>" [.opening "h1" []] .data := .text rfl
  have hnav : Runs .data "</h1></header>\n  "
      (.closing "h1" :: .closing "header" :: chars "\n  ".toList) .data := .text rfl
  have hmain : Runs .data "\n  <main>\n    "
      (chars "\n  ".toList ++ .opening "main" [] :: chars "\n    ".toList) .data := .text rfl
  have hcontent : Runs .data "\n    " (chars "\n    ".toList) .data := .text rfl
  have hend : Runs .data "\n  </main>\n</body>\n</html>"
      (chars "\n  ".toList ++ .closing "main" :: chars "\n".toList ++
        .closing "body" :: chars "\n".toList ++ [.closing "html"]) .data := .text rfl
  have htitle := runs_escapeText s.title
  have hhead := ((((((hdoctype.append hmeta).append htitle).append hlink).append
    (runs_escapeAttr _ _ _ s.stylesheet)).append (hsheet _)).append
    (runs_configBlock s.config)).append hmodule
  have hbody := (((((hhead.append hscript).append hheader).append
    (runs_headerButton s.config.ids)).append hheading).append htitle).append hnav
  refine ((((((hbody.append (runs_sidebar s.config.ids s.sidebar)).append hmain).append
    (runs_searchBox s.config.ids)).append hcontent).append h).append hend).of_eq ?_
  have hmoduleScript : chars s.moduleScript.toList = chars "import init from \"".toList ++
      chars (escapeAttr s.script).toList ++ chars "\"; init();".toList := chars_toList_append _ _ _
  simp only [nodes, headNode, bodyNode, tokens, tokensAll, tokensAll_append, tokensAll_text,
    hmoduleScript, String.ofList_toList, List.append_assoc, List.cons_append, List.nil_append,
    List.append_nil]

end PageShell

end DocPages
