import DocPages.Proofs.Html.Elements
import DocPages.Proofs.Markup.Tree
import DocPages.Proofs.Page.Installed

/-! The elements of a generated page that a page looks for. All others have neither an id nor a
class, so what is found by either is put together from the header button, the sidebar, the search
box and the content. -/

namespace DocPages

open Html Html.Node

/-- An element that a page never looks for. -/
def Html.Element.Plain (e : Element) : Prop := e.id = "" ∧ e.classes = []

theorem Html.Element.Plain.hasClass {e : Element} (h : e.Plain) (c : String) :
    e.hasClass c = false := by
  rw [Element.hasClass, h.2]
  rfl

theorem Html.Element.Plain.unnamed {e : Element} (h : e.Plain) : (!e.id.isEmpty) = false := by
  rw [h.1]
  rfl

namespace Markup.Content

/-- The sections in document order, each with whether it starts collapsed. -/
def sections : Content → List (String × Bool)
  | .empty => []
  | .text _ rest => rest.sections
  | .collapsible id _ collapsed body rest => (id, collapsed) :: body.sections ++ rest.sections

def sectionIds (c : Content) : List String := c.sections.map (·.1)

def buttonElement (id : String) : Element :=
  ⟨"button", [("id", Section.buttonId id), ("class", "vis_button"),
    ("style", "visibility: hidden")], "[-]".toList⟩

def sectionElement (id : String) (collapsed : Bool) (text : List Char) : Element :=
  ⟨"div", [("id", id), ("class", sectionClass collapsed)], text⟩

@[simp] theorem id_buttonElement (id : String) : (buttonElement id).id = Section.buttonId id := rfl

@[simp] theorem id_sectionElement (id : String) (collapsed : Bool) (text : List Char) :
    (sectionElement id collapsed text).id = id := rfl

end Markup.Content

theorem Html.Element.plain_mk {name : String} {attrs : Attrs} (hid : attrs.lookup "id" = none)
    (hclass : attrs.lookup "class" = none) (text : List Char) :
    (Element.mk name attrs text).Plain := by
  have hno : (Element.mk name attrs text).attr? "id" = none := hid
  exact ⟨by rw [Element.id, hno, Option.getD_none], Element.classes_eq_nil hclass⟩

section Structure

open Markup PageShell

variable {p : Element → Bool} (hp : ∀ e, e.Plain → p e = false)

include hp

theorem select_plain {name : String} {attrs : Attrs} (hid : attrs.lookup "id" = none)
    (hclass : attrs.lookup "class" = none) (children : List Node) :
    select p [.element name attrs children] = select p children := by
  rw [select_element]
  simp [hp _ (Element.plain_mk hid hclass _)]

theorem select_plain_void {name : String} {attrs : Attrs} (hid : attrs.lookup "id" = none)
    (hclass : attrs.lookup "class" = none) : select p [.void name attrs] = [] := by
  rw [select_void]
  simp [hp _ (Element.plain_mk hid hclass _)]

theorem select_headNode (s : PageShell) :
    select p [s.headNode] = select p (configNodes s.config) := by
  have hcharset : select p [.void "meta" [("charset", "UTF-8")]] = [] :=
    select_plain_void hp rfl rfl
  have hviewport : select p [.void "meta" [("name", "viewport"),
      ("content", "width=device-width, initial-scale=1.0")]] = [] := select_plain_void hp rfl rfl
  have htitle : select p [.element "title" [] (Html.text s.title)] = [] := by
    rw [select_plain hp rfl rfl, select_text]
  have hsheet : select p [.void "link" [("rel", "stylesheet"), ("href", s.stylesheet)]] = [] :=
    select_plain_void hp rfl rfl
  have hmodule : select p [.element "script" [("type", "module")] (Html.text s.moduleScript)] =
      [] := by
    rw [select_plain hp rfl rfl, select_text]
  rw [headNode, select_plain hp rfl rfl]
  simp only [select_append, select_text, hcharset, hviewport, htitle, hsheet, hmodule,
    List.nil_append, List.append_nil]

theorem select_bodyNode (s : PageShell) (content : List Node) :
    select p [s.bodyNode content] = select p [headerButtonNode s.config.ids] ++
      select p [sidebarNode s.config.ids s.sidebar] ++ select p [searchNode s.config.ids] ++
      select p content := by
  have hheading : select p [.element "h1" [] (Html.text s.title)] = [] := by
    rw [select_plain hp rfl rfl, select_text]
  have hheader : select p [.element "header" [] [headerButtonNode s.config.ids,
      .element "h1" [] (Html.text s.title)]] = select p [headerButtonNode s.config.ids] := by
    rw [select_plain hp rfl rfl, select_cons, hheading, List.append_nil]
  have hmain : select p [.element "main" [] (Html.text "\n    " ++ [searchNode s.config.ids] ++
      Html.text "\n    " ++ content ++ Html.text "\n  ")] =
        select p [searchNode s.config.ids] ++ select p content := by
    rw [select_plain hp rfl rfl]
    simp only [select_append, select_text, List.nil_append, List.append_nil]
  rw [bodyNode, select_plain hp rfl rfl]
  simp only [select_append, select_text, hheader, hmain, List.nil_append, List.append_nil]
  simp only [List.append_assoc]

theorem select_nodes (s : PageShell) (content : List Node) :
    select p (s.nodes content) = select p (configNodes s.config) ++
      (select p [headerButtonNode s.config.ids] ++ select p [sidebarNode s.config.ids s.sidebar] ++
        select p [searchNode s.config.ids] ++ select p content) := by
  rw [nodes, select_append, select_text, select_plain hp rfl rfl]
  simp only [select_append, select_text, select_headNode hp, select_bodyNode hp, List.nil_append,
    List.append_nil]

end Structure

namespace Markup.Content

theorem elementsAll_collapsible (id title : String) (collapsed : Bool) (body rest : Content) :
    ∃ whole heading, elementsAll (collapsible id title collapsed body rest).nodes =
      ⟨"section", [], whole⟩ :: ⟨"h2", [], heading⟩ :: buttonElement id ::
        sectionElement id collapsed (content body.nodes) ::
          (elementsAll body.nodes ++ elementsAll rest.nodes) := by
  have hbutton : elementsAll [sectionButton id] = [buttonElement id] := by
    rw [sectionButton, elementsAll_element, elementsAll_text, content_text]
    rfl
  have hheading : elementsAll (Html.text title ++ Html.text " " ++ [sectionButton id]) =
      [buttonElement id] := by
    rw [elementsAll_append, elementsAll_append, elementsAll_text, elementsAll_text, hbutton]
    rfl
  have hnil : elementsAll [] = [] := rfl
  rw [nodes, elementsAll_element, elementsAll_element, elementsAll_element, hheading, hnil,
    List.append_nil]
  exact ⟨_, _, rfl⟩

section Sections

variable {p : Element → Bool} {c : Content}

theorem select_collapsible (hp : ∀ e, e.Plain → p e = false) (id title : String) (collapsed : Bool)
    (body rest : Content) : select p (collapsible id title collapsed body rest).nodes =
      [buttonElement id, sectionElement id collapsed (content body.nodes)].filter p ++
        (select p body.nodes ++ select p rest.nodes) := by
  obtain ⟨whole, heading, heq⟩ := elementsAll_collapsible id title collapsed body rest
  have hwhole := hp _ (Element.plain_mk rfl rfl whole : Element.Plain ⟨"section", [], whole⟩)
  have hheading := hp _ (Element.plain_mk rfl rfl heading : Element.Plain ⟨"h2", [], heading⟩)
  rw [select, heq, List.filter_cons_of_neg (by simp [hwhole]),
    List.filter_cons_of_neg (by simp [hheading])]
  have hinner : (elementsAll body.nodes ++ elementsAll rest.nodes).filter p =
      select p body.nodes ++ select p rest.nodes := List.filter_append _ _
  rw [← hinner]
  exact List.filter_append [_, _] _

theorem hasClass_sectionElement (id : String) (collapsed : Bool) (text : List Char) (cls : String) :
    (sectionElement id collapsed text).hasClass cls =
      (cls == Section.collapsibleClass || collapsed && cls == Section.collapsedClass) := by
  have hclasses : (sectionElement id collapsed text).classes = words (sectionClass collapsed) := rfl
  have hwords : words (sectionClass collapsed) =
      if collapsed then [Section.collapsibleClass, Section.collapsedClass]
      else [Section.collapsibleClass] := by
    cases collapsed <;> decide +kernel
  rw [Element.hasClass, hclasses, hwords, Bool.eq_iff_iff]
  cases collapsed with
  | false => simp
  | true => simp

theorem hasClass_buttonElement (id cls : String) :
    (buttonElement id).hasClass cls = (cls == "vis_button") := by
  have hclasses : (buttonElement id).classes = words "vis_button" := rfl
  have hwords : words "vis_button" = ["vis_button"] := by decide +kernel
  rw [Element.hasClass, hclasses, hwords, Bool.eq_iff_iff]
  simp

theorem map_id_select_collapsible (c : Content) :
    (select (·.hasClass Section.collapsibleClass) c.nodes).map Element.id = c.sectionIds := by
  induction c with
  | empty => rfl
  | text s rest ih =>
    rw [nodes, select_append, select_text, List.nil_append, ih]
    rfl
  | collapsible id title collapsed body rest hbody hrest =>
    have hbutton : (buttonElement id).hasClass Section.collapsibleClass = false := by
      rw [hasClass_buttonElement]
      decide
    have hsection (text : List Char) :
        (sectionElement id collapsed text).hasClass Section.collapsibleClass = true := by
      rw [hasClass_sectionElement]
      simp
    rw [select_collapsible fun e he => he.hasClass _]
    simp [hbutton, hsection, hbody, hrest, sectionIds, sections]

theorem select_other (cls : String) (hcollapsible : cls ≠ Section.collapsibleClass)
    (hcollapsed : cls ≠ Section.collapsedClass) (hbutton : cls ≠ "vis_button") (c : Content) :
    select (·.hasClass cls) c.nodes = [] := by
  induction c with
  | empty => rfl
  | text s rest ih => rw [nodes, select_append, select_text, ih, List.nil_append]
  | collapsible id title collapsed body rest hbody hrest =>
    rw [select_collapsible (fun e he => he.hasClass _), hbody, hrest]
    simp [hasClass_buttonElement, hasClass_sectionElement, hcollapsible, hcollapsed, hbutton]

theorem ids_nodes (h : "" ∉ c.sectionIds) : ids c.nodes = Section.wired c.sectionIds := by
  induction c with
  | empty => rfl
  | text s rest ih =>
    rw [nodes, ids_append, ids, select_text, List.map_nil, List.nil_append, ih h]
    rfl
  | collapsible id title collapsed body rest hbody hrest =>
    have hids : "" ≠ id ∧ "" ∉ body.sectionIds ∧ "" ∉ rest.sectionIds := by
      simpa [sectionIds, sections] using h
    have hkept : [buttonElement id, sectionElement id collapsed (content body.nodes)].filter
        (!·.id.isEmpty) = [buttonElement id, sectionElement id collapsed (content body.nodes)] := by
      refine List.filter_eq_self.mpr fun e he => ?_
      rcases List.mem_cons.mp he with rfl | he
      · simp [Section.buttonId]
      · rw [List.mem_singleton.mp he]
        simpa using hids.1.symm
    have hbody := hbody hids.2.1
    have hrest := hrest hids.2.2
    rw [ids] at hbody hrest ⊢
    rw [select_collapsible fun e he => he.unnamed, hkept, List.map_append, List.map_append, hbody,
      hrest]
    simp [sectionIds, sections, Section.wired]

theorem mem_elementsAll {id : String} {collapsed : Bool} (h : (id, collapsed) ∈ c.sections) :
    buttonElement id ∈ elementsAll c.nodes ∧
      ∃ text, sectionElement id collapsed text ∈ elementsAll c.nodes := by
  induction c with
  | empty => cases h
  | text s rest ih =>
    rw [nodes, elementsAll_append, elementsAll_text]
    exact ih h
  | collapsible id' title collapsed' body rest hbody hrest =>
    obtain ⟨whole, heading, heq⟩ := elementsAll_collapsible id' title collapsed' body rest
    have hinner (e : Element) (he : e ∈ elementsAll body.nodes ++ elementsAll rest.nodes) :
        e ∈ elementsAll (collapsible id' title collapsed' body rest).nodes := by
      rw [heq]
      simp only [List.mem_cons]
      exact .inr (.inr (.inr (.inr he)))
    rw [sections, List.cons_append, List.mem_cons, List.mem_append] at h
    rcases h with hself | hin | hin
    · cases hself
      rw [heq]
      exact ⟨by simp, content body.nodes, by simp⟩
    · obtain ⟨hbutton, text, hsection⟩ := hbody hin
      exact ⟨hinner _ (List.mem_append_left _ hbutton), text,
        hinner _ (List.mem_append_left _ hsection)⟩
    · obtain ⟨hbutton, text, hsection⟩ := hrest hin
      exact ⟨hinner _ (List.mem_append_right _ hbutton), text,
        hinner _ (List.mem_append_right _ hsection)⟩

end Sections

end Markup.Content

namespace Markup

def linkElement (link : SidebarLink) : Element :=
  match link.target with
  | some target =>
    ⟨"a", [("class", linkClass link ++ " " ++ clickableClass), ("href", target),
      ("title", link.text)], link.text.toList⟩
  | none => ⟨"p", [("class", linkClass link), ("title", link.text)], link.text.toList⟩

theorem select_linkNode (p : Element → Bool) (link : SidebarLink) :
    select p [linkNode link] = [linkElement link].filter p := by
  unfold linkNode linkElement
  cases link.target with
  | none => rw [select_element, select_text, content_text, List.append_nil]
  | some target => rw [select_element, select_text, content_text, List.append_nil]

theorem select_links (p : Element → Bool) (links : List SidebarLink) :
    select p (links.map linkNode) = (links.map linkElement).filter p := by
  induction links with
  | nil => rfl
  | cons link links ih =>
    rw [List.map_cons, select_cons, select_linkNode, ih, ← List.filter_append]
    rfl

theorem id_linkElement (link : SidebarLink) : (linkElement link).id = "" := by
  unfold linkElement
  cases link.target with
  | none => rfl
  | some target => rfl

theorem hasClass_linkElement (link : SidebarLink) (cls : String) :
    (linkElement link).hasClass cls =
      (cls == linkClass link || link.target.isSome && cls == clickableClass) := by
  have hplain : words (linkClass link) = [linkClass link] := by
    unfold linkClass
    cases link.isHeader <;> decide +kernel
  have hboth : words (linkClass link ++ " " ++ clickableClass) =
      [linkClass link, clickableClass] := by
    unfold linkClass
    cases link.isHeader <;> decide +kernel
  have hclasses : (linkElement link).classes =
      if link.target.isSome then [linkClass link, clickableClass] else [linkClass link] := by
    unfold linkElement
    cases link.target with
    | none => exact hplain
    | some target => exact hboth
  rw [Element.hasClass, hclasses, Bool.eq_iff_iff]
  cases link.target.isSome <;> simp

theorem linkClass_ne {cls : String} (hheader : cls ≠ "sidebar_header")
    (hlink : cls ≠ "sidebar_link") (link : SidebarLink) : cls ≠ linkClass link := by
  unfold linkClass
  cases link.isHeader with
  | false => exact hlink
  | true => exact hheader

theorem filter_links (cls : String) (hheader : cls ≠ "sidebar_header")
    (hlink : cls ≠ "sidebar_link") (hclickable : cls ≠ clickableClass)
    (links : List SidebarLink) : (links.map linkElement).filter (·.hasClass cls) = [] := by
  refine List.filter_eq_nil_iff.mpr fun e he => ?_
  obtain ⟨link, -, rfl⟩ := List.mem_map.mp he
  have hne := linkClass_ne hheader hlink link
  simp [hasClass_linkElement, hne, hclickable]

end Markup

namespace PageShell

open Markup

theorem ids_configNodes (c : Config) :
    ids (configNodes c) = if c = .default then [] else [configElementId] := by
  unfold configNodes
  split
  · rfl
  · rw [ids_append, ids_element (by decide), ids, ids, select_text, select_text]
    rfl

theorem ids_nodes (s : PageShell) (content : List Node) (hsearch : s.config.ids.search ≠ "")
    (hinput : s.config.ids.searchInput ≠ "") (hsidebar : s.config.ids.sidebar ≠ "")
    (hheader : s.config.ids.headerButton ≠ "") :
    ids (s.nodes content) = ids (configNodes s.config) ++ ([s.config.ids.headerButton,
      s.config.ids.sidebar, s.config.ids.search, s.config.ids.searchInput] ++ ids content) := by
  have hbutton : ids [headerButtonNode s.config.ids] = [s.config.ids.headerButton] := by
    rw [headerButtonNode, ids_element hheader, ids, select_text]
    rfl
  have hlinks : ids (s.sidebar.map linkNode) = [] := by
    have hnone : (s.sidebar.map linkElement).filter (!·.id.isEmpty) = [] := by
      simp [List.filter_eq_nil_iff, id_linkElement]
    rw [ids, select_links, hnone]
    rfl
  have hnav : ids [sidebarNode s.config.ids s.sidebar] = [s.config.ids.sidebar] := by
    rw [sidebarNode, ids_element hsidebar, hlinks]
  have hbox : ids [searchNode s.config.ids] = [s.config.ids.search, s.config.ids.searchInput] := by
    rw [searchNode, ids_element hsearch, ids_void hinput]
  have hselect := select_nodes (fun e he => he.unnamed) s content
  have hmap := congrArg (List.map Element.id) hselect
  simp only [List.map_append] at hmap
  rw [ids] at hbutton hnav hbox
  rw [hbutton, hnav, hbox] at hmap
  exact hmap

theorem select_hasClass_nodes (s : PageShell) (content : List Node) (cls : String) :
    select (·.hasClass cls) (s.nodes content) =
      (s.sidebar.map linkElement).filter (·.hasClass cls) ++ select (·.hasClass cls) content := by
  have hconfig : select (·.hasClass cls) (configNodes s.config) = [] := by
    unfold configNodes
    split
    · rfl
    · rw [select_append, select_text, select_unclassed rfl, select_text]
      rfl
  have hbutton : select (·.hasClass cls) [headerButtonNode s.config.ids] = [] := by
    rw [headerButtonNode, select_unclassed rfl, select_text]
  have hnav : select (·.hasClass cls) [sidebarNode s.config.ids s.sidebar] =
      (s.sidebar.map linkElement).filter (·.hasClass cls) := by
    rw [sidebarNode, select_unclassed rfl, select_links]
  have hbox : select (·.hasClass cls) [searchNode s.config.ids] = [] := by
    rw [searchNode, select_unclassed rfl, select_unclassed_void rfl]
  rw [select_nodes (fun e he => he.hasClass _), hconfig, hbutton, hnav, hbox]
  simp only [List.nil_append, List.append_nil]

theorem mem_elementsAll_nodes (s : PageShell) {content : List Node} {e : Element}
    (he : e ∈ elementsAll content) (hid : e.id ≠ "") : e ∈ elementsAll (s.nodes content) := by
  have hnamed : e ∈ select (!·.id.isEmpty) content := List.mem_filter.mpr ⟨he, by simpa using hid⟩
  have hmem : e ∈ select (!·.id.isEmpty) (s.nodes content) := by
    rw [select_nodes fun e he => he.unnamed]
    exact List.mem_append_right _ (List.mem_append_right _ hnamed)
  exact (List.mem_filter.mp hmem).1

end PageShell

namespace Markup

/-- What a link of the sidebar shows to a reader: its tag, address, title and text. -/
def linkView (e : Element) : String × Option String × Option String × String :=
  (e.name, e.attr? "href", e.attr? "title", String.ofList e.content)

theorem map_linkView (links : List SidebarLink) :
    ((links.map linkElement).filter (·.hasClass clickableClass)).map linkView =
      links.filterMap fun link => link.target.map fun target =>
        ("a", some target, some link.text, link.text) := by
  induction links with
  | nil => rfl
  | cons link links ih =>
    have hne : clickableClass ≠ linkClass link := linkClass_ne (by decide) (by decide) link
    have hclass : (linkElement link).hasClass clickableClass = link.target.isSome := by
      rw [hasClass_linkElement]
      simp [hne]
    rw [List.map_cons, List.filter_cons, hclass, List.filterMap_cons, ← ih]
    cases htarget : link.target with
    | none => rfl
    | some target =>
      have hview : linkView (linkElement link) = ("a", some target, some link.text, link.text) := by
        simp only [linkElement, htarget, linkView, String.ofList_toList]
        rfl
      simp [hview]

end Markup

end DocPages
