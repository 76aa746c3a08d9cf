import DocPages.Proofs.Document.Flat
import DocPages.Proofs.Document.Tree
import DocPages.Proofs.Page.Simulation
import Mathlib.Data.List.Forall2

/-! A page without a browser. The elements of a tree, listed in document order, make a flat document
that shows the same as the tree under all ids, and every operation of a page keeps it so. So a page
that renders no results cannot tell whether it lives in a tree or in the list of its elements. -/

namespace DocPages

open Document

/-- The element of a flat document shows the same; styles may be kept in another order. -/
structure TreeElement.Mirrors (e : TreeElement) (f : FlatElement) : Prop where
  id : f.id = e.id
  classes : f.classes = e.classes
  text : f.text = e.text
  style : ∀ property,
    f.styles.lookup property = (e.styles.lookup property).filter fun v => !v.isEmpty

namespace TreeElement.Mirrors

variable {e : TreeElement} {f : FlatElement}

theorem hasClass (h : e.Mirrors f) (c : String) : f.hasClass c = e.hasClass c := by
  rw [FlatElement.hasClass, h.classes]
  rfl

theorem toggleClass (h : e.Mirrors f) (c : String) :
    (f.toggleClass c).1 = (e.toggleClass c).1 ∧
      (e.toggleClass c).2.Mirrors (f.toggleClass c).2 := by
  unfold TreeElement.toggleClass FlatElement.toggleClass
  rw [h.hasClass]
  split
  · exact ⟨rfl, h.id, congrArg (·.erase c) h.classes, h.text, h.style⟩
  · exact ⟨rfl, h.id, congrArg (· ++ [c]) h.classes, h.text, h.style⟩

theorem setStyle (h : e.Mirrors f) (property value : String) :
    (e.setStyle property value).Mirrors (f.setStyle property value) where
  id := h.id
  classes := h.classes
  text := h.text
  style other := by
    rw [FlatElement.lookup_setStyle, TreeElement.lookup_setStyle]
    by_cases ho : other = property
    · rw [if_pos ho, if_pos ho]
      cases hv : value.isEmpty with
      | true => rfl
      | false => exact (Option.filter_some_pos (by simp [hv])).symm
    · rw [if_neg ho, if_neg ho]
      exact h.style other

end TreeElement.Mirrors

section Related

variable {xs : List TreeElement} {ys : List FlatElement} {id : String}

theorem find?_mirrors (h : List.Forall₂ TreeElement.Mirrors xs ys) (id : String) :
    Option.Rel TreeElement.Mirrors (xs.find? (·.id == id)) (ys.find? (·.id == id)) := by
  induction h with
  | nil => exact .none
  | cons hxy hrest ih =>
    rw [List.find?_cons, List.find?_cons, hxy.id]
    split
    · exact .some hxy
    · exact ih

theorem map_id_mirrors (h : List.Forall₂ TreeElement.Mirrors xs ys) :
    ys.map (·.id) = xs.map (·.id) := by
  induction h with
  | nil => rfl
  | cons hxy _ ih => rw [List.map_cons, List.map_cons, hxy.id, ih]

theorem filter_mirrors (h : List.Forall₂ TreeElement.Mirrors xs ys) (c : String) :
    (ys.filter fun y => !y.id.isEmpty && y.hasClass c).map (·.id) =
      ((xs.filter (·.hasClass c)).map (·.id)).filter (fun id => !id.isEmpty) := by
  induction h with
  | nil => rfl
  | cons hxy _ ih =>
    have hid := hxy.id
    have hclass := hxy.hasClass c
    grind

/-- Only the first element with an id has its key, so both sides change the same element. -/
theorem modifyFirst_mirrors {e : TreeElement} {f : TreeElement → TreeElement}
    {g : FlatElement → FlatElement} (h : List.Forall₂ TreeElement.Mirrors xs ys)
    (hkeys : (xs.map (·.key)).Nodup) (hfind : xs.find? (·.id == id) = some e)
    (hfg : ∀ x y, x.Mirrors y → (f x).Mirrors (g y)) :
    ∃ ys', modifyFirst (·.id == id) g ys = some ys' ∧
      List.Forall₂ TreeElement.Mirrors (xs.map fun x => if x.key = e.key then f x else x) ys' := by
  induction h with
  | nil => cases hfind
  | @cons x y xs ys hxy hrest ih =>
    rw [List.map_cons, List.nodup_cons] at hkeys
    obtain ⟨hfresh, hkeys⟩ := hkeys
    have hkey {z : TreeElement} (hz : z ∈ xs) : z.key ≠ x.key := fun heq =>
      hfresh (heq ▸ List.mem_map_of_mem hz)
    by_cases hid : x.id = id
    · have hx : x = e := by simpa [hid] using hfind
      subst hx
      refine ⟨g y :: ys, by simp [modifyFirst, hxy.id, hid], ?_⟩
      rw [List.map_cons, if_pos rfl]
      refine .cons (hfg x y hxy) ?_
      have hsame : xs.map (fun z => if z.key = x.key then f z else z) = xs := by
        rw [List.map_congr_left fun z hz => if_neg (hkey hz), List.map_id']
      rw [hsame]
      exact hrest
    · have hrestFind : xs.find? (·.id == id) = some e := by simpa [hid] using hfind
      obtain ⟨ys', hys, hmirrors⟩ := ih hkeys hrestFind
      have hne : x.key ≠ e.key := (hkey (List.mem_of_find?_eq_some hrestFind)).symm
      refine ⟨y :: ys', by simp [modifyFirst, hxy.id, hid, hys], ?_⟩
      rw [List.map_cons, if_neg hne]
      exact .cons hxy hmirrors

end Related

namespace ElementTree

/-- A tree of elements that can be styled and labelled, each with an id and a key of its own, and a
flat document that shows the same. -/
structure Mirrored (t : ElementTree) (d : FlatDocument) : Prop where
  elements : List.Forall₂ TreeElement.Mirrors t.elements d.elements
  keys : (t.elements.map (·.key)).Nodup
  named : ∀ x ∈ t.shape, x.2.1 ≠ ""
  html : ∀ x ∈ t.shape, x.2.2 ≠ "svg"

variable {t : ElementTree} {d : FlatDocument} {id : String}

theorem keys_eq_shape (t : ElementTree) : t.elements.map (·.key) = t.shape.map (·.1) := by
  rw [shape, List.map_map]
  rfl

theorem Mirrored.ne_empty (h : Mirrored t d) {f : FlatElement} (hf : f ∈ d.elements) :
    f.id ≠ "" := by
  have hmem : f.id ∈ t.elements.map (·.id) := map_id_mirrors h.elements ▸ List.mem_map_of_mem hf
  obtain ⟨e, he, hid⟩ := List.mem_map.mp hmem
  rw [← hid]
  exact h.named _ (List.mem_map_of_mem he)

theorem Mirrored.get? (h : Mirrored t d) (id : String) :
    Option.Rel TreeElement.Mirrors (t.get? id) (d.get? id) := by
  unfold ElementTree.get?
  split
  · rename_i hempty
    have hnone : d.get? id = none := by
      rw [FlatDocument.get?, List.find?_eq_none]
      intro f hf heq
      apply h.ne_empty hf
      rw [eq_of_beq heq]
      simpa using hempty
    rw [hnone]
    exact .none
  · exact find?_mirrors h.elements id

theorem Mirrored.getHtml? (h : Mirrored t d) (id : String) : t.getHtml? id = t.get? id := by
  unfold ElementTree.getHtml?
  cases hget : t.get? id with
  | none => rfl
  | some e =>
    have hmem : e ∈ t.elements := List.mem_of_find?_eq_some (find?_of_get? hget)
    have htag : e.tag ≠ "svg" := h.html _ (List.mem_map_of_mem hmem)
    exact Option.filter_some_pos (by simpa [TreeElement.isHtml] using htag)

/-- A change of the element with an id, on both sides. -/
theorem Mirrored.modify {f : TreeElement → TreeElement} {g : FlatElement → FlatElement}
    (h : Mirrored t d) (id : String)
    (hf : ∀ e, ((f e).key, (f e).id, (f e).tag) = (e.key, e.id, e.tag))
    (hfg : ∀ x y, x.Mirrors y → (f x).Mirrors (g y)) :
    Option.Rel Mirrored ((t.get? id).map fun e => t.modify e.key f) (d.modify? id g) := by
  rcases rel_cases (h.get? id) with ⟨ht, hd⟩ | ⟨e, y, ht, hd, -⟩
  · have hnone : d.modify? id g = none := by
      rw [← Option.not_isSome_iff_eq_none, FlatDocument.isSome_modify?, hd]
      exact Bool.false_ne_true
    rw [ht, hnone]
    exact .none
  · obtain ⟨ys, hys, hmirrors⟩ := modifyFirst_mirrors h.elements h.keys (find?_of_get? ht) hfg
    have hshape : (t.modify e.key f).shape = t.shape := shape_modify hf
    rw [ht, FlatDocument.modify?, hys]
    refine .some ⟨hmirrors, ?_, ?_, ?_⟩
    · rw [keys_eq_shape, hshape, ← keys_eq_shape]
      exact h.keys
    · rw [hshape]
      exact h.named
    · rw [hshape]
      exact h.html

theorem Mirrored.hasElement (h : Mirrored t d) (id : String) :
    Document.hasElement t id = Document.hasElement d id := by
  rcases rel_cases (h.get? id) with ⟨ht, hd⟩ | ⟨e, y, ht, hd, -⟩
  · simp only [Document.hasElement, ht, hd, Option.isSome_none]
  · simp only [Document.hasElement, ht, hd, Option.isSome_some]

theorem Mirrored.hasClass (h : Mirrored t d) (id c : String) :
    Document.hasClass t id c = Document.hasClass d id c := by
  rcases rel_cases (h.get? id) with ⟨ht, hd⟩ | ⟨e, y, ht, hd, hey⟩
  · simp only [Document.hasClass, ht, hd, Option.any_none]
  · simp only [Document.hasClass, ht, hd, Option.any_some, hey.hasClass]

theorem Mirrored.text (h : Mirrored t d) (id : String) :
    Document.text t id = Document.text d id := by
  rcases rel_cases (h.get? id) with ⟨ht, hd⟩ | ⟨e, y, ht, hd, hey⟩
  · simp only [Document.text, h.getHtml?, ht, hd, Option.map_none]
  · simp only [Document.text, h.getHtml?, ht, hd, Option.map_some, hey.text]

theorem Mirrored.style (h : Mirrored t d) (id property : String) :
    Document.style t id property = Document.style d id property := by
  rcases rel_cases (h.get? id) with ⟨ht, hd⟩ | ⟨e, y, ht, hd, hey⟩
  · simp only [Document.style, h.getHtml?, ht, hd, Option.bind_none, Option.filter_none]
  · simp only [Document.style, h.getHtml?, ht, hd, Option.bind_some, hey.style]

theorem Mirrored.idsWithClass (h : Mirrored t d) {c : String}
    (hc : TreeElement.isToken c = true) :
    Document.idsWithClass t c = Document.idsWithClass d c := by
  simp only [Document.idsWithClass, withClasses_of_isToken hc]
  exact (filter_mirrors h.elements c).symm

theorem Mirrored.setText (h : Mirrored t d) (id s : String) :
    Option.Rel Mirrored (Document.setText t id s) (Document.setText d id s) := by
  simp only [Document.setText, h.getHtml?]
  exact h.modify id (fun _ => rfl) fun _ _ hxy => ⟨hxy.id, hxy.classes, rfl, hxy.style⟩

theorem Mirrored.setStyle (h : Mirrored t d) (id property value : String) :
    Option.Rel Mirrored (Document.setStyle t id property value)
      (Document.setStyle d id property value) := by
  simp only [Document.setStyle, h.getHtml?]
  exact h.modify id (fun _ => rfl) fun _ _ hxy => hxy.setStyle property value

theorem Mirrored.toggleClass (h : Mirrored t d) (id : String) {c : String}
    (hc : TreeElement.isToken c = true) :
    Option.Rel (fun x y => x.1 = y.1 ∧ Mirrored x.2 y.2) (Document.toggleClass t id c)
      (Document.toggleClass d id c) := by
  have hkept (e : TreeElement) : ((e.toggleClass c).2.key, (e.toggleClass c).2.id,
      (e.toggleClass c).2.tag) = (e.key, e.id, e.tag) := by
    unfold TreeElement.toggleClass
    split <;> rfl
  have hchange := h.modify id hkept fun _ _ hxy => (hxy.toggleClass c).2
  simp only [Document.toggleClass, hc, if_true]
  rcases rel_cases (h.get? id) with ⟨ht, hd⟩ | ⟨e, y, ht, hd, hey⟩
  · rw [ht, hd]
    exact .none
  · rw [ht] at hchange ⊢
    rw [hd]
    rcases rel_cases hchange with ⟨hnone, -⟩ | ⟨t', d', ht', hd', hmirrored⟩
    · cases hnone
    · rw [hd']
      cases ht'
      exact .some ⟨(hey.toggleClass c).1.symm, hmirrored⟩

theorem simulation_mirrored : Document.Simulation Mirrored where
  hasClass h := h.hasClass
  sections h := h.idsWithClass (by decide)
  hide h id := h.toggleClass id (by decide)
  label h id := h.text _
  relabel h id s := h.setText _ s
  setStyle h := h.setStyle

/-- The elements of a tree in document order, as a flat document. -/
def listed (t : ElementTree) : FlatDocument :=
  ⟨t.elements.map fun e => ⟨e.id, none, e.classes, e.text, e.styles, none⟩⟩

theorem mirrored_listed (hkeys : (t.elements.map (·.key)).Nodup)
    (hids : ∀ e ∈ t.elements, e.id ≠ "") (hhtml : ∀ e ∈ t.elements, e.isHtml = true)
    (hstyles : ∀ e ∈ t.elements, ∀ s ∈ e.styles, s.2 ≠ "") : Mirrored t t.listed where
  elements := by
    rw [listed, List.forall₂_map_right_iff, List.forall₂_same]
    intro e he
    refine ⟨rfl, rfl, rfl, fun property => ?_⟩
    cases hv : e.styles.lookup property with
    | none => rfl
    | some v =>
      obtain ⟨before, after, hsplit, -⟩ := List.lookup_eq_some_iff.mp hv
      have hmem : (property, v) ∈ e.styles := hsplit ▸ List.mem_append_right _ List.mem_cons_self
      have hne := hstyles e he _ hmem
      exact (Option.filter_some_pos (by simpa using hne)).symm
  keys := hkeys
  named x hx := by
    obtain ⟨e, he, rfl⟩ := List.mem_map.mp hx
    exact hids e he
  html x hx := by
    obtain ⟨e, he, rfl⟩ := List.mem_map.mp hx
    simpa [TreeElement.isHtml] using hhtml e he

end ElementTree

/-- A page answers the same in a tree of styled, named elements and in the list of these elements,
and leaves both with the same layout, flags, classes, styles and button labels, whatever it is
asked short of rendering results. A class is one name here: a text with white space in it asks a
tree for the elements that have every name in the text. Section buttons have no elements inside: a
tree keeps an element's own text beside its children, so the text content of a button that holds
elements is neither read nor set here. -/
theorem headless_page_agrees {t : ElementTree} (hkeys : (t.elements.map (·.key)).Nodup)
    (hids : ∀ e ∈ t.elements, e.id ≠ "") (hhtml : ∀ e ∈ t.elements, e.isHtml = true)
    (hstyles : ∀ e ∈ t.elements, ∀ s ∈ e.styles, s.2 ≠ "") (config : Config)
    (script : Script) (hscript : ∀ x ∈ script, x.2.touchesPanel = false)
    {r : PageRun ElementTree} (hr : r = (PageRun.new config t).play script)
    {s : PageRun FlatDocument} (hs : s = (PageRun.new config t.listed).play script) :
    (∀ index, ∀ e : PageEvent, e.touchesPanel = false →
      (r.step index e).2 = (s.step index e).2) ∧
    r.page.layout = s.page.layout ∧ r.page.sidebar = s.page.sidebar ∧
    (∀ id, hasElement r.document id = hasElement s.document id) ∧
    (∀ id c, hasClass r.document id c = hasClass s.document id c) ∧
    (∀ id property, style r.document id property = style s.document id property) ∧
    (∀ c, TreeElement.isToken c = true →
      idsWithClass r.document c = idsWithClass s.document c) ∧
    ∀ id, text r.document (Section.buttonId id) = text s.document (Section.buttonId id) := by
  have hsim := ElementTree.simulation_mirrored
  have hnew : PageRun.Related ElementTree.Mirrored (.new config t) (.new config t.listed) :=
    ⟨rfl, ElementTree.mirrored_listed hkeys hids hhtml hstyles, rfl⟩
  have hrun : PageRun.Related ElementTree.Mirrored r s := by
    rw [hr, hs]
    exact hnew.play hsim hscript
  have hdoc := hrun.document
  exact ⟨fun index e he => (hrun.step hsim index he).2, congrArg (·.layout) hrun.page,
    congrArg (·.sidebar) hrun.page, hdoc.hasElement, hdoc.hasClass, hdoc.style,
    fun _ => hdoc.idsWithClass, fun _ => hdoc.text _⟩

/-- A sidebar beside a section that asks to be collapsed. -/
def ElementTree.sectioned : ElementTree :=
  .ofOutlines [.element "nav" "sidebar" [] "" [], .element "div" "page" [] ""
    [.element "button" "api.vis_button" [] "[-]" [],
      .element "div" "api" ["collapsible", "collapsed_by_default"] "" []]]

def PageRun.sectioned : PageRun ElementTree :=
  (PageRun.new .default .sectioned).play (.on ⟨[]⟩ [.install, .width 300, .headerButton])

theorem headless_page_agrees_sectioned :
    text PageRun.sectioned.document "api.vis_button" = some "[+]" ∧
    style PageRun.sectioned.document "sidebar" "transform" = some "translateX(0%)" ∧
    idsWithClass PageRun.sectioned.document "hide" = ["api"] := by
  obtain ⟨-, -, -, -, -, hstyle, hclass, htext⟩ := headless_page_agrees
    (t := .sectioned) (by decide) (by decide) (by decide) (by decide) .default
    (.on ⟨[]⟩ [.install, .width 300, .headerButton]) (by decide) (r := .sectioned) rfl rfl
  exact ⟨(htext "api").trans (by decide), (hstyle "sidebar" "transform").trans (by decide),
    (hclass "hide" (by decide)).trans (by decide)⟩

/-- One element with two classes. -/
def ElementTree.classPair : ElementTree := .ofOutlines [.element "div" "api" ["a", "b"] "" []]

/-- The two names in one text: the tree has an element with both, the list none with this class. -/
theorem headless_page_differs_on_two_names :
    (ElementTree.classPair.elements.map (·.id)).Nodup ∧
    (∀ e ∈ ElementTree.classPair.elements, e.id ≠ "" ∧ e.isHtml = true ∧ e.classes.Nodup) ∧
    idsWithClass ((PageRun.new .default ElementTree.classPair).play []).document "a b" =
      ["api"] ∧
    idsWithClass ((PageRun.new .default ElementTree.classPair.listed).play []).document "a b" =
      [] := by
  decide

end DocPages
