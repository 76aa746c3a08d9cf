import DocPages.Browser.Run
import DocPages.Proofs.Document.Tree
import DocPages.Proofs.Page.Simulation

/-! What the listeners of a browser do with an event. The handlers outside the search only change
their page and the document, and keep the configuration of the page and the shape of the document.
A search adds its listeners together or not at all. -/

namespace DocPages

open Document

theorem set_eq_self {α : Type} {xs : List α} {i : Nat} {x : α} (h : xs[i]? = some x) :
    xs.set i x = xs := by
  obtain ⟨hi, rfl⟩ := List.getElem?_eq_some_iff.mp h
  exact List.set_getElem_self hi

namespace ElementTree

theorem simulation_shape (s : List (Nat × String × String)) :
    Simulation fun t t' : ElementTree => t = t' ∧ t.shape = s where
  hasClass := by
    rintro t _ ⟨rfl, -⟩ id c
    rfl
  sections := by
    rintro t _ ⟨rfl, -⟩
    rfl
  hide := by
    rintro t _ ⟨rfl, hs⟩ id
    simp only [toggleClass]
    split
    · cases t.get? id with
      | none => exact .none
      | some e =>
        refine .some ⟨rfl, rfl, ?_⟩
        rw [shape_modify, hs]
        intro e
        unfold TreeElement.toggleClass
        split <;> rfl
    · exact .none
  label := by
    rintro t _ ⟨rfl, -⟩ id
    rfl
  relabel := by
    rintro t _ ⟨rfl, hs⟩ id s
    simp only [setText]
    cases t.getHtml? (Section.buttonId id) with
    | none => exact .none
    | some e =>
      refine .some ⟨rfl, Eq.trans ?_ hs⟩
      exact shape_modify fun _ => rfl
  setStyle := by
    rintro t _ ⟨rfl, hs⟩ id property value
    simp only [Document.setStyle]
    cases t.getHtml? id with
    | none => exact .none
    | some e =>
      refine .some ⟨rfl, Eq.trans ?_ hs⟩
      exact shape_modify fun _ => rfl

theorem shape_toggle (t : ElementTree) (id : String) :
    (((Section.toggle t id).map (·.2)).getD t).shape = t.shape := by
  have hrel := (simulation_shape t.shape).toggle ⟨rfl, rfl⟩ id
  cases htoggle : Section.toggle t id with
  | none => rfl
  | some r =>
    rw [htoggle] at hrel
    cases hrel with
    | some h => exact h.2.2

theorem shape_applyEdits (t : ElementTree) (id : String) (edits : List StyleEdit) :
    (applyEdits t id edits).shape = t.shape :=
  ((simulation_shape t.shape).applyEdits ⟨rfl, rfl⟩ id edits).2

theorem shape_install (t : ElementTree) (p : Page) : (p.install t).2.1.shape = t.shape :=
  ((simulation_shape t.shape).install ⟨rfl, rfl⟩ p).2.1.2

theorem tag_get?_eq (t : ElementTree) (id : String) :
    (t.get? id).map (·.tag) =
      if id.isEmpty then none else (t.shape.find? (·.2.1 == id)).map (·.2.2) := by
  unfold get? shape
  split
  · rfl
  · rw [List.find?_map, Option.map_map]
    rfl

end ElementTree

namespace Config

/-- The document has the two elements that a search needs. -/
def searchable (config : Config) (t : ElementTree) : Bool :=
  (t.get? config.ids.searchInput).any (·.isInput) && (t.get? config.ids.search).isSome

theorem searchable_congr (config : Config) {t t' : ElementTree} (h : t.shape = t'.shape) :
    config.searchable t = config.searchable t' := by
  have htag (id : String) : (t.get? id).map (·.tag) = (t'.get? id).map (·.tag) := by
    rw [ElementTree.tag_get?_eq, ElementTree.tag_get?_eq, h]
  have hkeyed (t : ElementTree) : config.searchable t =
      (((t.get? config.ids.searchInput).map (·.tag)).any (· == "input") &&
        ((t.get? config.ids.search).map (·.tag)).isSome) := by
    rw [searchable, Option.any_map, Option.isSome_map]
    rfl
  rw [hkeyed, hkeyed, htag, htag]

end Config

namespace Browser

/-- The types of the events that a search listens to. -/
def searchTypes : List String := ["input", "focus", "keydown", "focusout"]

namespace Handler

def isSearch : Handler → Bool
  | .search _ _ | .escape | .focusOut _ => true
  | .sectionButton _ | .sidebarLink | .headerButton | .transitionEnd _ | .viewport | .width => false

/-- What a handler outside the search does to its page and the document. -/
def react (e : Event) (width : Width) (page : Page) (t : ElementTree) :
    Handler → Page × ElementTree × List Notice
  | .sectionButton id => (page, ((Section.toggle t id).map (·.2)).getD t, [])
  | .sidebarLink => page.onSidebarLink t
  | .headerButton => page.onHeaderButton t
  | .transitionEnd sidebar =>
    if e.target = some sidebar then page.onTransitionEnd t else (page, t, [])
  | .viewport => page.onViewport t e.holds
  | .width => match width.pixels? with
    | some px => page.onWidth t px
    | none => (page, t, [])
  | .search _ _ | .escape | .focusOut _ => (page, t, [])

variable {e : Event} {width : Width} {page : Page} {t : ElementTree}

theorem config_react (h : Handler) : (h.react e width page t).1.config = page.config := by
  cases h with
  | transitionEnd sidebar =>
    simp only [react]
    split <;> rfl
  | width =>
    simp only [react]
    split <;> rfl
  | _ => rfl

theorem shape_react (h : Handler) : (h.react e width page t).2.1.shape = t.shape := by
  cases h with
  | sectionButton id => exact t.shape_toggle id
  | sidebarLink | headerButton | viewport => exact t.shape_applyEdits _ _
  | transitionEnd sidebar =>
    simp only [react]
    split
    · exact t.shape_applyEdits _ _
    · rfl
  | width =>
    simp only [react]
    split
    · exact t.shape_applyEdits _ _
    · rfl
  | search | escape | focusOut => rfl

end Handler

/-- The pages of a browser and its document. -/
abbrev Scene : Type := List Page × ElementTree

def scene (b : Browser) : Scene := (b.pages, b.tree)

def redraw (b : Browser) (s : Scene) (console : List Notice) : Browser :=
  { b with pages := s.1, tree := s.2, console := console }

namespace Listener

/-- What a listener outside the search makes of the pages and the document. -/
def react (e : Event) (width : Width) (s : Scene) (l : Listener) : Scene :=
  match s.1[l.page]? with
  | none => s
  | some page =>
    let r := l.handler.react e width page s.2
    (s.1.set l.page r.1, r.2.1)

variable {e : Event} {width : Width}

theorem configs_react (s : Scene) (l : Listener) :
    (l.react e width s).1.map (·.config) = s.1.map (·.config) := by
  unfold react
  split
  · rfl
  next page hpage =>
    rw [List.map_set, Handler.config_react]
    apply set_eq_self
    rw [List.getElem?_map, hpage, Option.map_some]

theorem shape_react (s : Scene) (l : Listener) : (l.react e width s).2.shape = s.2.shape := by
  unfold react
  split
  · rfl
  · exact Handler.shape_react _

end Listener

section Reactions

variable {b : Browser} {e : Event} {l : Listener} {ls : List Listener}

theorem onPage_same (b : Browser) (i : Nat) : b.onPage i (fun page t => (page, t, [])) = b := by
  unfold onPage
  split
  · rfl
  next page hpage => simp only [report, set_eq_self hpage, List.append_nil]

theorem handle_eq_onPage (hl : l.handler.isSearch = false) :
    handle e b l = b.onPage l.page fun page t => l.handler.react e b.width page t := by
  obtain ⟨target, type, i, handler⟩ := l
  cases handler with
  | sectionButton | sidebarLink | headerButton | viewport => rfl
  | transitionEnd sidebar =>
    simp only [handle, Handler.react]
    split
    · rfl
    · exact (b.onPage_same i).symm
  | width =>
    simp only [handle, observeWidth, Handler.react]
    cases b.width.pixels? with
    | some px => rfl
    | none => exact (b.onPage_same i).symm
  | search | escape | focusOut => cases hl

/-- A handler outside the search changes the pages, the document and the console, and the first two
depend on nothing but themselves and the width. -/
theorem handle_eq (hl : l.handler.isSearch = false) :
    ∃ console, handle e b l = b.redraw (l.react e b.width b.scene) console := by
  rw [handle_eq_onPage hl]
  simp only [onPage, Listener.react, scene]
  cases b.pages[l.page]? with
  | none => exact ⟨b.console, rfl⟩
  | some page => exact ⟨_, rfl⟩

theorem foldl_handle_eq (hls : ∀ l ∈ ls, l.handler.isSearch = false) :
    ∃ console, ls.foldl (handle e) b =
      b.redraw (ls.foldl (Listener.react e b.width) b.scene) console := by
  induction ls generalizing b with
  | nil => exact ⟨b.console, rfl⟩
  | cons l ls ih =>
    obtain ⟨hl, hls⟩ := List.forall_mem_cons.mp hls
    obtain ⟨console, hfirst⟩ := handle_eq (e := e) (b := b) hl
    rw [List.foldl_cons, hfirst]
    obtain ⟨console', hrest⟩ := ih hls
    exact ⟨console', hrest⟩

theorem configs_foldl_react (width : Width) (s : Scene) :
    (ls.foldl (Listener.react e width) s).1.map (·.config) = s.1.map (·.config) := by
  induction ls generalizing s with
  | nil => rfl
  | cons l ls ih => rw [List.foldl_cons, ih, Listener.configs_react]

theorem shape_foldl_react (width : Width) (s : Scene) :
    (ls.foldl (Listener.react e width) s).2.shape = s.2.shape := by
  induction ls generalizing s with
  | nil => rfl
  | cons l ls ih => rw [List.foldl_cons, ih, Listener.shape_react]

end Reactions

section Wiring

variable {b : Browser}

theorem report_eq (b : Browser) (notices : List Notice) : b.report notices =
    { b with listeners := b.listeners ++ [], console := b.console ++ notices } := by
  rw [List.append_nil]
  rfl

theorem wireSearch_eq (i : Nat) (b : Browser) (config : Config) (index : Index) :
    ∃ added notices, wireSearch i b config index =
        { b with listeners := b.listeners ++ added, console := b.console ++ notices } ∧
      added.map Listener.type = if config.searchable b.tree then searchTypes else [] := by
  unfold wireSearch Config.searchable
  cases b.tree.get? config.ids.searchInput with
  | none => exact ⟨[], _, b.report_eq _, rfl⟩
  | some input =>
    cases hinput : input.isInput with
    | false =>
      simp only [Option.any_some, hinput]
      exact ⟨[], _, b.report_eq _, rfl⟩
    | true =>
      simp only [Option.any_some, hinput]
      cases b.tree.get? config.ids.search with
      | none => exact ⟨[], _, b.report_eq _, rfl⟩
      | some search =>
        refine ⟨[⟨.element input.key, "input", i, .search input.key index⟩,
          ⟨.element input.key, "focus", i, .search input.key index⟩,
          ⟨.element search.key, "keydown", i, .escape⟩,
          ⟨.element search.key, "focusout", i, .focusOut search.key⟩],
          [.searchEnabled index.size], ?_, rfl⟩
        simp [listen, report]

end Wiring

end Browser

end DocPages
