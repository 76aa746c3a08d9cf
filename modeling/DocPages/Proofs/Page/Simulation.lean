import DocPages.Page.Run

/-! Pages in related documents. If the operations that a page uses keep a relation between two kinds
of documents and answer the same on both sides, then so does everything that a page does without
touching the panel. -/

namespace DocPages

open Document

theorem rel_cases {α β : Type} {R : α → β → Prop} {x : Option α} {y : Option β}
    (h : Option.Rel R x y) :
    (x = none ∧ y = none) ∨ ∃ a b, x = some a ∧ y = some b ∧ R a b := by
  cases h with
  | some hab => exact .inr ⟨_, _, rfl, rfl, hab⟩
  | none => exact .inl ⟨rfl, rfl⟩

theorem rel_getD {α β : Type} {R : α → β → Prop} {x : Option α} {y : Option β} {a : α} {b : β}
    (h : Option.Rel R x y) (hab : R a b) : R (x.getD a) (y.getD b) := by
  cases h with
  | some hxy => exact hxy
  | none => exact hab

variable {δ ε : Type} [Document δ] [Document ε]

/-- The operations of a page, panels apart, cannot tell related documents from one another. -/
structure Document.Simulation (R : δ → ε → Prop) : Prop where
  hasClass : ∀ {d e}, R d e → ∀ id c, hasClass d id c = hasClass e id c
  sections : ∀ {d e}, R d e →
    idsWithClass d Section.collapsibleClass = idsWithClass e Section.collapsibleClass
  hide : ∀ {d e}, R d e → ∀ id, Option.Rel (fun x y => x.1 = y.1 ∧ R x.2 y.2)
    (toggleClass d id Section.hiddenClass) (toggleClass e id Section.hiddenClass)
  label : ∀ {d e}, R d e → ∀ id, text d (Section.buttonId id) = text e (Section.buttonId id)
  relabel : ∀ {d e}, R d e → ∀ id s,
    Option.Rel R (setText d (Section.buttonId id) s) (setText e (Section.buttonId id) s)
  setStyle : ∀ {d e}, R d e → ∀ id property value,
    Option.Rel R (setStyle d id property value) (setStyle e id property value)

namespace Document.Simulation

variable {R : δ → ε → Prop} {d : δ} {e : ε}

theorem toggle (h : Simulation R) (hr : R d e) (id : String) :
    Option.Rel (fun x y => x.1 = y.1 ∧ R x.2 y.2) (Section.toggle d id) (Section.toggle e id) := by
  unfold Section.toggle
  rcases rel_cases (h.hide hr id) with ⟨hd, he⟩ | ⟨⟨collapsed, d'⟩, ⟨-, e'⟩, hd, he, rfl, hflip⟩
  · rw [hd, he]
    exact .none
  · simp only [hd, he, Option.map_some, h.label hflip]
    cases text e' (Section.buttonId id) with
    | none => exact .some ⟨rfl, hflip⟩
    | some label => exact .some ⟨rfl, rel_getD (h.relabel hflip id _) hflip⟩

theorem prepare (h : Simulation R) (hr : R d e) (id : String) :
    Option.Rel R (Section.prepare d id) (Section.prepare e id) := by
  unfold Section.prepare
  rcases rel_cases (h.setStyle hr (Section.buttonId id) "visibility" "visible") with
    ⟨hd, he⟩ | ⟨d', e', hd, he, hshown⟩
  · rw [hd, he]
    exact .none
  · simp only [hd, he, Option.map_some, h.hasClass hshown]
    split
    · rcases rel_cases (h.toggle hshown id) with ⟨hd', he'⟩ | ⟨x, y, hd', he', -, htoggled⟩
      · rw [hd', he']
        exact .some hshown
      · rw [hd', he']
        exact .some htoggled
    · exact .some hshown

theorem prepareAll (h : Simulation R) (hr : R d e) (ids : List String) :
    (Section.prepareAll d ids).1 = (Section.prepareAll e ids).1 ∧
      R (Section.prepareAll d ids).2.1 (Section.prepareAll e ids).2.1 ∧
      (Section.prepareAll d ids).2.2 = (Section.prepareAll e ids).2.2 := by
  induction ids generalizing d e with
  | nil => exact ⟨rfl, hr, rfl⟩
  | cons id ids ih =>
    unfold Section.prepareAll
    rcases rel_cases (h.prepare hr id) with ⟨hd, he⟩ | ⟨d', e', hd, he, hready⟩
    · rw [hd, he]
      obtain ⟨hids, hrest, hnotices⟩ := ih hr
      exact ⟨hids, hrest, congrArg (.sectionWithoutButton id :: ·) hnotices⟩
    · rw [hd, he]
      obtain ⟨hids, hrest, hnotices⟩ := ih hready
      exact ⟨congrArg (id :: ·) hids, hrest, hnotices⟩

theorem applyEdits (h : Simulation R) (hr : R d e) (id : String) (edits : List StyleEdit) :
    R (Document.applyEdits d id edits) (Document.applyEdits e id edits) := by
  induction edits generalizing d e with
  | nil => exact hr
  | cons edit edits ih => exact ih (rel_getD (h.setStyle hr id edit.property edit.value) hr)

theorem reveal (h : Simulation R) (hr : R d e) (id : String) :
    R (Page.reveal d id).1 (Page.reveal e id).1 ∧ (Page.reveal d id).2 = (Page.reveal e id).2 := by
  unfold Page.reveal
  rcases rel_cases (h.setStyle hr id "display" "block") with ⟨hd, he⟩ | ⟨d', e', hd, he, hshown⟩
  · rw [hd, he]
    exact ⟨hr, rfl⟩
  · rw [hd, he]
    exact ⟨hshown, rfl⟩

theorem install (h : Simulation R) (hr : R d e) (p : Page) :
    (p.install d).1 = (p.install e).1 ∧ R (p.install d).2.1 (p.install e).2.1 ∧
      (p.install d).2.2 = (p.install e).2.2 := by
  have hall := h.prepareAll hr (idsWithClass d Section.collapsibleClass)
  rw [h.sections hr] at hall
  obtain ⟨hids, hready, hnotices⟩ := hall
  obtain ⟨hsearch, hmissing⟩ := h.reveal hready p.config.ids.search
  obtain ⟨hbutton, hmissing'⟩ := h.reveal hsearch p.config.ids.headerButton
  simp only [Page.install, Section.install, h.sections hr]
  exact ⟨hids, hbutton, by rw [hnotices, hmissing, hmissing', hids]⟩

end Document.Simulation

/-- The event puts the panel into the document or takes it away. -/
def PageEvent.touchesPanel : PageEvent → Bool
  | .show _ | .showResults _ | .dismiss => true
  | .install | .viewport _ | .width _ | .headerButton | .sidebarLink | .transitionEnd
  | .sectionButton _ | .search _ _ | .poll _ | .await _ => false

namespace PageRun

/-- The same page with the same searches, in documents that are related. -/
structure Related (R : δ → ε → Prop) (r : PageRun δ) (s : PageRun ε) : Prop where
  page : r.page = s.page
  document : R r.document s.document
  desk : r.desk = s.desk

variable {R : δ → ε → Prop} {r : PageRun δ} {s : PageRun ε}

theorem Related.apply (h : Simulation R) (hr : Related R r s) (p : Page) (effect : Sidebar.Effect) :
    Related R (r.put (p.apply r.document effect)).1 (s.put (p.apply s.document effect)).1 ∧
      (r.put (p.apply r.document effect)).2 = (s.put (p.apply s.document effect)).2 :=
  ⟨⟨rfl, h.applyEdits hr.document _ _, hr.desk⟩, rfl⟩

theorem Related.observe (h : Simulation R) (hr : Related R r s) (layout : Layout) :
    Related R (r.put (r.page.observe r.document layout)).1
        (s.put (s.page.observe s.document layout)).1 ∧
      (r.put (r.page.observe r.document layout)).2 =
        (s.put (s.page.observe s.document layout)).2 := by
  rw [← hr.page]
  exact ⟨⟨rfl, h.applyEdits hr.document _ _, hr.desk⟩, rfl⟩

theorem Related.step (h : Simulation R) (hr : Related R r s) (index : Index) {e : PageEvent}
    (he : e.touchesPanel = false) :
    Related R (r.step index e).1 (s.step index e).1 ∧
      (r.step index e).2 = (s.step index e).2 := by
  cases e with
  | install =>
    obtain ⟨hids, hdoc, hnotices⟩ := h.install hr.document r.page
    simp only [PageRun.step, ← hr.page]
    exact ⟨⟨rfl, hdoc, hr.desk⟩, by rw [hids, hnotices]⟩
  | viewport desktop => exact hr.observe h _
  | width px =>
    have hobserve := hr.observe h (.ofWidth r.page.config.breakpoint px)
    rw [← hr.page] at hobserve
    simp only [PageRun.step, Page.onWidth, ← hr.page]
    exact hobserve
  | headerButton | sidebarLink | transitionEnd =>
    simp only [PageRun.step, Page.onHeaderButton, Page.onSidebarLink, Page.onTransitionEnd,
      ← hr.page]
    exact hr.apply h _ _
  | sectionButton id =>
    simp only [PageRun.step]
    rcases rel_cases (h.toggle hr.document id) with
      ⟨hd, he⟩ | ⟨⟨collapsed, d'⟩, ⟨-, e'⟩, hd, he, rfl, hdoc⟩
    · rw [hd, he]
      exact ⟨hr, rfl⟩
    · rw [hd, he]
      exact ⟨⟨hr.page, hdoc, hr.desk⟩, rfl⟩
  | search slot query =>
    simp only [PageRun.step, ← hr.page, ← hr.desk]
    exact ⟨⟨rfl, hr.document, rfl⟩, trivial⟩
  | poll slot | await slot =>
    simp only [PageRun.step, ← hr.page, ← hr.desk]
    exact ⟨⟨rfl, hr.document, rfl⟩, trivial⟩
  | «show» | showResults | dismiss => cases he

theorem Related.play (h : Simulation R) (hr : Related R r s) {script : Script}
    (he : ∀ x ∈ script, x.2.touchesPanel = false) : Related R (r.play script) (s.play script) := by
  induction script generalizing r s with
  | nil => exact hr
  | cons x script ih =>
    obtain ⟨hfirst, hrest⟩ := List.forall_mem_cons.mp he
    exact ih (hr.step h x.1 hfirst).1 hrest

end PageRun

end DocPages
