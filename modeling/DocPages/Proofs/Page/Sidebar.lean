import DocPages.Proofs.Page.Script

/-! The sidebar's flags, the observed layout and the two inline styles of the sidebar element stay
in step, whatever events come in whatever order. Events of the sidebar move all of them together;
every other event leaves the element's two styles alone. -/

namespace DocPages

open Document

namespace Sidebar

/-- The flags agree with one another and with the values of the two styles. -/
structure Fits (s : Sidebar) (visibility transform : Option String) : Prop where
  pending : s.pendingHide = true → s.mobile = true ∧ s.active = false
  desktop : s.mobile = false → visibility = none ∧ transform = none
  slidIn : s.mobile = true → s.active = true →
    visibility = some "visible" ∧ transform = some "translateX(0%)"
  slidOut : s.mobile = true → s.active = false →
    transform = some "translateX(-100%)" ∧ (s.pendingHide = false → visibility = some "hidden")

/-- The value of a property after some edits. -/
def edited (property : String) (old : Option String) (edits : List StyleEdit) : Option String :=
  edits.foldl (fun v e => if property = e.property then
    (if e.value.isEmpty then none else some e.value) else v) old

variable {s : Sidebar} {visibility transform : Option String}

theorem fits_initial : initial.Fits none none :=
  ⟨nofun, fun _ => ⟨rfl, rfl⟩, nofun, nofun⟩

/-- Taking over an effect keeps the flags and the styles in step. -/
def Effect.Sound (e : Effect) (visibility transform : Option String) : Prop :=
  e.state.Fits (edited "visibility" visibility e.edits) (edited "transform" transform e.edits)

theorem Fits.slideOut (hm : s.mobile = true) : s.slideOut.Sound visibility transform where
  pending _ := ⟨hm, rfl⟩
  desktop hd := absurd hm (by simpa [Sidebar.slideOut] using hd)
  slidIn _ ha := nomatch ha
  slidOut _ _ := ⟨rfl, nofun⟩

theorem Fits.unchanged (h : s.Fits visibility transform) :
    Effect.Sound ⟨s, [], []⟩ visibility transform := h

theorem Fits.toggle (h : s.Fits visibility transform) : s.toggle.Sound visibility transform := by
  unfold Sidebar.toggle
  cases hm : s.mobile with
  | false => exact h.unchanged
  | true =>
    cases ha : s.active with
    | true => exact .slideOut hm
    | false => exact ⟨nofun, fun hd => absurd hm (by simp at hd), fun _ _ => ⟨rfl, rfl⟩, nofun⟩

theorem Fits.close (h : s.Fits visibility transform) : s.close.Sound visibility transform := by
  unfold Sidebar.close
  cases hm : s.mobile with
  | false => exact h.unchanged
  | true => exact .slideOut hm

theorem Fits.transitionEnd (h : s.Fits visibility transform) :
    s.transitionEnd.Sound visibility transform := by
  unfold Sidebar.transitionEnd
  cases hp : s.pendingHide with
  | false => exact h.unchanged
  | true =>
    obtain ⟨hm, ha⟩ := h.pending hp
    refine ⟨nofun, fun hd => absurd hm (by simpa using hd),
      fun _ ht => absurd ha (by simpa using ht), fun _ _ => ⟨(h.slidOut hm ha).1, fun _ => rfl⟩⟩

theorem Fits.applyLayout (s : Sidebar) (layout : Layout) :
    (s.applyLayout layout).Sound visibility transform := by
  cases layout with
  | desktop => exact ⟨nofun, fun _ => ⟨rfl, rfl⟩, nofun, nofun⟩
  | mobile => exact ⟨nofun, nofun, nofun, fun _ _ => ⟨rfl, fun _ => rfl⟩⟩

theorem mobile_toggle (s : Sidebar) : s.toggle.state.mobile = s.mobile := by
  unfold Sidebar.toggle
  split
  · rfl
  · split <;> rfl

theorem mobile_close (s : Sidebar) : s.close.state.mobile = s.mobile := by
  unfold Sidebar.close
  split <;> rfl

theorem mobile_transitionEnd (s : Sidebar) : s.transitionEnd.state.mobile = s.mobile := by
  unfold Sidebar.transitionEnd
  split <;> rfl

theorem Fits.transitionEnd_active (h : s.Fits visibility transform) (ha : s.active = true) :
    s.transitionEnd = ⟨s, [], []⟩ := by
  have hp : s.pendingHide = false := by
    cases hp : s.pendingHide with
    | false => rfl
    | true => exact absurd ha (by simp [(h.pending hp).2])
  simp [Sidebar.transitionEnd, hp]

end Sidebar

namespace FlatDocument

/-- A document that holds an element once, outside of all that a page removes or wires. -/
structure Hosts (id : String) (d : FlatDocument) : Prop where
  once : d.count id = 1
  orphan : ∀ e ∈ d.elements, e.id = id → e.parent = none
  unwired : ∀ owner ∈ idsWithClass d Section.collapsibleClass, id ≠ Section.buttonId owner

/-- The element has the given values of the two styles. -/
structure Carries (id : String) (visibility transform : Option String) (d : FlatDocument) : Prop
    extends Hosts id d where
  visibility_eq : style d id "visibility" = visibility
  transform_eq : style d id "transform" = transform

variable {id other : String} {visibility transform : Option String} {d d' : FlatDocument}
  {f : FlatElement → FlatElement}

theorem Hosts.modify? (h : Hosts id d) (hd : d.modify? other f = some d')
    (hf : ∀ e, (f e).id = e.id ∧ (f e).parent = e.parent ∧
      (f e).hasClass Section.collapsibleClass = e.hasClass Section.collapsibleClass) :
    Hosts id d' where
  once := (count_modify? (fun e => (hf e).1) hd id).trans h.once
  orphan e he hid := by
    have hg (x : FlatElement) : ((f x).id, (f x).parent) = (x.id, x.parent) := by
      rw [(hf x).1, (hf x).2.1]
    have hmap := map_modify? (g := fun x => (x.id, x.parent)) hg hd
    have hmem : (e.id, e.parent) ∈ d.elements.map fun x => (x.id, x.parent) :=
      hmap ▸ List.mem_map_of_mem he
    obtain ⟨x, hx, hxe⟩ := List.mem_map.mp hmem
    obtain ⟨hxid, hxp⟩ := Prod.mk.inj hxe
    rw [← hxp]
    exact h.orphan x hx (hxid.trans hid)
  unwired owner ho := by
    rw [idsWithClass_modify? (fun e => ⟨(hf e).1, (hf e).2.2⟩) hd] at ho
    exact h.unwired owner ho

theorem Hosts.setStyle {property value : String} (h : Hosts id d)
    (hd : Document.setStyle d other property value = some d') : Hosts id d' :=
  h.modify? hd fun _ => ⟨rfl, rfl, rfl⟩

theorem Carries.modify? (h : Carries id visibility transform d) (hd : d.modify? other f = some d')
    (hf : ∀ e, (f e).id = e.id ∧ (f e).parent = e.parent ∧
      (f e).hasClass Section.collapsibleClass = e.hasClass Section.collapsibleClass)
    (hs : ∀ e, (f e).styles = e.styles) : Carries id visibility transform d' where
  toHosts := h.toHosts.modify? hd hf
  visibility_eq := (style_modify? (fun e => ⟨(hf e).1, hs e⟩) hd _ _).trans h.visibility_eq
  transform_eq := (style_modify? (fun e => ⟨(hf e).1, hs e⟩) hd _ _).trans h.transform_eq

/-- The styles of other elements and the other properties of the same element do not matter. -/
theorem Carries.setStyle {property value : String} (h : Carries id visibility transform d)
    (hd : Document.setStyle d other property value = some d')
    (hp : id ≠ other ∨ property ≠ "visibility" ∧ property ≠ "transform") :
    Carries id visibility transform d' := by
  have hstyle (q : String) (hq : id ≠ other ∨ q ≠ property) : style d' id q = style d id q := by
    rw [style_setStyle hd, if_neg]
    rintro ⟨rfl, rfl⟩
    exact hq.elim (fun hne => hne rfl) fun hne => hne rfl
  refine ⟨h.toHosts.setStyle hd, ?_, ?_⟩
  · rw [hstyle _ (hp.imp_right fun hne => hne.1.symm), h.visibility_eq]
  · rw [hstyle _ (hp.imp_right fun hne => hne.2.symm), h.transform_eq]

theorem Carries.of_filter (h : Carries id visibility transform d)
    (hown : d'.elements.filter (·.id == id) = d.elements.filter (·.id == id))
    (hmem : ∀ e ∈ d'.elements, e ∈ d.elements ∨ e.id ≠ id ∧ e.classes = []) :
    Carries id visibility transform d' := by
  have hstyle (q : String) : style d' id q = style d id q := by
    simp only [style, get?_eq_head?, hown]
  refine ⟨⟨?_, ?_, ?_⟩, (hstyle _).trans h.visibility_eq, (hstyle _).trans h.transform_eq⟩
  · rw [count_eq_length, hown, ← count_eq_length, h.once]
  · intro e he hid
    rcases hmem e he with hold | hnew
    · exact h.orphan e hold hid
    · exact absurd hid hnew.1
  · intro owner ho
    obtain ⟨e, he, rfl⟩ := List.mem_map.mp ho
    obtain ⟨hin, hclass⟩ := List.mem_filter.mp he
    rcases hmem e hin with hold | hnew
    · exact h.unwired _ (List.mem_map_of_mem (List.mem_filter.mpr ⟨hold, hclass⟩))
    · simp [FlatElement.hasClass, hnew.2] at hclass

theorem Carries.remove? (h : Carries id visibility transform d) (hd : d.remove? other = some d')
    (hne : id ≠ other) : Carries id visibility transform d' := by
  refine h.of_filter (filter_remove? hd hne fun e he hid => ?_)
    fun e he => .inl (mem_of_remove? hd he)
  rw [h.orphan e he hid]
  exact nofun

theorem Carries.append? {parent html : String} (h : Carries id visibility transform d)
    (hd : d.append? parent other html = some d') (hne : id ≠ other) :
    Carries id visibility transform d' := by
  have hother : (other == id) = false := by simpa using hne.symm
  refine h.of_filter ?_ fun e he => ?_
  · simp [elements_append? hd, hother]
  · rw [elements_append? hd, List.mem_append, List.mem_singleton] at he
    refine he.imp_right ?_
    rintro rfl
    exact ⟨hne.symm, rfl⟩

theorem Carries.applyEdits (h : Carries id visibility transform d) (edits : List StyleEdit) :
    Carries id (Sidebar.edited "visibility" visibility edits)
      (Sidebar.edited "transform" transform edits) (Document.applyEdits d id edits) := by
  induction edits generalizing d visibility transform with
  | nil => exact h
  | cons e edits ih =>
    have hsome : (Document.setStyle d id e.property e.value).isSome = true := by
      have hget : (d.get? id).isSome = true :=
        (isSome_get? d id).mpr (by rw [h.once]; exact Nat.one_pos)
      exact (isSome_modify? d id _).trans hget
    obtain ⟨d', hd⟩ := Option.isSome_iff_exists.mp hsome
    have hnext : Carries id (Sidebar.edited "visibility" visibility [e])
        (Sidebar.edited "transform" transform [e]) d' := by
      refine ⟨h.toHosts.setStyle hd, ?_, ?_⟩
      · rw [style_setStyle hd, h.visibility_eq]
        simp [Sidebar.edited]
      · rw [style_setStyle hd, h.transform_eq]
        simp [Sidebar.edited]
    have hstep : Document.applyEdits d id (e :: edits) = Document.applyEdits d' id edits := by
      simp [Document.applyEdits, hd]
    rw [hstep]
    exact ih hnext

end FlatDocument

section Frame

open FlatDocument

variable {id : String} {visibility transform : Option String} {d : FlatDocument}

theorem Section.carries_toggle {owner : String} {collapsed : Bool} {d' : FlatDocument}
    (h : Carries id visibility transform d) (hd : Section.toggle d owner = some (collapsed, d')) :
    Carries id visibility transform d' := by
  obtain ⟨flipped, hflip, hlabel⟩ := Section.toggle_cases hd
  have hflipped : Carries id visibility transform flipped := by
    refine h.modify? hflip (fun e => ⟨e.id_toggleClass _, e.parent_toggleClass _, ?_⟩)
      fun e => e.styles_toggleClass _
    exact e.hasClass_toggleClass_of_ne (by decide)
  rcases hlabel with rfl | ⟨s, hs⟩
  · exact hflipped
  · exact hflipped.modify? hs (fun _ => ⟨rfl, rfl, rfl⟩) fun _ => rfl

theorem Section.carries_prepare {owner : String} {d' : FlatDocument}
    (h : Carries id visibility transform d) (ho : id ≠ Section.buttonId owner)
    (hd : Section.prepare d owner = some d') : Carries id visibility transform d' := by
  obtain ⟨shown, hshow, hrest⟩ := Section.prepare_cases hd
  have hshown := h.setStyle hshow (.inl ho)
  rcases hrest with rfl | ⟨collapsed, ht⟩
  · exact hshown
  · exact carries_toggle hshown ht

theorem Section.carries_prepareAll {owners : List String}
    (h : Carries id visibility transform d) (ho : ∀ owner ∈ owners, id ≠ Section.buttonId owner) :
    Carries id visibility transform (Section.prepareAll d owners).2.1 := by
  induction owners generalizing d with
  | nil => exact h
  | cons owner owners ih =>
    obtain ⟨hfirst, hrest⟩ := List.forall_mem_cons.mp ho
    unfold Section.prepareAll
    cases hp : Section.prepare d owner with
    | none => exact ih h hrest
    | some d' => exact ih (carries_prepare h hfirst hp) hrest

theorem Page.carries_reveal (h : Carries id visibility transform d) (other : String) :
    Carries id visibility transform (Page.reveal d other).1 := by
  unfold Page.reveal
  cases hs : Document.setStyle d other "display" "block" with
  | none => exact h
  | some d' => exact h.setStyle hs (.inr (by decide))

theorem Page.carries_install (p : Page) (h : Carries id visibility transform d) :
    Carries id visibility transform (p.install d).2.1 :=
  carries_reveal (carries_reveal (Section.carries_prepareAll h h.unwired) _) _

theorem Page.carries_clearResults {p : Page} (h : Carries id visibility transform d)
    (hne : id ≠ p.config.ids.searchResults) :
    Carries id visibility transform (p.clearResults d) := by
  unfold Page.clearResults
  cases hr : Document.remove d p.config.ids.searchResults with
  | none => exact h
  | some d' => exact h.remove? hr hne

theorem Page.carries_showResults {p : Page} (h : Carries id visibility transform d)
    (hne : id ≠ p.config.ids.searchResults) (results : List Ranked) :
    Carries id visibility transform (p.showResults d results).2.1 := by
  have hclear := carries_clearResults h hne
  unfold Page.showResults Page.presentResults
  split
  · exact hclear
  · split
    · exact hclear
    · rename_i happend
      exact hclear.append? happend hne

end Frame

/-- The layout that an event observes. -/
def PageEvent.verdict? (breakpoint : Nat) : PageEvent → Option Layout
  | .viewport desktop => some (if desktop then .desktop else .mobile)
  | .width px => some (if breakpoint ≤ px then .desktop else .mobile)
  | _ => none

namespace PageRun

open FlatDocument

/-- The state of a run in which the flags, the layout and the document are in step. -/
structure InStep (config : Config) (r : PageRun FlatDocument) : Prop where
  config_eq : r.page.config = config
  mobile : r.page.sidebar.mobile = true ↔ r.page.layout = some .mobile
  document : ∃ visibility transform, r.page.sidebar.Fits visibility transform ∧
    Carries config.ids.sidebar visibility transform r.document

variable {config : Config} {r : PageRun FlatDocument} {index : Index}

theorem InStep.of_page {page : Page} {desk : Desk} (h : InStep config r)
    (hc : page.config = r.page.config) (hs : page.sidebar = r.page.sidebar)
    (hl : page.layout = r.page.layout) : InStep config ⟨page, r.document, desk⟩ where
  config_eq := hc.trans h.config_eq
  mobile := by rw [hs, hl]; exact h.mobile
  document := by rw [hs]; exact h.document

theorem InStep.of_document {d : FlatDocument} (h : InStep config r)
    (hd : ∀ visibility transform, Carries config.ids.sidebar visibility transform r.document →
      Carries config.ids.sidebar visibility transform d) :
    InStep config { r with document := d } := by
  obtain ⟨visibility, transform, hfits, hcarries⟩ := h.document
  exact ⟨h.config_eq, h.mobile, visibility, transform, hfits, hd _ _ hcarries⟩

/-- An effect on the sidebar, and the layout that the page takes for observed with it. -/
theorem InStep.apply {layout : Option Layout} {e : Sidebar.Effect} (h : InStep config r)
    (he : ∀ visibility transform, r.page.sidebar.Fits visibility transform →
      e.Sound visibility transform)
    (hm : e.state.mobile = true ↔ layout = some .mobile) :
    InStep config (r.put ({ r.page with layout := layout }.apply r.document e)).1 := by
  obtain ⟨visibility, transform, hfits, hcarries⟩ := h.document
  refine ⟨h.config_eq, hm, _, _, he _ _ hfits, ?_⟩
  have hd := hcarries.applyEdits e.edits
  rw [← h.config_eq] at hd ⊢
  exact hd

theorem InStep.observe (h : InStep config r) (layout : Layout) :
    InStep config (r.put (r.page.observe r.document layout)).1 := by
  have hm : (r.page.sidebar.applyLayout layout).state.mobile = true ↔
      some layout = some Layout.mobile := by
    cases layout <;> simp [Sidebar.applyLayout]
  exact h.apply (fun _ _ _ => .applyLayout _ layout) hm

theorem InStep.step (h : InStep config r) (hp : config.ids.sidebar ≠ config.ids.searchResults)
    (e : PageEvent) : InStep config (r.step index e).1 := by
  have hpanel : config.ids.sidebar ≠ r.page.config.ids.searchResults := h.config_eq ▸ hp
  have hshow (results : List Ranked) :
      InStep config (r.presented (r.page.showResults r.document results)).1 :=
    h.of_document fun _ _ hc => Page.carries_showResults hc hpanel results
  cases e with
  | install => exact h.of_document fun _ _ hc => Page.carries_install _ hc
  | viewport desktop => exact h.observe _
  | width px => exact h.observe _
  | headerButton =>
    exact h.apply (fun _ _ => .toggle) (by rw [Sidebar.mobile_toggle]; exact h.mobile)
  | sidebarLink => exact h.apply (fun _ _ => .close) (by rw [Sidebar.mobile_close]; exact h.mobile)
  | transitionEnd =>
    exact h.apply (fun _ _ => .transitionEnd) (by rw [Sidebar.mobile_transitionEnd]; exact h.mobile)
  | sectionButton owner =>
    simp only [PageRun.step]
    split
    · rename_i ht
      exact h.of_document fun _ _ hc => Section.carries_toggle hc ht
    · exact h
  | search slot query => exact h.of_page rfl rfl rfl
  | poll slot => exact h.of_page rfl rfl rfl
  | await slot => exact h.of_page rfl rfl rfl
  | «show» slot =>
    simp only [PageRun.step]
    split
    · exact hshow _
    · exact h
  | showResults results => exact hshow results
  | dismiss =>
    exact (h.of_document fun _ _ hc => Page.carries_clearResults hc hpanel).of_page rfl rfl rfl

theorem InStep.play (h : InStep config r) (hp : config.ids.sidebar ≠ config.ids.searchResults)
    (script : Script) : InStep config (r.play script) :=
  play_invariant h (fun _ _ e h => h.step hp e) script

theorem layout_step (index : Index) (r : PageRun FlatDocument) (e : PageEvent) :
    (r.step index e).1.page.layout =
      (e.verdict? r.page.config.breakpoint).or r.page.layout := by
  cases e with
  | viewport desktop => rfl
  | width px => simp [step, put, Page.onWidth, Page.observe, Page.apply, PageEvent.verdict?,
      Layout.ofWidth, Layout.ofQuery]
  | sectionButton owner =>
    simp only [step]
    split <;> rfl
  | «show» slot =>
    simp only [step]
    split <;> rfl
  | _ => rfl

theorem layout_play (hc : r.page.config = config) (script : Script) :
    (r.play script).page.layout =
      ((script.filterMap fun x => x.2.verdict? config.breakpoint).getLast?).or r.page.layout := by
  induction script generalizing r with
  | nil => rfl
  | cons x script ih =>
    have hstep := layout_step x.1 r x.2
    rw [hc] at hstep
    have hrest := ih ((config_step x.1 r x.2).trans hc)
    rw [hstep] at hrest
    refine hrest.trans ?_
    rw [List.filterMap_cons]
    cases x.2.verdict? config.breakpoint with
    | none => rfl
    | some layout =>
      simp only [List.getLast?_cons]
      cases (script.filterMap fun x => x.2.verdict? config.breakpoint).getLast? <;> rfl

end PageRun

open PageRun FlatDocument

/-- After every script of page events the layout is the verdict of the last observation, the
flags say mobile exactly in the mobile layout, the sidebar element stands where it stood, and its
visibility and transform are those that the flags ask for. So the end of a transition changes
nothing while the sidebar is open. -/
theorem sidebar_in_step {config : Config} {d : FlatDocument}
    (honce : d.count config.ids.sidebar = 1)
    (horphan : ∀ e ∈ d.elements, e.id = config.ids.sidebar → e.parent = none)
    (hvisibility : style d config.ids.sidebar "visibility" = none)
    (htransform : style d config.ids.sidebar "transform" = none)
    (hpanel : config.ids.sidebar ≠ config.ids.searchResults)
    (hbutton : ∀ owner ∈ idsWithClass d Section.collapsibleClass,
      config.ids.sidebar ≠ Section.buttonId owner)
    (script : Script) {r : PageRun FlatDocument} (hr : r = (PageRun.new config d).play script) :
    r.page.layout = (script.filterMap fun x => x.2.verdict? config.breakpoint).getLast? ∧
    ((r.page.layout = none ∨ r.page.layout = some .desktop) ↔ r.page.sidebar.mobile = false) ∧
    r.document.count config.ids.sidebar = 1 ∧
    r.page.sidebar.Fits (style r.document config.ids.sidebar "visibility")
      (style r.document config.ids.sidebar "transform") ∧
    (r.page.sidebar.active = true → ∀ index, (r.step index .transitionEnd).1 = r) := by
  have h0 : InStep config (PageRun.new config d) :=
    ⟨rfl, by simp [PageRun.new, Page.new, Sidebar.initial], none, none, Sidebar.fits_initial,
      ⟨honce, horphan, hbutton⟩, hvisibility, htransform⟩
  have h : InStep config r := hr ▸ h0.play hpanel script
  obtain ⟨visibility, transform, hfits, hcarries⟩ := h.document
  refine ⟨?_, ?_, hcarries.once, ?_, ?_⟩
  · have hlayout := layout_play h0.config_eq script
    rw [← hr] at hlayout
    simpa [PageRun.new, Page.new] using hlayout
  · rw [← Bool.not_eq_true, h.mobile]
    cases r.page.layout with
    | none => simp
    | some layout => cases layout <;> simp
  · rw [hcarries.visibility_eq, hcarries.transform_eq]
    exact hfits
  · intro ha index
    simp [step, put, Page.onTransitionEnd, hfits.transitionEnd_active ha, Page.apply, applyEdits]

/-- A page whose sidebar was opened again while it slid out. -/
def PageRun.reopened : PageRun FlatDocument :=
  (PageRun.new .default ⟨[.plain "sidebar" [] "", .plain "api" ["collapsible"] "",
    .plain "api.vis_button" [] "[-]"]⟩).play <| .on ⟨[]⟩
      [.install, .viewport false, .headerButton, .sidebarLink, .headerButton, .transitionEnd]

theorem sidebar_in_step_reopened :
    reopened.page.layout = some .mobile ∧ reopened.page.sidebar = ⟨true, true, false⟩ ∧
    style reopened.document "sidebar" "visibility" = some "visible" ∧
    (reopened.step ⟨[]⟩ .transitionEnd).1 = reopened := by
  obtain ⟨hlayout, -, -, hfits, hend⟩ := @sidebar_in_step .default
    ⟨[.plain "sidebar" [] "", .plain "api" ["collapsible"] "", .plain "api.vis_button" [] "[-]"]⟩
    (by decide) (by decide) (by decide) (by decide) (by decide) (by decide) _ reopened rfl
  have hs : reopened.page.sidebar = ⟨true, true, false⟩ := by decide
  exact ⟨hlayout, hs, (hfits.slidIn (by rw [hs]) (by rw [hs])).1, hend (by rw [hs]) _⟩

end DocPages
