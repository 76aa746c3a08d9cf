import DocPages.Proofs.Document.Styled
import DocPages.Proofs.Page.Sidebar
import Mathlib.Data.List.Induction

/-! Following the width of the window, or the verdict of a media query. A page that is told every
width observes its layout again and again, and every observation of the mobile layout closes the
sidebar. A page that is told changes of the verdict observes only these. The two agree until a
resize within the mobile layout meets a sidebar that is open or slides out. -/

namespace DocPages

open Document

section Styles

variable {δ : Type} [Document δ] {d e : δ} {id : String}

/-- There is an element with the id that takes styles. -/
def stylable (d : δ) (id : String) : Bool := (setStyle d id "" "").isSome

/-- The two documents cannot be told apart by the styles of an element. -/
structure SameStyles (id : String) (d e : δ) : Prop where
  style : ∀ property, style d id property = style e id property
  stylable : stylable d id = stylable e id

theorem applyEdits_cons (d : δ) (id : String) (edit : StyleEdit) (edits : List StyleEdit) :
    applyEdits d id (edit :: edits) =
      applyEdits ((setStyle d id edit.property edit.value).getD d) id edits := rfl

variable [LawfulStyles δ]

theorem applyEdits_of_not_stylable (h : stylable d id = false) (edits : List StyleEdit) :
    applyEdits d id edits = d := by
  induction edits with
  | nil => rfl
  | cons edit edits ih =>
    have hnone : setStyle d id edit.property edit.value = none := by
      rw [← Option.not_isSome_iff_eq_none, LawfulStyles.isSome_setStyle d id _ _ "" ""]
      exact Bool.eq_false_iff.mp h
    rw [applyEdits_cons, hnone]
    exact ih

theorem style_applyEdits (h : stylable d id = true) (edits : List StyleEdit) :
    stylable (applyEdits d id edits) id = true ∧ ∀ property,
      style (applyEdits d id edits) id property =
        Sidebar.edited property (style d id property) edits := by
  induction edits generalizing d with
  | nil => exact ⟨h, fun _ => rfl⟩
  | cons edit edits ih =>
    have hsome : (setStyle d id edit.property edit.value).isSome = true := by
      rw [LawfulStyles.isSome_setStyle d id _ _ "" ""]
      exact h
    obtain ⟨d', hd⟩ := Option.isSome_iff_exists.mp hsome
    obtain ⟨hrest, hstyle⟩ := ih (LawfulStyles.setStyle_setStyle hd "" "")
    rw [applyEdits_cons, hd]
    refine ⟨hrest, fun property => ?_⟩
    rw [Option.getD_some, hstyle, LawfulStyles.style_setStyle hd]
    rfl

theorem style_applyEdits_of_stylable {edits : List StyleEdit}
    (h : stylable (applyEdits d id edits) id = true) (property : String) :
    stylable d id = true ∧ style (applyEdits d id edits) id property =
      Sidebar.edited property (style d id property) edits := by
  cases hd : stylable d id with
  | false =>
    rw [applyEdits_of_not_stylable hd, hd] at h
    cases h
  | true => exact ⟨rfl, (style_applyEdits hd edits).2 property⟩

theorem SameStyles.applyEdits (h : SameStyles id d e) (edits : List StyleEdit) :
    SameStyles id (applyEdits d id edits) (applyEdits e id edits) := by
  cases hd : DocPages.stylable d id with
  | false =>
    rw [applyEdits_of_not_stylable hd, applyEdits_of_not_stylable (h.stylable ▸ hd)]
    exact h
  | true =>
    obtain ⟨hleft, hstyle⟩ := style_applyEdits hd edits
    obtain ⟨hright, hstyle'⟩ := style_applyEdits (h.stylable ▸ hd) edits
    exact ⟨fun property => by rw [hstyle, hstyle', h.style], hleft.trans hright.symm⟩

/-- Edits that set what is already there leave no trace. -/
theorem sameStyles_applyEdits {edits : List StyleEdit}
    (h : stylable d id = true → ∀ property,
      Sidebar.edited property (style d id property) edits = style d id property) :
    SameStyles id (applyEdits d id edits) d := by
  cases hd : DocPages.stylable d id with
  | false =>
    rw [applyEdits_of_not_stylable hd]
    exact ⟨fun _ => rfl, rfl⟩
  | true =>
    obtain ⟨hafter, hstyle⟩ := style_applyEdits hd edits
    exact ⟨fun property => by rw [hstyle, h hd], hafter.trans hd.symm⟩

end Styles

namespace Sidebar

variable {s : Sidebar} {visibility transform : Option String} {layout : Layout}

theorem edited_applyLayout_other (s : Sidebar) (layout : Layout) {property : String}
    (hv : property ≠ "visibility") (ht : property ≠ "transform") (old : Option String) :
    edited property old (s.applyLayout layout).edits = old := by
  cases layout <;> simp [applyLayout, edited, hv, ht]

/-- The sidebar is neither open nor about to be hidden. -/
def AtRest (s : Sidebar) : Prop := s.active = false ∧ s.pendingHide = false

/-- A layout that is observed again changes nothing about a sidebar at rest. On a desktop the
sidebar always is, as far as its styles go. -/
theorem Fits.applyLayout_again (h : s.Fits visibility transform)
    (hm : s.mobile = true ↔ layout = .mobile) (hrest : layout = .mobile → s.AtRest) :
    (s.applyLayout layout).state = s ∧
      edited "visibility" visibility (s.applyLayout layout).edits = visibility ∧
      edited "transform" transform (s.applyLayout layout).edits = transform := by
  cases layout with
  | mobile =>
    have hmobile : s.mobile = true := hm.mpr rfl
    obtain ⟨hactive, hpending⟩ := hrest rfl
    obtain ⟨htransform, hvisibility⟩ := h.slidOut hmobile hactive
    refine ⟨?_, ?_, ?_⟩
    · show (⟨false, true, false⟩ : Sidebar) = s
      cases s
      simp_all
    · rw [hvisibility hpending]
      rfl
    · rw [htransform]
      rfl
  | desktop =>
    have hmobile : s.mobile = false := by
      rw [← Bool.not_eq_true, hm]
      exact nofun
    have hpending : s.pendingHide = false := by
      rw [← Bool.not_eq_true]
      intro hp
      rw [(h.pending hp).1] at hmobile
      cases hmobile
    obtain ⟨hvisibility, htransform⟩ := h.desktop hmobile
    refine ⟨?_, ?_, ?_⟩
    · show { s with mobile := false, pendingHide := false } = s
      cases s
      simp_all
    · rw [hvisibility]
      rfl
    · rw [htransform]
      rfl

end Sidebar

/-- What happens at a page while its window may change its width. -/
inductive Gesture where
  | resize (px : Nat)
  | headerButton
  | sidebarLink
  | transitionEnd
  deriving DecidableEq, Repr

namespace Gesture

/-- What a page that follows the width is told. -/
def event : Gesture → PageEvent
  | resize px => .width px
  | headerButton => .headerButton
  | sidebarLink => .sidebarLink
  | transitionEnd => .transitionEnd

def widthAfter (w : Nat) : Gesture → Nat
  | resize px => px
  | _ => w

/-- What a page that follows the query is told: of a resize, only that the verdict has changed. -/
def heard (breakpoint w : Nat) : Gesture → List PageEvent
  | resize px =>
    if decide (breakpoint ≤ px) = decide (breakpoint ≤ w) then []
    else [.viewport (breakpoint ≤ px)]
  | g => [g.event]

theorem heard_resize (breakpoint w px : Nat) : heard breakpoint w (.resize px) =
    if decide (breakpoint ≤ px) = decide (breakpoint ≤ w) then []
    else [.viewport (breakpoint ≤ px)] := rfl

end Gesture

def finalWidth (w : Nat) (gestures : List Gesture) : Nat := gestures.foldl Gesture.widthAfter w

def heardAll (breakpoint : Nat) : Nat → List Gesture → List PageEvent
  | _, [] => []
  | w, g :: gestures => g.heard breakpoint w ++ heardAll breakpoint (g.widthAfter w) gestures

section Follow

variable {δ : Type} [Document δ] (config : Config) (d : δ) (w : Nat) (gestures : List Gesture)

/-- A page that is told the width of the window at the start and at every resize. -/
def followWidth : PageRun δ :=
  (PageRun.new config d).play (.on ⟨[]⟩ (.width w :: gestures.map Gesture.event))

/-- A page that is told the verdict of the query at the start and whenever it changes. -/
def followQuery : PageRun δ :=
  (PageRun.new config d).play
    (.on ⟨[]⟩ (.viewport (config.breakpoint ≤ w) :: heardAll config.breakpoint w gestures))

/-- The two pages show the same. -/
structure Agree : Prop where
  layout : (followWidth config d w gestures).page.layout =
    (followQuery config d w gestures).page.layout
  sidebar : (followWidth config d w gestures).page.sidebar =
    (followQuery config d w gestures).page.sidebar
  style : ∀ property,
    style (followWidth config d w gestures).document config.ids.sidebar property =
      style (followQuery config d w gestures).document config.ids.sidebar property

/-- No resize within the mobile layout finds the sidebar open or sliding out. -/
def Undisturbed : Prop :=
  ∀ before px after, gestures = before ++ .resize px :: after →
    finalWidth w before < config.breakpoint → px < config.breakpoint →
    (followQuery config d w before).page.sidebar.AtRest

variable {config d w gestures}

theorem finalWidth_append (before after : List Gesture) :
    finalWidth w (before ++ after) = finalWidth (finalWidth w before) after := List.foldl_append

theorem heardAll_append (breakpoint : Nat) (before after : List Gesture) :
    heardAll breakpoint w (before ++ after) =
      heardAll breakpoint w before ++ heardAll breakpoint (finalWidth w before) after := by
  induction before generalizing w with
  | nil => rfl
  | cons g before ih =>
    rw [List.cons_append, heardAll, heardAll, ih, List.append_assoc]
    rfl

theorem followWidth_concat (g : Gesture) :
    followWidth config d w (gestures ++ [g]) =
      ((followWidth config d w gestures).step ⟨[]⟩ g.event).1 := by
  rw [followWidth, followWidth, List.map_append, ← List.cons_append, Script.on, List.map_append,
    PageRun.play, PageRun.play, List.foldl_append]
  rfl

theorem followQuery_concat (g : Gesture) :
    followQuery config d w (gestures ++ [g]) =
      (followQuery config d w gestures).play
        (.on ⟨[]⟩ (g.heard config.breakpoint (finalWidth w gestures))) := by
  rw [followQuery, followQuery, heardAll_append, ← List.cons_append, heardAll, heardAll,
    List.append_nil, Script.on, List.map_append, PageRun.play, PageRun.play, PageRun.play,
    List.foldl_append]
  rfl

theorem Undisturbed.of_append {before after : List Gesture}
    (h : Undisturbed config d w (before ++ after)) : Undisturbed config d w before := by
  intro first px rest heq
  exact h first px (rest ++ after) (by rw [heq, List.append_assoc, List.cons_append])

end Follow

section Watching

variable {δ : Type} [Document δ] {config : Config} {layout : Layout} {r s : PageRun δ}

/-- A page that has observed a layout last, with flags and styles to match. An element that takes
no styles says nothing about them. -/
structure Watches (config : Config) (layout : Layout) (r : PageRun δ) : Prop where
  config_eq : r.page.config = config
  layout_eq : r.page.layout = some layout
  mobile : r.page.sidebar.mobile = true ↔ layout = .mobile
  fits : ∃ visibility transform, r.page.sidebar.Fits visibility transform ∧
    (stylable r.document config.ids.sidebar = true →
      style r.document config.ids.sidebar "visibility" = visibility ∧
      style r.document config.ids.sidebar "transform" = transform)

theorem Watches.step_width (h : Watches config layout r) (px : Nat) :
    (r.step ⟨[]⟩ (.width px)).1 =
      (r.put (r.page.observe r.document (.ofWidth config.breakpoint px))).1 := by
  rw [← h.config_eq]
  rfl

variable [LawfulStyles δ]

theorem watches_observe (hc : r.page.config = config) (layout : Layout) :
    Watches config layout (r.put (r.page.observe r.document layout)).1 where
  config_eq := hc
  layout_eq := rfl
  mobile := by
    show (r.page.sidebar.applyLayout layout).state.mobile = true ↔ layout = .mobile
    cases layout <;> simp [Sidebar.applyLayout]
  fits := by
    subst hc
    have hsound : (r.page.sidebar.applyLayout layout).Sound
        (style r.document r.page.config.ids.sidebar "visibility")
        (style r.document r.page.config.ids.sidebar "transform") := .applyLayout _ _
    refine ⟨_, _, hsound, fun hstylable => ?_⟩
    have hstyle := style_applyEdits_of_stylable hstylable
    exact ⟨(hstyle "visibility").2, (hstyle "transform").2⟩

theorem Watches.apply {effect : Sidebar.Effect} (h : Watches config layout r)
    (hsound : ∀ visibility transform, r.page.sidebar.Fits visibility transform →
      effect.Sound visibility transform)
    (hmobile : effect.state.mobile = r.page.sidebar.mobile) :
    Watches config layout (r.put (r.page.apply r.document effect)).1 where
  config_eq := h.config_eq
  layout_eq := h.layout_eq
  mobile := by
    show effect.state.mobile = true ↔ layout = .mobile
    rw [hmobile]
    exact h.mobile
  fits := by
    obtain ⟨visibility, transform, hfits, hstyles⟩ := h.fits
    have hc := h.config_eq
    subst hc
    refine ⟨_, _, hsound _ _ hfits, fun hstylable => ?_⟩
    have hstyle := style_applyEdits_of_stylable hstylable
    obtain ⟨hvisibility, htransform⟩ := hstyles (hstyle "visibility").1
    rw [← hvisibility, ← htransform]
    exact ⟨(hstyle "visibility").2, (hstyle "transform").2⟩

theorem Watches.headerButton (h : Watches config layout r) :
    Watches config layout (r.step ⟨[]⟩ .headerButton).1 :=
  h.apply (fun _ _ => .toggle) (Sidebar.mobile_toggle _)

theorem Watches.sidebarLink (h : Watches config layout r) :
    Watches config layout (r.step ⟨[]⟩ .sidebarLink).1 :=
  h.apply (fun _ _ => .close) (Sidebar.mobile_close _)

theorem Watches.transitionEnd (h : Watches config layout r) :
    Watches config layout (r.step ⟨[]⟩ .transitionEnd).1 :=
  h.apply (fun _ _ => .transitionEnd) (Sidebar.mobile_transitionEnd _)

/-- One gesture at a page that is told the width. -/
theorem Watches.event {w : Nat} (h : Watches config (.ofWidth config.breakpoint w) r)
    (g : Gesture) :
    Watches config (.ofWidth config.breakpoint (g.widthAfter w)) (r.step ⟨[]⟩ g.event).1 := by
  cases g with
  | resize px =>
    rw [Gesture.event, h.step_width]
    exact watches_observe h.config_eq _
  | headerButton => exact h.headerButton
  | sidebarLink => exact h.sidebarLink
  | transitionEnd => exact h.transitionEnd

/-- One gesture at a page that is told the verdict. -/
theorem Watches.heard {w : Nat} (h : Watches config (.ofWidth config.breakpoint w) r)
    (g : Gesture) :
    Watches config (.ofWidth config.breakpoint (g.widthAfter w))
      (r.play (.on ⟨[]⟩ (g.heard config.breakpoint w))) := by
  cases g with
  | resize px =>
    rw [Gesture.heard_resize]
    split
    · rename_i hsame
      have hlayout : Layout.ofWidth config.breakpoint px = .ofWidth config.breakpoint w :=
        congrArg Layout.ofQuery hsame
      rw [Gesture.widthAfter, hlayout]
      exact h
    · exact watches_observe h.config_eq _
  | headerButton => exact h.headerButton
  | sidebarLink => exact h.sidebarLink
  | transitionEnd => exact h.transitionEnd

theorem watches_followWidth (config : Config) (d : δ) (w : Nat) (gestures : List Gesture) :
    Watches config (.ofWidth config.breakpoint (finalWidth w gestures))
      (followWidth config d w gestures) := by
  induction gestures using List.reverseRecOn with
  | nil => exact watches_observe (r := .new config d) rfl _
  | append_singleton gestures g ih =>
    rw [followWidth_concat, finalWidth_append]
    exact ih.event g

theorem watches_followQuery (config : Config) (d : δ) (w : Nat) (gestures : List Gesture) :
    Watches config (.ofWidth config.breakpoint (finalWidth w gestures))
      (followQuery config d w gestures) := by
  induction gestures using List.reverseRecOn with
  | nil => exact watches_observe (r := .new config d) rfl _
  | append_singleton gestures g ih =>
    rw [followQuery_concat, finalWidth_append]
    exact ih.heard g

/-- The same page, in documents with the same styles of the sidebar. -/
structure Alike (r s : PageRun δ) : Prop where
  page : r.page = s.page
  styles : SameStyles r.page.config.ids.sidebar r.document s.document

theorem Alike.apply (h : Alike r s) (page : Page) (hc : page.config = r.page.config)
    (effect : Sidebar.Effect) :
    Alike (r.put (page.apply r.document effect)).1 (s.put (page.apply s.document effect)).1 := by
  have hstyles := h.styles.applyEdits effect.edits
  rw [← hc] at hstyles
  exact ⟨rfl, hstyles⟩

theorem Alike.observe (h : Alike r s) (layout : Layout) :
    Alike (r.put (r.page.observe r.document layout)).1
      (s.put (s.page.observe s.document layout)).1 := by
  rw [← h.page]
  exact h.apply { r.page with layout := some layout } rfl _

/-- The layout that was observed last, observed once more by a page at rest. -/
theorem Watches.observe_again (h : Watches config layout r)
    (hrest : layout = .mobile → r.page.sidebar.AtRest) (hrs : Alike r s) :
    Alike (r.put (r.page.observe r.document layout)).1 s := by
  obtain ⟨visibility, transform, hfits, hstyles⟩ := h.fits
  obtain ⟨hstate, hvisibility, htransform⟩ := hfits.applyLayout_again h.mobile hrest
  have hpage : (r.put (r.page.observe r.document layout)).1.page = r.page := by
    simp only [PageRun.put, Page.observe, Page.apply, hstate]
    rw [← h.layout_eq]
  have hc := h.config_eq
  subst hc
  have hkept : SameStyles r.page.config.ids.sidebar
      (r.put (r.page.observe r.document layout)).1.document r.document := by
    apply sameStyles_applyEdits
    intro hstylable property
    obtain ⟨hv, ht⟩ := hstyles hstylable
    by_cases hpv : property = "visibility"
    · rw [hpv, hv, hvisibility]
    · by_cases hpt : property = "transform"
      · rw [hpt, ht, htransform]
      · exact Sidebar.edited_applyLayout_other _ _ hpv hpt _
  refine ⟨hpage.trans hrs.page, ?_⟩
  rw [hpage]
  exact ⟨fun property => (hkept.style property).trans (hrs.styles.style property),
    hkept.stylable.trans hrs.styles.stylable⟩

theorem Alike.heard_of_ne (h : Alike r s) {breakpoint w : Nat} {g : Gesture}
    (hg : ∀ px, g ≠ .resize px) :
    Alike (r.step ⟨[]⟩ g.event).1 (s.play (.on ⟨[]⟩ (g.heard breakpoint w))) := by
  cases g with
  | resize px => exact absurd rfl (hg px)
  | headerButton | sidebarLink | transitionEnd =>
    simp only [Gesture.event, Gesture.heard, Script.on, List.map_cons, List.map_nil,
      PageRun.play, List.foldl_cons, List.foldl_nil, PageRun.step, Page.onHeaderButton,
      Page.onSidebarLink, Page.onTransitionEnd, ← h.page]
    exact h.apply r.page rfl _

/-- As long as nothing disturbs it, a page that is told every width is where one is that is told
changes of the verdict. -/
theorem Undisturbed.alike {d : δ} {w : Nat} {gestures : List Gesture}
    (h : Undisturbed config d w gestures) :
    Alike (followWidth config d w gestures) (followQuery config d w gestures) := by
  induction gestures using List.reverseRecOn with
  | nil =>
    have hnew : Alike (PageRun.new config d) (.new config d) := ⟨rfl, fun _ => rfl, rfl⟩
    exact hnew.observe _
  | append_singleton gestures g ih =>
    have halike := ih h.of_append
    have hwatches := watches_followWidth config d w gestures
    rw [followWidth_concat, followQuery_concat]
    by_cases hg : ∃ px, g = .resize px
    · obtain ⟨px, rfl⟩ := hg
      rw [Gesture.event, hwatches.step_width, Gesture.heard_resize]
      split
      · -- The verdict is the old one, and the second page hears nothing.
        rename_i hsame
        have hlayout : Layout.ofWidth config.breakpoint (finalWidth w gestures) =
            .ofWidth config.breakpoint px := (congrArg Layout.ofQuery hsame).symm
        rw [hlayout] at hwatches
        refine hwatches.observe_again (fun hmobile => ?_) halike
        have hpx : px < config.breakpoint := by
          by_contra hwide
          simp [Layout.ofWidth, Layout.ofQuery, Nat.le_of_not_lt hwide] at hmobile
        have hw : finalWidth w gestures < config.breakpoint := by
          simpa [Nat.not_le.mpr hpx] using hsame
        rw [halike.page]
        exact h gestures px [] rfl hw hpx
      · exact halike.observe _
    · exact halike.heard_of_ne fun px heq => hg ⟨px, heq⟩

end Watching

/-- Both pages are in the layout for the width of the window after every gesture. They show the same
all along exactly if no resize that stays below the breakpoint finds the sidebar open or sliding
out: the page that follows the width closes it at once, the other leaves it. -/
theorem width_agrees_with_query_iff {δ : Type} [Document δ] [LawfulStyles δ] (config : Config)
    (d : δ) (w : Nat) (gestures : List Gesture) :
    (followWidth config d w gestures).page.layout =
      some (.ofWidth config.breakpoint (finalWidth w gestures)) ∧
    (followQuery config d w gestures).page.layout =
      some (.ofWidth config.breakpoint (finalWidth w gestures)) ∧
    ((∀ before after, gestures = before ++ after → Agree config d w before) ↔
      Undisturbed config d w gestures) := by
  refine ⟨(watches_followWidth config d w gestures).layout_eq,
    (watches_followQuery config d w gestures).layout_eq, ?_, ?_⟩
  · intro hagree before px after heq hw hpx
    have hnext : Agree config d w (before ++ [.resize px]) :=
      hagree _ after (by rw [heq, List.append_assoc]; rfl)
    have hclosed : (followWidth config d w (before ++ [.resize px])).page.sidebar =
        ⟨false, true, false⟩ := by
      have hlayout : Layout.ofWidth config.breakpoint px = .mobile := by
        simp [Layout.ofWidth, Layout.ofQuery, Nat.not_le.mpr hpx]
      rw [followWidth_concat, Gesture.event, (watches_followWidth config d w before).step_width,
        hlayout]
      rfl
    have hsilent : followQuery config d w (before ++ [.resize px]) =
        followQuery config d w before := by
      rw [followQuery_concat, Gesture.heard_resize,
        if_pos (by simp [Nat.not_le.mpr hpx, Nat.not_le.mpr hw])]
      rfl
    have hsidebar := hnext.sidebar
    rw [hclosed, hsilent] at hsidebar
    rw [← hsidebar]
    exact ⟨rfl, rfl⟩
  · intro h before after heq
    have halike := (heq ▸ h : Undisturbed config d w (before ++ after)).of_append.alike
    have hconfig := (watches_followWidth config d w before).config_eq
    refine ⟨congrArg (·.layout) halike.page, congrArg (·.sidebar) halike.page, fun property => ?_⟩
    have hstyle := halike.styles.style property
    rw [hconfig] at hstyle
    exact hstyle

/-- A resize across the breakpoint may find the sidebar open. -/
theorem width_agrees_with_query_crossing :
    Agree .default (FlatDocument.mk [.plain "sidebar" [] ""]) 400 [.headerButton, .resize 900] := by
  have hiff := (width_agrees_with_query_iff .default (FlatDocument.mk [.plain "sidebar" [] ""]) 400
    [.headerButton, .resize 900]).2.2
  refine hiff.mpr (fun before px after heq _ hpx => ?_) _ [] (List.append_nil _).symm
  match before, heq with
  | [_], heq =>
    obtain ⟨-, rfl, -⟩ : _ ∧ 900 = px ∧ [] = after := by simpa using heq
    exact absurd hpx (by decide)
  | _ :: _ :: _, heq => simp at heq

/-- The sidebar is open in a window of 400 pixels, which then grows to 420. -/
theorem width_differs_from_query_when_disturbed :
    (followWidth .default (FlatDocument.mk [.plain "sidebar" [] ""]) 400
      [.headerButton, .resize 420]).page.sidebar = ⟨false, true, false⟩ ∧
    (followQuery .default (FlatDocument.mk [.plain "sidebar" [] ""]) 400
      [.headerButton, .resize 420]).page.sidebar = ⟨true, true, false⟩ ∧
    ¬ Agree .default (FlatDocument.mk [.plain "sidebar" [] ""]) 400
      [.headerButton, .resize 420] := by
  refine ⟨by decide, by decide, fun h => ?_⟩
  exact absurd h.sidebar (by decide)

end DocPages
