import DocPages.Proofs.Browser.Degraded
import DocPages.Proofs.Config.Bounded
import Mathlib

/-! A page that follows the width of its window. Widths are cut off to whole pixels and kept within
32 bits before they are compared with the breakpoint; within the bounds of a breakpoint the verdict
is that of the real number, and so that of the media query. Widths that cannot be read are passed
over. -/

namespace DocPages

namespace Browser

namespace Width

/-- The width can be read, even if what is read is not a number. -/
def isReadable : Width → Bool
  | unreadable => false
  | notANumber | infinite _ | real _ => true

/-- At least `n` pixels wide, as a real number. What is not a number is not. -/
def AtLeast (n : Nat) : Width → Prop
  | unreadable | notANumber => False
  | infinite negative => negative = false
  | real px => (n : Rat) ≤ px

/-- The media query holds in a window of this width. -/
def Satisfies (w : Width) (query : String) : Prop :=
  ∃ n : Nat, query = "(min-width: " ++ toString n ++ "px)" ∧ w.AtLeast n

/-- The layout that a page takes up when it is told the width. -/
def layout? (breakpoint : Nat) (w : Width) : Option Layout :=
  w.pixels?.map (.ofWidth breakpoint)

def lastReadable (ws : List Width) : Option Width := (ws.filter isReadable).getLast?

variable {w : Width} {n px : Nat}

theorem satisfies_mediaQuery_iff (w : Width) (config : Config) :
    w.Satisfies config.mediaQuery ↔ w.AtLeast config.breakpoint := by
  constructor
  · rintro ⟨n, hquery, hw⟩
    have hn : config.breakpoint = n := by
      rw [Config.mediaQuery, String.append_left_inj, String.append_right_inj] at hquery
      exact Nat.repr_inj.mp hquery
    rwa [hn]
  · intro hw
    exact ⟨config.breakpoint, rfl, hw⟩

theorem pixels?_eq_none_iff : w.pixels? = none ↔ w.isReadable = false := by
  cases w <;> simp [pixels?, isReadable]

/-- Neither cutting off nor the bounds of 32 bits move a width across a bound within them. -/
theorem le_pixels_iff (hw : w.pixels? = some px) (hpos : 1 ≤ n) (hle : n ≤ widest) :
    n ≤ px ↔ w.AtLeast n := by
  cases w with
  | unreadable => cases hw
  | notANumber =>
    obtain rfl : px = 0 := by simpa [pixels?] using hw.symm
    simp only [AtLeast, iff_false]
    omega
  | infinite negative =>
    obtain rfl : px = if negative then 0 else widest := by simpa [pixels?] using hw.symm
    cases negative with
    | false => simpa [AtLeast] using hle
    | true => simpa [AtLeast] using Nat.ne_of_gt hpos
  | real x =>
    cases hw
    have hfloor : (n : Int) ≤ x.floor ↔ (n : Rat) ≤ x := by
      rw [Rat.le_floor_iff, Int.cast_natCast]
    rw [AtLeast, ← hfloor]
    omega

theorem lastReadable_append (ws : List Width) (w : Width) :
    lastReadable (ws ++ [w]) = if w.isReadable then some w else lastReadable ws := by
  unfold lastReadable
  rw [List.filter_append]
  cases hw : w.isReadable <;> simp [hw]

theorem isReadable_of_lastReadable {ws : List Width} (h : lastReadable ws = some w) :
    w.isReadable = true :=
  (List.mem_filter.mp (List.mem_of_getLast? h)).2

theorem layout?_eq_iff (hw : w.isReadable = true) (hpos : 1 ≤ n) (hle : n ≤ widest) :
    (w.layout? n = some .desktop ↔ w.AtLeast n) ∧ (w.layout? n = some .mobile ↔ ¬ w.AtLeast n) := by
  obtain ⟨px, hpx⟩ : ∃ px, w.pixels? = some px := by
    rw [← Option.ne_none_iff_exists', ne_eq, pixels?_eq_none_iff, hw]
    nofun
  rw [← le_pixels_iff hpx hpos hle, layout?, hpx, Option.map_some, Layout.ofWidth, Layout.ofQuery]
  by_cases h : n ≤ px <;> simp [h]

end Width

end Browser

open Browser Width

/-- The page shows the layout for the last of the widths `ws` that it could read. -/
structure Page.Told (config : Config) (ws : List Width) (p : Page) : Prop where
  configured : p.config = config
  layout : p.layout = (lastReadable ws).bind (·.layout? config.breakpoint)
  mobile : p.sidebar.mobile = true ↔ p.layout = some .mobile

namespace Page

variable {p : Page} {config : Config} {ws : List Width} {w : Width}

theorem told_new (config : Config) : (new config).Told config [] := ⟨rfl, rfl, nofun, nofun⟩

theorem Told.onWidth (h : p.Told config ws) {px : Nat} (hw : w.pixels? = some px)
    (t : ElementTree) : (p.onWidth t px).1.Told config (ws ++ [w]) := by
  have hreadable : w.isReadable = true := by
    rw [← Bool.not_eq_false, ← pixels?_eq_none_iff, hw]
    nofun
  refine ⟨h.configured, ?_, ?_⟩
  · rw [lastReadable_append, if_pos hreadable, Option.bind_some, layout?, hw, ← h.configured]
    rfl
  · cases hlayout : Layout.ofWidth p.config.breakpoint px <;>
      simp [Page.onWidth, observe, apply, Sidebar.applyLayout, hlayout]

theorem Told.unreadable (h : p.Told config ws) (hw : w.isReadable = false) :
    p.Told config (ws ++ [w]) := by
  refine ⟨h.configured, ?_, h.mobile⟩
  rw [lastReadable_append, hw]
  exact h.layout

theorem Told.layout_eq_none_iff (h : p.Told config ws) :
    p.layout = none ↔ lastReadable ws = none := by
  rw [h.layout, Option.bind_eq_none_iff]
  constructor
  · intro hnone
    cases hlast : lastReadable ws with
    | none => rfl
    | some w =>
      have hunread := Option.map_eq_none_iff.mp (hnone w hlast)
      rw [pixels?_eq_none_iff, isReadable_of_lastReadable hlast] at hunread
      cases hunread
  · intro hnone w hw
    rw [hnone] at hw
    cases hw

/-- Within the bounds of a breakpoint, the layout is that of the real width. -/
theorem Told.layout_eq_some_iff (h : p.Told config ws) (hc : config.Bounded) :
    (p.layout = some .desktop ↔ ∃ w, lastReadable ws = some w ∧ w.AtLeast config.breakpoint) ∧
    (p.layout = some .mobile ↔
      ∃ w, lastReadable ws = some w ∧ ¬ w.AtLeast config.breakpoint) := by
  obtain ⟨hpos, hle⟩ := hc.breakpoint
  rw [h.layout, Option.bind_eq_some_iff, Option.bind_eq_some_iff]
  constructor
  · refine exists_congr fun w => and_congr_right fun hlast => ?_
    exact (layout?_eq_iff (isReadable_of_lastReadable hlast) hpos hle).1
  · refine exists_congr fun w => and_congr_right fun hlast => ?_
    exact (layout?_eq_iff (isReadable_of_lastReadable hlast) hpos hle).2

end Page

namespace Browser

/-- The only page has been told the widths `ws`, and it will be told the next. -/
structure Follows (config : Config) (ws : List Width) (b : Browser) : Prop where
  ready : b.ready = []
  heard : b.listenersAt .window "resize" = [⟨.window, "resize", 0, .width⟩]
  told : ∃ page, b.pages = [page] ∧ page.Told config ws

section Following

variable {b : Browser} {config : Config} {ws : List Width}

theorem observeWidth_of_unreadable (hw : b.width.isReadable = false) (i : Nat) :
    b.observeWidth i = b := by
  simp only [observeWidth, pixels?_eq_none_iff.mpr hw]

theorem ready_observeWidth (b : Browser) (i : Nat) : (b.observeWidth i).ready = b.ready := by
  unfold observeWidth onPage
  repeat' split
  all_goals rfl

theorem observeWidth_told {page : Page} (hpages : b.pages = [page]) (h : page.Told config ws) :
    ∃ page' t console, page'.Told config (ws ++ [b.width]) ∧
      b.observeWidth 0 = { b with pages := [page'], tree := t, console := console } := by
  cases hw : b.width.pixels? with
  | none =>
    have hunread := pixels?_eq_none_iff.mp hw
    refine ⟨page, b.tree, b.console, h.unreadable hunread, ?_⟩
    rw [observeWidth_of_unreadable hunread, ← hpages]
  | some px =>
    refine ⟨_, (page.onWidth b.tree px).2.1, b.console ++ (page.onWidth b.tree px).2.2,
      h.onWidth hw b.tree, ?_⟩
    simp only [observeWidth, hw, onPage, hpages, List.getElem?_cons_zero, List.set_cons_zero]
    rfl

theorem Follows.step_resize_eq (h : Follows config ws b) (w : Width) :
    (b.step (.resize w)).1 = ({ b with width := w, console := [] } : Browser).observeWidth 0 := by
  have hheard : ({ b with width := w, console := [] } : Browser).listenersAt .window "resize" =
      [⟨.window, "resize", 0, .width⟩] := h.heard
  simp only [step, act, dispatchAt, hheard, List.foldl_cons, List.foldl_nil]
  exact settle_of_ready_nil ((ready_observeWidth _ 0).trans h.ready)

theorem Follows.resize (h : Follows config ws b) (w : Width) :
    Follows config (ws ++ [w]) (b.step (.resize w)).1 := by
  obtain ⟨page, hpages, htold⟩ := h.told
  obtain ⟨page', t, console, htold', hseen⟩ :=
    observeWidth_told (b := { b with width := w, console := [] }) hpages htold
  rw [h.step_resize_eq, hseen]
  exact ⟨h.ready, h.heard, page', rfl, htold'⟩

theorem Follows.run (h : Follows config ws b) (more : List Width) :
    Follows config (ws ++ more) (b.run (more.map .resize)) := by
  induction more generalizing b ws with
  | nil =>
    rw [List.append_nil]
    exact h
  | cons w more ih =>
    have hrest := ih (h.resize w)
    rw [List.append_assoc] at hrest
    exact hrest

theorem laidOut_eq_of_missing (hmedia : b.wired.media = .missing) :
    ∃ queries console, b.laidOut =
      (({ b.wired with queries := queries, console := console } : Browser).observeWidth
        b.pages.length).listen .window "resize" b.pages.length .width := by
  refine ⟨b.wired.queries ++ [(readConfig b.tree).1.mediaQuery],
    b.wired.console ++ [.followingWidth], ?_⟩
  simp only [laidOut, wireLayout, hmedia]
  rfl

/-- A page that follows widths is told the first one when it is started. -/
theorem Fresh.follows_laidOut (h : b.Fresh) (hmedia : b.media = .missing) :
    Follows (readConfig b.tree).1 [b.width] b.laidOut := by
  have hheard : b.wired.listenersAt .window "resize" = [] := by
    rw [b.attached_wired.listenersAt_window]
    simp [listenersAt, opened, h.listeners]
  obtain ⟨added, -, hwired⟩ := b.attached_wired
  have hpages : b.wired.pages = [Page.new (readConfig b.tree).1] := by
    rw [hwired]
    simp only [opened, h.pages, List.nil_append]
  have hwidth : b.wired.width = b.width := by
    rw [hwired]
    rfl
  have hmissing : b.wired.media = .missing := by
    rw [hwired]
    exact hmedia
  obtain ⟨queries, console, hlaid⟩ := laidOut_eq_of_missing hmissing
  obtain ⟨page, t, console', htold, hseen⟩ := observeWidth_told
    (b := { b.wired with queries := queries, console := console }) hpages (Page.told_new _)
  rw [hlaid, h.pages, List.length_nil, hseen]
  refine ⟨?_, ?_, page, rfl, ?_⟩
  · exact (congrArg Browser.ready hwired).trans h.ready
  · show (b.wired.listeners ++ [_]).filter _ = _
    rw [List.filter_append]
    exact congrArg (· ++ _) hheard
  · rw [← hwidth]
    exact htold

theorem Fresh.follows (h : b.Fresh) (hmedia : b.media = .missing)
    (hstart : (b.step .start).2 = .started (.ok ())) :
    Follows (readConfig b.tree).1 [b.width] (b.step .start).1 := by
  obtain ⟨fetched, console, hstep⟩ := h.silent.settle_start_eq (start_ok_of_step hstart)
  have hlaid := h.silent.follows_laidOut hmedia
  rw [step_start_eq, hstep]
  exact ⟨rfl, hlaid.heard, hlaid.told⟩

end Following

end Browser

/-- After every sequence of resizes, a page that follows widths has the layout for the last width
that could be read, taken as a real number, which is the verdict of the media query. It has none
before a width could be read, and a width that cannot be read changes nothing but the window. -/
theorem layout_follows_last_readable_width (b : Browser) (hfresh : b.Fresh)
    (hmedia : b.media = .missing) (hstart : (b.step .start).2 = .started (.ok ()))
    (ws : List Width) :
    let config := (readConfig b.tree).1
    let last := lastReadable (b.width :: ws)
    let shown := (b.step .start).1.run (ws.map .resize)
    (1 ≤ config.breakpoint ∧ config.breakpoint ≤ 4294967295) ∧
    (∃ page, shown.pages = [page] ∧ page.config = config ∧
      (page.layout = some .desktop ↔ ∃ w, last = some w ∧ w.AtLeast config.breakpoint) ∧
      (page.layout = some .mobile ↔ ∃ w, last = some w ∧ ¬ w.AtLeast config.breakpoint) ∧
      (page.layout = none ↔ last = none) ∧
      (page.sidebar.mobile = true ↔ page.layout = some .mobile)) ∧
    (∀ w : Width, w.Satisfies config.mediaQuery ↔ w.AtLeast config.breakpoint) ∧
    (shown.step (.resize .unreadable)).1 = { shown with width := .unreadable, console := [] } := by
  intro config last shown
  have hc : config.Bounded := Config.bounded_readConfig b.tree
  have hshown : Follows config (b.width :: ws) shown := (hfresh.follows hmedia hstart).run ws
  obtain ⟨page, hpages, htold⟩ := hshown.told
  obtain ⟨hdesktop, hmobile⟩ := htold.layout_eq_some_iff hc
  refine ⟨hc.breakpoint, ?_, (satisfies_mediaQuery_iff · config), ?_⟩
  · exact ⟨page, hpages, htold.configured, hdesktop, hmobile, htold.layout_eq_none_iff,
      htold.mobile⟩
  · rw [hshown.step_resize_eq]
    exact observeWidth_of_unreadable rfl 0

/-- A window without media queries, on a page that takes up the desktop layout in the widest windows
only. -/
def Browser.demanding : Browser :=
  { narrow with
    width := .unreadable
    tree := .ofOutlines [.element "script" configElementId []
      "\x7b\"breakpoint_px\": 4294967295\x7d" []] }

theorem layout_follows_last_readable_width_demanding :
    let after (ws : List Width) := (Browser.demanding.step .start).1.run (ws.map .resize)
    Browser.demanding.Fresh ∧ Browser.demanding.media = .missing ∧
      (Browser.demanding.step .start).2 = .started (.ok ()) ∧
      (∃ page, (after [.unreadable]).pages = [page] ∧ page.layout = none) ∧
      (∃ page, (after [.real (4294967295 - 1 / 2), .unreadable]).pages = [page] ∧
        page.layout = some .mobile) ∧
      (∃ page, (after [.notANumber, .infinite false, .unreadable]).pages = [page] ∧
        page.layout = some .desktop) := by
  intro after
  have hfresh : Browser.demanding.Fresh := ⟨rfl, rfl, rfl, rfl, rfl⟩
  have hstart : (Browser.demanding.step .start).2 = .started (.ok ()) := rfl
  have hbreakpoint : (readConfig Browser.demanding.tree).1.breakpoint = 4294967295 := rfl
  have hshows := layout_follows_last_readable_width Browser.demanding hfresh rfl hstart
  refine ⟨hfresh, rfl, hstart, ?_, ?_, ?_⟩
  · obtain ⟨-, ⟨page, hpages, -, -, -, hnone, -⟩, -⟩ := hshows [.unreadable]
    exact ⟨page, hpages, hnone.mpr rfl⟩
  · obtain ⟨-, ⟨page, hpages, -, -, hmobile, -⟩, -⟩ :=
      hshows [.real (4294967295 - 1 / 2), .unreadable]
    refine ⟨page, hpages, hmobile.mpr ⟨_, rfl, ?_⟩⟩
    rw [hbreakpoint]
    show ¬ ((4294967295 : Nat) : Rat) ≤ 4294967295 - 1 / 2
    norm_num
  · obtain ⟨-, ⟨page, hpages, -, hdesktop, -⟩, -⟩ :=
      hshows [.notANumber, .infinite false, .unreadable]
    exact ⟨page, hpages, hdesktop.mpr ⟨_, rfl, rfl⟩⟩

end DocPages
