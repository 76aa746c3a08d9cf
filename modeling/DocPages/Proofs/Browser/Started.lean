import DocPages.Proofs.Browser.Idle

/-! Starting a page in a browser that shows none. All listeners that a start adds are outside the
search, and the page then waits for its index. -/

namespace DocPages

namespace Browser

/-- No page has been started in the browser. -/
structure Fresh (b : Browser) : Prop where
  pages : b.pages = []
  listeners : b.listeners = []
  ready : b.ready = []
  timers : b.timers = []
  waiting : b.waiting = []

/-- What the parts of a start add to one another: nothing but plain listeners. -/
structure Grown (b b' : Browser) : Prop where
  ready : b'.ready = b.ready
  timers : b'.timers = b.timers
  waiting : b'.waiting = b.waiting
  focus : b'.focus = b.focus
  configs : b'.pages.map (·.config) = b.pages.map (·.config)
  shape : b'.tree.shape = b.tree.shape
  plain : (∀ l ∈ b.listeners, l.Plain) → ∀ l ∈ b'.listeners, l.Plain

/-- Plain listeners at elements were added, and nothing else has changed. -/
def Attached (b b' : Browser) : Prop :=
  ∃ added : List Listener, (∀ l ∈ added, l.Plain ∧ ∃ key, l.target = .element key) ∧
    b' = { b with listeners := b.listeners ++ added }

section Start

variable {b b' b'' : Browser} {i : Nat}

theorem Grown.refl (b : Browser) : Grown b b := ⟨rfl, rfl, rfl, rfl, rfl, rfl, id⟩

theorem Grown.trans (h : Grown b b') (h' : Grown b' b'') : Grown b b'' where
  ready := h'.ready.trans h.ready
  timers := h'.timers.trans h.timers
  waiting := h'.waiting.trans h.waiting
  focus := h'.focus.trans h.focus
  configs := h'.configs.trans h.configs
  shape := h'.shape.trans h.shape
  plain hb := h'.plain (h.plain hb)

theorem grown_listen (b : Browser) (target : Target) {type : String} {handler : Handler}
    (ht : type ∉ searchTypes) (hh : handler.isSearch = false) :
    Grown b (b.listen target type i handler) := by
  refine ⟨rfl, rfl, rfl, rfl, rfl, rfl, ?_⟩
  intro hb l hl
  rcases List.mem_append.mp hl with hold | hnew
  · exact hb l hold
  · rw [List.mem_singleton.mp hnew]
    exact ⟨ht, hh⟩

theorem grown_handle (b : Browser) {e : Event} {l : Listener} (hl : l.handler.isSearch = false) :
    Grown b (handle e b l) := by
  obtain ⟨console, hdraw⟩ := handle_eq (e := e) (b := b) hl
  rw [hdraw]
  exact ⟨rfl, rfl, rfl, rfl, Listener.configs_react _ _, Listener.shape_react _ _, id⟩

theorem Attached.refl (b : Browser) : Attached b b :=
  ⟨[], nofun, by rw [List.append_nil]⟩

theorem Attached.trans (h : Attached b b') (h' : Attached b' b'') : Attached b b'' := by
  obtain ⟨added, hadded, rfl⟩ := h
  obtain ⟨more, hmore, rfl⟩ := h'
  refine ⟨added ++ more, ?_, by rw [← List.append_assoc]⟩
  exact List.forall_mem_append.mpr ⟨hadded, hmore⟩

theorem attached_listen (b : Browser) (key : Nat) {type : String} {handler : Handler}
    (ht : type ∉ searchTypes) (hh : handler.isSearch = false) :
    Attached b (b.listen (.element key) type i handler) :=
  ⟨[⟨.element key, type, i, handler⟩], List.forall_mem_singleton.mpr ⟨⟨ht, hh⟩, key, rfl⟩, rfl⟩

theorem attached_listen? (b : Browser) (x : Option TreeElement) (type : String)
    (handler : TreeElement → Handler) (ht : type ∉ searchTypes)
    (hh : ∀ e, (handler e).isSearch = false) :
    Attached b (match x with
      | some e => b.listen (.element e.key) type i (handler e)
      | none => b) := by
  cases x with
  | none => exact .refl b
  | some e => exact attached_listen b _ ht (hh e)

theorem attached_foldl {α : Type} {f : Browser → α → Browser} (hf : ∀ b x, Attached b (f b x))
    (xs : List α) (b : Browser) : Attached b (xs.foldl f b) := by
  induction xs generalizing b with
  | nil => exact .refl b
  | cons x xs ih => exact (hf b x).trans (ih (f b x))

theorem attached_wireSections (b : Browser) (sections : List String) :
    Attached b (wireSections i b sections) := by
  apply attached_foldl
  intro b id
  exact attached_listen? b _ "click" (fun _ => .sectionButton id) (by decide) fun _ => rfl

theorem attached_wireSidebar (b : Browser) (config : Config) :
    Attached b (wireSidebar i b config) := by
  unfold wireSidebar
  have hlinks : Attached b ((b.tree.withClasses Markup.clickableClass).foldl
      (fun b link => b.listen (.element link.key) "click" i .sidebarLink) b) :=
    attached_foldl (fun b link => attached_listen b _ (by decide) rfl) _ b
  generalize (b.tree.withClasses Markup.clickableClass).foldl
    (fun b link => b.listen (.element link.key) "click" i .sidebarLink) b = linked at hlinks ⊢
  have hbutton := attached_listen? (i := i) linked (linked.tree.get? config.ids.headerButton)
    "click" (fun _ => .headerButton) (by decide) fun _ => rfl
  refine (hlinks.trans hbutton).trans ?_
  exact attached_listen? _ _ "transitionend" (fun sidebar => .transitionEnd sidebar.key) (by decide)
    fun _ => rfl

theorem Attached.grown (h : Attached b b') : Grown b b' := by
  obtain ⟨added, hadded, rfl⟩ := h
  refine ⟨rfl, rfl, rfl, rfl, rfl, rfl, fun hb => ?_⟩
  exact List.forall_mem_append.mpr ⟨hb, fun l hl => (hadded l hl).1⟩

/-- What an element listens to is nothing to the window. -/
theorem Attached.listenersAt_window (h : Attached b b') (type : String) :
    b'.listenersAt .window type = b.listenersAt .window type := by
  obtain ⟨added, hadded, rfl⟩ := h
  have hnone : added.filter (fun l => l.target == .window && l.type == type) = [] := by
    apply List.filter_eq_nil_iff.mpr
    intro l hl
    obtain ⟨-, key, htarget⟩ := hadded l hl
    simp [htarget]
  unfold listenersAt
  rw [List.filter_append, hnone, List.append_nil]

theorem grown_wireLayout (b : Browser) (config : Config) : Grown b (wireLayout i b config).1 := by
  have hasked : Grown b { b with queries := b.queries ++ [config.mediaQuery] } :=
    ⟨rfl, rfl, rfl, rfl, rfl, rfl, id⟩
  refine hasked.trans ?_
  simp only [wireLayout]
  split
  · exact .refl _
  · have hreported (b : Browser) : Grown b (b.report [.followingWidth]) :=
      ⟨rfl, rfl, rfl, rfl, rfl, rfl, id⟩
    refine (hreported _).trans (.trans ?_ (grown_listen _ _ (by decide) rfl))
    exact grown_handle (l := ⟨.window, "resize", i, .width⟩) (e := ⟨none, "", false⟩) _ rfl
  next holds _ =>
    refine .trans ?_ (grown_listen _ _ (by decide) rfl)
    exact grown_handle (l := ⟨.mediaList, "change", i, .viewport⟩) (e := ⟨none, "", holds⟩) _ rfl

/-- A browser that shows a page to which nothing listens yet. -/
def opened (b : Browser) : Browser :=
  let page := Page.new (readConfig b.tree).1
  let installed := page.install b.tree
  { b with hooked := true, pages := b.pages ++ [page], tree := installed.2.1,
           console := b.console ++ (readConfig b.tree).2 ++ installed.2.2 }

/-- A browser whose new page listens to its buttons and links. -/
def wired (b : Browser) : Browser :=
  let config := (readConfig b.tree).1
  let sections := ((Page.new config).install b.tree).1
  wireSidebar b.pages.length (wireSections b.pages.length b.opened sections) config

theorem attached_wired (b : Browser) : Attached b.opened b.wired :=
  (attached_wireSections _ _).trans (attached_wireSidebar _ _)

theorem start_eq_wireLayout (b : Browser) :
    b.start =
      if !b.hasWindow then (b, .error (.text "no window"))
      else if !b.hasDocument then (b, .error (.text "no document"))
      else match wireLayout b.pages.length b.wired (readConfig b.tree).1 with
        | (b', .error v) => (b', .error v)
        | (b', .ok ()) => ({ b' with ready := b'.ready ++ [.load b.pages.length] }, .ok ()) := rfl

/-- A browser whose new page also follows its layout. -/
def laidOut (b : Browser) : Browser :=
  (wireLayout b.pages.length b.wired (readConfig b.tree).1).1

theorem grown_laidOut (b : Browser) : Grown b.opened b.laidOut :=
  b.attached_wired.grown.trans (grown_wireLayout _ _)

theorem start_eq (hok : b.start.2 = .ok ()) :
    b.start.1 = { b.laidOut with ready := b.laidOut.ready ++ [.load b.pages.length] } := by
  rw [start_eq_wireLayout] at hok ⊢
  cases hwindow : b.hasWindow with
  | false => simp [hwindow] at hok
  | true =>
    cases hdocument : b.hasDocument with
    | false => simp [hwindow, hdocument] at hok
    | true =>
      rw [hwindow, hdocument] at hok
      unfold laidOut
      rcases hlayout : wireLayout b.pages.length b.wired (readConfig b.tree).1 with ⟨b', v | ⟨⟩⟩
      · rw [hlayout] at hok
        cases hok
      · rfl

/-- A browser in which nothing has been reported. -/
def silent (b : Browser) : Browser := { b with console := [] }

theorem Fresh.silent (h : b.Fresh) : b.silent.Fresh :=
  ⟨h.pages, h.listeners, h.ready, h.timers, h.waiting⟩

theorem step_start_eq (b : Browser) : (b.step .start).1 = b.silent.start.1.settle := rfl

theorem start_ok_of_step (hstart : (b.step .start).2 = .started (.ok ())) :
    b.silent.start.2 = .ok () := by
  simpa [step, act, silent] using hstart

theorem Fresh.configs_laidOut (h : b.Fresh) :
    b.laidOut.pages.map (·.config) = [(readConfig b.tree).1] := by
  rw [b.grown_laidOut.configs]
  simp [opened, h.pages, Page.new]

/-- What follows a start at once is that the index is asked for. -/
theorem Fresh.settle_start_eq (h : b.Fresh) (hok : b.start.2 = .ok ()) :
    ∃ fetched console, b.start.1.settle =
      { b.laidOut with ready := [], fetched := fetched, waiting := [0], console := console } := by
  have hready : b.laidOut.ready = [] := b.grown_laidOut.ready.trans h.ready
  have hwaiting : b.laidOut.waiting = [] := b.grown_laidOut.waiting.trans h.waiting
  have hsettle : b.start.1.settle =
      ({ b.laidOut with ready := [] } : Browser).runTask (.load 0) := by
    rw [start_eq hok]
    simp only [settle, hready, h.pages, List.length_nil, List.nil_append, List.foldl_cons,
      List.foldl_nil]
  obtain ⟨page, hpage, -⟩ := List.map_eq_singleton_iff.mp h.configs_laidOut
  rw [hsettle]
  simp only [runTask, hpage, List.getElem?_cons_zero, hwaiting, List.nil_append]
  exact ⟨_, _, rfl⟩

/-- A page that was started waits for its index, and no search listens. -/
structure Started (b b' : Browser) : Prop where
  deaf : b'.Deaf
  waiting : b'.waiting = [0]
  configs : b'.pages.map (·.config) = [(readConfig b.tree).1]
  shape : b'.tree.shape = b.tree.shape
  focus : b'.focus = b.focus

theorem Fresh.started (h : b.Fresh) (hstart : (b.step .start).2 = .started (.ok ())) :
    Started b (b.step .start).1 := by
  obtain ⟨fetched, console, hstep⟩ := h.silent.settle_start_eq (start_ok_of_step hstart)
  have hgrown := b.silent.grown_laidOut
  rw [step_start_eq, hstep]
  exact
    { deaf := ⟨rfl, hgrown.timers.trans h.timers,
        hgrown.plain (by simp [opened, h.silent.listeners])⟩
      waiting := rfl
      configs := h.silent.configs_laidOut
      shape := hgrown.shape.trans (ElementTree.shape_install _ _)
      focus := hgrown.focus }

end Start

end Browser

end DocPages
