import DocPages.Proofs.Browser.Listeners

/-! Browsers in which no search is under way. As long as no search listens either, an event can only
redraw the pages, move the focus or change the window, and what a reply of the network adds are
the listeners of a search. -/

namespace DocPages

namespace Browser

/-- A listener outside the search. -/
def Listener.Plain (l : Listener) : Prop :=
  l.type ∉ searchTypes ∧ l.handler.isSearch = false

/-- No task is under way, and a search listens to the events of its own types only. -/
structure Idle (b : Browser) : Prop where
  ready : b.ready = []
  timers : b.timers = []
  listeners : ∀ l ∈ b.listeners, l.type ∉ searchTypes → l.handler.isSearch = false

/-- No task is under way, and no search listens. -/
structure Deaf (b : Browser) : Prop where
  ready : b.ready = []
  timers : b.timers = []
  plain : ∀ l ∈ b.listeners, l.Plain

theorem Deaf.idle {b : Browser} (h : b.Deaf) : b.Idle :=
  ⟨h.ready, h.timers, fun l hl _ => (h.plain l hl).2⟩

section Dispatch

variable {b : Browser} {type : String}

theorem settle_of_ready_nil (h : b.ready = []) : b.settle = b := by
  unfold settle
  rw [h, List.foldl_nil, ← h]

theorem mem_listenersAt {target : Target} {l : Listener} (h : l ∈ b.listenersAt target type) :
    l ∈ b.listeners ∧ l.type = type := by
  unfold listenersAt at h
  rw [List.mem_filter, Bool.and_eq_true, beq_iff_eq, beq_iff_eq] at h
  exact ⟨h.1, h.2.2⟩

theorem mem_listenersAlong {path : List Nat} {l : Listener}
    (h : l ∈ b.listenersAlong path type) : l ∈ b.listeners ∧ l.type = type := by
  obtain ⟨key, -, hl⟩ := List.mem_flatMap.mp h
  exact mem_listenersAt hl

theorem Idle.dispatch_eq (h : b.Idle) (ht : type ∉ searchTypes) (key : Nat) (keyName : String) :
    ∃ console, b.dispatch key type keyName =
      b.redraw ((b.listenersAlong (b.tree.path key) type).foldl
        (Listener.react ⟨some key, keyName, false⟩ b.width) b.scene) console := by
  have hfocus : type ≠ "focus" := by
    rintro rfl
    exact ht (by decide)
  simp only [dispatch, if_neg hfocus]
  apply foldl_handle_eq
  intro l hl
  obtain ⟨hmem, rfl⟩ := mem_listenersAlong hl
  exact h.listeners l hmem ht

theorem Idle.dispatchAt_eq (h : b.Idle) (ht : type ∉ searchTypes) (target : Target)
    (holds : Bool) :
    ∃ console, b.dispatchAt target type holds =
      b.redraw ((b.listenersAt target type).foldl
        (Listener.react ⟨none, "", holds⟩ b.width) b.scene) console := by
  apply foldl_handle_eq
  intro l hl
  obtain ⟨hmem, rfl⟩ := mem_listenersAt hl
  exact h.listeners l hmem ht

theorem Deaf.listenersAt_eq_nil (h : b.Deaf) (ht : type ∈ searchTypes) (target : Target) :
    b.listenersAt target type = [] := by
  apply List.eq_nil_iff_forall_not_mem.mpr
  intro l hl
  obtain ⟨hmem, rfl⟩ := mem_listenersAt hl
  exact (h.plain l hmem).1 ht

theorem Deaf.listenersAlong_eq_nil (h : b.Deaf) (ht : type ∈ searchTypes) (path : List Nat) :
    b.listenersAlong path type = [] := by
  apply List.flatMap_eq_nil_iff.mpr
  intro key _
  exact h.listenersAt_eq_nil ht _

theorem Deaf.dispatch_eq_self (h : b.Deaf) (ht : type ∈ searchTypes) (key : Nat)
    (keyName : String) : b.dispatch key type keyName = b := by
  simp only [dispatch, h.listenersAlong_eq_nil ht, List.foldl_nil]

theorem Deaf.focusLeft_eq_self (h : b.Deaf) (busy : Busy) (target : Nat) (related : Option Nat) :
    b.focusLeft busy target related = b := by
  unfold focusLeft
  rw [h.listenersAlong_eq_nil (by decide), List.foldl_nil]

theorem Deaf.withFocus (h : b.Deaf) (focus : Option Focus) : Deaf { b with focus := focus } :=
  ⟨h.ready, h.timers, h.plain⟩

theorem Deaf.moveFocus_eq (h : b.Deaf) (new : Option Focus) :
    ∃ focus, focus.map Focus.key = new.map Focus.key ∧
      b.moveFocus new = { b with focus := focus } := by
  unfold moveFocus
  split
  next hsame => exact ⟨b.focus, hsame.symm, rfl⟩
  · refine ⟨new, rfl, ?_⟩
    cases hold : b.focus with
    | none =>
      cases new with
      | none =>
        show b = { b with focus := none }
        rw [← hold]
      | some focus =>
        dsimp only
        rw [h.listenersAt_eq_nil (by decide), List.foldl_nil]
    | some old =>
      dsimp only
      rw [(h.withFocus none).focusLeft_eq_self]
      cases new with
      | none => rfl
      | some focus =>
        dsimp only
        rw [(h.withFocus none).listenersAt_eq_nil (by decide), List.foldl_nil]

/-- Nobody hears that an element is taken away if nothing is focused. -/
theorem removeKey_of_unfocused (hb : b.focus = none) (busy : Busy) (key : Nat) :
    b.removeKey busy key = { b with tree := b.tree.removeKey key } := by
  unfold removeKey
  split
  next focus hfocused =>
    rw [hb] at hfocused
    cases hfocused
  · rfl

theorem Deaf.removeId_eq (h : b.Deaf) (busy : Busy) (id : String) :
    ∃ focus t, (b.removeId busy id).2 = { b with focus := focus, tree := t } := by
  unfold removeId
  cases b.tree.get? id with
  | none => exact ⟨b.focus, b.tree, rfl⟩
  | some e =>
    cases hfocus : b.focus with
    | none =>
      dsimp only
      rw [removeKey_of_unfocused hfocus]
      exact ⟨b.focus, _, rfl⟩
    | some focus =>
      simp only [removeKey, hfocus]
      split
      · rw [(h.withFocus none).focusLeft_eq_self]
        exact ⟨none, _, rfl⟩
      · exact ⟨b.focus, _, rfl⟩

end Dispatch

/-- What listens and what is under way stays, and so do the configurations of the pages. -/
structure Kept (b b' : Browser) : Prop where
  listeners : b'.listeners = b.listeners
  ready : b'.ready = b.ready
  timers : b'.timers = b.timers
  waiting : b'.waiting = b.waiting
  configs : b'.pages.map (·.config) = b.pages.map (·.config)

section Steps

variable {b b' : Browser} {e : BrowserEvent}

theorem Kept.deaf (h : Kept b b') (hb : b.Deaf) : b'.Deaf :=
  ⟨h.ready.trans hb.ready, h.timers.trans hb.timers, fun l hl => hb.plain l (h.listeners ▸ hl)⟩

theorem Deaf.dispatchAt_kept (h : b.Deaf) (type : String) (ht : type ∉ searchTypes)
    (target : Target) (holds : Bool) (media : Media) (width : Width) :
    Kept b ({ b with media := media, width := width }.dispatchAt target type holds) ∧
      ({ b with media := media, width := width }.dispatchAt target type holds).tree.shape =
        b.tree.shape := by
  have hidle : Idle { b with media := media, width := width } :=
    ⟨h.ready, h.timers, h.idle.listeners⟩
  obtain ⟨console, hdraw⟩ := hidle.dispatchAt_eq ht target holds
  rw [hdraw]
  exact ⟨⟨rfl, rfl, rfl, rfl, configs_foldl_react _ _⟩, shape_foldl_react _ _⟩

theorem Deaf.act_kept (h : b.Deaf) (hstart : e ≠ .start) (hreply : ∀ reply, e ≠ .respond reply) :
    Kept b (b.act e).1 ∧ ((∀ id, e ≠ .remove id) → (b.act e).1.tree.shape = b.tree.shape) := by
  cases e with
  | start => exact absurd rfl hstart
  | respond reply => exact absurd rfl (hreply reply)
  | event target type key =>
    simp only [act]
    cases b.tree.get? target with
    | none => exact ⟨⟨rfl, rfl, rfl, rfl, rfl⟩, fun _ => rfl⟩
    | some el =>
      by_cases ht : type ∈ searchTypes
      · dsimp only
        rw [h.dispatch_eq_self ht]
        exact ⟨⟨rfl, rfl, rfl, rfl, rfl⟩, fun _ => rfl⟩
      · obtain ⟨console, hdraw⟩ := h.idle.dispatch_eq ht el.key key
        dsimp only
        rw [hdraw]
        exact ⟨⟨rfl, rfl, rfl, rfl, configs_foldl_react _ _⟩, fun _ => shape_foldl_react _ _⟩
  | type target value =>
    simp only [act]
    cases b.tree.get? target with
    | none => exact ⟨⟨rfl, rfl, rfl, rfl, rfl⟩, fun _ => rfl⟩
    | some el =>
      have htyped :
          Deaf { b with tree := b.tree.modify el.key fun e => { e with value := value } } :=
        ⟨h.ready, h.timers, h.plain⟩
      dsimp only
      rw [htyped.dispatch_eq_self (by decide)]
      exact ⟨⟨rfl, rfl, rfl, rfl, rfl⟩, fun _ => ElementTree.shape_modify fun _ => rfl⟩
  | focus target =>
    obtain ⟨focus, -, hmoved⟩ := h.moveFocus_eq ((b.tree.get? target).map fun e => ⟨e.key, e.id⟩)
    dsimp only [act]
    rw [hmoved]
    exact ⟨⟨rfl, rfl, rfl, rfl, rfl⟩, fun _ => rfl⟩
  | media holds =>
    obtain ⟨hkept, hshape⟩ := h.dispatchAt_kept "change" (by decide) .mediaList holds _ b.width
    exact ⟨hkept, fun _ => hshape⟩
  | resize width =>
    obtain ⟨hkept, hshape⟩ := h.dispatchAt_kept "resize" (by decide) .window false b.media width
    exact ⟨hkept, fun _ => hshape⟩
  | tick =>
    have htimers : b.ready ++ b.timers = b.ready := by rw [h.timers, List.append_nil]
    exact ⟨⟨rfl, htimers, h.timers.symm, rfl, rfl⟩, fun _ => rfl⟩
  | panic payload =>
    simp only [act]
    split
    · exact ⟨⟨rfl, rfl, rfl, rfl, rfl⟩, fun _ => rfl⟩
    · exact ⟨⟨rfl, rfl, rfl, rfl, rfl⟩, fun _ => rfl⟩
  | remove id =>
    obtain ⟨focus, t, hgone⟩ := h.removeId_eq .free id
    simp only [act, hgone]
    exact ⟨⟨rfl, rfl, rfl, rfl, rfl⟩, fun hremove => absurd rfl (hremove id)⟩

theorem Deaf.step_kept (h : b.Deaf) (hstart : e ≠ .start) (hreply : ∀ reply, e ≠ .respond reply) :
    Kept b (b.step e).1 ∧ ((∀ id, e ≠ .remove id) → (b.step e).1.tree.shape = b.tree.shape) := by
  have hcleared : Deaf { b with console := [] } := ⟨h.ready, h.timers, h.plain⟩
  obtain ⟨hkept, hshape⟩ := hcleared.act_kept hstart hreply
  have hstep : (b.step e).1 = ({ b with console := [] }.act e).1 :=
    settle_of_ready_nil (hkept.ready.trans h.ready)
  rw [hstep]
  exact ⟨⟨hkept.listeners, hkept.ready, hkept.timers, hkept.waiting, hkept.configs⟩, hshape⟩

end Steps

/-- The reply does not bring an index. -/
def FetchReply.fails (url : String) (reply : FetchReply) : Bool :=
  match (settleLoad url (reply.text url)).1 with
  | .ok _ => false
  | .error _ => true

section Replies

variable {b : Browser}

theorem runTask_loaded_eq (b : Browser) (i : Nat) (reply : FetchReply) :
    ∃ added console, b.runTask (.loaded i reply) =
        { b with listeners := b.listeners ++ added, console := console } ∧
      (added = [] ∨ ∃ page, b.pages[i]? = some page ∧ reply.fails page.config.indexUrl = false ∧
        page.config.searchable b.tree = true ∧ added.map Listener.type = searchTypes) := by
  simp only [runTask]
  cases b.pages[i]? with
  | none => exact ⟨[], b.console, by rw [List.append_nil], .inl rfl⟩
  | some page =>
    dsimp only
    rcases hload : settleLoad page.config.indexUrl (reply.text page.config.indexUrl) with
      ⟨error | index, notices⟩
    · exact ⟨[], _, b.report_eq _, .inl rfl⟩
    · obtain ⟨added, more, hwired, htypes⟩ := wireSearch_eq i (b.report notices) page.config index
      refine ⟨added, _, hwired, ?_⟩
      have hfails : reply.fails page.config.indexUrl = false := by
        simp only [FetchReply.fails, hload]
      cases hsearch : page.config.searchable b.tree with
      | false =>
        left
        simpa [report, hsearch] using htypes
      | true =>
        right
        exact ⟨page, rfl, hfails, hsearch, by simpa [report, hsearch] using htypes⟩

/-- A reply adds the listeners of a search or nothing. -/
theorem Idle.respond_eq (h : b.Idle) (reply : FetchReply) :
    ∃ added console, (b.step (.respond reply)).1 =
        { b with waiting := b.waiting.tail, listeners := b.listeners ++ added,
                 console := console } ∧
      (added = [] ∨ ∃ i page, b.waiting.head? = some i ∧ b.pages[i]? = some page ∧
        reply.fails page.config.indexUrl = false ∧ page.config.searchable b.tree = true ∧
        added.map Listener.type = searchTypes) := by
  cases hwaiting : b.waiting with
  | nil =>
    refine ⟨[], [], ?_, .inl rfl⟩
    have hstep : (b.step (.respond reply)).1 = { b with console := [] } := by
      simp only [step, act, hwaiting]
      exact settle_of_ready_nil h.ready
    rw [hstep, List.append_nil, List.tail_nil, ← hwaiting]
  | cons i waiting =>
    have hstep : (b.step (.respond reply)).1 =
        ({ b with waiting := waiting, ready := [], console := [] } : Browser).runTask
          (.loaded i reply) := by
      simp only [step, act, hwaiting, settle, h.ready, List.nil_append, List.foldl_cons,
        List.foldl_nil]
    obtain ⟨added, console, hloaded, hadded⟩ :=
      runTask_loaded_eq { b with waiting := waiting, ready := [], console := [] } i reply
    refine ⟨added, console, ?_, hadded.imp_right ?_⟩
    · rw [hstep, hloaded, h.ready]
      rfl
    · rintro ⟨page, hpage, hrest⟩
      exact ⟨i, page, rfl, hpage, hrest⟩

end Replies

end Browser

end DocPages
