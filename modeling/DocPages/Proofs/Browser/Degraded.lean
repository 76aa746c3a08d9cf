import DocPages.Proofs.Browser.Started

/-! A page whose index could not be loaded. Everything but the search goes on as if it had been
loaded, and nothing is left of the search. -/

namespace DocPages

namespace BrowserEvent

def isReply : BrowserEvent → Bool
  | .respond _ => true
  | _ => false

/-- The event is none that a search listens to. A removal takes the focus away if there is one. -/
def quiet (focus : Option Browser.Focus) : BrowserEvent → Bool
  | .event _ heard _ => heard ∉ Browser.searchTypes
  | .media _ | .resize _ | .respond _ | .tick | .panic _ => true
  | .remove _ => focus.isNone
  | .start | .type _ _ | .focus _ => false

end BrowserEvent

namespace Browser

def run (b : Browser) (es : List BrowserEvent) : Browser := es.foldl (fun b e => (b.step e).1) b

/-- The same pages in the same document and window; only the search may listen on one side alone. -/
structure Alongside (focus : Option Focus) (b b' : Browser) : Prop where
  left : b.Idle
  right : b'.Idle
  pages : b.pages = b'.pages
  tree : b.tree = b'.tree
  media : b.media = b'.media
  width : b.width = b'.width
  leftFocus : b.focus = focus
  rightFocus : b'.focus = focus
  heard : b.listeners.filter (fun l => l.type ∉ searchTypes) =
    b'.listeners.filter (fun l => l.type ∉ searchTypes)

section TwoRuns

variable {focus : Option Focus} {b b' : Browser} {type : String}

theorem listenersAt_eq_heard (b : Browser) (target : Target) (ht : type ∉ searchTypes) :
    b.listenersAt target type =
      (b.listeners.filter fun l => l.type ∉ searchTypes).filter
        fun l => l.target == target && l.type == type := by
  rw [List.filter_filter]
  apply List.filter_congr
  intro l _
  by_cases hl : l.type = type
  · simp [hl, ht]
  · simp [hl]

theorem Alongside.listenersAt (h : Alongside focus b b') (ht : type ∉ searchTypes)
    (target : Target) : b.listenersAt target type = b'.listenersAt target type := by
  rw [listenersAt_eq_heard b target ht, h.heard, listenersAt_eq_heard b' target ht]

theorem Alongside.update (h : Alongside focus b b') {pages pages' : List Page}
    {t t' : ElementTree} {media media' : Media} {width width' : Width} (hpages : pages = pages')
    (ht : t = t') (hmedia : media = media') (hwidth : width = width')
    (console console' : List Notice) :
    Alongside focus
      { b with pages := pages, tree := t, media := media, width := width, console := console }
      { b' with pages := pages', tree := t', media := media', width := width',
                console := console' } :=
  ⟨⟨h.left.ready, h.left.timers, h.left.listeners⟩,
    ⟨h.right.ready, h.right.timers, h.right.listeners⟩,
    hpages, ht, hmedia, hwidth, h.leftFocus, h.rightFocus, h.heard⟩

theorem Alongside.scene (h : Alongside focus b b') : b.scene = b'.scene :=
  Prod.ext h.pages h.tree

theorem Alongside.dispatch (h : Alongside focus b b') (ht : type ∉ searchTypes) (key : Nat)
    (keyName : String) :
    Alongside focus (b.dispatch key type keyName) (b'.dispatch key type keyName) := by
  obtain ⟨console, hb⟩ := h.left.dispatch_eq ht key keyName
  obtain ⟨console', hb'⟩ := h.right.dispatch_eq ht key keyName
  have hreached : b.listenersAlong (b.tree.path key) type =
      b'.listenersAlong (b'.tree.path key) type := by
    unfold listenersAlong
    rw [h.tree]
    congr 1
    funext key
    exact h.listenersAt ht _
  rw [hb, hb', hreached, h.scene, h.width]
  exact h.update rfl rfl h.media h.width _ _

theorem Alongside.dispatchAt (h : Alongside focus b b') (ht : type ∉ searchTypes)
    (target : Target) (holds : Bool) :
    Alongside focus (b.dispatchAt target type holds) (b'.dispatchAt target type holds) := by
  obtain ⟨console, hb⟩ := h.left.dispatchAt_eq ht target holds
  obtain ⟨console', hb'⟩ := h.right.dispatchAt_eq ht target holds
  rw [hb, hb', h.listenersAt ht, h.scene, h.width]
  exact h.update rfl rfl h.media h.width _ _

theorem Alongside.act (h : Alongside focus b b') {e : BrowserEvent} (he : e.quiet focus = true)
    (hreply : e.isReply = false) : Alongside focus (b.act e).1 (b'.act e).1 := by
  cases e with
  | start | type | focus => cases he
  | respond => cases hreply
  | event target type key =>
    have ht : type ∉ searchTypes := by simpa [BrowserEvent.quiet] using he
    simp only [Browser.act, h.tree]
    cases b'.tree.get? target with
    | none => exact h
    | some el => exact h.dispatch ht _ _
  | media holds =>
    simp only [Browser.act, h.media]
    apply Alongside.dispatchAt _ (by decide)
    exact h.update h.pages h.tree rfl h.width _ _
  | resize width =>
    apply Alongside.dispatchAt _ (by decide)
    exact h.update h.pages h.tree h.media rfl _ _
  | tick =>
    have hfired {b : Browser} (hb : b.Idle) : (b.act .tick).1 = b := by
      simp only [Browser.act]
      rw [hb.timers, List.append_nil, ← hb.timers]
    rw [hfired h.left, hfired h.right]
    exact h
  | panic payload =>
    have hsaid (b : Browser) :
        ∃ console, (b.act (.panic payload)).1 = { b with console := console } := by
      simp only [Browser.act]
      split
      · exact ⟨_, rfl⟩
      · exact ⟨b.console, rfl⟩
    obtain ⟨console, hb⟩ := hsaid b
    obtain ⟨console', hb'⟩ := hsaid b'
    rw [hb, hb']
    exact h.update h.pages h.tree h.media h.width _ _
  | remove id =>
    have hfocus : focus = none := by simpa [BrowserEvent.quiet] using he
    simp only [Browser.act, removeId, h.tree]
    cases b'.tree.get? id with
    | none => exact h
    | some el =>
      dsimp only
      rw [removeKey_of_unfocused (h.leftFocus.trans hfocus),
        removeKey_of_unfocused (h.rightFocus.trans hfocus)]
      exact h.update h.pages (congrArg (·.removeKey el.key) h.tree) h.media h.width _ _

theorem Alongside.step (h : Alongside focus b b') {e : BrowserEvent} (he : e.quiet focus = true)
    (hreply : e.isReply = false) : Alongside focus (b.step e).1 (b'.step e).1 := by
  have hcleared := h.update h.pages h.tree h.media h.width [] []
  have hacted := hcleared.act he hreply
  simp only [Browser.step]
  rw [settle_of_ready_nil hacted.left.ready, settle_of_ready_nil hacted.right.ready]
  exact hacted

/-- A reply is heard of on its own side only. -/
theorem Alongside.respond (h : Alongside focus b b') (reply : FetchReply) :
    Alongside focus (b.step (.respond reply)).1 b' := by
  obtain ⟨added, console, hstep, hadded⟩ := h.left.respond_eq reply
  have htypes : ∀ l ∈ added, l.type ∈ searchTypes := by
    intro l hl
    rcases hadded with rfl | ⟨i, page, -, -, -, -, htypes⟩
    · cases hl
    · rw [← htypes]
      exact List.mem_map_of_mem hl
  have hunheard : added.filter (fun l => l.type ∉ searchTypes) = [] := by
    apply List.filter_eq_nil_iff.mpr
    intro l hl
    simpa using htypes l hl
  rw [hstep]
  refine ⟨⟨h.left.ready, h.left.timers, ?_⟩, h.right, h.pages, h.tree, h.media, h.width,
    h.leftFocus, h.rightFocus, ?_⟩
  · intro l hl hquiet
    rcases List.mem_append.mp hl with hold | hnew
    · exact h.left.listeners l hold hquiet
    · exact absurd (htypes l hnew) hquiet
  · rw [List.filter_append, hunheard, List.append_nil, h.heard]

theorem Alongside.run (h : Alongside focus b b') {es : List BrowserEvent}
    (hes : ∀ e ∈ es, e.quiet focus = true) :
    Alongside focus (b.run es) (b'.run (es.filter fun e => !e.isReply)) := by
  induction es generalizing b b' with
  | nil => exact h
  | cons e es ih =>
    obtain ⟨he, hrest⟩ := List.forall_mem_cons.mp hes
    cases hreply : e.isReply with
    | false =>
      rw [List.filter_cons_of_pos (by simp [hreply])]
      exact ih (h.step he hreply) hrest
    | true =>
      rw [List.filter_cons_of_neg (by simp [hreply])]
      cases e with
      | respond reply => exact ih (h.respond reply) hrest
      | _ => cases hreply

end TwoRuns

/-- The first reply, if one comes, does not bring an index, or comes when the document does not have
what a search needs. -/
def searchOff (config : Config) : Browser → List BrowserEvent → Bool
  | _, [] => true
  | b, .respond reply :: _ => reply.fails config.indexUrl || !config.searchable b.tree
  | b, e :: es => searchOff config (b.step e).1 es

/-- The events of a search do what they do in any document: what is typed is typed, and the focus
goes where it is sent. Nothing is searched for, cancelled, blurred or drawn. -/
structure Inert (b : Browser) : Prop where
  listeners : ∀ l ∈ b.listeners, l.type ∉ searchTypes
  tasks : b.ready = [] ∧ b.timers = []
  event : ∀ target type key, type ∈ searchTypes →
    (b.step (.event target type key)).1 = { b with console := [] }
  typed : ∀ target value, (b.step (.type target value)).1 =
    { b with tree := ((b.tree.get? target).map fun e =>
               b.tree.modify e.key fun e => { e with value := value }).getD b.tree,
             console := [] }
  focused : ∀ target, ∃ focus,
    focus.map Focus.key = (b.tree.get? target).map TreeElement.key ∧
      (b.step (.focus target)).1 = { b with focus := focus, console := [] }

section WithoutSearch

variable {b : Browser} {config : Config} {e : BrowserEvent} {es : List BrowserEvent}

theorem Deaf.inert (h : b.Deaf) : b.Inert where
  listeners l hl := (h.plain l hl).1
  tasks := ⟨h.ready, h.timers⟩
  event target type key ht := by
    have hcleared : Deaf { b with console := [] } := ⟨h.ready, h.timers, h.plain⟩
    simp only [step, act]
    cases b.tree.get? target with
    | none => exact settle_of_ready_nil h.ready
    | some el =>
      dsimp only
      rw [hcleared.dispatch_eq_self ht]
      exact settle_of_ready_nil h.ready
  typed target value := by
    simp only [step, act]
    cases b.tree.get? target with
    | none => exact settle_of_ready_nil h.ready
    | some el =>
      have htyped : Deaf { b with
          tree := b.tree.modify el.key fun e => { e with value := value }, console := [] } :=
        ⟨h.ready, h.timers, h.plain⟩
      dsimp only
      rw [htyped.dispatch_eq_self (by decide)]
      exact settle_of_ready_nil h.ready
  focused target := by
    have hcleared : Deaf { b with console := [] } := ⟨h.ready, h.timers, h.plain⟩
    obtain ⟨focus, hkey, hmoved⟩ :=
      hcleared.moveFocus_eq ((b.tree.get? target).map fun e => ⟨e.key, e.id⟩)
    refine ⟨focus, ?_, ?_⟩
    · rw [hkey, Option.map_map]
      rfl
    · simp only [step, act]
      rw [hmoved]
      exact settle_of_ready_nil h.ready

theorem searchOff_cons (hreply : e.isReply = false) :
    searchOff config b (e :: es) = searchOff config (b.step e).1 es := by
  cases e with
  | respond => cases hreply
  | _ => rfl

/-- No search listens, and none will when the page gets its reply. -/
structure Unsearched (config : Config) (b : Browser) (es : List BrowserEvent) : Prop where
  deaf : b.Deaf
  waits : b.waiting = [] ∨ b.waiting = [0] ∧ b.pages.map (·.config) = [config] ∧
    searchOff config b es = true

theorem Unsearched.respond {reply : FetchReply} (h : Unsearched config b (.respond reply :: es)) :
    Unsearched config (b.step (.respond reply)).1 es := by
  obtain ⟨added, console, hstep, hadded⟩ := h.deaf.idle.respond_eq reply
  have hnone : added = [] := by
    rcases hadded with hnone | ⟨i, page, hhead, hpage, hloads, hsearch, -⟩
    · exact hnone
    rcases h.waits with hdone | ⟨hwaits, hconfigs, hoff⟩
    · rw [hdone] at hhead
      cases hhead
    -- The page that waits is the only one, so it is this index that did not come.
    rw [hwaits] at hhead
    cases hhead
    have hconfig : page.config = config := by
      have hfirst := congrArg (·[0]?) hconfigs
      simpa [hpage] using hfirst
    rw [hconfig] at hloads hsearch
    simp [searchOff, hloads, hsearch] at hoff
  have hwaiting : b.waiting.tail = [] := by
    rcases h.waits with hdone | ⟨hwaits, -⟩
    · rw [hdone, List.tail_nil]
    · rw [hwaits, List.tail_cons]
  rw [hstep, hnone, List.append_nil]
  exact ⟨⟨h.deaf.ready, h.deaf.timers, h.deaf.plain⟩, .inl hwaiting⟩

theorem Unsearched.step (h : Unsearched config b (e :: es)) (hstart : e ≠ .start) :
    Unsearched config (b.step e).1 es := by
  cases hreply : e.isReply with
  | true =>
    cases e with
    | respond reply => exact h.respond
    | _ => cases hreply
  | false =>
    have hno : ∀ reply, e ≠ .respond reply := by
      rintro reply rfl
      cases hreply
    obtain ⟨hkept, -⟩ := h.deaf.step_kept hstart hno
    refine ⟨hkept.deaf h.deaf, ?_⟩
    rw [hkept.waiting, hkept.configs, ← searchOff_cons hreply]
    exact h.waits

theorem Unsearched.run (h : Unsearched config b es) (hstart : .start ∉ es) : (b.run es).Deaf := by
  induction es generalizing b with
  | nil => exact h.deaf
  | cons e es ih =>
    rw [List.mem_cons, not_or] at hstart
    exact ih (h.step (Ne.symm hstart.1)) hstart.2

/-- A document that lacks an element of the search does not get it from a page. -/
theorem Deaf.searchOff_of_not_searchable (h : b.Deaf) (hdoc : config.searchable b.tree = false)
    (hstart : .start ∉ es) (hremove : ∀ id, .remove id ∉ es) : searchOff config b es = true := by
  induction es generalizing b with
  | nil => rfl
  | cons e es ih =>
    rw [List.mem_cons, not_or] at hstart
    cases hreply : e.isReply with
    | true =>
      cases e with
      | respond reply => simp [searchOff, hdoc]
      | _ => cases hreply
    | false =>
      have hno : ∀ reply, e ≠ .respond reply := by
        rintro reply rfl
        cases hreply
      obtain ⟨hkept, hshape⟩ := h.step_kept (Ne.symm hstart.1) hno
      have hsame := hshape fun id he => hremove id (he ▸ List.mem_cons_self ..)
      rw [searchOff_cons hreply]
      refine ih (hkept.deaf h) ?_ hstart.2 fun id hmem => hremove id (List.mem_cons_of_mem _ hmem)
      rw [config.searchable_congr hsame, hdoc]

end WithoutSearch

end Browser

open Browser

/-- Runs with the same events but for the replies of the network, and when they come, agree on the
pages and the document as long as no event of a search occurs. If no index comes, or the document
does not have what a search needs, then the events of a search do nothing to the page. -/
theorem failed_load_degrades_only_search (b : Browser) (hfresh : b.Fresh)
    (hstart : (b.step .start).2 = .started (.ok ())) :
    (∀ es fs : List BrowserEvent,
      (∀ e ∈ es, e.quiet b.focus = true) → (∀ e ∈ fs, e.quiet b.focus = true) →
      es.filter (fun e => !e.isReply) = fs.filter (fun e => !e.isReply) →
      ((b.step .start).1.run es).tree = ((b.step .start).1.run fs).tree ∧
        ((b.step .start).1.run es).pages = ((b.step .start).1.run fs).pages) ∧
    (∀ es : List BrowserEvent, .start ∉ es →
      (searchOff (readConfig b.tree).1 (b.step .start).1 es = true ∨
        (readConfig b.tree).1.searchable b.tree = false ∧ ∀ id, .remove id ∉ es) →
      ((b.step .start).1.run es).Inert) ∧
    ∀ i b' config index, ∃ added notices,
      wireSearch i b' config index =
        { b' with listeners := b'.listeners ++ added, console := b'.console ++ notices } ∧
      added.map Listener.type = if config.searchable b'.tree then searchTypes else [] := by
  have hs := hfresh.started hstart
  refine ⟨?_, ?_, wireSearch_eq⟩
  · intro es fs hes hfs hsame
    have hself : Alongside b.focus (b.step .start).1 (b.step .start).1 :=
      ⟨hs.deaf.idle, hs.deaf.idle, rfl, rfl, rfl, rfl, hs.focus, hs.focus, rfl⟩
    -- Both runs go alongside the one that gets no reply at all.
    have hleft := hself.run hes
    have hright := hself.run hfs
    rw [hsame] at hleft
    exact ⟨hleft.tree.trans hright.tree.symm, hleft.pages.trans hright.pages.symm⟩
  · intro es hno hcause
    have hoff : searchOff (readConfig b.tree).1 (b.step .start).1 es = true := by
      rcases hcause with hoff | ⟨hdoc, hremove⟩
      · exact hoff
      · apply hs.deaf.searchOff_of_not_searchable _ hno hremove
        rw [Config.searchable_congr _ hs.shape, hdoc]
    have hunsearched : Unsearched (readConfig b.tree).1 (b.step .start).1 es :=
      ⟨hs.deaf, .inr ⟨hs.waiting, hs.configs, hoff⟩⟩
    exact (hunsearched.run hno).inert

/-- A narrow window without media queries, on a page with a section, a sidebar and a search. -/
def Browser.narrow : Browser where
  hasWindow := true
  hasDocument := true
  hasTimers := true
  media := .missing
  width := .real 400
  tree := .ofOutlines [.element "nav" "sidebar" [] "" [],
    .element "button" "header_button" [] "" [],
    .element "div" "search" [] "" [.element "input" "search_input" [] "" []],
    .element "div" "api" ["collapsible"] "" [.element "button" "api.vis_button" [] "-" []]]
  focus := none
  pages := []
  listeners := []
  ready := []
  timers := []
  waiting := []
  fetched := []
  queries := []
  hooked := false
  console := []

theorem failed_load_degrades_only_search_narrow :
    let click : BrowserEvent := .event "header_button" "click" ""
    let fold : BrowserEvent := .event "api.vis_button" "click" ""
    let down : BrowserEvent := .respond (.rejected (.text "offline"))
    let loaded : BrowserEvent := .respond (.response 200 (.resolves (.text "[]")))
    Browser.narrow.Fresh ∧ (Browser.narrow.step .start).2 = .started (.ok ()) ∧
      ((Browser.narrow.step .start).1.run [down, click, fold]).tree =
        ((Browser.narrow.step .start).1.run [click, loaded, fold]).tree ∧
      ((Browser.narrow.step .start).1.run [down, .focus "search_input", click]).Inert := by
  intro click fold down loaded
  have hfresh : Browser.narrow.Fresh := ⟨rfl, rfl, rfl, rfl, rfl⟩
  have hstart : (Browser.narrow.step .start).2 = .started (.ok ()) := rfl
  obtain ⟨hsame, hinert, -⟩ := failed_load_degrades_only_search Browser.narrow hfresh hstart
  have hruns := hsame [down, click, fold] [click, loaded, fold] (by decide) (by decide) (by decide)
  have hoff : searchOff (readConfig Browser.narrow.tree).1 (Browser.narrow.step .start).1
      [down, .focus "search_input", click] = true := by decide
  exact ⟨hfresh, hstart, hruns.1, hinert _ (by decide) (.inl hoff)⟩

end DocPages
