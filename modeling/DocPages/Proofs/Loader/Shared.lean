import DocPages.Loader
import Mathlib.Data.List.Basic
import Mathlib.Data.List.Induction

/-! Handles on one load. A loader starts one load and gives out copies of one handle, so however
many handles there are, and in whatever order they are polled, they move the same load: its state is
fixed by whether a handle was given out and by how often all of them together were polled. So the
index is asked for once and made once, and no two handles ever disagree. A handle that has brought
the outcome is spent. -/

namespace DocPages

inductive LoadEvent where
  | load
  | poll (handle : Nat)
  deriving DecidableEq, Repr

inductive LoadReply where
  | handle (number : Nat)
  | noHandle
  | pending
  | ready (outcome : Except LoadError SharedIndex)
  | spent

def LoadReply.ofPoll : LoadPoll → LoadReply
  | .pending => .pending
  | .ready outcome => .ready outcome
  | .spent => .spent

/-- The fetcher's own error, or what becomes of the text that it brings: the first index object. -/
def Fetch.outcome (f : Fetch) : Except LoadError SharedIndex :=
  match f.body with
  | .error e => .error e
  | .ok text =>
    match Index.ofJson text with
    | .error e => .error (.parse e)
    | .ok index => .ok ⟨0, index⟩

/-- A loader with the handles it has given out and how often they were polled. -/
structure LoadRun where
  loader : Loader
  handles : List LoadHandle
  polls : Nat

namespace LoadRun

def new (url : String) (fetch : String → Fetch) : LoadRun := ⟨.new url fetch, [], 0⟩

/-- A handle that was not given out cannot be polled. -/
def step (r : LoadRun) : LoadEvent → LoadRun × LoadReply
  | .load =>
    let (loader, handle, _) := r.loader.load
    (⟨loader, r.handles ++ [handle], r.polls⟩, .handle r.handles.length)
  | .poll number =>
    match r.handles[number]? with
    | none => (r, .noHandle)
    | some handle =>
      let (loader, handle, reply, _) := r.loader.poll handle
      (⟨loader, r.handles.set number handle, r.polls + 1⟩, .ofPoll reply)

def run (r : LoadRun) (events : List LoadEvent) : LoadRun :=
  events.foldl (fun r e => (r.step e).1) r

def reached (url : String) (fetch : String → Fetch) (events : List LoadEvent) : LoadRun :=
  (new url fetch).run events

/-- The answer to a poll after some events. -/
def pollReply (url : String) (fetch : String → Fetch) (events : List LoadEvent) (handle : Nat) :
    LoadReply := ((reached url fetch events).step (.poll handle)).2

/-- One of the polls of the handle was answered with an outcome. -/
def Brought (url : String) (fetch : String → Fetch) (events : List LoadEvent) (handle : Nat) :
    Prop :=
  ∃ before later outcome, events = before ++ .poll handle :: later ∧
    pollReply url fetch before handle = .ready outcome

/-- Where a load stands after a number of polls. -/
def stateAfter (f : Fetch) (polls : Nat) : SharedLoad :=
  if polls ≤ f.delay then .waiting ⟨f.body, f.delay - polls⟩ else .settled f.outcome

def madeAfter (f : Fetch) (polls : Nat) : Nat :=
  if f.delay < polls ∧ f.outcome.isOk then 1 else 0

/-- The answer that a handle gives which is not spent. -/
def replyAfter (f : Fetch) (polls : Nat) : LoadPoll :=
  if polls < f.delay then .pending else .ready f.outcome

/-- What such a poll makes of the handle. -/
def handleAfter (f : Fetch) (polls : Nat) : LoadHandle :=
  if polls < f.delay then .on 0 else .spent

/-- The loader is where its handles and polls have brought it. All handles are on the first load,
but for those that have brought its outcome. -/
structure OnCourse (url : String) (fetch : String → Fetch) (r : LoadRun) : Prop where
  url_eq : r.loader.url = url
  fetch_eq : r.loader.fetch = fetch
  kept_eq : r.loader.kept = if r.handles = [] then none else some (.on 0)
  loads_eq : r.loader.loads = if r.handles = [] then [] else [stateAfter (fetch url) r.polls]
  unpolled : r.handles = [] → r.polls = 0
  fetched_eq : r.loader.fetched = if r.handles = [] then [] else [url]
  made_eq : r.loader.made = madeAfter (fetch url) r.polls
  handles_cases : ∀ handle ∈ r.handles,
    handle = .on 0 ∨ handle = .spent ∧ (fetch url).delay < r.polls

section Poll

variable {l : Loader}

/-- Only the poll that brings the outcome makes a handle a spent one. -/
theorem handle_poll_eq_spent_iff (l : Loader) (handle : LoadHandle) :
    (l.poll handle).2.1 = .spent ↔
      handle = .spent ∨ ∃ outcome, (l.poll handle).2.2.1 = .ready outcome := by
  cases handle with
  | spent => exact ⟨fun _ => .inl rfl, fun _ => rfl⟩
  | on load =>
    simp only [Loader.poll]
    split <;> simp

theorem poll_waiting {body : Except LoadError String} {left : Nat}
    (h : l.loads = [.waiting ⟨body, left + 1⟩]) :
    (l.poll (.on 0)).1 = { l with loads := [.waiting ⟨body, left⟩] } ∧
      (l.poll (.on 0)).2.1 = .on 0 ∧ (l.poll (.on 0)).2.2.1 = .pending := by
  simp only [Loader.poll, h, List.getElem?_cons_zero, List.set_cons_zero, and_self]

theorem poll_settled {outcome : Except LoadError SharedIndex}
    (h : l.loads = [.settled outcome]) :
    (l.poll (.on 0)).1 = l ∧ (l.poll (.on 0)).2.1 = .spent ∧
      (l.poll (.on 0)).2.2.1 = .ready outcome := by
  simp only [Loader.poll, h, List.getElem?_cons_zero, and_self]

theorem settle_eq (f : Fetch) (hmade : l.made = 0) (load : Nat) :
    (l.settle load f.body).1 =
        { l.keep load f.outcome with made := if f.outcome.isOk then 1 else 0 } ∧
      (l.settle load f.body).2.1 = f.outcome := by
  rw [Loader.settle, Fetch.outcome]
  cases f.body with
  | error e => simp [settleLoad, Loader.keep, hmade, Except.isOk, Except.toBool]
  | ok text =>
    cases hindex : Index.ofJson text with
    | error e => simp [settleLoad, hindex, Loader.keep, hmade, Except.isOk, Except.toBool]
    | ok index => simp [settleLoad, hindex, hmade, Except.isOk, Except.toBool]

/-- The poll that ends a load makes the first object, if it makes one. -/
theorem poll_due {f : Fetch} (h : l.loads = [.waiting ⟨f.body, 0⟩]) (hmade : l.made = 0) :
    (l.poll (.on 0)).1 =
        { l with loads := [.settled f.outcome], made := if f.outcome.isOk then 1 else 0 } ∧
      (l.poll (.on 0)).2.1 = .spent ∧ (l.poll (.on 0)).2.2.1 = .ready f.outcome := by
  obtain ⟨hloader, houtcome⟩ := settle_eq f hmade 0
  simp only [Loader.poll, h, List.getElem?_cons_zero, hloader, houtcome, Loader.keep,
    List.set_cons_zero, and_self]

end Poll

variable {url : String} {fetch : String → Fetch} {r : LoadRun} {number : Nat}

theorem onCourse_new (url : String) (fetch : String → Fetch) :
    OnCourse url fetch (new url fetch) where
  url_eq := rfl
  fetch_eq := rfl
  kept_eq := rfl
  loads_eq := rfl
  unpolled _ := rfl
  fetched_eq := rfl
  made_eq := by simp [new, Loader.new, madeAfter]
  handles_cases _ h := nomatch h

theorem stateAfter_zero (f : Fetch) : stateAfter f 0 = .waiting f := if_pos (Nat.zero_le _)

section After

variable {f : Fetch} {polls : Nat}

theorem stateAfter_late (h : f.delay < polls) : stateAfter f polls = .settled f.outcome :=
  if_neg (Nat.not_le.mpr h)

theorem madeAfter_early (h : polls ≤ f.delay) : madeAfter f polls = 0 :=
  if_neg fun hlate => Nat.not_lt.mpr h hlate.1

theorem madeAfter_late (h : f.delay < polls) :
    madeAfter f polls = if f.outcome.isOk then 1 else 0 := by
  simp only [madeAfter, h, true_and]

end After

/-- Every call hands out a handle on the first load: the first one starts it, and the others find it
kept. -/
theorem OnCourse.load_loader (h : OnCourse url fetch r) :
    r.loader.load.1 = { r.loader with
        kept := some (.on 0)
        loads := [stateAfter (fetch url) r.polls]
        fetched := [url] } ∧
      r.loader.load.2.1 = .on 0 := by
  have hkept := h.kept_eq
  have hloads := h.loads_eq
  have hfetched := h.fetched_eq
  by_cases hfirst : r.handles = []
  · rw [if_pos hfirst] at hkept hloads hfetched
    simp [Loader.load, hkept, hloads, hfetched, h.url_eq, h.fetch_eq, h.unpolled hfirst,
      stateAfter_zero]
  · rw [if_neg hfirst] at hkept hloads hfetched
    simp only [Loader.load, hkept, ← hloads, ← hfetched]
    rw [← hkept]
    exact ⟨rfl, trivial⟩

theorem OnCourse.load (h : OnCourse url fetch r) : OnCourse url fetch (r.step .load).1 := by
  obtain ⟨hloader, hhandle⟩ := h.load_loader
  have hgiven : r.handles ++ [.on 0] ≠ [] := by simp
  simp only [step, hloader, hhandle]
  refine ⟨h.url_eq, h.fetch_eq, (if_neg hgiven).symm, (if_neg hgiven).symm,
    fun hnone => absurd hnone hgiven, (if_neg hgiven).symm, h.made_eq, fun handle hmem => ?_⟩
  obtain hold | hnew := List.mem_append.mp hmem
  · exact h.handles_cases handle hold
  · exact .inl (List.mem_singleton.mp hnew)

/-- What a poll of a handle that is not spent does to the load and to the handle, and what it
answers. -/
theorem OnCourse.poll_loader (h : OnCourse url fetch r) (hgiven : r.handles ≠ []) :
    (r.loader.poll (.on 0)).1 = { r.loader with
        loads := [stateAfter (fetch url) (r.polls + 1)]
        made := madeAfter (fetch url) (r.polls + 1) } ∧
      (r.loader.poll (.on 0)).2.1 = handleAfter (fetch url) r.polls ∧
      (r.loader.poll (.on 0)).2.2.1 = replyAfter (fetch url) r.polls := by
  have hloads := h.loads_eq
  have hmade := h.made_eq
  rw [if_neg hgiven] at hloads
  unfold handleAfter replyAfter
  rcases Nat.lt_trichotomy r.polls (fetch url).delay with hlt | heq | hgt
  · obtain ⟨left, hleft⟩ : ∃ left, (fetch url).delay = r.polls + left + 1 :=
      Nat.exists_eq_add_of_lt hlt
    have hnow : (fetch url).delay - r.polls = left + 1 := by omega
    have hnext : (fetch url).delay - (r.polls + 1) = left := by omega
    rw [stateAfter, if_pos (Nat.le_of_lt hlt), hnow] at hloads
    rw [madeAfter_early (Nat.le_of_lt hlt)] at hmade
    obtain ⟨hl, hhandle, hreply⟩ := poll_waiting hloads
    rw [stateAfter, if_pos (Nat.succ_le_of_lt hlt), hnext, madeAfter_early (Nat.succ_le_of_lt hlt),
      if_pos hlt, if_pos hlt, hl, hhandle, hreply]
    simp only [hmade, and_self]
  · rw [stateAfter, if_pos (Nat.le_of_eq heq), heq, Nat.sub_self] at hloads
    rw [madeAfter_early (Nat.le_of_eq heq)] at hmade
    have hlate : (fetch url).delay < r.polls + 1 := by omega
    obtain ⟨hl, hhandle, hreply⟩ := poll_due hloads hmade
    rw [stateAfter_late hlate, madeAfter_late hlate, heq, if_neg (Nat.lt_irrefl _),
      if_neg (Nat.lt_irrefl _)]
    exact ⟨hl, hhandle, hreply⟩
  · rw [stateAfter_late hgt] at hloads
    rw [madeAfter_late hgt] at hmade
    have hlate : (fetch url).delay < r.polls + 1 := Nat.lt_succ_of_lt hgt
    obtain ⟨hl, hhandle, hreply⟩ := poll_settled hloads
    rw [stateAfter_late hlate, madeAfter_late hlate, if_neg (Nat.lt_asymm hgt),
      if_neg (Nat.lt_asymm hgt), hl, ← hloads, ← hmade]
    exact ⟨rfl, hhandle, hreply⟩

/-- A handle that was given out is on the first load, or it is spent and the load has ended. -/
theorem OnCourse.getElem?_cases (h : OnCourse url fetch r) (hgiven : number < r.handles.length) :
    r.handles[number]? = some (.on 0) ∨
      r.handles[number]? = some .spent ∧ (fetch url).delay < r.polls := by
  rw [List.getElem?_eq_getElem hgiven, Option.some.injEq, Option.some.injEq]
  exact h.handles_cases _ (List.getElem_mem hgiven)

theorem OnCourse.poll (h : OnCourse url fetch r) (number : Nat) :
    OnCourse url fetch (r.step (.poll number)).1 := by
  by_cases hgiven : number < r.handles.length
  · have hne : r.handles ≠ [] := List.ne_nil_of_length_pos (Nat.zero_lt_of_lt hgiven)
    have hset (handle : LoadHandle) : r.handles.set number handle ≠ [] := by simpa using hne
    rcases h.getElem?_cases hgiven with hhandle | ⟨hhandle, hlate⟩
    · obtain ⟨hloader, hafter, -⟩ := h.poll_loader hne
      have hkept := h.kept_eq
      have hfetched := h.fetched_eq
      rw [if_neg hne] at hkept hfetched
      simp only [step, hhandle, hloader, hafter]
      refine ⟨h.url_eq, h.fetch_eq, ?_, ?_, fun hnone => absurd hnone (hset _), ?_, rfl, ?_⟩
      · rw [if_neg (hset _)]
        exact hkept
      · rw [if_neg (hset _)]
      · rw [if_neg (hset _)]
        exact hfetched
      · intro handle hmem
        rcases List.mem_or_eq_of_mem_set hmem with hold | rfl
        · exact (h.handles_cases handle hold).imp_right fun hspent =>
            ⟨hspent.1, Nat.lt_succ_of_lt hspent.2⟩
        · unfold handleAfter
          split
          · exact .inl rfl
          · rename_i hdue
            exact .inr ⟨rfl, Nat.lt_succ_of_le (Nat.not_lt.mp hdue)⟩
    · -- A spent handle leaves the load alone, which has ended.
      have hnext := Nat.lt_succ_of_lt hlate
      have hsame : r.handles.set number .spent = r.handles := by
        obtain ⟨hlt, hspent⟩ := List.getElem?_eq_some_iff.mp hhandle
        rw [← hspent, List.set_getElem_self]
      simp only [step, hhandle, Loader.poll, hsame]
      refine ⟨h.url_eq, h.fetch_eq, h.kept_eq, ?_, fun hnone => absurd hnone hne, h.fetched_eq, ?_,
        fun handle hmem => (h.handles_cases handle hmem).imp_right fun hspent =>
          ⟨hspent.1, Nat.lt_succ_of_lt hspent.2⟩⟩
      · rw [h.loads_eq, if_neg hne, if_neg hne, stateAfter_late hlate, stateAfter_late hnext]
      · rw [h.made_eq, madeAfter_late hlate, madeAfter_late hnext]
  · rw [step, List.getElem?_eq_none (Nat.not_lt.mp hgiven)]
    exact h

theorem OnCourse.run (h : OnCourse url fetch r) (events : List LoadEvent) :
    OnCourse url fetch (r.run events) := by
  induction events generalizing r with
  | nil => exact h
  | cons e events ih =>
    cases e with
    | load => exact ih h.load
    | poll number => exact ih (h.poll number)

theorem onCourse_reached (url : String) (fetch : String → Fetch) (events : List LoadEvent) :
    OnCourse url fetch (reached url fetch events) := (onCourse_new url fetch).run events

theorem OnCourse.reply_on (h : OnCourse url fetch r) (hhandle : r.handles[number]? = some (.on 0)) :
    (r.step (.poll number)).2 = .ofPoll (replyAfter (fetch url) r.polls) := by
  have hne : r.handles ≠ [] := by
    rintro hnone
    rw [hnone] at hhandle
    cases hhandle
  obtain ⟨-, -, hreply⟩ := h.poll_loader hne
  simp only [step, hhandle, hreply]

theorem reply_spent (hhandle : r.handles[number]? = some .spent) :
    (r.step (.poll number)).2 = .spent := by
  simp only [step, hhandle, Loader.poll, LoadReply.ofPoll]

theorem lt_length_of_ready {outcome : Except LoadError SharedIndex}
    (h : (r.step (.poll number)).2 = .ready outcome) : number < r.handles.length := by
  refine Nat.lt_of_not_le fun hle => ?_
  rw [step, List.getElem?_eq_none hle] at h
  cases h

section Counts

theorem length_handles_step (r : LoadRun) (e : LoadEvent) :
    (r.step e).1.handles.length = r.handles.length + if e = .load then 1 else 0 := by
  cases e with
  | load => exact List.length_append
  | poll number =>
    simp only [step]
    split
    · rfl
    · exact List.length_set

theorem length_handles_run (r : LoadRun) (events : List LoadEvent) :
    (r.run events).handles.length = r.handles.length + events.count .load := by
  induction events generalizing r with
  | nil => rfl
  | cons e events ih =>
    rw [run, List.foldl_cons, ← run, ih, length_handles_step, List.count_cons, Nat.add_assoc,
      Nat.add_comm (if e = .load then 1 else 0)]
    simp only [beq_iff_eq]

theorem length_handles_reached (url : String) (fetch : String → Fetch) (events : List LoadEvent) :
    (reached url fetch events).handles.length = events.count .load :=
  (length_handles_run _ events).trans (Nat.zero_add _)

theorem polls_le_run (r : LoadRun) (events : List LoadEvent) : r.polls ≤ (r.run events).polls := by
  induction events generalizing r with
  | nil => exact Nat.le_refl _
  | cons e events ih =>
    refine Nat.le_trans ?_ (ih (r.step e).1)
    cases e with
    | load => exact Nat.le_refl _
    | poll number =>
      simp only [step]
      split
      · exact Nat.le_refl _
      · exact Nat.le_succ _

theorem polls_reached_append (url : String) (fetch : String → Fetch)
    (events later : List LoadEvent) :
    (reached url fetch events).polls ≤ (reached url fetch (events ++ later)).polls := by
  rw [reached, reached, run, run, List.foldl_append]
  exact polls_le_run _ later

theorem polls_replicate (r : LoadRun) (hgiven : number < r.handles.length) (n : Nat) :
    (r.run (.replicate n (.poll number))).polls = r.polls + n := by
  induction n generalizing r with
  | zero => rfl
  | succ n ih =>
    have hlength : (r.step (.poll number)).1.handles.length = r.handles.length :=
      length_handles_step r _
    have hpolls : (r.step (.poll number)).1.polls = r.polls + 1 := by
      simp only [step, List.getElem?_eq_getElem hgiven]
    rw [List.replicate_succ, run, List.foldl_cons, ← run, ih _ (by rw [hlength]; exact hgiven),
      hpolls]
    omega

end Counts

section Spent

theorem reached_concat (url : String) (fetch : String → Fetch) (events : List LoadEvent)
    (e : LoadEvent) :
    reached url fetch (events ++ [e]) = ((reached url fetch events).step e).1 := List.foldl_append

theorem brought_concat_iff {events : List LoadEvent} {e : LoadEvent} :
    Brought url fetch (events ++ [e]) number ↔ Brought url fetch events number ∨
      e = .poll number ∧ ∃ outcome, pollReply url fetch events number = .ready outcome := by
  constructor
  · rintro ⟨before, later, outcome, heq, hready⟩
    obtain rfl | ⟨init, last, rfl⟩ := later.eq_nil_or_concat'
    · obtain ⟨rfl, he⟩ := List.append_inj' heq rfl
      exact .inr ⟨List.singleton_injective he, outcome, hready⟩
    · rw [← List.cons_append, ← List.append_assoc] at heq
      obtain ⟨rfl, -⟩ := List.append_inj' heq rfl
      exact .inl ⟨before, init, outcome, rfl, hready⟩
  · rintro (⟨before, later, outcome, rfl, hready⟩ | ⟨rfl, outcome, hready⟩)
    · exact ⟨before, later ++ [e], outcome, by simp, hready⟩
    · exact ⟨events, [], outcome, rfl, hready⟩

theorem getElem?_step_of_ne (r : LoadRun) {polled : Nat} (h : polled ≠ number) :
    (r.step (.poll polled)).1.handles[number]? = r.handles[number]? := by
  simp only [step]
  split
  · rfl
  · exact List.getElem?_set_ne h

theorem OnCourse.spent_step_iff (h : OnCourse url fetch r) (e : LoadEvent) :
    (r.step e).1.handles[number]? = some .spent ↔ r.handles[number]? = some .spent ∨
      e = .poll number ∧ ∃ outcome, (r.step (.poll number)).2 = .ready outcome := by
  cases e with
  | load =>
    -- a handle that is given out is not spent
    simp only [step, h.load_loader.2, List.getElem?_append]
    grind
  | poll polled =>
    by_cases hsame : polled = number
    · subst hsame
      simp only [step, true_and]
      cases hhandle : r.handles[polled]? with
      | none => simp [hhandle]
      | some handle =>
        have hspent := handle_poll_eq_spent_iff r.loader handle
        have hready (outcome : Except LoadError SharedIndex) :
            LoadReply.ofPoll (r.loader.poll handle).2.2.1 = .ready outcome ↔
              (r.loader.poll handle).2.2.1 = .ready outcome := by
          cases (r.loader.poll handle).2.2.1 <;> simp [LoadReply.ofPoll]
        have hlt := (List.getElem?_eq_some_iff.mp hhandle).1
        simp only [List.getElem?_set_self hlt, Option.some.injEq, hready, hspent]
    · rw [getElem?_step_of_ne r hsame]
      simp [hsame]

/-- A handle is spent if one of its polls has brought the outcome, and only then. -/
theorem spent_reached_iff (url : String) (fetch : String → Fetch) (events : List LoadEvent)
    (number : Nat) :
    (reached url fetch events).handles[number]? = some .spent ↔
      Brought url fetch events number := by
  induction events using List.reverseRecOn with
  | nil =>
    refine ⟨nofun, ?_⟩
    rintro ⟨before, later, outcome, hnil, -⟩
    simp at hnil
  | append_singleton events e ih =>
    rw [reached_concat, (onCourse_reached url fetch events).spent_step_iff, ih, brought_concat_iff]
    rfl

theorem lt_count_of_brought {events : List LoadEvent} (h : Brought url fetch events number) :
    number < events.count .load := by
  rw [← length_handles_reached url fetch]
  exact (List.getElem?_eq_some_iff.mp ((spent_reached_iff url fetch events number).mpr h)).1

end Spent

/-- The answer of every handle that was given out. -/
theorem pollReply_cases {events : List LoadEvent} (hgiven : number < events.count .load) :
    (Brought url fetch events number → pollReply url fetch events number = .spent) ∧
      (¬ Brought url fetch events number → pollReply url fetch events number =
        .ofPoll (replyAfter (fetch url) (reached url fetch events).polls)) := by
  have h := onCourse_reached url fetch events
  rw [← length_handles_reached url fetch] at hgiven
  rw [← spent_reached_iff]
  refine ⟨reply_spent, fun hunspent => ?_⟩
  exact h.reply_on ((h.getElem?_cases hgiven).resolve_right fun hspent => hunspent hspent.1)

theorem late_of_ready {events : List LoadEvent} {outcome : Except LoadError SharedIndex}
    (h : pollReply url fetch events number = .ready outcome) :
    (fetch url).delay ≤ (reached url fetch events).polls ∧ (fetch url).outcome = outcome := by
  have hgiven := lt_length_of_ready h
  rw [length_handles_reached] at hgiven
  by_cases hbrought : Brought url fetch events number
  · rw [(pollReply_cases hgiven).1 hbrought] at h
    cases h
  · rw [(pollReply_cases hgiven).2 hbrought, replyAfter] at h
    split at h
    · cases h
    · rename_i hlate
      exact ⟨Nat.not_lt.mp hlate, LoadReply.ready.inj h⟩

end LoadRun

open LoadRun

/-- Whatever a fetch brings and however late, and in whatever order handles are asked for and
polled: the index is asked for once, at the first handle, and made once at most. The handles
together have to be polled as often as the fetch is late. From then on the first poll of every
handle, also of one that is given out later, brings the same outcome: the fetcher's error, the error
of the text, or the one index object. A handle that has brought it must not be polled again. -/
theorem handles_share_outcome (url : String) (fetch : String → Fetch) (events : List LoadEvent) :
    (reached url fetch events).loader.fetched = (if .load ∈ events then [url] else []) ∧
    (reached url fetch events).loader.made ≤ 1 ∧
    (∀ handle < events.count .load,
      (Brought url fetch events handle → pollReply url fetch events handle = .spent) ∧
      (¬ Brought url fetch events handle → pollReply url fetch events handle =
        if (reached url fetch events).polls < (fetch url).delay then .pending
        else .ready (fetch url).outcome)) ∧
    ∀ handle outcome, pollReply url fetch events handle = .ready outcome →
      ∀ later all, all = events ++ .poll handle :: later →
        (∀ other < all.count .load, ¬ Brought url fetch all other →
          pollReply url fetch all other = .ready outcome) ∧
        pollReply url fetch (all ++ [.load]) (all.count .load) = .ready outcome := by
  have h := onCourse_reached url fetch events
  have hempty : (reached url fetch events).handles = [] ↔ LoadEvent.load ∉ events := by
    rw [← List.length_eq_zero_iff, length_handles_reached, List.count_eq_zero]
  refine ⟨?_, ?_, fun handle hgiven => ⟨(pollReply_cases hgiven).1, fun hunspent => ?_⟩, ?_⟩
  · rw [h.fetched_eq]
    by_cases hload : LoadEvent.load ∈ events
    · rw [if_neg fun hnone => hempty.mp hnone hload, if_pos hload]
    · rw [if_pos (hempty.mpr hload), if_neg hload]
  · rw [h.made_eq, madeAfter]
    split
    · exact Nat.le_refl 1
    · exact Nat.zero_le 1
  · rw [(pollReply_cases hgiven).2 hunspent, replyAfter]
    split <;> rfl
  · rintro handle outcome hready later all rfl
    obtain ⟨hlate, houtcome⟩ := late_of_ready hready
    -- From the poll that brought the outcome on there is nothing left to wait for.
    have hbring {all : List LoadEvent} (hpolls : (reached url fetch events).polls ≤
        (reached url fetch all).polls) {other : Nat} (hgiven : other < all.count .load)
        (hunspent : ¬ Brought url fetch all other) :
        pollReply url fetch all other = .ready outcome := by
      rw [(pollReply_cases hgiven).2 hunspent, replyAfter, if_neg (by omega), houtcome]
      rfl
    refine ⟨fun other => hbring (polls_reached_append url fetch events _), hbring ?_ ?_ ?_⟩
    · rw [List.append_assoc]
      exact polls_reached_append url fetch events _
    · simp
    · rw [brought_concat_iff]
      rintro (hbefore | ⟨hpoll, -⟩)
      · exact absurd (lt_count_of_brought hbefore) (Nat.lt_irrefl _)
      · cases hpoll

end DocPages
