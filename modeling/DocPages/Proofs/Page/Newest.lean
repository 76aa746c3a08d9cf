import DocPages.Proofs.Page.Tasks

/-! Only the newest search of a page is seen. The invariant ties the tokens, the search of every
task and the panel together: a token that is not cancelled is the one of the outstanding search and
belongs to the task that was spawned last, and once that task has finished the panel is its own. -/

namespace DocPages

open FlatDocument

namespace TaskRun

/-- Every run of a page keeps its tasks and tokens in step. -/
structure Tracked (d : FlatDocument) (config : Config) (r : TaskRun FlatDocument) : Prop where
  config_eq : r.page.page.config = config
  options_eq : r.session.options = ⟨config.limit, config.yieldEvery⟩
  size_eq : r.session.tokens.size = r.spawned
  exclusive : r.session.Exclusive
  newest : ∀ task, r.session.tokens.isCancelled task = false → task + 1 = r.spawned
  token : ∀ task search, r.page.desk.get? (slot task) = some (.running search) →
    search.token = task
  panel : ∃ results, r.page.document = d.withPanel config results

/-- No search is wanted and no panel is there. -/
structure Quiet (d : FlatDocument) (r : TaskRun FlatDocument) : Prop where
  dead : ∀ task, r.session.tokens.isCancelled task = true
  bare : r.page.document = d

/-- The newest task is wanted, and if it has finished the panel shows its answer. -/
structure Serves (d : FlatDocument) (config : Config) (pauses : Nat) (answer : List Ranked)
    (task polls : Nat) (r : TaskRun FlatDocument) : Prop where
  newest : task + 1 = r.spawned
  live : r.session.tokens.isCancelled task = false
  job : ∃ job, r.page.desk.get? (slot task) = some job ∧ job.Fresh task pauses answer polls
  shown : pauses < polls → r.page.document = d.withPanel config answer

variable {index : Index} {config : Config} {d : FlatDocument} {r : TaskRun FlatDocument}
  {pauses task polls : Nat} {answer : List Ranked}

theorem tracked_new (d : FlatDocument) (config : Config) : Tracked d config (new config d) where
  config_eq := rfl
  options_eq := rfl
  size_eq := rfl
  exclusive := Session.exclusive_new _
  newest _ h := nomatch h
  token _ _ h := nomatch h
  panel := ⟨[], rfl⟩

theorem quiet_new (d : FlatDocument) (config : Config) : Quiet d (new config d) :=
  ⟨fun _ => rfl, rfl⟩

theorem Tracked.token_begin (h : Tracked d config r) : r.session.begin.1 = r.spawned :=
  r.session.token_begin.trans h.size_eq

theorem Tracked.step_start (h : Tracked d config r) (query : String) :
    Tracked d config (r.step index (.start query)).1 := by
  rw [TaskRun.step_start]
  have hoptions : r.session.begin.2.options = ⟨config.limit, config.yieldEvery⟩ :=
    r.session.options_begin.trans h.options_eq
  have hsize : r.session.begin.2.tokens.size = r.spawned + 1 := by
    rw [r.session.size_begin, h.size_eq]
  refine ⟨h.config_eq, hoptions, hsize, h.exclusive.begin, ?_, ?_, h.panel⟩
  · -- Starting has cancelled all older tokens.
    intro task hl
    rw [h.exclusive.begin.eq_of_live hl h.exclusive.live_begin, h.token_begin]
  · intro task search hj
    by_cases ht : task = r.spawned
    · subst ht
      rw [Desk.get?_put_self, Session.search_eq] at hj
      cases hj
      exact h.token_begin
    · rw [Desk.get?_put_of_ne _ fun hs => ht (slot_injective hs)] at hj
      exact h.token task search hj

theorem Tracked.step_dismiss (hd : d.HostsPanel config) (h : Tracked d config r) :
    Tracked d config (r.step index .dismiss).1 ∧ Quiet d (r.step index .dismiss).1 := by
  obtain ⟨results, hp⟩ := h.panel
  have hc : r.page.page.clearResults r.page.document = d := by
    have hcfg := h.config_eq
    subst hcfg
    rw [hp, Page.clearResults_withPanel hd.toPanelless]
  have hdead := h.exclusive.isCancelled_cancel
  have hoptions : r.session.cancel.options = ⟨config.limit, config.yieldEvery⟩ :=
    r.session.options_cancel.trans h.options_eq
  have hsize : r.session.cancel.tokens.size = r.spawned := r.session.size_cancel.trans h.size_eq
  rw [TaskRun.step_dismiss, hc]
  refine ⟨⟨h.config_eq, hoptions, hsize, h.exclusive.cancel, ?_, h.token, [], rfl⟩, hdead, rfl⟩
  intro task hl
  cases (hdead task).symm.trans hl

theorem showResults_eq (hd : d.HostsPanel config) (h : Tracked d config r) (results : List Ranked) :
    (r.page.page.showResults r.page.document results).2.1 = d.withPanel config results := by
  obtain ⟨old, hp⟩ := h.panel
  have hcfg := h.config_eq
  subst hcfg
  rw [hp, Page.showResults_withPanel hd]

theorem Tracked.step_poll (hd : d.HostsPanel config) (h : Tracked d config r) (task : Nat) :
    Tracked d config (r.step index (.poll task)).1 := by
  have htoken : ∀ i search, (r.advance task).1.get? (slot i) = some (.running search) →
      search.token = i := by
    intro i search hj
    obtain ⟨before, hb, ht⟩ := Desk.running_of_advance hj
    rw [← ht]
    exact h.token i before hb
  rcases step_poll_cases index r task with ⟨n, results, -, hstep⟩ | hstep
  · rw [hstep, showResults_eq hd h]
    exact ⟨h.config_eq, h.options_eq, h.size_eq, h.exclusive, h.newest, htoken, results, rfl⟩
  · rw [hstep]
    exact ⟨h.config_eq, h.options_eq, h.size_eq, h.exclusive, h.newest, htoken, h.panel⟩

theorem Tracked.step (hd : d.HostsPanel config) (h : Tracked d config r) (e : TaskEvent) :
    Tracked d config (r.step index e).1 := by
  cases e with
  | start query => exact h.step_start query
  | dismiss => exact (h.step_dismiss hd).1
  | poll task => exact h.step_poll hd task

theorem Tracked.run (hd : d.HostsPanel config) (h : Tracked d config r) (events : List TaskEvent) :
    Tracked d config (r.run index events) := by
  induction events generalizing r with
  | nil => exact h
  | cons e events ih => exact ih (h.step hd e)

theorem Tracked.live_of_finished (h : Tracked d config r) {n : Nat} {results : List Ranked}
    (hr : (r.advance task).2.1 = .finished n (some results)) :
    r.session.tokens.isCancelled task = false := by
  obtain ⟨⟨search, hj, hl⟩, -⟩ := Desk.live_of_advance_finished hr
  rw [h.token task search hj] at hl
  exact hl

theorem Tracked.shown (h : Tracked d config r) {e : TaskEvent} {task : Nat}
    (hs : (r.step index e).2 = some task) :
    r.session.tokens.isCancelled task = false ∧ r.Pending task ∧ ¬ (r.step index e).1.Pending task ∧
      (r.step index e).1.spawned = task + 1 := by
  cases e with
  | start query => cases hs
  | dismiss => cases hs
  | poll i =>
    rcases step_poll_cases index r i with ⟨n, results, hr, hstep⟩ | hstep
    · have hl := h.live_of_finished hr
      obtain ⟨⟨search, hj, -⟩, hdone⟩ := Desk.live_of_advance_finished hr
      rw [hstep] at hs ⊢
      cases hs
      refine ⟨hl, ⟨search, hj⟩, ?_, (h.newest _ hl).symm⟩
      rintro ⟨again, ha⟩
      have heq := hdone.symm.trans ha
      cases heq
    · rw [hstep] at hs
      cases hs

theorem Quiet.step (hd : d.HostsPanel config) (h : Tracked d config r) (hq : Quiet d r)
    {e : TaskEvent} (he : e.isStart = false) : Quiet d (r.step index e).1 := by
  cases e with
  | start query => cases he
  | dismiss => exact (h.step_dismiss hd).2
  | poll task =>
    have hn (n : Nat) (results : List Ranked) :
        (r.advance task).2.1 ≠ .finished n (some results) := by
      intro hr
      have hl := h.live_of_finished hr
      rw [hq.dead] at hl
      cases hl
    rw [step_poll_quiet hn]
    exact ⟨hq.dead, hq.bare⟩

theorem Quiet.run (hd : d.HostsPanel config) (h : Tracked d config r) (hq : Quiet d r)
    {events : List TaskEvent} (hn : ∀ e ∈ events, e.isStart = false) :
    Quiet d (r.run index events) := by
  induction events generalizing r with
  | nil => exact hq
  | cons e events ih =>
    obtain ⟨he, hn⟩ := List.forall_mem_cons.mp hn
    exact ih (h.step hd e) (hq.step hd h he) hn

theorem Tracked.quiet_of_dismiss (hd : d.HostsPanel config) (h : Tracked d config r)
    {events : List TaskEvent} (hn : ∀ e ∈ events, e.isStart = false) (hm : .dismiss ∈ events) :
    Quiet d (r.run index events) := by
  obtain ⟨before, after, rfl⟩ := List.append_of_mem hm
  obtain ⟨ht, hq⟩ := (h.run hd before).step_dismiss hd
  rw [run_append, run_cons]
  exact hq.run hd ht fun e he => hn e (List.mem_append_right _ (List.mem_cons_of_mem _ he))

theorem Tracked.serves_start (h : Tracked d config r) (query : String) :
    Serves d config (rankPauses query ⟨config.limit, config.yieldEvery⟩ index.entries)
      (Ranking.start query ⟨config.limit, config.yieldEvery⟩ index.entries).answer r.spawned 0
      (r.step index (.start query)).1 := by
  rw [TaskRun.step_start]
  refine ⟨rfl, ?_, ⟨_, Desk.get?_put_self _ _ _, ?_⟩, fun hlt => nomatch hlt⟩
  · rw [← h.token_begin]
    exact h.exclusive.live_begin
  · rw [Session.search_eq, ← h.options_eq]
    exact @Job.Fresh.running _ _ _ ⟨r.session.begin.1, 0, _⟩ h.token_begin
      (Ranking.pausesLeft_start query _ index.entries) rfl

theorem Serves.step_poll (hd : d.HostsPanel config) (h : Tracked d config r)
    (hs : Serves d config pauses answer task polls r) (i : Nat) :
    ∃ polls', Serves d config pauses answer task polls' (r.step index (.poll i)).1 := by
  obtain ⟨job, hj, hf⟩ := hs.job
  by_cases hi : i = task
  · subst hi
    obtain ⟨hreply, hjob⟩ := hf.poll hj hs.live
    -- of all polls of the newest task exactly one brings results
    by_cases hp : polls = pauses
    · have hr : (r.advance i).2.1 = .finished pauses (some answer) := by
        rw [advance, hreply, hp, freshReply, if_neg (Nat.lt_irrefl _), if_pos rfl]
      rw [step_poll_shown hr, showResults_eq hd h]
      exact ⟨polls + 1, hs.newest, hs.live, hjob, fun _ => rfl⟩
    · rw [step_poll_quiet fun n results hn =>
        hp (freshReply_finished_iff.mp ⟨n, results, hreply.symm.trans hn⟩)]
      exact ⟨polls + 1, hs.newest, hs.live, hjob, fun hlt => hs.shown (by omega)⟩
  · have hn (n : Nat) (results : List Ranked) :
        (r.advance i).2.1 ≠ .finished n (some results) := by
      intro hr
      -- a second task with results would hold a second token that is not cancelled
      exact hi (h.exclusive.eq_of_live (h.live_of_finished hr) hs.live)
    rw [step_poll_quiet hn]
    refine ⟨polls, hs.newest, hs.live, ⟨job, ?_, hf⟩, hs.shown⟩
    exact (Desk.get?_advance_of_ne fun heq => hi (slot_injective heq).symm).trans hj

theorem Serves.run (hd : d.HostsPanel config) (h : Tracked d config r)
    (hs : Serves d config pauses answer task polls r) {events : List TaskEvent}
    (hn : ∀ e ∈ events, e.isStart = false) (hm : .dismiss ∉ events) :
    ∃ polls', Serves d config pauses answer task polls' (r.run index events) := by
  induction events generalizing r polls with
  | nil => exact ⟨polls, hs⟩
  | cons e events ih =>
    obtain ⟨he, hn'⟩ := List.forall_mem_cons.mp hn
    have hm' : .dismiss ∉ events := fun hin => hm (List.mem_cons_of_mem _ hin)
    cases e with
    | start query => cases he
    | dismiss => exact absurd List.mem_cons_self hm
    | poll i =>
      obtain ⟨polls', hs'⟩ := hs.step_poll hd h i
      exact ih (h.step hd (.poll i)) hs' hn' hm'

theorem Serves.document_eq (hs : Serves d config pauses answer task polls r)
    (hdone : ¬ r.Pending task) : r.page.document = d.withPanel config answer := by
  obtain ⟨job, hj, hf⟩ := hs.job
  cases hf with
  | running own left result => exact absurd ⟨_, hj⟩ hdone
  | finished late => exact hs.shown late

/-- A task that shows its results later is the newest one and running now, or not yet spawned. -/
theorem Tracked.later (hd : d.HostsPanel config) (h : Tracked d config r) {events : List TaskEvent}
    {task : Nat} (ht : task ∈ r.shows index events) :
    (task + 1 = r.spawned ∧ r.Pending task) ∨ r.spawned ≤ task := by
  induction events generalizing r with
  | nil => cases ht
  | cons e events ih =>
    rcases List.mem_append.mp ht with hnow | hlater
    · obtain ⟨hl, hp, -, -⟩ := h.shown (Option.mem_toList.mp hnow)
      exact .inl ⟨h.newest task hl, hp⟩
    · have hrest := ih (h.step hd e) hlater
      rw [spawned_step] at hrest
      cases he : e.isStart with
      | true =>
        rw [he, if_pos rfl] at hrest
        exact .inr (by omega)
      | false =>
        rw [he, if_neg Bool.false_ne_true] at hrest
        exact hrest.imp_left fun hp => ⟨hp.1, pending_of_step he hp.2⟩

theorem Tracked.pairwise_shows (hd : d.HostsPanel config) (h : Tracked d config r)
    (events : List TaskEvent) : (r.shows index events).Pairwise (· < ·) := by
  induction events generalizing r with
  | nil => exact .nil
  | cons e events ih =>
    have ht : Tracked d config (r.step index e).1 := h.step hd e
    rw [shows, List.pairwise_append]
    refine ⟨?_, ih ht, ?_⟩
    · cases (r.step index e).2 <;> simp
    · intro task hnow other hother
      obtain ⟨-, -, hdone, hspawned⟩ := h.shown (Option.mem_toList.mp hnow)
      rcases ht.later hd hother with ⟨hnewest, hp⟩ | hnext
      -- the task that has just shown its results is not running any more
      · have heq : other = task := by omega
        exact absurd (heq ▸ hp) hdone
      · omega

theorem Tracked.calm_of_live (hd : d.HostsPanel config) (h : Tracked d config r) {query : String}
    {events : List TaskEvent}
    (hl : (r.run index (.start query :: events)).session.tokens.isCancelled r.spawned = false) :
    ∀ e ∈ events, e.isStart = false ∧ e ≠ .dismiss := by
  have hstart : Tracked d config (r.step index (.start query)).1 := h.step_start query
  have hspawned := (h.run hd (.start query :: events)).newest _ hl
  rw [run_cons, spawned_run, TaskRun.step_start] at hspawned
  have hn : ∀ e ∈ events, e.isStart = false := by
    have hzero : events.countP TaskEvent.isStart = 0 := by
      simp only at hspawned
      omega
    intro e he
    simpa using List.countP_eq_zero.mp hzero e he
  intro e he
  refine ⟨hn e he, ?_⟩
  rintro rfl
  rw [run_cons, (hstart.quiet_of_dismiss hd hn he).dead] at hl
  cases hl

def reached (index : Index) (config : Config) (elements : List (String × List String × String))
    (events : List TaskEvent) : TaskRun FlatDocument :=
  (new config (ofInserted elements)).run index events

def panels (r : TaskRun FlatDocument) : Nat :=
  r.page.document.count r.page.page.config.ids.searchResults

def panel? (r : TaskRun FlatDocument) : Option String :=
  r.page.document.html r.page.page.config.ids.searchResults

theorem Quiet.panels_eq (hd : d.HostsPanel config) (h : Tracked d config r) (hq : Quiet d r) :
    r.panels = 0 := by
  rw [panels, hq.bare, h.config_eq, ← withPanel_nil d config, count_withPanel hd.count_panel,
    if_pos rfl]

theorem Serves.panels_eq (hd : d.HostsPanel config) (h : Tracked d config r)
    (hs : Serves d config pauses answer task polls r) (hdone : ¬ r.Pending task) :
    r.panels = (if answer = [] then 0 else 1) ∧ r.panel? = panelHtml config answer := by
  rw [panels, panel?, hs.document_eq hdone, h.config_eq]
  exact ⟨count_withPanel hd.count_panel answer, html_withPanel hd.count_panel answer⟩

theorem Tracked.panels_settled (hd : d.HostsPanel config) (h : Tracked d config r) (query : String)
    {after : List TaskEvent} (hn : ∀ e ∈ after, e.isStart = false)
    (hdone : ∀ task, ¬ (r.run index (.start query :: after)).Pending task)
    (hanswer : answer =
      (Ranking.start query ⟨config.limit, config.yieldEvery⟩ index.entries).answer) :
    (.dismiss ∈ after ∨ answer = [] → (r.run index (.start query :: after)).panels = 0) ∧
      (.dismiss ∉ after → answer ≠ [] → (r.run index (.start query :: after)).panels = 1 ∧
        (r.run index (.start query :: after)).panel? = panelHtml config answer) := by
  have hstart : Tracked d config (r.step index (.start query)).1 := h.step_start query
  have hend : Tracked d config (r.run index (.start query :: after)) := h.run hd _
  by_cases hm : .dismiss ∈ after
  · have hq : Quiet d (r.run index (.start query :: after)) := hstart.quiet_of_dismiss hd hn hm
    exact ⟨fun _ => hq.panels_eq hd hend, fun hm' => absurd hm hm'⟩
  · obtain ⟨polls, hs⟩ := (h.serves_start query).run hd hstart hn hm
    obtain ⟨hcount, hhtml⟩ := hs.panels_eq hd hend (hdone _)
    rw [← hanswer] at hcount hhtml
    refine ⟨fun hempty => ?_, fun _ hne => ⟨hcount.trans (if_neg hne), hhtml⟩⟩
    exact hcount.trans (if_pos (hempty.resolve_left hm))

end TaskRun

open TaskRun

/-- Only the newest search of a page is seen, whatever the order of starts, dismissals and polls. A
task that shows its results was followed by no start and no dismissal, so the tasks show theirs in
the order of their starts. Once no task is running there is no panel if nothing was started, if the
last start was dismissed or if the last search found nothing, and else one, with its results. -/
theorem newest_search_is_seen (index : Index) (config : Config)
    {elements : List (String × List String × String)}
    (hsearch : ∃ x ∈ elements, x.1 = config.ids.search)
    (hfree : ∀ x ∈ elements, x.1 ≠ config.ids.searchResults) :
    (∀ (before between : List TaskEvent) (query : String) (e : TaskEvent),
      ((reached index config elements (before ++ .start query :: between)).step index e).2 =
          some (before.countP TaskEvent.isStart) →
        ∀ x ∈ between, x.isStart = false ∧ x ≠ .dismiss) ∧
    (∀ events, ((new config (ofInserted elements)).shows index events).Pairwise (· < ·)) ∧
    ∀ events, (∀ task, ¬ (reached index config elements events).Pending task) →
      ((∀ x ∈ events, x.isStart = false) → (reached index config elements events).panels = 0) ∧
      ∀ (before after : List TaskEvent) (query : String),
        events = before ++ .start query :: after → (∀ x ∈ after, x.isStart = false) →
        ∃ results, (rank query ⟨config.limit, config.yieldEvery⟩ none index.entries).results =
            some results ∧
          (.dismiss ∈ after ∨ results = [] →
            (reached index config elements events).panels = 0) ∧
          (.dismiss ∉ after → results ≠ [] →
            (reached index config elements events).panels = 1 ∧
            (reached index config elements events).panel? = panelHtml config results) := by
  have hd := hostsPanel_ofInserted hsearch hfree
  have h0 := tracked_new (ofInserted elements) config
  have htracked (events : List TaskEvent) :
      Tracked (ofInserted elements) config (reached index config elements events) :=
    h0.run hd events
  refine ⟨?_, fun events => h0.pairwise_shows hd events, ?_⟩
  · intro before between query e hs
    obtain ⟨hl, -, -, -⟩ := (htracked _).shown hs
    have hspawned : (reached index config elements before).spawned =
        before.countP TaskEvent.isStart := (spawned_run before).trans (Nat.zero_add _)
    rw [reached, run_append, ← hspawned] at hl
    exact (htracked before).calm_of_live hd hl
  · intro events hdone
    refine ⟨fun hn => ((quiet_new _ config).run hd h0 hn).panels_eq hd (htracked events), ?_⟩
    rintro before after query rfl hn
    refine ⟨_, congrArg Ranking.Report.results (rank_uncancelled _ _ _), ?_⟩
    rw [reached, run_append] at hdone ⊢
    exact (htracked before).panels_settled hd query hn hdone rfl

/-- A page on which a second search overtook the first. -/
def TaskRun.overtaken : TaskRun FlatDocument :=
  reached ⟨[⟨"", "sqrt", "math.html", "", .function⟩]⟩ .default [("search", [], "")]
    [.start "sq", .start "sqr", .poll 0, .poll 1]

theorem newest_search_is_seen_after_overtaking :
    (∀ task, ¬ overtaken.Pending task) ∧ overtaken.panels = 1 := by
  have hsearch : ∃ x ∈ [("search", ([] : List String), "")], x.1 = Config.default.ids.search :=
    ⟨_, List.mem_cons_self, rfl⟩
  have hfree : ∀ x ∈ [("search", ([] : List String), "")],
      x.1 ≠ Config.default.ids.searchResults := by decide
  have hdone : ∀ task, ¬ overtaken.Pending task := not_pending_of_jobs (by decide +kernel)
  have hseen := newest_search_is_seen ⟨[⟨"", "sqrt", "math.html", "", .function⟩]⟩ .default
    hsearch hfree
  obtain ⟨results, hrank, -, hshown⟩ :=
    (hseen.2.2 _ hdone).2 [.start "sq"] [.poll 0, .poll 1] "sqr" rfl (by decide)
  have hfound : (rank "sqr" ⟨Config.default.limit, Config.default.yieldEvery⟩ none
      [⟨"", "sqrt", "math.html", "", .function⟩]).results ≠ some [] := by decide +kernel
  refine ⟨hdone, (hshown (by decide) ?_).1⟩
  rintro rfl
  exact hfound hrank

end DocPages
