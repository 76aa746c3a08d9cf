import DocPages.Proofs.Page.Panel
import DocPages.Proofs.Page.Script
import DocPages.Proofs.Panel.Fields
import DocPages.Proofs.Session.Desk
import DocPages.Proofs.Session.Tokens

/-! How much a page shows. Whatever its events and however its ids collide, a page has at most one
panel, since nothing but the panel is ever appended and the old panel is removed first. The limit
of a search is the limit of the panel, so a panel shows all results of a search. -/

namespace DocPages

open FlatDocument

theorem Ranking.length_answer_le (r : Ranking) : r.answer.length ≤ r.options.limit := by
  unfold Ranking.answer
  split
  · exact Nat.zero_le _
  · simp only [Scorer.best, List.length_map]
    exact List.length_take_le _ _

/-- The job has no more results than the limit, or will have no more. -/
def Job.Within (limit : Nat) : Job → Prop
  | .running search => search.ranking.options.limit ≤ limit
  | .finished results => ∀ shown, results = some shown → shown.length ≤ limit

section Within

variable {limit : Nat} {tokens : Tokens} {search : Search}

theorem Search.within_poll (h : (Job.running search).Within limit) :
    (search.poll tokens).1.job.Within limit := by
  cases hl : tokens.isCancelled search.token with
  | true =>
    rw [Search.poll_revoked hl]
    exact fun shown hs => nomatch hs
  | false =>
    by_cases hp : search.ranking.pausesLeft = 0
    · rw [Search.poll_last hl hp]
      rintro shown ⟨⟩
      exact Nat.le_trans search.ranking.length_answer_le h
    · rw [Search.poll_more hl hp]
      exact h

theorem Search.within_awaitFrom (fuel : Nat) (h : (Job.running search).Within limit) :
    (search.awaitFrom tokens fuel).1.job.Within limit := by
  induction fuel generalizing search with
  | zero => exact h
  | succ fuel ih =>
    have hpoll := @Search.within_poll limit tokens search h
    unfold Search.awaitFrom
    split
    · rename_i next notices heq
      rw [heq] at hpoll
      exact ih hpoll
    · exact hpoll

theorem Desk.within_advance {d : Desk} {slot : String}
    {poll : Search → Search.Outcome × List Notice}
    (hd : ∀ name job, d.get? name = some job → job.Within limit)
    (hpoll : ∀ search, (Job.running search).Within limit → (poll search).1.job.Within limit)
    {name : String} {job : Job} (h : (d.advance slot poll).1.get? name = some job) :
    job.Within limit := by
  rcases Desk.get?_advance_cases h with hsame | ⟨search, hj, rfl⟩
  · exact hd name job hsame
  · exact hpoll search (hd name _ hj)

end Within

namespace PageRun

/-- A page that keeps its limits. -/
structure Bounded (config : Config) (r : PageRun FlatDocument) : Prop where
  config_eq : r.page.config = config
  limit_eq : r.page.session.options.limit = config.limit
  once : r.document.count config.ids.searchResults ≤ 1
  jobs : ∀ slot job, r.desk.get? slot = some job → job.Within config.limit

variable {config : Config} {r : PageRun FlatDocument}

theorem bounded_new {d : FlatDocument} (h : d.count config.ids.searchResults ≤ 1) :
    Bounded config (new config d) := ⟨rfl, rfl, h, fun _ _ hj => nomatch hj⟩

theorem Bounded.count_clear (h : Bounded config r) :
    (r.page.clearResults r.document).count config.ids.searchResults = 0 := by
  have hconfig := h.config_eq
  subst hconfig
  exact Page.count_clearResults h.once

/-- All that showing results can do: the panel is there, or nothing is. -/
theorem Bounded.show_cases (h : Bounded config r) (results : List Ranked) :
    (Document.hasElement (r.page.clearResults r.document) config.ids.search = true ∧
      (r.page.showResults r.document results).1 = min results.length config.limit ∧
      (r.page.showResults r.document results).2.1 =
        (r.page.clearResults r.document).withPanel config results) ∨
    (Document.hasElement (r.page.clearResults r.document) config.ids.search = false ∧
      (r.page.showResults r.document results).1 = 0 ∧
      (r.page.showResults r.document results).2.1 = r.page.clearResults r.document) := by
  have hconfig := h.config_eq
  subst hconfig
  cases hc : (r.page.clearResults r.document).get? r.page.config.ids.search with
  | none =>
    refine .inr ⟨by simp [Document.hasElement, hc], ?_⟩
    rw [Page.showResults_of_no_container hc]
    exact ⟨rfl, rfl⟩
  | some e =>
    refine .inl ⟨by simp [Document.hasElement, hc], ?_⟩
    rw [Page.showResults_of_container (by rw [hc]; rfl)]
    exact ⟨rfl, rfl⟩

theorem Bounded.count_show (h : Bounded config r) (results : List Ranked) :
    (r.page.showResults r.document results).2.1.count config.ids.searchResults ≤ 1 := by
  rcases h.show_cases results with ⟨-, -, hafter⟩ | ⟨-, -, hafter⟩
  · rw [hafter, count_withPanel h.count_clear]
    split <;> omega
  · rw [hafter, h.count_clear]
    exact Nat.zero_le 1

theorem Bounded.step (index : Index) (e : PageEvent) (h : Bounded config r) :
    Bounded config (r.step index e).1 := by
  have hconfig := (config_step index r e).trans h.config_eq
  cases hs : e.isSearch with
  | false =>
    obtain ⟨hsession, hdesk, hskeleton⟩ := step_of_not_search index r hs
    refine ⟨hconfig, by rw [hsession, h.limit_eq], ?_, by rw [hdesk]; exact h.jobs⟩
    rw [count_of_skeleton hskeleton]
    exact h.once
  | true =>
    cases e with
    | search slot query =>
      have hlimit : r.page.session.begin.2.options.limit = config.limit := by
        rw [Session.options_begin, h.limit_eq]
      refine ⟨hconfig, hlimit, h.once, fun name job hj => ?_⟩
      by_cases hn : name = slot
      · subst hn
        rw [PageRun.step, Page.startSearch, Desk.get?_put_self, Session.search_eq] at hj
        cases hj
        exact Nat.le_of_eq h.limit_eq
      · rw [PageRun.step, Page.startSearch, Desk.get?_put_of_ne _ hn] at hj
        exact h.jobs name job hj
    | poll slot =>
      refine ⟨hconfig, h.limit_eq, h.once, fun name job hj => ?_⟩
      exact Desk.within_advance h.jobs (fun _ => Search.within_poll) hj
    | await slot =>
      refine ⟨hconfig, h.limit_eq, h.once, fun name job hj => ?_⟩
      exact Desk.within_advance h.jobs (fun _ => Search.within_awaitFrom _) hj
    | «show» slot =>
      simp only [PageRun.step]
      split
      · exact ⟨h.config_eq, h.limit_eq, h.count_show _, h.jobs⟩
      · exact h
    | showResults results => exact ⟨h.config_eq, h.limit_eq, h.count_show results, h.jobs⟩
    | dismiss =>
      have hlimit : r.page.session.cancel.options.limit = config.limit := by
        rw [Session.options_cancel, h.limit_eq]
      have hgone := h.count_clear
      exact ⟨h.config_eq, hlimit, Nat.le_of_eq hgone |>.trans (Nat.zero_le 1), h.jobs⟩
    | install | viewport | width | headerButton | sidebarLink | transitionEnd | sectionButton =>
      cases hs

theorem Bounded.play (h : Bounded config r) (script : Script) : Bounded config (r.play script) :=
  play_invariant h (fun _ index e hr => hr.step index e) script

theorem Bounded.length_results_le (h : Bounded config r) {slot : String} {results : List Ranked}
    (hr : r.desk.results? slot = some results) : results.length ≤ config.limit := by
  unfold Desk.results? at hr
  split at hr
  · rename_i hj
    exact h.jobs slot _ hj results hr
  · cases hr

end PageRun

open PageRun Panel

/-- A page whose document starts with at most one element of the panel's id has at most one after
every sequence of events, for every configuration. Showing results gives as many as both limits
allow, and a panel with a link for each of them around the descriptions, if there are results and a
container that is not the old panel itself; otherwise it gives none and leaves no panel. The results
of a search of the page are all shown. -/
theorem one_panel_within_limits {config : Config} {d : FlatDocument}
    (hd : d.count config.ids.searchResults ≤ 1) (script : Script) {r : PageRun FlatDocument}
    (hr : r = (PageRun.new config d).play script) :
    r.document.count config.ids.searchResults ≤ 1 ∧
    (∀ results n after notices, r.page.showResults r.document results = (n, after, notices) →
      if results ≠ [] ∧
          Document.hasElement (r.page.clearResults r.document) config.ids.search = true then
        n = min results.length (min config.maxResults 10) ∧
        after.count config.ids.searchResults = 1 ∧
        ∃ html frame nodes, after.html config.ids.searchResults = some html ∧
          Described html ((results.take n).map (·.entry.summary)) frame ∧
          Html.parse frame = some nodes ∧ (Html.select isResultLink nodes).length = n
      else n = 0 ∧ after.count config.ids.searchResults = 0) ∧
    ∀ slot results, r.desk.results? slot = some results → ∀ later,
      Document.hasElement ((r.play later).page.clearResults (r.play later).document)
          config.ids.search = true →
        ((r.play later).page.showResults (r.play later).document results).1 = results.length := by
  have h : Bounded config r := hr ▸ (bounded_new hd).play script
  refine ⟨h.once, ?_, ?_⟩
  · intro results n after notices hshow
    have hcases := h.show_cases results
    rw [hshow] at hcases
    rcases hcases with ⟨hc, hn, hafter⟩ | ⟨hc, hn, hafter⟩
    · simp only at hn hafter
      by_cases hne : results = []
      · rw [if_neg fun hboth => hboth.1 hne, hn, hafter, hne, count_withPanel h.count_clear]
        exact ⟨Nat.zero_min _, if_pos rfl⟩
      · obtain ⟨html, frame, nodes, hhtml, hdescribed, hparse, hlinks⟩ :=
          exists_panel_links config hne
        have htake : results.take n = results.take config.limit := by
          rw [hn, List.take_eq_take_iff]
          omega
        rw [if_pos ⟨hne, hc⟩, hafter, count_withPanel h.count_clear, if_neg hne,
          html_withPanel h.count_clear, htake]
        exact ⟨hn, rfl, html, frame, nodes, hhtml, hdescribed, hparse, hlinks.trans hn.symm⟩
    · simp only at hn hafter
      rw [hc, if_neg fun hboth => Bool.false_ne_true hboth.2]
      exact ⟨hn, hafter ▸ h.count_clear⟩
  · intro slot results hresults later hc
    have hlength := h.length_results_le hresults
    rcases (h.play later).show_cases results with ⟨-, hn, -⟩ | ⟨hno, -⟩
    · rw [hn, Nat.min_eq_left hlength]
    · rw [hc] at hno
      cases hno

/-- A configuration that takes the panel for the sidebar and asks for more than is ever shown. -/
def Config.colliding : Config :=
  { Config.default with
    maxResults := 50
    ids := { ElementIds.default with sidebar := "search_results" } }

/-- A document in which a section is called like the panel. -/
def FlatDocument.colliding : FlatDocument :=
  ⟨[.plain "search" [] "", .plain "search_results" ["collapsible"] ""]⟩

def PageRun.colliding : PageRun FlatDocument :=
  (PageRun.new .colliding .colliding).play
    [(⟨[]⟩, .install), (⟨[⟨"", "sqrt", "math.html", "", .function⟩]⟩, .search "first" "sq"),
      (⟨[]⟩, .viewport false), (⟨[]⟩, .await "first"),
      (⟨[]⟩, .showResults (List.replicate 12 hostileResult)), (⟨[]⟩, .headerButton)]

theorem one_panel_within_limits_colliding :
    FlatDocument.colliding.count "search_results" ≤ 1 ∧
    PageRun.colliding.document.count "search_results" ≤ 1 ∧
    (PageRun.colliding.page.showResults PageRun.colliding.document
      (List.replicate 12 hostileResult)).1 = 10 ∧
    ∃ results, PageRun.colliding.desk.results? "first" = some results ∧
      (PageRun.colliding.page.showResults PageRun.colliding.document results).1 =
        results.length := by
  have hd : FlatDocument.colliding.count "search_results" ≤ 1 := by decide
  obtain ⟨hone, hshow, hall⟩ :=
    @one_panel_within_limits .colliding .colliding hd _ PageRun.colliding rfl
  have hcontainer : Document.hasElement
      (PageRun.colliding.page.clearResults PageRun.colliding.document) "search" = true := by
    decide +kernel
  have hfinished : (PageRun.colliding.desk.results? "first").isSome = true := by decide +kernel
  obtain ⟨results, hresults⟩ := Option.isSome_iff_exists.mp hfinished
  have hten := hshow (List.replicate 12 hostileResult) _ _ _ rfl
  rw [if_pos ⟨by simp, hcontainer⟩] at hten
  exact ⟨hd, hone, hten.1, results, hresults, hall "first" results hresults [] hcontainer⟩

end DocPages
