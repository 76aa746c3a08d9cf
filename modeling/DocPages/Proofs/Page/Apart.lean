import DocPages.Proofs.Page.Beside
import DocPages.Proofs.Page.Panel
import DocPages.Proofs.Page.Script

/-! Search and the rest of a page keep apart. If no element, no section button and no other part of
the configuration is called like the panel, a run of a page is two runs side by side: the events of
the search move the session, the desk and the panel, all other events move the rest, and neither
sees the other. -/

namespace DocPages

open Document FlatDocument

/-- The elements that the panel of some results consists of. -/
def panelElements (config : Config) (results : List Ranked) : List FlatElement :=
  match panelHtml config results with
  | none => []
  | some html => [⟨config.ids.searchResults, some config.ids.search, [], "", [], some html⟩]

theorem beside_panelElements (d : FlatDocument) (config : Config) (results : List Ranked) :
    d.beside (panelElements config results) = d.withPanel config results := by
  unfold panelElements withPanel
  cases panelHtml config results with
  | none => exact congrArg FlatDocument.mk (List.append_nil _)
  | some html => rfl

theorem mem_panelElements {config : Config} {results : List Ranked} {e : FlatElement}
    (h : e ∈ panelElements config results) :
    e.id = config.ids.searchResults ∧ e.classes = [] := by
  unfold panelElements at h
  split at h
  · cases h
  · rw [List.mem_singleton] at h
    rw [h]
    exact ⟨rfl, rfl⟩

theorem outside_panelElements {config : Config} {id : String} (h : id ≠ config.ids.searchResults)
    (results : List Ranked) : Outside (panelElements config results) id :=
  fun _ he heq => h (heq.symm.trans (mem_panelElements he).1)

/-- The panel's name stands for nothing else, neither in the configuration nor among elements. -/
structure Config.SetsPanelApart (config : Config) (skeleton : List (String × Option String)) :
    Prop where
  search : config.ids.search ≠ config.ids.searchResults
  sidebar : config.ids.sidebar ≠ config.ids.searchResults
  headerButton : config.ids.headerButton ≠ config.ids.searchResults
  free : ∀ x ∈ skeleton, x.1 ≠ config.ids.searchResults
  unwired : ∀ x ∈ skeleton, Section.buttonId x.1 ≠ config.ids.searchResults
  childless : ∀ x ∈ skeleton, x.2 ≠ some config.ids.searchResults

/-- The event presses no button of the panel, nor the panel as a button. -/
def PageEvent.Spares (e : PageEvent) (panel : String) : Prop :=
  ∀ owner, e = .sectionButton owner → owner ≠ panel ∧ Section.buttonId owner ≠ panel

namespace Config.SetsPanelApart

variable {config : Config} {d : FlatDocument}

theorem panelless (h : config.SetsPanelApart d.skeleton) : d.Panelless config where
  free e he := h.free (e.id, e.parent) (List.mem_map_of_mem he)
  childless e he := h.childless (e.id, e.parent) (List.mem_map_of_mem he)

theorem unwired_of_class (h : config.SetsPanelApart d.skeleton) (results : List Ranked)
    {c id : String} (hid : id ∈ idsWithClass d c) :
    Section.Unwired (panelElements config results) id := by
  obtain ⟨e, he, rfl⟩ := List.mem_map.mp hid
  have hmem : (e.id, e.parent) ∈ d.skeleton :=
    List.mem_map_of_mem (f := fun e : FlatElement => (e.id, e.parent)) (List.mem_filter.mp he).1
  exact ⟨outside_panelElements (h.free _ hmem) results,
    outside_panelElements (h.unwired _ hmem) results⟩

end Config.SetsPanelApart

namespace PageRun

/-- The run with a session, a desk and a panel in place of its own. -/
def withSearch (r : PageRun FlatDocument) (session : Session) (desk : Desk)
    (panel : List FlatElement) : PageRun FlatDocument :=
  ⟨{ r.page with session := session }, r.document.beside panel, desk⟩

variable {config : Config} {r : PageRun FlatDocument} {session : Session} {desk : Desk}
  {results : List Ranked} {index : Index} {e : PageEvent}

theorem new_eq_withSearch (config : Config) (d : FlatDocument) :
    new config d = (new config d).withSearch (.new ⟨config.limit, config.yieldEvery⟩) .empty
      (panelElements config []) := by
  have hd : d.beside (panelElements config []) = d := beside_panelElements d config []
  rw [withSearch, new, hd]
  rfl

/-- Events that do not belong to the search do what they would do without it. -/
theorem step_withSearch_other (hr : r.page.config = config)
    (h : config.SetsPanelApart r.document.skeleton) (hs : e.isSearch = false)
    (he : e.Spares config.ids.searchResults) :
    (r.withSearch session desk (panelElements config results)).step index e =
      ((r.step index e).1.withSearch session desk (panelElements config results),
        (r.step index e).2) := by
  subst hr
  have hedits (edits : List StyleEdit) := applyEdits_beside (d := r.document)
    (outside_panelElements h.sidebar results) edits
  cases e with
  | install =>
    have hinstall := Page.install_beside r.page (fun _ hx => (mem_panelElements hx).2)
      (fun _ => h.unwired_of_class results) (outside_panelElements h.search results)
      (outside_panelElements h.headerButton results)
    exact congrArg (fun x : List String × FlatDocument × List Notice =>
      (PageRun.mk { r.page with session := session } x.2.1 desk, PageReply.sections x.1, x.2.2))
      hinstall
  | viewport | width =>
    simp only [step, put, withSearch, Page.onViewport, Page.onWidth, Page.observe, Page.apply,
      hedits]
    rfl
  | headerButton | sidebarLink | transitionEnd =>
    simp only [step, put, withSearch, Page.onHeaderButton, Page.onSidebarLink,
      Page.onTransitionEnd, Page.apply, hedits]
  | sectionButton owner =>
    obtain ⟨howner, hbutton⟩ := he owner rfl
    have htoggle := Section.toggle_beside (d := r.document)
      ⟨outside_panelElements howner results, outside_panelElements hbutton results⟩
    simp only [step, withSearch, htoggle]
    cases Section.toggle r.document owner <;> rfl
  | search | poll | await | «show» | showResults | dismiss => cases hs

theorem showResults_withSearch (h : r.document.Panelless r.page.config)
    (new : List Ranked) :
    (r.withSearch session desk (panelElements r.page.config results)).presented
        ((r.withSearch session desk (panelElements r.page.config results)).page.showResults
          (r.withSearch session desk (panelElements r.page.config results)).document new) =
      if (r.document.get? r.page.config.ids.search).isSome then
        (r.withSearch session desk (panelElements r.page.config new),
          .count (min new.length r.page.config.limit), [])
      else (r.withSearch session desk (panelElements r.page.config []), .count 0,
        if new = [] then [] else [.containerMissing r.page.config.ids.search]) := by
  have hclear : ({ r.page with session := session } : Page).clearResults
      (r.document.withPanel r.page.config results) = r.document := Page.clearResults_withPanel h _
  simp only [withSearch, beside_panelElements, presented, withPanel_nil]
  cases hc : r.document.get? r.page.config.ids.search with
  | none =>
    rw [Page.showResults_of_no_container (by rw [hclear]; exact hc), hclear]
    rfl
  | some e =>
    rw [Page.showResults_of_container (by rw [hclear, hc]; rfl), hclear]
    rfl

/-- Events of the search do what they would do on every page of the same configuration whose
document has the same elements. -/
theorem exists_step_withSearch (config : Config) (container : Bool) (session : Session)
    (desk : Desk) (results : List Ranked) (index : Index) (hs : e.isSearch = true) :
    ∃ session' desk' results' out, ∀ r : PageRun FlatDocument, r.page.config = config →
      r.document.Panelless config → (r.document.get? config.ids.search).isSome = container →
      (r.withSearch session desk (panelElements config results)).step index e =
        (r.withSearch session' desk' (panelElements config results'), out) := by
  have hshow (new : List Ranked) : ∃ results' out, ∀ r : PageRun FlatDocument,
      r.page.config = config → r.document.Panelless config →
      (r.document.get? config.ids.search).isSome = container →
      (r.withSearch session desk (panelElements config results)).step index (.showResults new) =
        (r.withSearch session desk (panelElements config results'), out) := by
    cases container with
    | true =>
      refine ⟨new, (.count (min new.length config.limit), []), fun r hconfig h hc => ?_⟩
      subst hconfig
      exact (showResults_withSearch h new).trans (if_pos hc)
    | false =>
      refine ⟨[], (.count 0, if new = [] then [] else [.containerMissing config.ids.search]),
        fun r hconfig h hc => ?_⟩
      subst hconfig
      exact (showResults_withSearch h new).trans (if_neg (by rw [hc]; exact Bool.false_ne_true))
  cases e with
  | search slot query =>
    exact ⟨session.begin.2, desk.put slot (.running (session.search query index).1), results,
      (.started, []), fun _ _ _ _ => rfl⟩
  | poll slot =>
    exact ⟨session, (desk.advance slot (Search.poll session.tokens)).1, results,
      (.job (desk.advance slot (Search.poll session.tokens)).2.1,
        (desk.advance slot (Search.poll session.tokens)).2.2), fun _ _ _ _ => rfl⟩
  | await slot =>
    exact ⟨session, (desk.advance slot (Search.await session.tokens)).1, results,
      (.job (desk.advance slot (Search.await session.tokens)).2.1,
        (desk.advance slot (Search.await session.tokens)).2.2), fun _ _ _ _ => rfl⟩
  | «show» slot =>
    cases hslot : desk.results? slot with
    | none =>
      refine ⟨session, desk, results, (.nothing, []), fun r _ _ _ => ?_⟩
      simp only [step, withSearch, hslot]
    | some new =>
      obtain ⟨results', out, hnew⟩ := hshow new
      refine ⟨session, desk, results', out, fun r hconfig h hc => ?_⟩
      rw [← hnew r hconfig h hc]
      simp only [step, withSearch, hslot]
  | showResults new =>
    obtain ⟨results', out, hnew⟩ := hshow new
    exact ⟨session, desk, results', out, hnew⟩
  | dismiss =>
    refine ⟨session.cancel, desk, [], (.nothing, []), fun r hconfig h _ => ?_⟩
    subst hconfig
    have hclear : ({ r.page with session := session } : Page).clearResults
        (r.document.withPanel r.page.config results) = r.document :=
      Page.clearResults_withPanel h _
    simp only [step, withSearch, Page.dismiss, beside_panelElements, hclear, withPanel_nil]
  | install | viewport | width | headerButton | sidebarLink | transitionEnd | sectionButton =>
    cases hs

/-- The page stands in a document of the given elements. -/
structure Stands (config : Config) (skeleton : List (String × Option String))
    (r : PageRun FlatDocument) : Prop where
  config_eq : r.page.config = config
  skeleton_eq : r.document.skeleton = skeleton

variable {skeleton : List (String × Option String)} {p q : PageRun FlatDocument}

theorem Stands.step_other (h : Stands config skeleton r) (index : Index)
    (hs : e.isSearch = false) : Stands config skeleton (r.step index e).1 where
  config_eq := (config_step index r e).trans h.config_eq
  skeleton_eq := (step_of_not_search index r hs).2.2.trans h.skeleton_eq

theorem Stands.panelless (h : Stands config skeleton r) (hc : config.SetsPanelApart skeleton) :
    r.document.Panelless config := by
  rw [← h.skeleton_eq] at hc
  exact hc.panelless

theorem Stands.isSome_get? (hp : Stands config skeleton p) (hq : Stands config skeleton q)
    (id : String) : (p.document.get? id).isSome = (q.document.get? id).isSome := by
  have hcount := count_of_skeleton (hp.skeleton_eq.trans hq.skeleton_eq.symm) id
  rw [Bool.eq_iff_iff, FlatDocument.isSome_get?, FlatDocument.isSome_get?, hcount]

/-- The first run is the second one with the search of the third. -/
structure Apart (config : Config) (skeleton : List (String × Option String))
    (r p q : PageRun FlatDocument) : Prop where
  rest : Stands config skeleton p
  parts : ∃ base session desk results, Stands config skeleton base ∧
    r = p.withSearch session desk (panelElements config results) ∧
    q = base.withSearch session desk (panelElements config results)

theorem apart_new (config : Config) (d : FlatDocument) :
    Apart config d.skeleton (new config d) (new config d) (new config d) :=
  ⟨⟨rfl, rfl⟩, new config d, _, _, [], ⟨rfl, rfl⟩, new_eq_withSearch config d,
    new_eq_withSearch config d⟩

theorem Apart.step_other (hc : config.SetsPanelApart skeleton) (h : Apart config skeleton r p q)
    (index : Index) (hs : e.isSearch = false) (he : e.Spares config.ids.searchResults) :
    Apart config skeleton (r.step index e).1 (p.step index e).1 q ∧
      (r.step index e).2 = (p.step index e).2 := by
  obtain ⟨hp, base, session, desk, results, hbase, rfl, rfl⟩ := h
  have hstep : (p.withSearch session desk (panelElements config results)).step index e = _ :=
    step_withSearch_other hp.config_eq (hp.skeleton_eq ▸ hc) hs he
  rw [hstep]
  exact ⟨⟨hp.step_other index hs, base, session, desk, results, hbase, rfl, rfl⟩, rfl⟩

theorem Apart.step_search (hc : config.SetsPanelApart skeleton) (h : Apart config skeleton r p q)
    (index : Index) (hs : e.isSearch = true) :
    Apart config skeleton (r.step index e).1 p (q.step index e).1 ∧
      (r.step index e).2 = (q.step index e).2 := by
  obtain ⟨hp, base, session, desk, results, hbase, rfl, rfl⟩ := h
  -- Both runs do the same, since their documents agree on whether there is a container.
  obtain ⟨session', desk', results', out, hstep⟩ := exists_step_withSearch config
    (p.document.get? config.ids.search).isSome session desk results index hs
  rw [hstep p hp.config_eq (hp.panelless hc) rfl,
    hstep base hbase.config_eq (hbase.panelless hc) (hbase.isSome_get? hp _)]
  exact ⟨⟨hp, base, session', desk', results', hbase, rfl, rfl⟩, rfl⟩

theorem Apart.play (hc : config.SetsPanelApart skeleton) (h : Apart config skeleton r p q)
    {script : Script} (hscript : ∀ x ∈ script, x.2.Spares config.ids.searchResults) :
    Apart config skeleton (r.play script) (p.play (script.filter (!·.2.isSearch)))
        (q.play (script.filter (·.2.isSearch))) ∧
      (r.transcript script).filter (!·.1.isSearch) =
        p.transcript (script.filter (!·.2.isSearch)) ∧
      (r.transcript script).filter (·.1.isSearch) =
        q.transcript (script.filter (·.2.isSearch)) := by
  induction script generalizing r p q with
  | nil => exact ⟨h, rfl, rfl⟩
  | cons x script ih =>
    obtain ⟨index, e⟩ := x
    obtain ⟨he, hrest⟩ := List.forall_mem_cons.mp hscript
    cases hs : e.isSearch with
    | false =>
      obtain ⟨hnext, hout⟩ := h.step_other hc index hs he
      obtain ⟨hplay, hothers, hsearches⟩ := ih hnext hrest
      simp only [transcript, List.filter_cons, hs, Bool.not_false, if_true, Bool.false_eq_true,
        if_false, hout, hothers, hsearches, and_self, and_true]
      exact hplay
    | true =>
      obtain ⟨hnext, hout⟩ := h.step_search hc index hs
      obtain ⟨hplay, hothers, hsearches⟩ := ih hnext hrest
      simp only [transcript, List.filter_cons, hs, Bool.not_true, if_true, Bool.false_eq_true,
        if_false, hout, hothers, hsearches, and_self, and_true]
      exact hplay

theorem Apart.rest_eq (hc : config.SetsPanelApart skeleton) (h : Apart config skeleton r p q) :
    r.page.sidebar = p.page.sidebar ∧ r.page.layout = p.page.layout ∧
      r.document.elements.filter (·.id != config.ids.searchResults) = p.document.elements := by
  obtain ⟨hp, base, session, desk, results, -, rfl, -⟩ := h
  refine ⟨rfl, rfl, ?_⟩
  have hown : p.document.elements.filter (·.id != config.ids.searchResults) =
      p.document.elements := by
    rw [List.filter_eq_self]
    intro e he
    simpa using (hp.panelless hc).free e he
  have hpanel : (panelElements config results).filter (·.id != config.ids.searchResults) = [] := by
    rw [List.filter_eq_nil_iff]
    intro e he
    simp [(mem_panelElements he).1]
  rw [withSearch, beside, List.filter_append, hown, hpanel, List.append_nil]

theorem Apart.panel_eq (hc : config.SetsPanelApart skeleton) (h : Apart config skeleton r p q) :
    r.document.count config.ids.searchResults = q.document.count config.ids.searchResults ∧
      r.document.get? config.ids.searchResults = q.document.get? config.ids.searchResults := by
  obtain ⟨hp, base, session, desk, results, hbase, rfl, rfl⟩ := h
  have hfree := (hp.panelless hc).count_panel
  have hfree' := (hbase.panelless hc).count_panel
  simp only [withSearch, beside_panelElements]
  rw [count_withPanel hfree, count_withPanel hfree', get?_panel_withPanel hfree,
    get?_panel_withPanel hfree']
  exact ⟨rfl, rfl⟩

end PageRun

theorem setsPanelApart_ofInserted {config : Config}
    {elements : List (String × List String × String)}
    (hids : config.ids.searchResults ∉ [config.ids.search, config.ids.searchInput,
      config.ids.sidebar, config.ids.headerButton])
    (helements : ∀ x ∈ elements, x.1 ≠ config.ids.searchResults ∧
      Section.buttonId x.1 ≠ config.ids.searchResults) :
    config.SetsPanelApart (ofInserted elements).skeleton := by
  have hskeleton : (ofInserted elements).skeleton = elements.map fun x => (x.1, none) := by
    rw [skeleton, elements_ofInserted, List.map_map]
    rfl
  simp only [List.mem_cons, List.not_mem_nil, not_or, or_false] at hids
  obtain ⟨hsearch, -, hsidebar, hbutton⟩ := hids
  have hmem {x : String × Option String} (hx : x ∈ (ofInserted elements).skeleton) :
      ∃ y ∈ elements, x = (y.1, none) := by
    rw [hskeleton] at hx
    obtain ⟨y, hy, rfl⟩ := List.mem_map.mp hx
    exact ⟨y, hy, rfl⟩
  refine ⟨Ne.symm hsearch, Ne.symm hsidebar, Ne.symm hbutton, ?_, ?_, ?_⟩
  · intro x hx
    obtain ⟨y, hy, rfl⟩ := hmem hx
    exact (helements y hy).1
  · intro x hx
    obtain ⟨y, hy, rfl⟩ := hmem hx
    exact (helements y hy).2
  · intro x hx
    obtain ⟨y, -, rfl⟩ := hmem hx
    intro hparent
    cases hparent

/-- Search and the rest of a page do not interfere. If the panel's name stands for nothing else, the
sidebar, the layout, all other elements and what the other events answer are as if nothing had been
searched, and the panel and what the events of the search answer are as if nothing else had
happened. -/
theorem search_apart_from_rest {config : Config} {elements : List (String × List String × String)}
    (hids : config.ids.searchResults ∉ [config.ids.search, config.ids.searchInput,
      config.ids.sidebar, config.ids.headerButton])
    (helements : ∀ x ∈ elements, x.1 ≠ config.ids.searchResults ∧
      Section.buttonId x.1 ≠ config.ids.searchResults)
    {script : Script} (hscript : ∀ x ∈ script, ∀ owner, x.2 = .sectionButton owner →
      owner ≠ config.ids.searchResults ∧ Section.buttonId owner ≠ config.ids.searchResults)
    {start full others searches : PageRun FlatDocument}
    (hstart : start = .new config (ofInserted elements)) (hfull : full = start.play script)
    (hothers : others = start.play (script.filter (!·.2.isSearch)))
    (hsearches : searches = start.play (script.filter (·.2.isSearch))) :
    (full.page.sidebar = others.page.sidebar ∧ full.page.layout = others.page.layout ∧
      full.document.elements.filter (·.id != config.ids.searchResults) =
        others.document.elements ∧
      (start.transcript script).filter (!·.1.isSearch) =
        start.transcript (script.filter (!·.2.isSearch))) ∧
    full.document.count config.ids.searchResults =
      searches.document.count config.ids.searchResults ∧
    full.document.get? config.ids.searchResults =
      searches.document.get? config.ids.searchResults ∧
    (start.transcript script).filter (·.1.isSearch) =
      start.transcript (script.filter (·.2.isSearch)) := by
  have hc := setsPanelApart_ofInserted hids helements
  obtain ⟨happart, hrest, hsearch⟩ :=
    (PageRun.apart_new config (ofInserted elements)).play hc hscript
  rw [← hstart, ← hfull, ← hothers, ← hsearches] at happart
  rw [← hstart] at hrest hsearch
  obtain ⟨hsidebar, hlayout, helements'⟩ := happart.rest_eq hc
  obtain ⟨hcount, hpanel⟩ := happart.panel_eq hc
  exact ⟨⟨hsidebar, hlayout, helements', hrest⟩, hcount, hpanel, hsearch⟩

/-- A search that runs and is shown while the rest of the page is used. -/
def Script.mixed : Script :=
  [(⟨[]⟩, .install), (⟨[⟨"", "sqrt", "math.html", "", .function⟩]⟩, .search "first" "sq"),
    (⟨[]⟩, .viewport false), (⟨[]⟩, .sectionButton "api"), (⟨[]⟩, .await "first"),
    (⟨[]⟩, .headerButton), (⟨[]⟩, .show "first"), (⟨[]⟩, .sidebarLink)]

def PageRun.mixed : PageRun FlatDocument :=
  .new .default (ofInserted [("search", [], ""), ("sidebar", [], ""), ("api", ["collapsible"], ""),
    ("api.vis_button", [], "[-]")])

theorem search_apart_from_rest_mixed :
    (PageRun.mixed.play Script.mixed).document.count "search_results" = 1 ∧
    (PageRun.mixed.play Script.mixed).document.elements.filter (·.id != "search_results") =
      (PageRun.mixed.play (Script.mixed.filter (!·.2.isSearch))).document.elements ∧
    (PageRun.mixed.play Script.mixed).document.get? "search_results" =
      (PageRun.mixed.play (Script.mixed.filter (·.2.isSearch))).document.get?
        "search_results" := by
  have hscript : ∀ x ∈ Script.mixed, ∀ owner, x.2 = .sectionButton owner →
      owner ≠ Config.default.ids.searchResults ∧
        Section.buttonId owner ≠ Config.default.ids.searchResults := by
    have hapi : "api" ≠ Config.default.ids.searchResults ∧
        Section.buttonId "api" ≠ Config.default.ids.searchResults := by decide
    simpa [Script.mixed] using hapi
  obtain ⟨⟨-, -, hrest, -⟩, hcount, hpanel, -⟩ := search_apart_from_rest (by decide) (by decide)
    hscript (rfl : PageRun.mixed = _) rfl rfl rfl
  have hshown : (PageRun.mixed.play (Script.mixed.filter (·.2.isSearch))).document.count
      "search_results" = 1 := by decide +kernel
  exact ⟨hcount.trans hshown, hrest, hpanel⟩

end DocPages
