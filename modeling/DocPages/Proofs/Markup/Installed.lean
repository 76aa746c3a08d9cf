import DocPages.Proofs.Markup.Elements

/-! A page is installed in the markup that was generated for it: what it looks for is there once,
and the sections it finds are those that the content was made of. -/

namespace DocPages

open Html Html.Node Document Markup Section

/-- The ids that a page relies on. -/
def pageIds (c : Content) (ids : ElementIds) : List String :=
  c.sectionIds ++ c.sectionIds.map buttonId ++
    [ids.search, ids.searchInput, ids.searchResults, ids.sidebar, ids.headerButton]

section Ids

variable {c : Content} {e : ElementIds}

theorem nodup_wired_append (h : (pageIds c e).Nodup) :
    (wired c.sectionIds ++ [e.headerButton, e.sidebar, e.search, e.searchInput]).Nodup := by
  have hfive : (wired c.sectionIds ++ [e.search, e.searchInput, e.searchResults, e.sidebar,
      e.headerButton]).Nodup := ((wired_perm c.sectionIds).append_right _).nodup_iff.mpr h
  obtain ⟨hwired, hfive, hdisjoint⟩ := List.nodup_append.mp hfive
  refine List.nodup_append.mpr ⟨hwired, ?_, fun x hx y hy => hdisjoint x hx y ?_⟩
  · simp only [List.nodup_cons, List.mem_cons, List.not_mem_nil, or_false, not_or,
      List.nodup_nil, not_false_eq_true, and_true] at hfive ⊢
    obtain ⟨⟨hsi, -, hss, hsh⟩, ⟨-, his, hih⟩, -, hdh⟩ := hfive
    exact ⟨⟨Ne.symm hdh, Ne.symm hsh, Ne.symm hih⟩, ⟨Ne.symm hss, Ne.symm his⟩, hsi⟩
  · simp only [List.mem_cons, List.not_mem_nil, or_false] at hy
    rcases hy with rfl | rfl | rfl | rfl <;> simp

theorem mem_pageIds {x : String}
    (h : x ∈ [e.headerButton, e.sidebar, e.search, e.searchInput] ++ wired c.sectionIds) :
    x ∈ pageIds c e := by
  rw [pageIds, List.mem_append, ← (wired_perm c.sectionIds).mem_iff]
  rcases List.mem_append.mp h with h | h
  · simp only [List.mem_cons, List.not_mem_nil, or_false] at h
    rcases h with rfl | rfl | rfl | rfl <;> simp
  · exact .inl h

theorem ids_page (s : PageShell) (hempty : "" ∉ pageIds c s.config.ids) :
    ids (s.nodes c.nodes) = ids (PageShell.configNodes s.config) ++ ([s.config.ids.headerButton,
      s.config.ids.sidebar, s.config.ids.search, s.config.ids.searchInput] ++
        wired c.sectionIds) := by
  have hne {x : String} (hx : x ∈ pageIds c s.config.ids) : x ≠ "" := fun heq => hempty (heq ▸ hx)
  have hsections : "" ∉ c.sectionIds := fun hmem => hempty (by simp [pageIds, hmem])
  rw [s.ids_nodes c.nodes (hne (by simp [pageIds])) (hne (by simp [pageIds]))
    (hne (by simp [pageIds])) (hne (by simp [pageIds])), Content.ids_nodes hsections]

theorem nodup_ids_page (s : PageShell) (hnodup : (pageIds c s.config.ids).Nodup)
    (hempty : "" ∉ pageIds c s.config.ids) (hconfig : configElementId ∉ pageIds c s.config.ids) :
    (ids (s.nodes c.nodes)).Nodup := by
  have hrest : ([s.config.ids.headerButton, s.config.ids.sidebar, s.config.ids.search,
      s.config.ids.searchInput] ++ wired c.sectionIds).Nodup :=
    List.perm_append_comm.nodup_iff.mp (nodup_wired_append hnodup)
  rw [ids_page s hempty, PageShell.ids_configNodes]
  split
  · exact hrest
  · exact List.nodup_cons.mpr ⟨fun hmem => hconfig (mem_pageIds hmem), hrest⟩

end Ids

section Sections

variable {c : Content}

theorem idsWithClass_page (s : PageShell) (h : "" ∉ c.sectionIds) :
    idsWithClass (document (s.nodes c.nodes)) collapsibleClass = c.sectionIds := by
  have hlinks := filter_links collapsibleClass (by decide) (by decide) (by decide) s.sidebar
  have hids := c.map_id_select_collapsible
  have hnamed : (select (·.hasClass collapsibleClass) c.nodes).filter (!·.id.isEmpty) =
      select (·.hasClass collapsibleClass) c.nodes := by
    refine List.filter_eq_self.mpr fun e he => ?_
    have hmem : e.id ∈ c.sectionIds := hids ▸ List.mem_map_of_mem he
    have hne : e.id ≠ "" := fun heq => h (heq ▸ hmem)
    simpa using hne
  rw [idsWithClass_document, s.select_hasClass_nodes, hlinks, List.nil_append, hnamed, hids]

theorem hasClass_hidden_page (s : PageShell) (c : Content) (x : String) :
    hasClass (document (s.nodes c.nodes)) x hiddenClass = false := by
  have hlinks := filter_links hiddenClass (by decide) (by decide) (by decide) s.sidebar
  have hcontent := Content.select_other hiddenClass (by decide) (by decide) (by decide) c
  refine hasClass_document_eq_false ?_ x
  rw [s.select_hasClass_nodes, hlinks, hcontent, List.append_nil]

theorem get?_page {s : PageShell} (hnodup : (ids (s.nodes c.nodes)).Nodup) {id : String}
    {collapsed : Bool} (hid : id ≠ "") (h : (id, collapsed) ∈ c.sections) :
    (document (s.nodes c.nodes)).get? (buttonId id) = some (Content.buttonElement id).toFlat ∧
    ∃ text, (document (s.nodes c.nodes)).get? id =
      some (Content.sectionElement id collapsed text).toFlat := by
  obtain ⟨hbutton, text, hsection⟩ := Content.mem_elementsAll h
  have hne : buttonId id ≠ "" := by simp [buttonId]
  exact ⟨get?_document hnodup (s.mem_elementsAll_nodes hbutton hne) hne, text,
    get?_document hnodup (s.mem_elementsAll_nodes hsection hid) hid⟩

theorem section_settled {d : FlatDocument} {id : String} {collapsed : Bool} {t : List Char}
    (hsection : d.get? id = some (settled (Content.sectionElement id collapsed t).toFlat))
    (hbutton : d.get? (buttonId id) = some (labelled (Content.sectionElement id collapsed t).toFlat
      (Content.buttonElement id).toFlat)) :
    isCollapsed d id = collapsed ∧ style d (buttonId id) "visibility" = some "visible" ∧
      Document.text d (buttonId id) = some (if collapsed then "[+]" else "[-]") := by
  have hhidden : (Content.sectionElement id collapsed t).toFlat.hasClass hiddenClass = false := by
    refine (Content.hasClass_sectionElement id collapsed t hiddenClass).trans ?_
    cases collapsed <;> decide
  have hflag : (Content.sectionElement id collapsed t).toFlat.hasClass collapsedClass =
      collapsed := by
    refine (Content.hasClass_sectionElement id collapsed t collapsedClass).trans ?_
    cases collapsed <;> decide
  have hlabel : (Content.buttonElement id).toFlat.text = "[-]" :=
    String.ofList_toList
  refine ⟨?_, ?_, ?_⟩
  · simp only [isCollapsed, hasClass, hsection, Option.any_some]
    rw [hasClass_hidden_settled hhidden, hflag]
  · simp only [style, hbutton, Option.bind_some]
    exact visibility_labelled _ _
  · simp only [Document.text, hbutton, Option.map_some]
    rw [text_labelled hhidden, hflag, hlabel]
    cases collapsed <;> decide

end Sections

/-- A generated page whose content is made of sections holds the four elements of a page once and
the links of its sidebar in order. Installed in it, a page finds exactly those sections, shows their
buttons, and collapses those that ask for it. -/
theorem rendered_page_installs (s : PageShell) (c : Content) (hcontent : s.content = c.html)
    (hnodup : (pageIds c s.config.ids).Nodup) (hempty : "" ∉ pageIds c s.config.ids)
    (hconfig : configElementId ∉ pageIds c s.config.ids) :
    ∃ nodes d, parse s.render = some nodes ∧
      (∀ x ∈ [s.config.ids.search, s.config.ids.searchInput, s.config.ids.sidebar,
        s.config.ids.headerButton], (select (·.id == x) nodes).length = 1) ∧
      (select (·.hasClass clickableClass) nodes).map linkView =
        (s.sidebar.filterMap fun link => link.target.map fun target =>
          ("a", some target, some link.text, link.text)) ∧
      (Page.new s.config).install (document nodes) =
        (c.sectionIds, d, [.pageInstalled c.sectionIds.length]) ∧
      (∀ x, isCollapsed d x = true ↔ (x, true) ∈ c.sections) ∧
      (∀ id collapsed, (id, collapsed) ∈ c.sections →
        style d (buttonId id) "visibility" = some "visible" ∧
        Document.text d (buttonId id) = some (if collapsed then "[+]" else "[-]")) ∧
      style d s.config.ids.search "display" = some "block" ∧
      style d s.config.ids.headerButton "display" = some "block" := by
  have hparse : parse s.render = some (s.nodes c.nodes) :=
    parse_eq_some_iff.mpr (s.runs_render (hcontent ▸ c.runs_html))
  have hids := ids_page s hempty
  have hunique := nodup_ids_page s hnodup hempty hconfig
  have hsections : "" ∉ c.sectionIds := fun hmem => hempty (by simp [pageIds, hmem])
  have hclickable : (select (·.hasClass clickableClass) (s.nodes c.nodes)).map linkView =
      s.sidebar.filterMap fun link => link.target.map fun target =>
        ("a", some target, some link.text, link.text) := by
    have hnone := Content.select_other clickableClass (by decide) (by decide) (by decide) c
    rw [s.select_hasClass_nodes, hnone, List.append_nil, map_linkView]
  have hwired : (wired c.sectionIds ++ [s.config.ids.headerButton, s.config.ids.search]).Nodup :=
    (nodup_wired_append hnodup).sublist ((List.Sublist.refl _).append (by simp))
  have hfound : ∀ x ∈ wired c.sectionIds ++ [s.config.ids.headerButton, s.config.ids.search],
      ((document (s.nodes c.nodes)).get? x).isSome := by
    intro x hx
    refine isSome_get?_document hunique ?_
    rw [hids]
    simp only [List.mem_append, List.mem_cons, List.not_mem_nil, or_false] at hx
    rcases hx with hx | rfl | rfl
    · simp [hx]
    all_goals simp
  obtain ⟨d, hinstall, hsearch, hheader, hclass, hready⟩ :=
    (Page.new s.config).exists_install (idsWithClass_page s hsections) hwired hfound
  have hsettled (id : String) (collapsed : Bool) (h : (id, collapsed) ∈ c.sections) :
      isCollapsed d id = collapsed ∧ style d (buttonId id) "visibility" = some "visible" ∧
        Document.text d (buttonId id) = some (if collapsed then "[+]" else "[-]") := by
    have hmem : id ∈ c.sectionIds := List.mem_map.mpr ⟨_, h, rfl⟩
    have hid : id ≠ "" := fun heq => hsections (heq ▸ hmem)
    obtain ⟨hbutton, t, hsection⟩ := get?_page hunique hid h
    obtain ⟨hafter, hbutton⟩ := hready id hmem _ _ hsection hbutton
    exact section_settled hafter hbutton
  refine ⟨s.nodes c.nodes, d, hparse, ?_, hclickable, hinstall, ?_, ?_, hsearch, hheader⟩
  · intro x hx
    refine length_select_id hunique ?_
    rw [hids]
    simp only [List.mem_cons, List.not_mem_nil, or_false] at hx
    rcases hx with rfl | rfl | rfl | rfl <;> simp
  · intro x
    by_cases hmem : x ∈ c.sectionIds
    · obtain ⟨⟨id, collapsed⟩, h, rfl⟩ := List.mem_map.mp hmem
      rw [(hsettled id collapsed h).1]
      constructor
      · rintro rfl
        exact h
      · intro h'
        have heq := (hsettled id true h').1
        rw [(hsettled id collapsed h).1] at heq
        exact heq
    · have hnot : (x, true) ∉ c.sections := fun h => hmem (List.mem_map.mpr ⟨_, h, rfl⟩)
      rw [isCollapsed, hclass x hmem, hasClass_hidden_page]
      simp [hnot]
  · intro id collapsed h
    exact (hsettled id collapsed h).2

def nestedContent : Content :=
  .collapsible "a\"<b>" "</h2>" true
    (.text "</div>&amp;" (.collapsible "inner" "x" false .empty .empty))
    (.collapsible "last" "<button id=\"inner\">" true (.text "<" .empty) .empty)

def nestedPage : PageShell where
  title := "</title>"
  stylesheet := "\"><a class=\"sidebar_clickable\">"
  script := "</script><div class=\"collapsible\" id=\"x\">"
  sidebar := [⟨"<b>&", some "\" class=\"x", true⟩, ⟨"plain", none, false⟩, ⟨"c", some "c", false⟩]
  content := nestedContent.html
  config := { Config.default with ids := { ElementIds.default with search := "s'\">" } }

theorem rendered_page_installs_nested :
    (pageIds nestedContent nestedPage.config.ids).Nodup ∧
    "" ∉ pageIds nestedContent nestedPage.config.ids ∧
    configElementId ∉ pageIds nestedContent nestedPage.config.ids ∧
    ∃ nodes d, parse nestedPage.render = some nodes ∧
      (Page.new nestedPage.config).install (document nodes) =
        (["a\"<b>", "inner", "last"], d, [.pageInstalled 3]) ∧
      isCollapsed d "a\"<b>" = true ∧ isCollapsed d "inner" = false ∧
      Document.text d (buttonId "last") = some "[+]" := by
  have hnodup : (pageIds nestedContent nestedPage.config.ids).Nodup := by decide +kernel
  have hempty : "" ∉ pageIds nestedContent nestedPage.config.ids := by decide +kernel
  have hconfig : configElementId ∉ pageIds nestedContent nestedPage.config.ids := by decide +kernel
  obtain ⟨nodes, d, hparse, -, -, hinstall, hcollapsed, hbuttons, -⟩ :=
    rendered_page_installs nestedPage nestedContent rfl hnodup hempty hconfig
  have hfirst : isCollapsed d "a\"<b>" = true := (hcollapsed _).mpr (by decide +kernel)
  have hinner : isCollapsed d "inner" = false := by
    rw [← Bool.not_eq_true, hcollapsed]
    decide +kernel
  exact ⟨hnodup, hempty, hconfig, nodes, d, hparse, hinstall, hfirst, hinner,
    (hbuttons "last" true (by decide +kernel)).2⟩

end DocPages
