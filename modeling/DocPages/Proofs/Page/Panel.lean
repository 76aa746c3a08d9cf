import DocPages.Page
import DocPages.Proofs.Document.Flat

/-! The result panel in a document without a browser. In a document that leaves the panel's id free,
a panel is one last element, and showing results replaces it as a whole. -/

namespace DocPages

namespace FlatDocument

def ofInserted (elements : List (String × List String × String)) : FlatDocument :=
  elements.foldl (fun d x => d.insert x.1 x.2.1 x.2.2) .empty

/-- The document with the panel of some results as its last element. -/
def withPanel (d : FlatDocument) (config : Config) (results : List Ranked) : FlatDocument :=
  match panelHtml config results with
  | none => d
  | some html =>
    ⟨d.elements ++ [⟨config.ids.searchResults, some config.ids.search, [], "", [], some html⟩]⟩

/-- Nothing in the document is called like the panel or belongs to it. -/
structure Panelless (d : FlatDocument) (config : Config) : Prop where
  free : ∀ e ∈ d.elements, e.id ≠ config.ids.searchResults
  childless : ∀ e ∈ d.elements, e.parent ≠ some config.ids.searchResults

/-- The document has a place for the panel, and nothing else that would go with it. -/
structure HostsPanel (d : FlatDocument) (config : Config) : Prop extends Panelless d config where
  container : (d.get? config.ids.search).isSome = true

theorem elements_ofInserted (elements : List (String × List String × String)) :
    (ofInserted elements).elements = elements.map fun x => .plain x.1 x.2.1 x.2.2 := by
  have hfold (d : FlatDocument) :
      (elements.foldl (fun d x => d.insert x.1 x.2.1 x.2.2) d).elements =
        d.elements ++ elements.map fun x => .plain x.1 x.2.1 x.2.2 := by
    induction elements generalizing d with
    | nil => exact (List.append_nil _).symm
    | cons x elements ih =>
      rw [List.foldl_cons, ih, insert, List.append_assoc]
      rfl
  exact hfold .empty

theorem panelless_ofInserted {elements : List (String × List String × String)} {config : Config}
    (hf : ∀ x ∈ elements, x.1 ≠ config.ids.searchResults) :
    (ofInserted elements).Panelless config := by
  constructor
  · intro e he
    rw [elements_ofInserted] at he
    obtain ⟨x, hx, rfl⟩ := List.mem_map.mp he
    exact hf x hx
  · intro e he
    rw [elements_ofInserted] at he
    obtain ⟨x, -, rfl⟩ := List.mem_map.mp he
    exact fun h => nomatch h

theorem hostsPanel_ofInserted {elements : List (String × List String × String)} {config : Config}
    (hs : ∃ x ∈ elements, x.1 = config.ids.search)
    (hf : ∀ x ∈ elements, x.1 ≠ config.ids.searchResults) :
    (ofInserted elements).HostsPanel config := by
  refine ⟨panelless_ofInserted hf, ?_⟩
  obtain ⟨x, hx, hid⟩ := hs
  rw [get?, elements_ofInserted, List.find?_isSome]
  exact ⟨_, List.mem_map_of_mem hx, by simpa [FlatElement.plain] using hid⟩

theorem panelHtml_eq_none_iff {config : Config} {results : List Ranked} :
    panelHtml config results = none ↔ results = [] := by
  unfold panelHtml
  cases results <;> simp

theorem withPanel_nil (d : FlatDocument) (config : Config) : d.withPanel config [] = d := rfl

variable {d : FlatDocument} {config : Config}

theorem Panelless.count_panel (h : d.Panelless config) : d.count config.ids.searchResults = 0 :=
  (count_eq_zero_iff d _).mpr h.free

theorem Panelless.remove?_withPanel (h : d.Panelless config) (results : List Ranked) :
    ((d.withPanel config results).remove? config.ids.searchResults).getD
      (d.withPanel config results) = d := by
  have hp := (get?_eq_none_iff d _).mpr h.count_panel
  unfold withPanel
  cases panelHtml config results with
  | none => simp only [remove?, hp, Option.isSome_none, Bool.false_eq_true, if_false,
      Option.getD_none]
  | some html =>
    have hfree : ∀ e ∈ d.elements, ¬ (e.id == config.ids.searchResults) = true := by
      intro e he
      simpa using h.free e he
    have hkeep : d.elements.filter (fun e => e.parent != some config.ids.searchResults) =
        d.elements := by
      rw [List.filter_eq_self]
      intro e he
      simpa using h.childless e he
    simp only [get?] at hp
    simp [remove?, get?, List.find?_append, hp, List.eraseP_append_right _ hfree, hkeep]

theorem count_withPanel (h : d.count config.ids.searchResults = 0) (results : List Ranked) :
    (d.withPanel config results).count config.ids.searchResults =
      if results = [] then 0 else 1 := by
  unfold withPanel
  cases hp : panelHtml config results with
  | none => rw [if_pos (panelHtml_eq_none_iff.mp hp), h]
  | some html =>
    have hne : results ≠ [] := fun he => by rw [panelHtml_eq_none_iff.mpr he] at hp; cases hp
    rw [count] at h
    simp [count, List.countP_append, h, hne]

theorem get?_panel_withPanel (h : d.count config.ids.searchResults = 0) (results : List Ranked) :
    (d.withPanel config results).get? config.ids.searchResults =
      (panelHtml config results).map fun html =>
        ⟨config.ids.searchResults, some config.ids.search, [], "", [], some html⟩ := by
  have hp := (get?_eq_none_iff d _).mpr h
  unfold withPanel
  cases panelHtml config results with
  | none => exact hp
  | some markup =>
    simp only [get?] at hp
    simp [get?, List.find?_append, hp]

theorem html_withPanel (h : d.count config.ids.searchResults = 0) (results : List Ranked) :
    (d.withPanel config results).html config.ids.searchResults = panelHtml config results := by
  rw [html, get?_panel_withPanel h]
  cases panelHtml config results <;> rfl

end FlatDocument

namespace Page

open FlatDocument

variable {p : Page} {d : FlatDocument}

theorem clearResults_withPanel (h : d.Panelless p.config) (results : List Ranked) :
    p.clearResults (d.withPanel p.config results) = d := h.remove?_withPanel results

theorem count_clearResults (h : d.count p.config.ids.searchResults ≤ 1) :
    (p.clearResults d).count p.config.ids.searchResults = 0 := by
  unfold clearResults
  cases hr : Document.remove d p.config.ids.searchResults with
  | some d' =>
    have hless := count_remove? hr
    simp only [Option.getD_some]
    omega
  | none =>
    have hnone : d.get? p.config.ids.searchResults = none := by
      simpa [Document.remove, remove?] using hr
    exact (get?_eq_none_iff d _).mp hnone

/-- Where there is a place for it, the panel of the results takes the place of the one before. -/
theorem showResults_of_container {results : List Ranked}
    (h : ((p.clearResults d).get? p.config.ids.search).isSome = true) :
    p.showResults d results =
      (min results.length p.config.limit, (p.clearResults d).withPanel p.config results, []) := by
  unfold showResults presentResults withPanel
  cases hp : panelHtml p.config results with
  | none =>
    rw [panelHtml_eq_none_iff.mp hp, List.length_nil, Nat.zero_min]
  | some html =>
    have ha : Document.append (p.clearResults d) p.config.ids.search
        p.config.ids.searchResults html = some ⟨(p.clearResults d).elements ++
          [⟨p.config.ids.searchResults, some p.config.ids.search, [], "", [], some html⟩]⟩ := by
      simp [Document.append, append?, h]
    simp only [ha]

theorem showResults_of_no_container {results : List Ranked}
    (h : (p.clearResults d).get? p.config.ids.search = none) :
    p.showResults d results = (0, p.clearResults d,
      if results = [] then [] else [.containerMissing p.config.ids.search]) := by
  unfold showResults presentResults
  cases hp : panelHtml p.config results with
  | none =>
    rw [if_pos (panelHtml_eq_none_iff.mp hp)]
  | some html =>
    have hne : results ≠ [] := fun he => by rw [panelHtml_eq_none_iff.mpr he] at hp; cases hp
    have ha : Document.append (p.clearResults d) p.config.ids.search
        p.config.ids.searchResults html = none := by
      simp [Document.append, append?, h]
    simp only [ha, if_neg hne]

theorem showResults_withPanel (h : d.HostsPanel p.config) (old new : List Ranked) :
    (p.showResults (d.withPanel p.config old) new).2.1 = d.withPanel p.config new := by
  have hclear := clearResults_withPanel h.toPanelless old
  rw [showResults_of_container (by rw [hclear]; exact h.container), hclear]

end Page

end DocPages
