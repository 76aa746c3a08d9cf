import DocPages.Proofs.Fuzzy.Embedding
import DocPages.Proofs.Panel.Name
import DocPages.Proofs.Ranking.Cancellation
import Mathlib.Data.List.Forall2
import Mathlib.Data.Option.Basic

/-! Which names a query matches and where. All atoms have to match; the positions are then those of
their hits, sorted and each once. A ranking gives a result only for a name that matches, so there is
always something to emphasise in it. -/

namespace DocPages

open Fuzzy

namespace Fuzzy

section Hits

variable {name : String} {atoms : List Atom}

theorem map_hit? {hits : List Hit} (h : hits? name atoms = some hits) :
    atoms.map (·.hit? name) = hits.map some := by
  induction atoms generalizing hits with
  | nil =>
    cases h
    rfl
  | cons a atoms ih =>
    rw [hits?] at h
    split at h
    · rename_i hhit hrest
      cases h
      rw [List.map_cons, hhit, ih hrest]
      rfl
    · cases h

theorem mem_hits_iff {hits : List Hit} (h : hits? name atoms = some hits) {hit : Hit} :
    hit ∈ hits ↔ ∃ a ∈ atoms, a.hit? name = some hit := by
  rw [← List.mem_map_of_injective (Option.some_injective Hit), ← map_hit? h, List.mem_map]

theorem forall₂_hits? {hits : List Hit} (h : hits? name atoms = some hits) {R : Atom → Hit → Prop}
    (hR : ∀ a ∈ atoms, ∀ hit, a.hit? name = some hit → R a hit) : List.Forall₂ R atoms hits := by
  have hpairs : List.Forall₂ (· = ·) (atoms.map (·.hit? name)) (hits.map some) := by
    rw [List.forall₂_eq_eq_eq]
    exact map_hit? h
  rw [List.forall₂_map_left_iff, List.forall₂_map_right_iff] at hpairs
  exact ((List.forall₂_and_left _ _).mpr ⟨fun a ha => ha, hpairs⟩).imp fun a hit hat =>
    hR a hat.1 hit hat.2

theorem isSome_hits? : (hits? name atoms).isSome ↔ ∀ a ∈ atoms, (a.hit? name).isSome := by
  induction atoms with
  | nil => simp [hits?]
  | cons a atoms ih =>
    rw [List.forall_mem_cons, ← ih, hits?]
    cases a.hit? name <;> cases hits? name atoms <;> simp

theorem hits?_eq_none {a : Atom} (ha : a ∈ atoms) (h : a.hit? name = none) :
    hits? name atoms = none := by
  rw [← Option.not_isSome_iff_eq_none, isSome_hits?]
  intro hall
  have hsome := hall a ha
  rw [h] at hsome
  cases hsome

end Hits

section Sorted

theorem mem_dropRepeats {n : Nat} {ns : List Nat} : n ∈ dropRepeats ns ↔ n ∈ ns := by
  induction ns with
  | nil => exact .rfl
  | cons m ns ih =>
    rw [List.mem_cons, ← ih, dropRepeats]
    split
    · rename_i hrest
      rw [hrest, List.mem_singleton]
      simp
    · rename_i k rest hrest
      rw [hrest]
      split
      · rename_i heq
        simp [heq]
      · rw [List.mem_cons]

theorem pairwise_dropRepeats {ns : List Nat} (h : ns.Pairwise (· ≤ ·)) :
    (dropRepeats ns).Pairwise (· < ·) := by
  induction ns with
  | nil => exact .nil
  | cons n ns ih =>
    obtain ⟨hle, hrest⟩ := List.pairwise_cons.mp h
    have ih := ih hrest
    rw [dropRepeats]
    split
    · exact List.pairwise_singleton _ _
    · rename_i m rest heq
      rw [heq] at ih
      split
      · exact ih
      · rename_i hne
        have hm : n ≤ m := hle m (mem_dropRepeats.mp (heq ▸ List.mem_cons_self))
        refine List.pairwise_cons.mpr ⟨fun k hk => ?_, ih⟩
        obtain rfl | hk := List.mem_cons.mp hk
        · omega
        · have hmk := List.rel_of_pairwise_cons ih hk
          omega

variable (atoms : List Atom) (name : String)

theorem pairwise_positions : (positions atoms name).Pairwise (· < ·) := by
  rw [positions]
  split
  · exact .nil
  · refine pairwise_dropRepeats ?_
    have hsorted := @List.pairwise_mergeSort Nat (fun a b => decide (a ≤ b))
      (by simpa using fun _ _ _ => Nat.le_trans) (by simpa using Nat.le_total)
    exact (hsorted _).imp of_decide_eq_true

variable {atoms name}

/-- The pass that collects offsets finds the score of the pass that does not. -/
theorem fst_collect (name : String) (atoms : List Atom) :
    (collect name atoms).1 = baseScore? atoms name := by
  induction atoms with
  | nil => rfl
  | cons a atoms ih =>
    rw [baseScore?] at ih ⊢
    rw [collect, hits?]
    cases a.hit? name with
    | none => rfl
    | some hit =>
      simp only [ih]
      cases hits? name atoms <;> rfl

theorem collect_eq {hits : List Hit} (h : hits? name atoms = some hits) :
    collect name atoms = (some (totalScore hits), hits.flatMap (·.positions)) := by
  induction atoms generalizing hits with
  | nil =>
    cases h
    rfl
  | cons a atoms ih =>
    rw [hits?] at h
    split at h
    · rename_i hit rest hhit hrest
      cases h
      simp only [collect, hhit, ih hrest, Option.map_some, totalScore, List.flatMap_cons]
    · cases h

theorem positions_eq_nil (h : hits? name atoms = none) : positions atoms name = [] := by
  have hscore := fst_collect name atoms
  rw [baseScore?, h, Option.map_none] at hscore
  rw [positions]
  split
  · rfl
  · rename_i heq
    rw [heq] at hscore
    cases hscore

theorem positions_eq {hits : List Hit} (h : hits? name atoms = some hits) :
    positions atoms name = dropRepeats (hits.flatMap (·.positions)).mergeSort := by
  rw [positions, collect_eq h]

theorem mem_positions {hits : List Hit} (h : hits? name atoms = some hits) {p : Nat} :
    p ∈ positions atoms name ↔ ∃ hit ∈ hits, p ∈ hit.positions := by
  rw [positions_eq h]
  simp only [mem_dropRepeats, List.mem_mergeSort, List.mem_flatMap]

end Sorted

section Query

theorem scorer_positions (query name : String) :
    (scorer query).positions name = positions (parseQuery query) name := rfl

variable {query name : String}

theorem lt_length_of_mem_positions {p : Nat} (hp : p ∈ positions (parseQuery query) name) :
    p < name.length := by
  cases h : hits? name (parseQuery query) with
  | none =>
    rw [positions_eq_nil h] at hp
    cases hp
  | some hits =>
    obtain ⟨hit, hhit, hp⟩ := (mem_positions h).mp hp
    obtain ⟨a, ha, hat⟩ := (mem_hits_iff h).mp hhit
    exact List.mem_range.mp ((Atom.positions_sublist ha hat).subset hp)

theorem positions_ne_nil (hne : parseQuery query ≠ [])
    (h : ∀ a ∈ parseQuery query, (a.hit? name).isSome) :
    positions (parseQuery query) name ≠ [] := by
  obtain ⟨hits, hhits⟩ := Option.isSome_iff_exists.mp (isSome_hits?.mpr h)
  obtain ⟨a, ha⟩ := List.exists_mem_of_ne_nil _ hne
  obtain ⟨hit, hat⟩ := Option.isSome_iff_exists.mp (h a ha)
  obtain ⟨p, hp⟩ := List.exists_mem_of_ne_nil _ (Atom.positions_ne_nil ha hat)
  have hhit : hit ∈ hits := (mem_hits_iff hhits).mpr ⟨a, ha, hat⟩
  exact List.ne_nil_of_mem ((mem_positions hhits).mpr ⟨hit, hhit, hp⟩)

end Query

end Fuzzy

section Ranking

theorem Score.ofBase_ne_noMatch (base : Nat) (kind : EntryKind) :
    Score.ofBase base kind ≠ .noMatch := by
  intro h
  have hbonus : 0 ≤ (bonus kind).tenths := by
    unfold bonus
    split <;> decide
  have htenths : 10 * (base : Int) + (bonus kind).tenths = -100010 := congrArg tenths h
  omega

theorem Scorer.score_ne_noMatch_iff (s : Scorer) (e : Entry) :
    s.score e ≠ .noMatch ↔ (s.base? e.name).isSome := by
  rw [score]
  cases s.base? e.name with
  | none => simp
  | some base => exact iff_of_true (Score.ofBase_ne_noMatch base e.kind) rfl

theorem matches_iff (query : String) (e : Entry) :
    (Fuzzy.scorer query).score e ≠ .noMatch ↔
      ∀ a ∈ parseQuery query, (a.hit? e.name).isSome := by
  have hbase : ((Fuzzy.scorer query).base? e.name).isSome =
      (hits? e.name (parseQuery query)).isSome := Option.isSome_map
  rw [Scorer.score_ne_noMatch_iff, hbase, isSome_hits?]

theorem of_mem_best {s : Scorer} {limit : Nat} {entries : List Entry} {r : Ranked}
    (h : r ∈ s.best limit (s.scoreAll entries)) :
    s.score r.entry ≠ .noMatch ∧ r.positions = s.positions r.entry.name := by
  obtain ⟨x, hx, rfl⟩ := List.mem_map.mp h
  have hx := List.mem_mergeSort.mp (List.mem_of_mem_take hx)
  obtain ⟨hx, hcut⟩ := List.mem_filter.mp hx
  obtain ⟨e, -, rfl⟩ := List.mem_map.mp hx
  refine ⟨fun hno => ?_, rfl⟩
  -- The score of no match lies below the cutoff.
  rw [hno] at hcut
  cases hcut

/-- A ranking gives results only for entries that match, with the positions of their names. -/
theorem of_mem_results {query : String} {o : SearchOptions} {cancelAt : Option Nat}
    {entries : List Entry} {results : List Ranked}
    (h : (rank query o cancelAt entries).results = some results) {r : Ranked} (hr : r ∈ results) :
    parseQuery query ≠ [] ∧ (∀ a ∈ parseQuery query, (a.hit? r.entry.name).isSome) ∧
      r.positions = positions (parseQuery query) r.entry.name := by
  -- A cancelled ranking has no results, so this one ran to its end.
  have hwanted : ∀ k ≤ rankPauses query o entries, cancelAt ≠ some k := by
    rintro k hk rfl
    rw [rank_cancelled hk] at h
    cases h
  rw [rank_completed query o entries hwanted, Ranking.answer_start] at h
  cases h
  split at hr
  · cases hr
  · rename_i hempty
    obtain ⟨hscore, hpos⟩ := of_mem_best hr
    refine ⟨fun hnil => hempty ?_, (matches_iff query r.entry).mp hscore, hpos⟩
    exact List.isEmpty_iff.mpr hnil

end Ranking

open Html Panel

/-- A name has a score for a query if and only if every atom of the query matches it. Its positions
are then increasing offsets of the name, those of one embedding for each atom; if an atom does not
match, there are none. A ranking gives results with positions only, and the characters emphasised in
a result are those at its positions, with no more than zero-width spaces between them.

That the hit of an atom is an embedding is shown for atoms in plain form, and for names without
lowercase letters that fold to others. -/
theorem positions_follow_query (query : String) :
    (∀ e : Entry, (Fuzzy.scorer query).score e ≠ .noMatch ↔
      ∀ a ∈ parseQuery query, (a.hit? e.name).isSome) ∧
    (∀ name, (∀ a ∈ parseQuery query, (a.hit? name).isSome) →
      ((Fuzzy.scorer query).positions name).Pairwise (· < ·) ∧
      (∀ p ∈ (Fuzzy.scorer query).positions name, p < name.length) ∧
      ((∀ a ∈ parseQuery query, ∀ hit, a.hit? name = some hit → a.Embeds name hit.positions) →
        ∃ parts, List.Forall₂ (fun a part => a.Embeds name part) (parseQuery query) parts ∧
          ∀ p, p ∈ (Fuzzy.scorer query).positions name ↔ ∃ part ∈ parts, p ∈ part)) ∧
    (∀ name, (∃ a ∈ parseQuery query, a.hit? name = none) →
      (Fuzzy.scorer query).positions name = []) ∧
    (∀ name, ∀ a ∈ parseQuery query, (a.plain = true ∨ ∀ c ∈ name.toList, Settled c) →
      ∀ hit, a.hit? name = some hit → a.Embeds name hit.positions) ∧
    ∀ o cancelAt entries results, (rank query o cancelAt entries).results = some results →
      ∀ r ∈ results, r.positions = (Fuzzy.scorer query).positions r.entry.name ∧
        r.positions ≠ [] ∧
        ∀ style, ∃ nodes, parse (highlightedName style r.entry.name r.positions) = some nodes ∧
          (∀ n ∈ nodes, (∃ c, n = .char c) ∨
            ∃ s, n = .element "span" [("class", "highlight_emphasis")] (Html.text s)) ∧
          (markedChars r.entry.name r.positions).Sublist (marks nodes) ∧
          (marks nodes).filter (·.1 != zeroWidthSpace) =
            (markedChars r.entry.name r.positions).filter (·.1 != zeroWidthSpace) := by
  refine ⟨matches_iff query, fun name hall => ?_,
    fun name ⟨a, ha, hnone⟩ => positions_eq_nil (hits?_eq_none ha hnone),
    fun name a ha hforms hit hhit => Atom.embeds_of_hit? ha hhit hforms, ?_⟩
  · refine ⟨pairwise_positions _ name, fun p hp => lt_length_of_mem_positions hp, fun hembeds => ?_⟩
    obtain ⟨hits, hhits⟩ := Option.isSome_iff_exists.mp (isSome_hits?.mpr hall)
    refine ⟨hits.map (·.positions), ?_, fun p => ?_⟩
    · exact List.forall₂_map_right_iff.mpr (forall₂_hits? hhits hembeds)
    · refine (mem_positions hhits).trans ?_
      simp only [List.mem_map, exists_exists_and_eq_and]
  · intro o cancelAt entries results hresults r hr
    obtain ⟨hne, hall, hpos⟩ := of_mem_results hresults hr
    refine ⟨hpos, hpos ▸ positions_ne_nil hne hall, fun style => ?_⟩
    have hsorted : r.positions.Pairwise (· ≤ ·) :=
      hpos ▸ (pairwise_positions _ r.entry.name).imp Nat.le_of_lt
    exact ⟨_, parse_eq_some_iff.mpr (runs_highlightedName style r.entry.name r.positions),
      fun n hn => mem_segmentNodes hn, marks_highlighted style hsorted⟩

/-- A name with a combining mark and a query of two atoms, both of which take the last character. -/
theorem positions_follow_query_combining :
    (∀ a ∈ parseQuery "Ex x", (a.hit? "e\u0301x").isSome) ∧
    (∃ parts, List.Forall₂ (fun a part => a.Embeds "e\u0301x" part) (parseQuery "Ex x") parts ∧
      ∀ p, p ∈ [0, 2] ↔ ∃ part ∈ parts, p ∈ part) ∧
    ((∃ a ∈ parseQuery "x z", a.hit? "e\u0301x" = none) ∧
      (Fuzzy.scorer "x z").positions "e\u0301x" = []) ∧
    ∃ nodes, parse (highlightedName .punctuation "e\u0301x" [0, 2]) = some nodes ∧
      (marks nodes).filter (·.1 != zeroWidthSpace) =
        [('e', true), ('\u0301', false), ('x', true)] := by
  have hall : ∀ a ∈ parseQuery "Ex x", (a.hit? "e\u0301x").isSome := by decide +kernel
  have hnone : ∃ a ∈ parseQuery "x z", a.hit? "e\u0301x" = none := by decide +kernel
  have hplain : ∀ a ∈ parseQuery "Ex x", a.plain = true := by decide +kernel
  have hhits : hits? "e\u0301x" (parseQuery "Ex x") = some [⟨57, [0, 2]⟩, ⟨32, [2]⟩] := by
    decide +kernel
  have hpos : (Fuzzy.scorer "Ex x").positions "e\u0301x" = [0, 2] := by
    have hsort : ([0, 2, 2] : List Nat).mergeSort = [0, 2, 2] :=
      List.mergeSort_of_pairwise (by decide)
    rw [scorer_positions, positions_eq hhits]
    change dropRepeats ([0, 2, 2] : List Nat).mergeSort = [0, 2]
    rw [hsort]
    rfl
  obtain ⟨-, hmatch, -, hembeds, hrank⟩ := positions_follow_query "Ex x"
  obtain ⟨-, -, hparts⟩ := hmatch "e\u0301x" hall
  obtain ⟨-, -, hfail, -⟩ := positions_follow_query "x z"
  refine ⟨hall, ?_, ⟨hnone, hfail _ hnone⟩, ?_⟩
  · rw [← hpos]
    exact hparts fun a ha => hembeds _ a ha (.inl (hplain a ha))
  · let e : Entry := ⟨"", "e\u0301x", "", "", .function⟩
    have hscored : (Fuzzy.scorer "Ex x").scoreAll [e] = [⟨e, ⟨890⟩⟩] := by decide +kernel
    have hresults : (rank "Ex x" .default none [e]).results = some [⟨e, ⟨890⟩, [0, 2]⟩] := by
      rw [rank_uncancelled, Ranking.answer_start, hscored, ← hpos]
      simp only [Scorer.best, List.mergeSort_singleton]
      rfl
    obtain ⟨-, -, hrender⟩ := hrank .default none [e] _ hresults _ List.mem_cons_self
    obtain ⟨nodes, hparse, -, -, hmarks⟩ := hrender .punctuation
    exact ⟨nodes, hparse, hmarks.trans (by decide +kernel)⟩

end DocPages
