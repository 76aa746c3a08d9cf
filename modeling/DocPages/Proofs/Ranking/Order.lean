import DocPages.Proofs.Ranking.Progress
import Mathlib

/-! The order of the results. Whatever the base scores are, the results are the best matches in the
order of their base scores; types come first among equals, and then the entries that come first in
the index. -/

namespace DocPages

theorem filter_mergeSort_of_tie {α : Type} {le : α → α → Bool}
    (trans : ∀ a b c, le a b → le b c → le a c) (total : ∀ a b, le a b || le b a)
    (l : List α) (p : α → Bool) (hp : ∀ a b, p a → p b → le a b) :
    (l.mergeSort le).filter p = l.filter p := by
  have hs : (l.filter p).Pairwise (fun a b => le a b = true) := by
    rw [List.pairwise_filter]
    exact List.pairwise_of_forall fun a b => hp a b
  have hsub := (List.sublist_mergeSort trans total hs List.filter_sublist).filter p
  rw [List.filter_filter] at hsub
  simp only [Bool.and_self] at hsub
  exact (hsub.eq_of_length ((List.mergeSort_perm l le).filter p).length_eq.symm).symm

/-- A sort keeps a relation of the list among the entries that tie. -/
theorem pairwise_mergeSort_of_tie {α : Type} {le : α → α → Bool} {R : α → α → Prop}
    (trans : ∀ a b c, le a b → le b c → le a c) (total : ∀ a b, le a b || le b a)
    {l : List α} (h : l.Pairwise R) :
    (l.mergeSort le).Pairwise fun a b => le a b ∧ (le b a → R a b) := by
  have hle := List.pairwise_mergeSort trans total l
  rw [List.pairwise_iff_forall_sublist] at hle h ⊢
  intro a b hab
  refine ⟨hle hab, fun hba => ?_⟩
  have haa : ∀ c, le c c = true := fun c => by simpa using total c c
  -- the entries that tie with `a` have not moved against each other
  have hf := filter_mergeSort_of_tie trans total l (fun c => le a c && le c a) (by
    intro c d hc hd
    simp only [Bool.and_eq_true] at hc hd
    exact trans _ _ _ hc.2 hd.1)
  have hsub := hab.filter fun c => le a c && le c a
  rw [hf, List.filter_cons, List.filter_cons, List.filter_nil] at hsub
  simp only [haa, hle hab, hba, Bool.and_self, if_true] at hsub
  exact h (hsub.trans List.filter_sublist)

def Score.value (s : Score) : ℚ := s.tenths / 10

theorem Score.value_ofBase (base : Nat) (kind : EntryKind) :
    (ofBase base kind).value = base + if kind.isType then 1 / 10 else 0 := by
  unfold value ofBase bonus
  split <;> push_cast <;> ring

/-- An entry that matches, with its place in the index. -/
structure Candidate where
  index : Nat
  entry : Entry
  base : Nat

namespace Candidate

/-- Comes before another candidate: by the base score, then as a type, then by its place. -/
def Precedes (a b : Candidate) : Prop :=
  b.base < a.base ∨ a.base = b.base ∧
    (a.entry.kind.isType = true ∧ b.entry.kind.isType = false ∨
      a.entry.kind.isType = b.entry.kind.isType ∧ a.index < b.index)

def score (c : Candidate) : Score := .ofBase c.base c.entry.kind

def scored (c : Candidate) : Scored := ⟨c.entry, c.score⟩

theorem precedes_iff (a b : Candidate) :
    a.Precedes b ↔ b.score.tenths < a.score.tenths ∨
      a.score.tenths = b.score.tenths ∧ a.index < b.index := by
  -- a bonus is less than the least difference of two base scores
  unfold Precedes score Score.ofBase Score.bonus
  cases a.entry.kind.isType <;> cases b.entry.kind.isType <;> simp <;> omega

def scoresAtLeast (a b : Candidate) : Bool := a.score.atLeast b.score

theorem scoresAtLeast_iff {a b : Candidate} :
    a.scoresAtLeast b = true ↔ b.score.tenths ≤ a.score.tenths := by
  simp only [scoresAtLeast, Score.atLeast, decide_eq_true_eq]

theorem scoresAtLeast_trans (a b c : Candidate) (hab : a.scoresAtLeast b)
    (hbc : b.scoresAtLeast c) : a.scoresAtLeast c := by
  rw [scoresAtLeast_iff] at *
  exact hbc.trans hab

theorem scoresAtLeast_total (a b : Candidate) : a.scoresAtLeast b || b.scoresAtLeast a := by
  rw [Bool.or_eq_true, scoresAtLeast_iff, scoresAtLeast_iff]
  exact le_total _ _

theorem Precedes.asymm {a b : Candidate} (h : a.Precedes b) : ¬ b.Precedes a := by
  rw [precedes_iff] at h ⊢
  omega

theorem Precedes.base_le {a b : Candidate} (h : a.Precedes b) : b.base ≤ a.base := by
  unfold Precedes at h
  omega

end Candidate

namespace Scorer

/-- The entries that have a base score, in the order of the index. -/
def candidates (s : Scorer) (entries : List Entry) : List Candidate :=
  entries.zipIdx.filterMap fun p => (s.base? p.1.name).map fun base => ⟨p.2, p.1, base⟩

theorem mem_candidates {s : Scorer} {entries : List Entry} {c : Candidate} :
    c ∈ s.candidates entries ↔
      entries[c.index]? = some c.entry ∧ s.base? c.entry.name = some c.base := by
  simp only [candidates, List.mem_filterMap, Prod.exists, List.mk_mem_zipIdx_iff_getElem?,
    Option.map_eq_some_iff]
  constructor
  · rintro ⟨e, i, he, base, hb, rfl⟩
    exact ⟨he, hb⟩
  · rintro ⟨he, hb⟩
    exact ⟨c.entry, c.index, he, c.base, hb, rfl⟩

theorem pairwise_index_candidates (s : Scorer) (entries : List Entry) :
    (s.candidates entries).Pairwise fun a b => a.index < b.index := by
  have hz : entries.zipIdx.Pairwise fun a b => a.2 < b.2 := by
    rw [← List.pairwise_map (f := Prod.snd), List.zipIdx_map_snd]
    exact List.pairwise_lt_range'
  refine List.Pairwise.filterMap _ ?_ hz
  rintro ⟨e, i⟩ ⟨e', i'⟩ h c hc c' hc'
  obtain ⟨base, -, rfl⟩ := Option.map_eq_some_iff.mp hc
  obtain ⟨base', -, rfl⟩ := Option.map_eq_some_iff.mp hc'
  exact h

theorem scoreAll_singleton (s : Scorer) (e : Entry) :
    s.scoreAll [e] =
      ((s.base? e.name).map fun base => (⟨e, .ofBase base e.kind⟩ : Scored)).toList := by
  cases hb : s.base? e.name with
  | none => simp [scoreAll, score, hb, Score.atLeast, Score.noMatch, Score.cutoff]
  | some base =>
    -- no base score is below the cutoff
    have hc : -100000 ≤ 10 * (base : Int) + (Score.bonus e.kind).tenths := by
      unfold Score.bonus
      cases e.kind.isType <;> simp only [Bool.false_eq_true, if_false, if_true] <;> omega
    simp [scoreAll, score, hb, Score.atLeast, Score.ofBase, Score.cutoff, hc]

theorem scoreAll_eq_candidates (s : Scorer) (entries : List Entry) :
    s.scoreAll entries = (s.candidates entries).map Candidate.scored := by
  unfold candidates
  generalize 0 = n
  induction entries generalizing n with
  | nil => rfl
  | cons e es ih =>
    rw [← List.singleton_append, scoreAll_append, scoreAll_singleton, ih (n + 1),
      List.singleton_append, List.zipIdx_cons, List.filterMap_cons]
    cases s.base? e.name with
    | none => rfl
    | some base => rfl

def result (s : Scorer) (c : Candidate) : Ranked := ⟨c.entry, c.score, s.positions c.entry.name⟩

/-- A list of all candidates, the better ones first. -/
structure IsOrder (s : Scorer) (entries : List Entry) (order : List Candidate) : Prop where
  perm : order.Perm (s.candidates entries)
  sorted : order.Pairwise Candidate.Precedes

theorem IsOrder.unique {s : Scorer} {entries : List Entry} {order order' : List Candidate}
    (h : IsOrder s entries order) (h' : IsOrder s entries order') : order = order' :=
  List.Perm.eq_of_pairwise (fun _ _ _ _ hab hba => absurd hba hab.asymm) h.sorted h'.sorted
    (h.perm.trans h'.perm.symm)

theorem isOrder_mergeSort (s : Scorer) (entries : List Entry) :
    IsOrder s entries ((s.candidates entries).mergeSort Candidate.scoresAtLeast) := by
  refine ⟨List.mergeSort_perm _ _, ?_⟩
  have hs := pairwise_mergeSort_of_tie Candidate.scoresAtLeast_trans Candidate.scoresAtLeast_total
    (s.pairwise_index_candidates entries)
  refine hs.imp ?_
  rintro a b ⟨hab, hba⟩
  rw [Candidate.scoresAtLeast_iff] at hab hba
  rw [Candidate.precedes_iff]
  omega

theorem best_eq_order {s : Scorer} {entries : List Entry} {order : List Candidate}
    (h : IsOrder s entries order) (limit : Nat) :
    s.best limit (s.scoreAll entries) = (order.take limit).map s.result := by
  have hm : ((s.candidates entries).mergeSort Candidate.scoresAtLeast).map Candidate.scored =
      ((s.candidates entries).map Candidate.scored).mergeSort fun a b => a.score.atLeast b.score :=
    List.map_mergeSort fun _ _ _ _ => rfl
  rw [h.unique (isOrder_mergeSort s entries), best, scoreAll_eq_candidates, ← hm, ← List.map_take,
    List.map_map]
  rfl

end Scorer

/-- For any base scores, a ranking that nobody cancels shows the first candidates of the one order
of all candidates, each with its entry, its exact score and its positions. In that order every
match stands once, no type overtakes a greater base score, and what is cut off comes after what is
shown. -/
theorem uncancelled_run_results (query : String) (s : Scorer) (o : SearchOptions)
    (entries : List Entry) :
    ∃ order, s.IsOrder entries order ∧ (∀ other, s.IsOrder entries other → other = order) ∧
      ((Ranking.ofScorer query s o entries).run (wantedUntil none)).results =
        some (if s.isEmpty then [] else (order.take o.limit).map s.result) ∧
      (s = Fuzzy.scorer query → (rank query o none entries).results =
        some (if (Fuzzy.parseQuery query).isEmpty then [] else
          (order.take o.limit).map s.result)) ∧
      (∀ c, (s.result c).entry = c.entry ∧
        (s.result c).score.value = c.base + (if c.entry.kind.isType then 1 / 10 else 0) ∧
        (s.result c).positions = s.positions c.entry.name) ∧
      (∀ c, c ∈ order ↔
        entries[c.index]? = some c.entry ∧ s.base? c.entry.name = some c.base) ∧
      (order.map Candidate.index).Nodup ∧
      order.Pairwise (fun a b => b.base ≤ a.base) ∧
      ∀ a ∈ order.take o.limit, ∀ b ∈ order.drop o.limit, a.Precedes b := by
  have ho := s.isOrder_mergeSort entries
  have hr : ((Ranking.ofScorer query s o entries).run (wantedUntil none)).results =
      some (if s.isEmpty then [] else s.best o.limit (s.scoreAll entries)) := by
    rw [Ranking.run_wanted _ (wantedUntil none) fun _ _ => rfl]
    rfl
  rw [Scorer.best_eq_order ho] at hr
  refine ⟨_, ho, fun other h => h.unique ho, hr, ?_, ?_, ?_, ?_, ?_, ?_⟩
  · rintro rfl
    exact hr
  · exact fun c => ⟨rfl, Score.value_ofBase c.base c.entry.kind, rfl⟩
  · intro c
    rw [ho.perm.mem_iff, Scorer.mem_candidates]
  · refine ((ho.perm.map _).nodup_iff).mpr ?_
    rw [List.Nodup, List.pairwise_map]
    exact (s.pairwise_index_candidates entries).imp Nat.ne_of_lt
  · exact ho.sorted.imp Candidate.Precedes.base_le
  · have hs := ho.sorted
    rw [← List.take_append_drop o.limit (List.mergeSort _ _), List.pairwise_append] at hs
    exact hs.2.2

end DocPages
