import DocPages.Highlight
import Mathlib.Data.List.Chain

/-! The segments of a highlighted name. Spread out over their characters they are the flagged
characters again, none of them is empty and neighbours differ, so they are the longest runs of one
flag. A character is flagged if its offset is met in the list of positions before any larger one. -/

namespace DocPages

namespace Segment

section Runs

theorem spread_runs (xs : List (Char × Bool)) :
    (runs xs).flatMap (fun r => r.1.map fun c => (c, r.2)) = xs := by
  fun_induction runs xs with
  | case1 => rfl
  | case2 c m rest hruns ih | case3 c rest cs m more hruns ih
  | case4 c m rest cs m' more hruns hne ih =>
    rw [hruns] at ih
    rw [← ih]
    rfl

theorem ne_nil_of_mem_runs {xs : List (Char × Bool)} {r : List Char × Bool} (h : r ∈ runs xs) :
    r.1 ≠ [] := by
  fun_induction runs xs with
  | case1 => cases h
  | case2 c m rest hruns ih =>
    rw [List.mem_singleton.mp h]
    exact List.cons_ne_nil _ _
  | case3 c rest cs m more hruns ih =>
    rcases List.mem_cons.mp h with rfl | hmore
    · exact List.cons_ne_nil _ _
    · exact ih (hruns ▸ List.mem_cons_of_mem _ hmore)
  | case4 c m rest cs m' more hruns hne ih =>
    rcases List.mem_cons.mp h with rfl | hmore
    · exact List.cons_ne_nil _ _
    · exact ih (hruns ▸ hmore)

theorem isChain_runs (xs : List (Char × Bool)) : (runs xs).IsChain fun a b => a.2 ≠ b.2 := by
  fun_induction runs xs with
  | case1 => exact .nil
  | case2 c m rest hruns ih => exact .singleton _
  | case3 c rest cs m more hruns ih =>
    -- The first run only grows, so the one behind it still differs.
    rw [hruns] at ih
    cases more with
    | nil => exact .singleton _
    | cons r more => exact .cons_cons ih.rel ih.tail
  | case4 c m rest cs m' more hruns hne ih =>
    rw [hruns] at ih
    exact .cons_cons hne ih

end Runs

section Flags

/-- The offset stands in the list with no larger one in front of it. -/
def Reaches (positions : List Nat) (i : Nat) : Prop :=
  ∃ before after, positions = before ++ i :: after ∧ ∀ p ∈ before, p ≤ i

theorem reaches_cons {p i : Nat} {positions : List Nat} :
    Reaches (p :: positions) i ↔ p = i ∨ p ≤ i ∧ Reaches positions i := by
  constructor
  · rintro ⟨before, after, heq, hle⟩
    rcases List.cons_eq_append_iff.mp heq with ⟨rfl, hi⟩ | ⟨rest, rfl, hrest⟩
    · exact .inl (List.cons.inj hi).1.symm
    · obtain ⟨hp, hle⟩ := List.forall_mem_cons.mp hle
      exact .inr ⟨hp, rest, after, hrest, hle⟩
  · rintro (rfl | ⟨hp, before, after, rfl, hle⟩)
    · exact ⟨[], positions, rfl, List.forall_mem_nil _⟩
    · exact ⟨p :: before, after, rfl, List.forall_mem_cons.mpr ⟨hp, hle⟩⟩

theorem reaches_iff_head? (positions : List Nat) (i : Nat) :
    Reaches positions i ↔ (positions.dropWhile (· < i)).head? = some i := by
  induction positions with
  | nil => exact ⟨fun ⟨before, after, heq, _⟩ => by simp at heq, nofun⟩
  | cons p positions ih =>
    rw [reaches_cons, List.dropWhile_cons]
    rcases Nat.lt_trichotomy p i with hlt | rfl | hgt
    · simp [hlt, ih, Nat.le_of_lt hlt, Nat.ne_of_lt hlt]
    · simp
    · simp [Nat.not_le.mpr hgt, Nat.ne_of_gt hgt, Nat.lt_asymm hgt]

theorem reaches_iff_mem {positions : List Nat} (h : positions.Pairwise (· ≤ ·)) (i : Nat) :
    Reaches positions i ↔ i ∈ positions := by
  constructor
  · rintro ⟨before, after, rfl, -⟩
    exact List.mem_append_right _ List.mem_cons_self
  · intro hi
    obtain ⟨before, after, rfl⟩ := List.append_of_mem hi
    have hle := (List.pairwise_append.mp h).2.2
    exact ⟨before, after, rfl, fun p hp => hle p hp i List.mem_cons_self⟩

theorem dropWhile_dropWhile_lt {i j : Nat} (h : i ≤ j) (positions : List Nat) :
    (positions.dropWhile (· < i)).dropWhile (· < j) = positions.dropWhile (· < j) := by
  induction positions with
  | nil => rfl
  | cons p positions ih =>
    by_cases hp : p < i
    · have hpj : p < j := Nat.lt_of_lt_of_le hp h
      simp [hp, hpj, ih]
    · simp [List.dropWhile_cons, hp]

/-- Positions that were used up for a smaller offset would be skipped for a larger one as well. -/
theorem flags_eq_map (i : Nat) (positions : List Nat) (cs : List Char) :
    flags i positions cs = (cs.zipIdx i).map fun x =>
      (x.1, (positions.dropWhile (· < x.2)).head? == some x.2) := by
  induction cs generalizing i positions with
  | nil => rfl
  | cons c cs ih =>
    rw [flags, ih, List.zipIdx_cons, List.map_cons]
    refine congrArg _ (List.map_congr_left fun x hx => ?_)
    have hle : i ≤ x.2 := Nat.le_of_succ_le (List.le_snd_of_mem_zipIdx hx)
    rw [dropWhile_dropWhile_lt hle]

theorem flags_congr {p q : List Nat} {cs : List Char}
    (h : ∀ i < cs.length, Reaches p i ↔ Reaches q i) : flags 0 p cs = flags 0 q cs := by
  rw [flags_eq_map, flags_eq_map]
  refine List.map_congr_left fun x hx => ?_
  have hlt : x.2 < cs.length := by simpa using List.snd_lt_add_of_mem_zipIdx hx
  have hflag : ((p.dropWhile (· < x.2)).head? == some x.2) =
      ((q.dropWhile (· < x.2)).head? == some x.2) := by
    rw [Bool.eq_iff_iff, beq_iff_eq, beq_iff_eq, ← reaches_iff_head?, ← reaches_iff_head?]
    exact h x.2 hlt
  rw [hflag]

theorem getElem?_flags (positions : List Nat) (cs : List Char) {i : Nat} (h : i < cs.length) :
    (flags 0 positions cs)[i]?.map (·.2) = some true ↔ Reaches positions i := by
  rw [flags_eq_map, reaches_iff_head?]
  simp [List.getElem?_eq_getElem h]

end Flags

section Covers

/-- Where the segment behind some others begins. -/
def offset (before : List Segment) : Nat := (before.flatMap (·.text.toList)).length

/-- The character at offset `i` lies in a matched segment. -/
def Covers (segments : List Segment) (i : Nat) : Prop :=
  ∃ before s after, segments = before ++ s :: after ∧ s.isMatch = true ∧
    offset before ≤ i ∧ i < offset before + s.text.length

theorem offset_cons (s : Segment) (before : List Segment) :
    offset (s :: before) = s.text.length + offset before := by
  rw [offset, offset, List.flatMap_cons, List.length_append, String.length_toList]

theorem covers_cons {s : Segment} {segments : List Segment} {i : Nat} :
    Covers (s :: segments) i ↔
      if i < s.text.length then s.isMatch = true else Covers segments (i - s.text.length) := by
  constructor
  · rintro ⟨before, t, after, heq, hmatch, hle, hlt⟩
    rcases List.cons_eq_append_iff.mp heq with ⟨rfl, ht⟩ | ⟨rest, rfl, hrest⟩
    · obtain ⟨rfl, -⟩ := List.cons.inj ht
      have hfirst : i < t.text.length := by simpa [offset] using hlt
      rw [if_pos hfirst]
      exact hmatch
    · rw [offset_cons] at hle hlt
      rw [if_neg (by omega)]
      exact ⟨rest, t, after, hrest, hmatch, by omega, by omega⟩
  · intro h
    split at h
    · rename_i hfirst
      exact ⟨[], s, segments, rfl, h, Nat.zero_le i, by simpa [offset] using hfirst⟩
    · obtain ⟨before, t, after, rfl, hmatch, hle, hlt⟩ := h
      refine ⟨s :: before, t, after, rfl, hmatch, ?_, ?_⟩ <;> rw [offset_cons] <;> omega

theorem covers_iff_getElem? (segments : List Segment) (i : Nat) :
    Covers segments i ↔
      (segments.flatMap fun s => s.text.toList.map fun c => (c, s.isMatch))[i]?.map (·.2) =
        some true := by
  induction segments generalizing i with
  | nil => exact ⟨fun ⟨before, s, after, heq, _⟩ => by simp at heq, nofun⟩
  | cons s segments ih =>
    rw [covers_cons, List.flatMap_cons, List.getElem?_append, List.length_map,
      String.length_toList]
    split
    · rename_i hfirst
      rw [← String.length_toList] at hfirst
      simp [List.getElem?_eq_getElem hfirst]
    · exact ih _

end Covers

end Segment

section Highlight

open Segment

variable (name : String) (positions : List Nat)

theorem flatMap_highlightSegments_flag :
    (highlightSegments name positions).flatMap
      (fun s => s.text.toList.map fun c => (c, s.isMatch)) = flags 0 positions name.toList := by
  rw [highlightSegments, List.flatMap_map]
  simp only [String.toList_ofList]
  exact spread_runs _

theorem flatMap_highlightSegments :
    (highlightSegments name positions).flatMap (·.text.toList) = name.toList := by
  have hflags := congrArg (List.map Prod.fst) (flatMap_highlightSegments_flag name positions)
  rw [flags_eq_map, List.map_map] at hflags
  simpa [List.map_flatMap, Function.comp_def] using hflags

theorem ne_empty_of_mem_highlightSegments {s : Segment} (h : s ∈ highlightSegments name positions) :
    s.text ≠ "" := by
  obtain ⟨r, hr, rfl⟩ := List.mem_map.mp h
  simpa using ne_nil_of_mem_runs hr

theorem isChain_highlightSegments :
    (highlightSegments name positions).IsChain fun a b => a.isMatch ≠ b.isMatch :=
  (List.isChain_map _).mpr (isChain_runs _)

theorem covers_highlightSegments {i : Nat} (h : i < name.length) :
    Covers (highlightSegments name positions) i ↔ Reaches positions i := by
  rw [covers_iff_getElem?, flatMap_highlightSegments_flag]
  exact getElem?_flags positions name.toList (String.length_toList ▸ h)

theorem highlightSegments_congr {p q : List Nat}
    (h : ∀ i < name.length, Reaches p i ↔ Reaches q i) :
    highlightSegments name p = highlightSegments name q := by
  rw [← String.length_toList] at h
  rw [highlightSegments, highlightSegments, flags_congr h]

end Highlight

open Segment

/-- The segments of a name are its longest runs of matched and unmatched characters, and a character
is matched if its offset stands among the positions with no larger one in front of it. -/
theorem highlight_follows_positions (name : String) (positions : List Nat) :
    String.join ((highlightSegments name positions).map (·.text)) = name ∧
    (∀ s ∈ highlightSegments name positions, s.text ≠ "") ∧
    (highlightSegments name positions).IsChain (fun a b => a.isMatch ≠ b.isMatch) ∧
    (∀ i < name.length, Covers (highlightSegments name positions) i ↔
      ∃ before after, positions = before ++ i :: after ∧ ∀ p ∈ before, p ≤ i) ∧
    (positions.Pairwise (· ≤ ·) →
      (∀ i < name.length, Covers (highlightSegments name positions) i ↔ i ∈ positions) ∧
      highlightSegments name positions =
        highlightSegments name (positions.filter (· < name.length))) := by
  refine ⟨?_, fun s => ne_empty_of_mem_highlightSegments name positions,
    isChain_highlightSegments name positions,
    fun i hi => covers_highlightSegments name positions hi, fun hsorted => ⟨fun i hi => ?_, ?_⟩⟩
  · have hchars := flatMap_highlightSegments name positions
    rw [← String.toList_inj, String.toList_join, List.flatMap_map, hchars]
  · rw [covers_highlightSegments name positions hi, reaches_iff_mem hsorted]
  · apply highlightSegments_congr
    intro i hi
    rw [reaches_iff_mem hsorted, reaches_iff_mem (hsorted.filter _), List.mem_filter]
    simp [hi]

/-- Repeated and large positions in a name of wide characters. -/
theorem highlight_follows_positions_wide :
    Covers (highlightSegments "aé→b" [1, 1, 2, 9]) 2 ∧
    ¬ Covers (highlightSegments "aé→b" [1, 1, 2, 9]) 3 ∧
    highlightSegments "aé→b" [1, 1, 2, 9] = [⟨"a", false⟩, ⟨"é→", true⟩, ⟨"b", false⟩] := by
  obtain ⟨-, -, -, -, hsorted⟩ := highlight_follows_positions "aé→b" [1, 1, 2, 9]
  obtain ⟨hmem, hcut⟩ := hsorted (by decide)
  refine ⟨(hmem 2 (by decide)).mpr (by decide), fun h => ?_, hcut.trans (by decide)⟩
  exact absurd ((hmem 3 (by decide)).mp h) (by decide)

end DocPages
