import DocPages.Proofs.Panel.Tree
import Mathlib.Data.List.SplitBy

/-! A highlighted name as a reader of markup sees it. It is the text of the name with emphasised
runs, one for each longest run of consecutive positions, and nothing but zero-width spaces is added
to the characters of the name. -/

namespace DocPages

open Html Html.Node Segment

namespace Panel

/-- The texts of the elements of a forest, in order. -/
def emphasised (ns : List Node) : List (List Char) :=
  ns.filterMap fun
    | .element _ _ children => some (content children)
    | _ => none

/-- The offsets of a name that are among the positions. -/
def markedOffsets (name : String) (positions : List Nat) : List Nat :=
  (List.range name.length).filter (positions.contains ·)

def charsAt (name : String) (offsets : List Nat) : List Char :=
  offsets.filterMap (name.toList[·]?)

section Spans

/-- The offsets of each matched segment; `o` is where the first segment begins. -/
def spans (o : Nat) : List Segment → List (List Nat)
  | [] => []
  | s :: segments =>
    if s.isMatch then List.range' o s.text.length :: spans (o + s.text.length) segments
    else spans (o + s.text.length) segments

theorem flatten_spans {segments : List Segment} {o : Nat} {p : Nat → Bool}
    (hp : ∀ i < offset segments, p (o + i) = true ↔ Covers segments i) :
    (spans o segments).flatten = (List.range' o (offset segments)).filter p := by
  induction segments generalizing o with
  | nil => rfl
  | cons s segments ih =>
    rw [offset_cons] at hp ⊢
    have hfirst : ∀ i ∈ List.range' o s.text.length, p i = true ↔ s.isMatch = true := by
      intro i hi
      obtain ⟨hle, hlt⟩ := List.mem_range'_1.mp hi
      have hi := hp (i - o) (by omega)
      rwa [covers_cons, if_pos (by omega), Nat.add_sub_cancel' hle] at hi
    have hrest : ∀ i < offset segments,
        p (o + s.text.length + i) = true ↔ Covers segments i := by
      intro i hi
      have hi := hp (s.text.length + i) (by omega)
      rwa [covers_cons, if_neg (by omega), Nat.add_sub_cancel_left, ← Nat.add_assoc] at hi
    rw [← List.range'_append_1, List.filter_append, ← ih hrest, spans]
    split
    · rename_i hmatch
      have hall := List.filter_eq_self.mpr fun i hi => (hfirst i hi).mpr hmatch
      rw [hall, List.flatten_cons]
    · rename_i hmatch
      have hnone := List.filter_eq_nil_iff.mpr fun i hi hpi => hmatch ((hfirst i hi).mp hpi)
      rw [hnone, List.nil_append]

theorem charsAt_range' (pre as bs : List Char) :
    (List.range' pre.length as.length).filterMap ((pre ++ (as ++ bs))[·]?) = as := by
  induction as generalizing pre with
  | nil => rfl
  | cons a as ih =>
    have hrest := ih (pre ++ [a])
    have hfirst : (pre ++ (a :: as ++ bs))[pre.length]? = some a := by simp
    rw [List.length_cons, List.range'_succ, List.filterMap_cons_some hfirst]
    simpa using hrest

theorem map_spans (pre : List Char) (segments : List Segment) :
    (spans pre.length segments).map
        (fun run => run.filterMap ((pre ++ segments.flatMap (·.text.toList))[·]?)) =
      (segments.filter (·.isMatch)).map (·.text.toList) := by
  induction segments generalizing pre with
  | nil => rfl
  | cons s segments ih =>
    have hrest := ih (pre ++ s.text.toList)
    rw [List.length_append, String.length_toList, List.append_assoc] at hrest
    have hfirst := charsAt_range' pre s.text.toList (segments.flatMap (·.text.toList))
    rw [String.length_toList] at hfirst
    rw [spans, List.flatMap_cons, List.filter_cons]
    split
    · rw [List.map_cons, List.map_cons, hfirst, hrest]
    · exact hrest

theorem nil_notMem_spans {segments : List Segment} (hne : ∀ s ∈ segments, s.text ≠ "") (o : Nat) :
    [] ∉ spans o segments := by
  induction segments generalizing o with
  | nil => exact List.not_mem_nil
  | cons s segments ih =>
    obtain ⟨hs, hrest⟩ := List.forall_mem_cons.mp hne
    rw [spans]
    split
    · rw [List.mem_cons, not_or]
      refine ⟨fun hnil => hs ?_, ih hrest _⟩
      simpa using hnil.symm
    · exact ih hrest _

theorem isChain_of_mem_spans {segments : List Segment} {o : Nat} {run : List Nat}
    (h : run ∈ spans o segments) : run.IsChain fun i j => (j == i + 1) = true := by
  induction segments generalizing o with
  | nil => cases h
  | cons s segments ih =>
    rw [spans] at h
    split at h
    · rcases List.mem_cons.mp h with rfl | hrest
      · exact (List.isChain_range' _ _ 1).imp fun i j hij => by simpa using hij
      · exact ih hrest
    · exact ih h

theorem le_of_mem_spans {segments : List Segment} {o i : Nat} {run : List Nat}
    (h : run ∈ spans o segments) (hi : i ∈ run) : o ≤ i := by
  induction segments generalizing o with
  | nil => cases h
  | cons s segments ih =>
    rw [spans] at h
    split at h
    · rcases List.mem_cons.mp h with rfl | hrest
      · exact (List.mem_range'_1.mp hi).1
      · exact Nat.le_of_add_right_le (ih hrest)
    · exact Nat.le_of_add_right_le (ih h)

theorem lt_of_mem_spans {segments : List Segment} (hne : ∀ s ∈ segments, s.text ≠ "")
    (hfirst : ∀ s ∈ segments.head?, s.isMatch = false) {o i : Nat} {run : List Nat}
    (h : run ∈ spans o segments) (hi : i ∈ run) : o < i := by
  cases segments with
  | nil => cases h
  | cons s segments =>
    have hs : s.text.length ≠ 0 := by simpa using hne s List.mem_cons_self
    rw [spans, if_neg (by simpa using hfirst)] at h
    have hle := le_of_mem_spans h hi
    omega

theorem isChain_spans {segments : List Segment} (hne : ∀ s ∈ segments, s.text ≠ "")
    (hdiffer : segments.IsChain fun a b => a.isMatch ≠ b.isMatch) (o : Nat) :
    (spans o segments).IsChain fun as bs =>
      ∃ ha hb, (bs.head hb == as.getLast ha + 1) = false := by
  induction segments generalizing o with
  | nil => exact .nil
  | cons s segments ih =>
    obtain ⟨hs, hrest⟩ := List.forall_mem_cons.mp hne
    obtain ⟨hnext, hdiffer⟩ := List.isChain_cons.mp hdiffer
    rw [spans]
    split
    · rename_i hmatch
      refine List.isChain_cons.mpr ⟨fun run hrun => ?_, ih hrest hdiffer _⟩
      have hmem := List.mem_of_mem_head? hrun
      have hfirst : ∀ t ∈ segments.head?, t.isMatch = false := by
        intro t ht
        simpa [hmatch] using hnext t ht
      have ha : List.range' o s.text.length ≠ [] := by simpa using hs
      have hb : run ≠ [] := fun hnil => nil_notMem_spans hrest _ (hnil ▸ hmem)
      have hlast := List.mem_range'_1.mp (List.getLast_mem ha)
      have hhead := lt_of_mem_spans hrest hfirst hmem (List.head_mem hb)
      refine ⟨ha, hb, ?_⟩
      rw [beq_eq_false_iff_ne]
      omega
    · exact ih hrest hdiffer _

end Spans

section Marked

variable {name : String} {positions : List Nat}

theorem splitBy_markedOffsets (h : positions.Pairwise (· ≤ ·)) :
    (markedOffsets name positions).splitBy (fun i j => j == i + 1) =
      spans 0 (highlightSegments name positions) := by
  have hne := fun s => ne_empty_of_mem_highlightSegments name positions (s := s)
  have hlength : offset (highlightSegments name positions) = name.length := by
    rw [offset, flatMap_highlightSegments, String.length_toList]
  have hflatten : (spans 0 (highlightSegments name positions)).flatten =
      markedOffsets name positions := by
    rw [markedOffsets, List.range_eq_range', ← hlength]
    refine flatten_spans fun i hi => ?_
    rw [Nat.zero_add, List.contains_iff_mem,
      covers_highlightSegments name positions (hlength ▸ hi), reaches_iff_mem h]
  rw [← hflatten]
  exact List.splitBy_flatten (nil_notMem_spans hne 0) (fun run => isChain_of_mem_spans)
    (isChain_spans hne (isChain_highlightSegments name positions) 0)

theorem map_charsAt_splitBy (name : String) (h : positions.Pairwise (· ≤ ·)) :
    ((markedOffsets name positions).splitBy fun i j => j == i + 1).map (charsAt name) =
      ((highlightSegments name positions).filter (·.isMatch)).map (·.text.toList) := by
  have hspans := map_spans [] (highlightSegments name positions)
  rw [List.nil_append, flatMap_highlightSegments] at hspans
  rw [splitBy_markedOffsets h]
  exact hspans

theorem emphasised_segments (style : BreakStyle) (segments : List Segment) :
    emphasised (segments.flatMap (segmentNodes style)) =
      (segments.filter (·.isMatch)).map fun s => (insertBreaks style s.text).toList := by
  have htext (s : String) : emphasised (Html.text s) = [] := by
    refine List.filterMap_eq_nil_iff.mpr fun n hn => ?_
    obtain ⟨c, -, rfl⟩ := List.mem_map.mp hn
    rfl
  induction segments with
  | nil => rfl
  | cons s segments ih =>
    have happend : emphasised (segmentNodes style s ++ segments.flatMap (segmentNodes style)) =
        emphasised (segmentNodes style s) ++ emphasised (segments.flatMap (segmentNodes style)) :=
      List.filterMap_append
    rw [List.flatMap_cons, happend, ih, segmentNodes, List.filter_cons]
    split
    · rw [List.map_cons, ← content_text (insertBreaks style s.text)]
      rfl
    · rw [htext, List.nil_append]

end Marked

section Marks

/-- The characters that are read, each with whether it stands in an element. -/
def marks (ns : List Node) : List (Char × Bool) :=
  ns.flatMap fun
    | .element _ _ children => (content children).map fun c => (c, true)
    | n => (content [n]).map fun c => (c, false)

/-- The characters of a name, each with whether its offset is among the positions. -/
def markedChars (name : String) (positions : List Nat) : List (Char × Bool) :=
  name.toList.zipIdx.map fun x => (x.1, positions.contains x.2)

def flagged (s : Segment) : List (Char × Bool) := s.text.toList.map fun c => (c, s.isMatch)

theorem marks_segmentNodes (style : BreakStyle) (s : Segment) :
    marks (segmentNodes style s) =
      (insertBreaks style s.text).toList.map fun c => (c, s.isMatch) := by
  rw [segmentNodes]
  split
  · rename_i hmatch
    rw [hmatch, ← content_text (insertBreaks style s.text)]
    exact List.append_nil _
  · rename_i hmatch
    rw [eq_false_of_ne_true hmatch, marks, Html.text, List.flatMap_map, List.map_eq_flatMap]
    rfl

theorem flagged_sublist_marks (style : BreakStyle) (s : Segment) :
    (flagged s).Sublist (marks (segmentNodes style s)) := by
  rw [marks_segmentNodes, toList_insertBreaks]
  exact (style.thinned_spread none s.text.toList).sublist.map _

theorem filter_marks_segmentNodes (style : BreakStyle) (s : Segment) :
    (marks (segmentNodes style s)).filter (·.1 != zeroWidthSpace) =
      (flagged s).filter (·.1 != zeroWidthSpace) := by
  have hjoined := joined_insertBreaks style s.text
  rw [joined, joined] at hjoined
  rw [marks_segmentNodes, flagged, List.filter_map, List.filter_map]
  exact congrArg _ hjoined

theorem markedChars_eq {name : String} {positions : List Nat}
    (h : positions.Pairwise (· ≤ ·)) :
    markedChars name positions = (highlightSegments name positions).flatMap flagged := by
  have hflags := flatMap_highlightSegments_flag name positions
  rw [flags_eq_map] at hflags
  refine Eq.trans (List.map_congr_left fun x _ => ?_) hflags.symm
  have hflag : positions.contains x.2 =
      ((positions.dropWhile (· < x.2)).head? == some x.2) := by
    rw [Bool.eq_iff_iff, List.contains_iff_mem, beq_iff_eq, ← reaches_iff_head?, reaches_iff_mem h]
  rw [hflag]

/-- The characters of a name are read with the marks of their offsets, and only zero-width spaces
are added to them. -/
theorem marks_highlighted (style : BreakStyle) {name : String} {positions : List Nat}
    (h : positions.Pairwise (· ≤ ·)) :
    (markedChars name positions).Sublist
        (marks ((highlightSegments name positions).flatMap (segmentNodes style))) ∧
      (marks ((highlightSegments name positions).flatMap (segmentNodes style))).filter
          (·.1 != zeroWidthSpace) =
        (markedChars name positions).filter (·.1 != zeroWidthSpace) := by
  rw [markedChars_eq h]
  induction highlightSegments name positions with
  | nil => exact ⟨.slnil, rfl⟩
  | cons s segments ih =>
    obtain ⟨hsub, hfilter⟩ := ih
    have happend : marks ((s :: segments).flatMap (segmentNodes style)) =
        marks (segmentNodes style s) ++ marks (segments.flatMap (segmentNodes style)) :=
      List.flatMap_append
    rw [happend, List.flatMap_cons, List.filter_append, List.filter_append, hfilter,
      filter_marks_segmentNodes]
    exact ⟨(flagged_sublist_marks style s).append hsub, rfl⟩

end Marks

end Panel

open Panel

/-- Read as markup, a highlighted name is text and spans of text. Without zero-width spaces the text
is the name, and there is one span for each longest run of consecutive offsets among the positions,
with the characters of the name at these offsets. -/
theorem highlighted_name_reads_back (style : BreakStyle) (name : String) {positions : List Nat}
    (hsorted : positions.Pairwise (· ≤ ·)) :
    ∃ nodes, parse (highlightedName style name positions) = some nodes ∧
      (∀ n ∈ nodes, (∃ c, n = .char c) ∨
        ∃ s, n = .element "span" [("class", "highlight_emphasis")] (Html.text s)) ∧
      joined (content nodes) = joined name.toList ∧
      (emphasised nodes).flatMap joined =
        joined (charsAt name (markedOffsets name positions)) ∧
      (emphasised nodes).map joined =
        ((markedOffsets name positions).splitBy fun i j => j == i + 1).map fun run =>
          joined (charsAt name run) := by
  let runs := (markedOffsets name positions).splitBy fun i j => j == i + 1
  let nodes := (highlightSegments name positions).flatMap (segmentNodes style)
  have hruns : (emphasised nodes).map joined = runs.map fun run => joined (charsAt name run) := by
    have hchars := congrArg (List.map joined) (map_charsAt_splitBy name hsorted)
    rw [List.map_map, List.map_map] at hchars
    rw [emphasised_segments, List.map_map]
    simpa [Function.comp_def, joined_insertBreaks] using hchars.symm
  refine ⟨nodes, parse_eq_some_iff.mpr (runs_highlightedName style name positions),
    fun n hn => mem_segmentNodes hn, joined_content_segments style name positions, ?_, hruns⟩
  have hflatten : runs.flatten = markedOffsets name positions := List.flatten_splitBy _ _
  rw [← hflatten, List.flatMap_def, hruns]
  simp [charsAt, joined, List.filterMap_flatten, Function.comp_def]

/-- Two matched runs, of which one begins with a zero-width space of the name. -/
theorem highlighted_name_reads_back_mixed :
    [0, 2, 2, 3, 9].Pairwise (· ≤ ·) ∧
    ∃ nodes, parse (highlightedName .punctuationAndCase "<a\u200bB&" [0, 2, 2, 3, 9]) = some nodes ∧
      joined (content nodes) = "<aB&".toList ∧
      (emphasised nodes).map joined = ["<".toList, "B".toList] := by
  have hsorted : [0, 2, 2, 3, 9].Pairwise (· ≤ ·) := by decide
  obtain ⟨nodes, hparse, -, hcontent, -, hruns⟩ :=
    highlighted_name_reads_back .punctuationAndCase "<a\u200bB&" hsorted
  exact ⟨hsorted, nodes, hparse, hcontent.trans (by decide +kernel),
    hruns.trans (by decide +kernel)⟩

end DocPages
