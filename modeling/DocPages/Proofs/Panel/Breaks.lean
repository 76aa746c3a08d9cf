import DocPages.Proofs.Panel.Name

/-! Break opportunities of a highlighted name. Breaks are put into each segment for itself, and a
segment does not know the character in front of it. So the breaks are those of the whole name unless
a segment ends in a zero-width space and the next one begins with a break character: then the name
gets a second break where it has one. -/

namespace DocPages

open Segment

namespace Panel

/-- The tags around an emphasised run. -/
def emphasisTags : List (List Char) :=
  ["<span class=\"highlight_emphasis\">".toList, "</span>".toList]

/-- Takes the tags out of a text; `skip` characters still belong to the last one. -/
def eraseTags (tags : List (List Char)) : Nat → List Char → List Char
  | _, [] => []
  | skip + 1, _ :: cs => eraseTags tags skip cs
  | 0, c :: cs =>
    match tags.find? (·.isPrefixOf (c :: cs)) with
    | some tag => eraseTags tags (tag.length - 1) cs
    | none => c :: eraseTags tags 0 cs

def withoutEmphasis (html : String) : String :=
  String.ofList (eraseTags emphasisTags 0 html.toList)

section Tags

variable {tags : List (List Char)}

theorem eraseTags_skip (as bs : List Char) :
    eraseTags tags as.length (as ++ bs) = eraseTags tags 0 bs := by
  induction as with
  | nil => rfl
  | cons a as ih => exact ih

theorem eraseTags_tag {tag cs : List Char} (hne : tag ≠ [])
    (h : tags.find? (·.isPrefixOf (tag ++ cs)) = some tag) :
    eraseTags tags 0 (tag ++ cs) = eraseTags tags 0 cs := by
  obtain ⟨c, tag, rfl⟩ := List.exists_cons_of_ne_nil hne
  rw [List.cons_append] at h ⊢
  rw [eraseTags, h]
  exact eraseTags_skip tag cs

theorem eraseTags_append {x : Char} (htags : ∀ tag ∈ tags, tag.head? = some x) {as : List Char}
    (h : x ∉ as) (bs : List Char) : eraseTags tags 0 (as ++ bs) = as ++ eraseTags tags 0 bs := by
  induction as with
  | nil => rfl
  | cons a as ih =>
    rw [List.mem_cons, not_or] at h
    have hnone : tags.find? (·.isPrefixOf (a :: (as ++ bs))) = none := by
      refine List.find?_eq_none.mpr fun tag htag hstarts => h.1 ?_
      obtain ⟨rest, hrest⟩ := List.isPrefixOf_iff_prefix.mp hstarts
      cases tag with
      | nil => cases htags [] htag
      | cons d tag =>
        have hd : d = x := Option.some.inj (htags _ htag)
        rw [← hd]
        exact (List.cons.inj hrest).1
    rw [List.cons_append, eraseTags, hnone, ih h.2]
    rfl

end Tags

section Erased

variable (style : BreakStyle)

theorem eraseTags_segment (s : Segment) (cs : List Char) :
    eraseTags emphasisTags 0 ((segment style s).toList ++ cs) =
      (text style s.text).toList ++ eraseTags emphasisTags 0 cs := by
  have htags : ∀ tag ∈ emphasisTags, tag.head? = some '<' := by decide +kernel
  have htext := eraseTags_append htags (not_mem_escapeText (insertBreaks style s.text))
  have hopen (bs : List Char) :
      eraseTags emphasisTags 0 ("<span class=\"highlight_emphasis\">".toList ++ bs) =
        eraseTags emphasisTags 0 bs := eraseTags_tag (by decide) rfl
  have hclose (bs : List Char) :
      eraseTags emphasisTags 0 ("</span>".toList ++ bs) = eraseTags emphasisTags 0 bs :=
    eraseTags_tag (by decide) rfl
  rw [segment]
  split
  · rw [String.toList_append, String.toList_append, List.append_assoc, List.append_assoc, hopen,
      text, htext, hclose]
  · exact htext cs

theorem withoutEmphasis_highlightedName (name : String) (positions : List Nat) :
    withoutEmphasis (highlightedName style name positions) = escapeText (String.ofList
      (((highlightSegments name positions).map (·.text.toList)).flatMap (style.spread none))) := by
  have herase (segments : List Segment) :
      eraseTags emphasisTags 0 (segments.flatMap fun s => (segment style s).toList) =
        segments.flatMap fun s => (text style s.text).toList := by
    induction segments with
    | nil => rfl
    | cons s segments ih => rw [List.flatMap_cons, eraseTags_segment, ih, List.flatMap_cons]
  have htext (s : Segment) :
      (text style s.text).toList = (style.spread none s.text.toList).flatMap textChar := by
    rw [text, escapeText, String.toList_ofList, toList_insertBreaks]
  rw [withoutEmphasis, highlightedName, String.toList_join, List.flatMap_map, herase, escapeText,
    String.toList_ofList, List.flatMap_map, List.flatMap_assoc]
  simp only [htext]

end Erased

section Borders

variable {style : BreakStyle}

/-- Neighbours that stand on different sides of a border are no zero-width space with its break
character. -/
def Together (style : BreakStyle) (x y : Char × Bool) : Prop :=
  x.1 = zeroWidthSpace → style.breaksBefore y.1 = true → x.2 = y.2

theorem isChain_flagged (s : Segment) : (flagged s).IsChain (Together style) :=
  (List.isChain_map _).mpr (List.pairwise_of_forall fun _ _ _ _ => rfl).isChain

theorem together_border_iff {a b : Segment} (h : a.isMatch ≠ b.isMatch) :
    (∀ x ∈ (flagged a).getLast?, ∀ y ∈ (flagged b).head?, Together style x y) ↔
      ¬ style.Parts a.text.toList b.text.toList := by
  rw [flagged, flagged, List.getLast?_map, List.head?_map, BreakStyle.Parts]
  cases a.text.toList.getLast? <;> cases b.text.toList.head? <;> simp [Together, h]

theorem isChain_parts_iff {segments : List Segment} (hne : ∀ s ∈ segments, s.text ≠ "")
    (hdiffer : segments.IsChain fun a b => a.isMatch ≠ b.isMatch) :
    (segments.IsChain fun a b => ¬ style.Parts a.text.toList b.text.toList) ↔
      (segments.flatMap flagged).IsChain (Together style) := by
  have hnil : [] ∉ segments.map flagged := by
    intro hmem
    obtain ⟨s, hs, heq⟩ := List.mem_map.mp hmem
    exact hne s hs (by simpa [flagged] using heq)
  have hinner : ∀ l ∈ segments.map flagged, l.IsChain (Together style) :=
    List.forall_mem_map.mpr fun s _ => isChain_flagged s
  rw [List.flatMap_def, List.isChain_flatten hnil, and_iff_right hinner, List.isChain_map]
  rw [List.isChain_iff_getElem] at hdiffer
  rw [List.isChain_iff_getElem, List.isChain_iff_getElem]
  exact forall₂_congr fun i hi => (together_border_iff (hdiffer i hi)).symm

theorem isChain_together_iff (segments : List Segment) :
    (segments.flatMap flagged).IsChain (Together style) ↔
      ∀ i c, (segments.flatMap (·.text.toList))[i]? = some zeroWidthSpace →
        (segments.flatMap (·.text.toList))[i + 1]? = some c → style.breaksBefore c = true →
        (Covers segments i ↔ Covers segments (i + 1)) := by
  have htext : segments.flatMap (·.text.toList) = (segments.flatMap flagged).map (·.1) := by
    simp [List.map_flatMap, flagged, Function.comp_def]
  have hcovers (i : Nat) :
      Covers segments i ↔ (segments.flatMap flagged)[i]?.map (·.2) = some true :=
    covers_iff_getElem? segments i
  simp only [hcovers, htext, List.getElem?_map]
  generalize segments.flatMap flagged = xs
  rw [List.isChain_iff_getElem]
  constructor
  · intro h i c hz hc hb
    obtain ⟨x, hx, hz⟩ := Option.map_eq_some_iff.mp hz
    obtain ⟨y, hy, rfl⟩ := Option.map_eq_some_iff.mp hc
    obtain ⟨hi, rfl⟩ := List.getElem?_eq_some_iff.mp hy
    obtain ⟨hlt, rfl⟩ := List.getElem?_eq_some_iff.mp hx
    have heq : xs[i].2 = xs[i + 1].2 := h i hi hz hb
    rw [hx, hy, Option.map_some, Option.map_some, heq]
  · intro h i hi hz hb
    have hx := List.getElem?_eq_getElem (Nat.lt_of_succ_lt hi)
    have hy := List.getElem?_eq_getElem hi
    have hiff := h i xs[i + 1].1 (by rw [hx, Option.map_some, hz]) (by rw [hy, Option.map_some]) hb
    rw [hx, hy, Option.map_some, Option.map_some, Option.some_inj, Option.some_inj] at hiff
    exact Bool.eq_iff_iff.mpr hiff

end Borders

end Panel

open Panel

theorem escapeText_injective : Function.Injective escapeText := by
  intro a b h
  have hb := Html.runs_escapeText b
  rw [← h] at hb
  have hpair := Option.some.inj ((Html.runs_escapeText a).symm.trans hb)
  have hchars : a.toList.map Html.Token.char = b.toList.map Html.Token.char :=
    congrArg Prod.fst hpair
  have hinj : Function.Injective Html.Token.char := fun c d hcd => Html.Token.char.inj hcd
  exact String.toList_inj.mp (hinj.list_map hchars)

theorem escapeText_sublist {a b : String} (h : a.toList.Sublist b.toList) :
    (escapeText a).toList.Sublist (escapeText b).toList := by
  rw [escapeText, escapeText, String.toList_ofList, String.toList_ofList]
  generalize a.toList = as, b.toList = bs at h
  induction h with
  | slnil => exact .slnil
  | cons c h ih =>
    rw [List.flatMap_cons]
    exact ih.trans (List.sublist_append_right _ _)
  | cons_cons c h ih =>
    rw [List.flatMap_cons, List.flatMap_cons]
    exact ih.append_left _

/-- Without its tags a highlighted name is the name with its breaks exactly if no zero-width space
of the name is marked differently from a break character directly behind it. That cannot happen in a
name without such spaces, and never is a break lost. -/
theorem highlight_keeps_breaks_iff (style : BreakStyle) (name : String) (positions : List Nat) :
    (withoutEmphasis (highlightedName style name positions) =
        escapeText (insertBreaks style name) ↔
      ∀ i c, name.toList[i]? = some zeroWidthSpace → name.toList[i + 1]? = some c →
        style.breaksBefore c = true →
        (Covers (highlightSegments name positions) i ↔
          Covers (highlightSegments name positions) (i + 1))) ∧
    (zeroWidthSpace ∉ name.toList →
      withoutEmphasis (highlightedName style name positions) =
        escapeText (insertBreaks style name)) ∧
    (escapeText (insertBreaks style name)).toList.Sublist
      (withoutEmphasis (highlightedName style name positions)).toList := by
  have hne := fun s => ne_empty_of_mem_highlightSegments name positions (s := s)
  have hpieces : ∀ as ∈ (highlightSegments name positions).map (·.text.toList), as ≠ [] := by
    refine List.forall_mem_map.mpr fun s hs => ?_
    simpa using hne s hs
  have hflatten :
      ((highlightSegments name positions).map (·.text.toList)).flatten = name.toList := by
    rw [← List.flatMap_def, flatMap_highlightSegments]
  have hiff : withoutEmphasis (highlightedName style name positions) =
        escapeText (insertBreaks style name) ↔
      ∀ i c, name.toList[i]? = some zeroWidthSpace → name.toList[i + 1]? = some c →
        style.breaksBefore c = true →
        (Covers (highlightSegments name positions) i ↔
          Covers (highlightSegments name positions) (i + 1)) := by
    rw [withoutEmphasis_highlightedName, escapeText_injective.eq_iff, insertBreaks_eq,
      String.ofList_inj, ← hflatten, BreakStyle.flatMap_spread_eq_iff hpieces, List.isChain_map,
      isChain_parts_iff hne (isChain_highlightSegments name positions), isChain_together_iff,
      List.flatMap_def]
  refine ⟨hiff, fun hnot => hiff.mpr fun i c hz => ?_, ?_⟩
  · exact absurd (List.mem_of_getElem? hz) hnot
  · rw [withoutEmphasis_highlightedName]
    refine escapeText_sublist ?_
    rw [toList_insertBreaks, String.toList_ofList, ← hflatten]
    exact style.spread_sublist_flatMap _

/-- A name with a break of its own, which stands in the middle of a marked run. -/
theorem highlight_keeps_breaks_inside :
    zeroWidthSpace ∉ "Some_Name".toList ∧
    withoutEmphasis (highlightedName .punctuation "Some_Name" [4, 7]) = "Some\u200b_Name" ∧
    withoutEmphasis (highlightedName .punctuation "a\u200b.b" [1, 2]) = "a\u200b.b" := by
  have hnot : zeroWidthSpace ∉ "Some_Name".toList := by decide +kernel
  obtain ⟨-, hplain, -⟩ := highlight_keeps_breaks_iff .punctuation "Some_Name" [4, 7]
  exact ⟨hnot, (hplain hnot).trans (by decide +kernel), by decide +kernel⟩

/-- A break that is there is put in again if the match begins behind it. -/
theorem highlight_doubles_break :
    withoutEmphasis (highlightedName .punctuation "a\u200b.b" [2]) = "a\u200b\u200b.b" ∧
    escapeText (insertBreaks .punctuation "a\u200b.b") = "a\u200b.b" := by
  decide +kernel

end DocPages
