import DocPages.Panel
import DocPages.Proofs.Highlight.Segments
import DocPages.Proofs.Html.Tree
import DocPages.Proofs.Text.Breaks

/-! The result panel as a reader of markup sees it. Links, owners and names only ever become text
and attribute values, so the panel has one block for each result that is shown, whatever they
hold. -/

namespace DocPages

open Html Html.Node

namespace Panel

/-- Text without its break opportunities. -/
def joined (cs : List Char) : List Char := cs.filter (· != zeroWidthSpace)

theorem joined_insertBreaks (style : BreakStyle) (s : String) :
    joined (insertBreaks style s).toList = joined s.toList := by
  rw [toList_insertBreaks]
  exact (style.thinned_spread none s.toList).filter_eq

def segmentNodes (style : BreakStyle) (s : Segment) : List Node :=
  if s.isMatch then
    [.element "span" [("class", "highlight_emphasis")] (Html.text (insertBreaks style s.text))]
  else Html.text (insertBreaks style s.text)

def nameNodes (style : BreakStyle) (r : Ranked) : List Node :=
  (highlightSegments r.entry.name r.positions).flatMap (segmentNodes style)

def resultClass (border : Bool) : String :=
  if border then "search_result search_result_border" else "search_result"

def blockNode (style : BreakStyle) (border : Bool) (r : Ranked) (name summary : List Node) : Node :=
  .element "a" [("href", r.entry.link), ("class", "search_result_link")]
    [.element "div" [("class", resultClass border)]
      [.element "div" [("class", "search_text search_kind")] (Html.text r.entry.kind.label),
        .element "div" [("class", "search_text search_name")]
          (Html.text (insertBreaks style r.entry.owner) ++
            [.element "span" [("class", r.entry.kind.cssClass)] name]),
        .element "div" [("class", "search_text search_desc")] summary]]

section Name

theorem content_segmentNodes (style : BreakStyle) (s : Segment) :
    content (segmentNodes style s) = (insertBreaks style s.text).toList := by
  rw [segmentNodes]
  split
  · rw [content_element, content_text]
  · rw [content_text]

theorem joined_flatMap {α : Type} (xs : List α) (f : α → List Char) :
    joined (xs.flatMap f) = xs.flatMap fun x => joined (f x) :=
  List.filter_flatMap

theorem joined_content_segments (style : BreakStyle) (name : String) (positions : List Nat) :
    joined (content ((highlightSegments name positions).flatMap (segmentNodes style))) =
      joined name.toList := by
  rw [content_flatMap, joined_flatMap, ← flatMap_highlightSegments name positions, joined_flatMap]
  simp only [content_segmentNodes, joined_insertBreaks]

theorem joined_content_nameNodes (style : BreakStyle) (r : Ranked) :
    joined (content (nameNodes style r)) = joined r.entry.name.toList :=
  joined_content_segments style r.entry.name r.positions

theorem mem_segmentNodes {style : BreakStyle} {segments : List Segment} {n : Node}
    (h : n ∈ segments.flatMap (segmentNodes style)) :
    (∃ c, n = .char c) ∨
      ∃ s, n = .element "span" [("class", "highlight_emphasis")] (Html.text s) := by
  rw [List.mem_flatMap] at h
  obtain ⟨s, -, hs⟩ := h
  rw [segmentNodes] at hs
  split at hs
  · exact .inr ⟨_, List.mem_singleton.mp hs⟩
  · obtain ⟨c, -, hc⟩ := List.mem_map.mp hs
    exact .inl ⟨c, hc.symm⟩

theorem mem_nameNodes {style : BreakStyle} {r : Ranked} {n : Node} (h : n ∈ nameNodes style r) :
    (∃ c, n = .char c) ∨
      ∃ s, n = .element "span" [("class", "highlight_emphasis")] (Html.text s) :=
  mem_segmentNodes h

end Name

section Runs

variable (style : BreakStyle)

theorem runs_text (s : String) :
    Runs .data (text style s) (tokensAll (Html.text (insertBreaks style s))) .data := by
  rw [tokensAll_text]
  exact runs_escapeText _

theorem runs_segment (s : Segment) :
    Runs .data (segment style s) (tokensAll (segmentNodes style s)) .data := by
  rw [segment, segmentNodes]
  split
  · have hopen : Runs .data "<span class=\"highlight_emphasis\">"
        [.opening "span" [("class", "highlight_emphasis")]] .data := .text rfl
    have hclose : Runs .data "</span>" [.closing "span"] .data := .text rfl
    refine ((hopen.append (runs_text style s.text)).append hclose).of_eq ?_
    simp [tokensAll, tokens]
  · exact runs_text style s.text

theorem runs_highlightedName (name : String) (positions : List Nat) :
    Runs .data (highlightedName style name positions)
      (tokensAll ((highlightSegments name positions).flatMap (segmentNodes style))) .data :=
  runs_join fun s _ => runs_segment style s

theorem runs_block (border : Bool) (r : Ranked) {summary : List Node}
    (hsummary : Runs .data r.entry.summary (tokensAll summary) .data) :
    Runs .data (block style border r)
      (blockNode style border r (nameNodes style r) summary).tokens .data := by
  have hhref : Runs .data "<a href=\"" [] (.inValue "a" [] "href" []) := .text rfl
  have hlink (link : List Char) : Runs (.inValue "a" [] "href" link)
      "\" class=\"search_result_link\"><div class=\"search_result"
      [.opening "a" [("href", String.ofList link), ("class", "search_result_link")]]
      (.inValue "div" [] "class" "search_result".toList) := .text rfl
  have hborder : Runs (.inValue "div" [] "class" "search_result".toList)
      (if border then " search_result_border" else "") []
      (.inValue "div" [] "class" (resultClass border).toList) := by
    cases border
    · exact .text rfl
    · exact .text rfl
  have hkind (cls : List Char) : Runs (.inValue "div" [] "class" cls)
      "\"><div class=\"search_text search_kind\">"
      [.opening "div" [("class", String.ofList cls)],
        .opening "div" [("class", "search_text search_kind")]] .data := .text rfl
  have hname : Runs .data "</div><div class=\"search_text search_name\">"
      [.closing "div", .opening "div" [("class", "search_text search_name")]] .data := .text rfl
  have hspan : Runs .data "<span class=\"" [] (.inValue "span" [] "class" []) := .text rfl
  have hcss (cls : List Char) : Runs (.inValue "span" [] "class" cls) "\">"
      [.opening "span" [("class", String.ofList cls)]] .data := .text rfl
  have hdesc : Runs .data "</span></div><div class=\"search_text search_desc\">"
      [.closing "span", .closing "div", .opening "div" [("class", "search_text search_desc")]]
      .data := .text rfl
  have hend : Runs .data "</div></div></a>" [.closing "div", .closing "div", .closing "a"] .data :=
    .text rfl
  have hlabel : Runs .data r.entry.kind.label (chars r.entry.kind.label.toList) .data :=
    runs_plainText (by cases r.entry.kind <;> decide +kernel)
  have hclass := runs_plainAttr "span" [] "class" []
    (show escapeAttr r.entry.kind.cssClass = r.entry.kind.cssClass by
      cases r.entry.kind <;> decide +kernel)
  have hhead := ((hhref.append (runs_escapeAttr _ _ _ r.entry.link)).append (hlink _)).append
    hborder
  have hbody := (((hhead.append (hkind _)).append hlabel).append hname).append
    (runs_text style r.entry.owner)
  have hnamed := ((hbody.append hspan).append hclass).append (hcss _)
  have hmarked := runs_highlightedName style r.entry.name r.positions
  refine ((((hnamed.append hmarked).append hdesc).append hsummary).append
    hend).of_eq ?_
  simp [blockNode, nameNodes, tokens, tokensAll]

theorem blocks_eq (rs : List Ranked) :
    blocks style rs = rs.zipIdx.map fun x => block style (x.2 + 1 < rs.length) x.1 := by
  fun_induction blocks style rs with
  | case1 => rfl
  | case2 r => rfl
  | case3 r rs hne ih =>
    have hlength : 0 < rs.length := List.length_pos_iff.mpr hne
    rw [ih, List.zipIdx_cons, List.map_cons, List.zipIdx_succ, List.map_map]
    simp [hlength, Function.comp_def]

theorem runs_blocks {rs : List Ranked} {summary : Ranked → List Node}
    (h : ∀ r ∈ rs, Runs .data r.entry.summary (tokensAll (summary r)) .data) :
    Runs .data (String.join (blocks style rs)) (tokensAll (rs.zipIdx.map fun x =>
      blockNode style (x.2 + 1 < rs.length) x.1 (nameNodes style x.1) (summary x.1))) .data := by
  rw [List.map_eq_flatMap, blocks_eq]
  refine runs_join fun x hx => ?_
  have hblock := runs_block style (x.2 + 1 < rs.length) x.1 (h x.1 (List.fst_mem_of_mem_zipIdx hx))
  rw [tokensAll, tokensAll, List.append_nil]
  exact hblock

theorem runs_panel {id inner : String} {ns : List Node}
    (h : Runs .data inner (tokensAll ns) .data) :
    Runs .data ("<div id=\"" ++ escapeAttr id ++ "\">" ++ inner ++ "</div>")
      (tokensAll [.element "div" [("id", id)] ns]) .data := by
  have hopen : Runs .data "<div id=\"" [] (.inValue "div" [] "id" []) := .text rfl
  have hid (value : List Char) : Runs (.inValue "div" [] "id" value) "\">"
      [.opening "div" [("id", String.ofList value)]] .data := .text rfl
  have hclose : Runs .data "</div>" [.closing "div"] .data := .text rfl
  refine ((((hopen.append (runs_escapeAttr _ _ _ id)).append (hid _)).append h).append
    hclose).of_eq ?_
  simp [tokens, tokensAll]

end Runs

end Panel

open Panel

/-- Read as markup, a panel is one element with the id of the panel and a block for each result that
is shown. The summary of a result stands in its block as it is; all other texts of a result are
texts and attribute values there. -/
theorem panel_blocks_of_results (config : Config) {results : List Ranked} (hne : results ≠ [])
    (hsummary : ∀ r ∈ results, (parse r.entry.summary).isSome) :
    ∃ html blocks, panelHtml config results = some html ∧
      parse html = some [.element "div" [("id", config.ids.searchResults)] blocks] ∧
      blocks.length = min results.length (min config.maxResults 10) ∧
      ∀ i block, blocks[i]? = some block → ∃ r name summary,
        results[i]? = some r ∧ parse r.entry.summary = some summary ∧
        block = blockNode config.breakStyle (i + 1 < blocks.length) r name summary ∧
        joined (content name) = joined r.entry.name.toList ∧
        ∀ n ∈ name, (∃ c, n = .char c) ∨
          ∃ s, n = .element "span" [("class", "highlight_emphasis")] (Html.text s) := by
  let shown := results.take config.limit
  let summary (r : Ranked) : List Node := (parse r.entry.summary).getD []
  have hparse (r : Ranked) (hr : r ∈ shown) : parse r.entry.summary = some (summary r) := by
    obtain ⟨ns, hns⟩ := Option.isSome_iff_exists.mp (hsummary r (List.mem_of_mem_take hr))
    simp [summary, hns]
  have hruns := runs_blocks config.breakStyle fun r hr => parse_eq_some_iff.mp (hparse r hr)
  refine ⟨_, _, ?_, parse_eq_some_iff.mpr (runs_panel hruns), ?_, ?_⟩
  · rw [panelHtml, if_neg (by simpa using hne)]
  · simp [shown, Config.limit, maxShown, Nat.min_comm]
  · intro i block hblock
    rw [List.getElem?_map, Option.map_eq_some_iff] at hblock
    obtain ⟨x, hx, rfl⟩ := hblock
    rw [List.getElem?_zipIdx, Option.map_eq_some_iff] at hx
    obtain ⟨r, hr, hpair⟩ := hx
    cases hpair
    have hget : results[i]? = some r := by
      rw [List.getElem?_take] at hr
      split at hr
      · exact hr
      · cases hr
    refine ⟨r, nameNodes config.breakStyle r, summary r, hget,
      hparse r (List.mem_of_getElem? hr), ?_, joined_content_nameNodes _ r,
      fun n hn => mem_nameNodes hn⟩
    simp

/-- A result whose texts try to leave their places. -/
def hostileResult : Ranked where
  entry := {
    owner := "</div>&lt;."
    name := "<b onclick=\"x\">_&amp;"
    link := "\"><script>'&quot;</script>"
    summary := "<p title='\"'>1 < 2 &amp; <br/></p>"
    kind := .enumerator }
  score := ⟨0⟩
  positions := [0, 1, 16]

theorem panel_blocks_of_hostile_results :
    [hostileResult, hostileResult] ≠ [] ∧
    (∀ r ∈ [hostileResult, hostileResult], (parse r.entry.summary).isSome) ∧
    ∃ html blocks name summary, panelHtml .default [hostileResult, hostileResult] = some html ∧
      parse html = some [.element "div" [("id", "search_results")] blocks] ∧ blocks.length = 2 ∧
      blocks[0]? = some (blockNode .punctuationAndCase true hostileResult name summary) := by
  have hne : [hostileResult, hostileResult] ≠ [] := by simp
  have hsummary : ∀ r ∈ [hostileResult, hostileResult], (parse r.entry.summary).isSome := by
    have hparse : (parse hostileResult.entry.summary).isSome := by decide +kernel
    simp [hparse]
  obtain ⟨html, blocks, hhtml, hparse, hlength, hblocks⟩ :=
    panel_blocks_of_results .default hne hsummary
  have hlength : blocks.length = 2 := hlength
  obtain ⟨block, hblock⟩ : ∃ block, blocks[0]? = some block :=
    ⟨blocks[0], List.getElem?_eq_getElem (by omega)⟩
  obtain ⟨r, name, summary, hr, -, rfl, -⟩ := hblocks 0 block hblock
  cases hr
  rw [hlength] at hblock
  exact ⟨hne, hsummary, html, blocks, name, summary, hhtml, hparse, hlength, hblock⟩

end DocPages
