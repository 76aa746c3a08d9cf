import DocPages.Proofs.Html.Elements
import DocPages.Proofs.Panel.Tree

/-! The result panel around its descriptions. A description may be any markup, so it can do anything
to what stands behind it; what the panel itself writes is what is left when all description fields
are empty. -/

namespace DocPages

open Html Html.Node

namespace Panel

def descField (summary : String) : String :=
  "<div class=\"search_text search_desc\">" ++ summary ++ "</div>"

/-- Markup with some descriptions in description fields, and the same markup with these fields
empty. -/
inductive Described : String → List String → String → Prop
  | plain (s : String) : Described s [] s
  | field (summary : String) : Described (descField summary) [summary] (descField "")
  | append {a b frame more : String} {xs ys : List String} :
      Described a xs frame → Described b ys more → Described (a ++ b) (xs ++ ys) (frame ++ more)

def blank (r : Ranked) : Ranked := { r with entry := { r.entry with summary := "" } }

def isResultLink (e : Element) : Bool := e.name == "a" && e.hasClass "search_result_link"

section Described

variable (style : BreakStyle)

/-- The description is the only part of a block that looks at the summary. -/
theorem exists_block_eq (border : Bool) (r : Ranked) :
    ∃ before, block style border r = before ++ descField r.entry.summary ++ "</div></a>" ∧
      block style border (blank r) = before ++ descField "" ++ "</div></a>" := by
  have hopen : "</span></div><div class=\"search_text search_desc\">" =
      "</span></div>" ++ "<div class=\"search_text search_desc\">" := rfl
  have hclose : "</div></div></a>" = "</div>" ++ "</div></a>" := rfl
  have hassoc (a b c e before summary : String) : before ++ (a ++ b) ++ summary ++ (c ++ e) =
      (before ++ a) ++ (b ++ summary ++ c) ++ e := by
    simp only [String.append_assoc]
  have hparts (before summary : String) :
      before ++ "</span></div><div class=\"search_text search_desc\">" ++ summary ++
        "</div></div></a>" = (before ++ "</span></div>") ++ descField summary ++ "</div></a>" :=
    (congrArg₂ (fun a b => before ++ a ++ summary ++ b) hopen hclose).trans (hassoc _ _ _ _ _ _)
  exact ⟨_, hparts _ r.entry.summary, hparts _ ""⟩

theorem described_block (border : Bool) (r : Ranked) :
    Described (block style border r) [r.entry.summary] (block style border (blank r)) := by
  obtain ⟨before, hblock, hblank⟩ := exists_block_eq style border r
  rw [hblock, hblank]
  exact ((Described.plain before).append (.field r.entry.summary)).append (.plain "</div></a>")

theorem described_blocks (rs : List Ranked) :
    Described (String.join (blocks style rs)) (rs.map (·.entry.summary))
      (String.join (blocks style (rs.map blank))) := by
  fun_induction blocks style rs with
  | case1 => exact .plain ""
  | case2 r =>
    simp only [List.map_cons, List.map_nil, blocks, String.join_cons, String.join_nil,
      String.append_empty]
    exact described_block style false r
  | case3 r rs hne ih =>
    have hblank : blocks style ((r :: rs).map blank) =
        block style true (blank r) :: blocks style (rs.map blank) := by
      cases rs with
      | nil => exact absurd rfl hne
      | cons r' rs => rfl
    rw [hblank, String.join_cons, String.join_cons, List.map_cons]
    exact (described_block style true r).append ih

theorem select_nameNodes (r : Ranked) : select isResultLink (nameNodes style r) = [] := by
  rw [nameNodes]
  induction highlightSegments r.entry.name r.positions with
  | nil => rfl
  | cons s segments ih =>
    have hs : select isResultLink (segmentNodes style s) = [] := by
      rw [segmentNodes]
      split
      · rw [select_element, select_text]
        rfl
      · exact select_text _ _
    rw [List.flatMap_cons, select_append, hs, ih]
    rfl

/-- A block is one link to a result, and no other, if its description holds none. -/
theorem length_select_blockNode (border : Bool) (r : Ranked) :
    (select isResultLink [blockNode style border r (nameNodes style r) []]).length = 1 := by
  have hlink (content : List Char) : isResultLink
      ⟨"a", [("href", r.entry.link), ("class", "search_result_link")], content⟩ = true := by
    have hwords : words "search_result_link" = ["search_result_link"] := by decide +kernel
    simp [isResultLink, Element.hasClass, Element.classes, Element.attr?, List.lookup_cons, hwords]
  have hdiv (attrs : Attrs) (children : List Node) :
      select isResultLink [.element "div" attrs children] = select isResultLink children := by
    rw [select_element]
    rfl
  have hspan (attrs : Attrs) (children : List Node) :
      select isResultLink [.element "span" attrs children] = select isResultLink children := by
    rw [select_element]
    rfl
  have hsplit (a b c : Node) : select isResultLink [a, b, c] =
      select isResultLink [a] ++ select isResultLink [b] ++ select isResultLink [c] := by
    rw [select_cons, select_cons isResultLink b, List.append_assoc]
  rw [blockNode, select_element, List.filter_cons_of_pos (hlink _), hdiv, hsplit, hdiv, hdiv, hdiv,
    select_text, select_append, select_text, hspan, select_nameNodes]
  rfl

theorem length_select_map {α : Type} {p : Element → Bool} {f : α → Node}
    (h : ∀ x, (select p [f x]).length = 1) (xs : List α) :
    (select p (xs.map f)).length = xs.length := by
  induction xs with
  | nil => rfl
  | cons x xs ih =>
    rw [List.map_cons, select_cons, List.length_append, h, ih, List.length_cons, Nat.add_comm]

end Described

end Panel

open Panel

/-- Around its descriptions, the panel has one link for each result that it shows. -/
theorem exists_panel_links (config : Config) {results : List Ranked} (h : results ≠ []) :
    ∃ html frame nodes, panelHtml config results = some html ∧
      Described html ((results.take config.limit).map (·.entry.summary)) frame ∧
      parse frame = some nodes ∧
      (select isResultLink nodes).length = min results.length config.limit := by
  let shown := results.take config.limit
  have hruns := @runs_blocks config.breakStyle (shown.map blank) (fun _ => []) fun r hr => by
    obtain ⟨r', -, rfl⟩ := List.mem_map.mp hr
    exact .text rfl
  refine ⟨_, _, _, by rw [panelHtml, if_neg (by simpa using h)], ?_,
    parse_eq_some_iff.mpr (@runs_panel config.ids.searchResults _ _ hruns), ?_⟩
  · have hframe := ((Described.plain ("<div id=\"" ++ escapeAttr config.ids.searchResults ++
      "\">")).append (described_blocks config.breakStyle shown)).append (.plain "</div>")
    rw [List.nil_append, List.append_nil] at hframe
    exact hframe
  · have hblocks := length_select_map (fun x : Ranked × Nat => length_select_blockNode
      config.breakStyle (x.2 + 1 < (shown.map blank).length) x.1) (shown.map blank).zipIdx
    rw [select_element, List.length_append, hblocks]
    simp [shown, isResultLink, Nat.min_comm]

end DocPages
