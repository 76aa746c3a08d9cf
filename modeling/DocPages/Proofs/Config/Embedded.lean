import DocPages.Browser.Start
import DocPages.Proofs.Config.Guarded

/-! The configuration block of a generated page. It stands in front of the module script exactly if
there is something to tell, ends at the first closing script tag, and gives the page that starts
from it the configuration it was generated with. -/

namespace DocPages

/-- The text in front of the first occurrence of a mark, and the text behind it. -/
def cutAt? (mark : List Char) : List Char → Option (List Char × List Char)
  | [] => none
  | c :: cs =>
    if mark.isPrefixOf (c :: cs) then some ([], (c :: cs).drop mark.length)
    else (cutAt? mark cs).map fun x => (c :: x.1, x.2)

section Cut

variable {x y : Char} {as bs mark : List Char}

/-- A text without the first two characters of the mark is passed over. -/
theorem cutAt?_append_of_lacks (h : Lacks x y as)
    (hjoin : as.getLast? ≠ some x ∨ bs.head? ≠ some y) :
    cutAt? (x :: y :: mark) (as ++ bs) =
      (cutAt? (x :: y :: mark) bs).map fun z => (as ++ z.1, z.2) := by
  induction as with
  | nil => simp
  | cons a as ih =>
    have hstep : (x :: y :: mark).isPrefixOf (a :: (as ++ bs)) = false := by
      rw [← Bool.not_eq_true, List.isPrefixOf_iff_prefix]
      rintro ⟨rest, hrest⟩
      obtain ⟨rfl, htail⟩ := List.cons.inj hrest
      cases as with
      | nil =>
        refine hjoin.elim (fun hne => hne rfl) fun hne => hne ?_
        rw [← List.nil_append bs, ← htail]
        rfl
      | cons b as =>
        exact (List.isChain_cons_cons.mp h).1 ⟨rfl, (List.cons.inj htail).1.symm⟩
    have hrest : as.getLast? ≠ some x ∨ bs.head? ≠ some y := by
      cases as with
      | nil => exact .inl nofun
      | cons b as => simpa using hjoin
    rw [List.cons_append, cutAt?, hstep, ih (List.IsChain.tail h) hrest]
    simp [Option.map_map, Function.comp_def]

theorem cutAt?_mark (c : Char) (mark bs : List Char) :
    cutAt? (c :: mark) (c :: mark ++ bs) = some ([], bs) := by
  have hpre : (c :: mark).isPrefixOf (c :: (mark ++ bs)) = true := by
    rw [List.isPrefixOf_iff_prefix]
    exact ⟨bs, rfl⟩
  rw [List.cons_append, cutAt?, hpre]
  simp

theorem exists_cutAt? (hm : mark ≠ []) (h : mark <:+: as) : ∃ z, cutAt? mark as = some z := by
  induction as with
  | nil => exact absurd (List.infix_nil.mp h) hm
  | cons a as ih =>
    rw [cutAt?]
    split
    · exact ⟨_, rfl⟩
    · rename_i hpre
      rcases List.infix_cons_iff.mp h with hp | hin
      · exact absurd (List.isPrefixOf_iff_prefix.mpr hp) hpre
      · obtain ⟨z, hz⟩ := ih hin
        rw [hz]
        exact ⟨_, rfl⟩

end Cut

namespace PageShell

def configOpening : String := "<script id=\"doc_site_config\" type=\"application/json\">"

def moduleOpening : String := "<script type=\"module\">"

/-- The page up to its first script. -/
def lead (s : PageShell) : String :=
  "<!DOCTYPE html>\n<html lang=\"en\">\n<head>\n  <meta charset=\"UTF-8\">\n  " ++
    ("<meta name=\"viewport\" content=\"width=device-width, initial-scale=1.0\">\n  <title>" ++
    (escapeText s.title ++ ("</title>\n  <link rel=\"stylesheet\" href=\"" ++
    (escapeAttr s.stylesheet ++ "\">"))))

/-- The page behind the start of the module script. -/
def trail (s : PageShell) : String :=
  escapeAttr s.script ++ "\"; init();</script>\n</head>\n<body>\n  <header>" ++
    Markup.headerButton s.config.ids ++ "<h1>" ++ escapeText s.title ++ "</h1></header>\n  " ++
    Markup.sidebar s.config.ids s.sidebar ++ "\n  <main>\n    " ++ Markup.searchBox s.config.ids ++
    "\n    " ++ s.content ++ "\n  </main>\n</body>\n</html>"

theorem render_eq (s : PageShell) :
    s.render = s.lead ++ configBlock s.config ++
      "\n  <script type=\"module\">import init from \"" ++ s.trail := by
  unfold render lead trail
  simp only [String.append_assoc]

theorem toList_render (s : PageShell) :
    ∃ rest, s.render.toList = s.lead.toList ++ (configBlock s.config).toList ++
      ("\n  ".toList ++ (moduleOpening.toList ++ rest)) := by
  refine ⟨"import init from \"".toList ++ s.trail.toList, ?_⟩
  have hscript : "\n  <script type=\"module\">import init from \"".toList =
      "\n  ".toList ++ (moduleOpening.toList ++ "import init from \"".toList) := by
    rw [moduleOpening]
    repeat rw [String.toList_ofList]
    rfl
  rw [render_eq, String.toList_append, String.toList_append, String.toList_append, hscript]
  simp only [List.append_assoc]

theorem toList_configBlock {c : Config} (h : c ≠ .default) :
    (configBlock c).toList = "\n  ".toList ++ (configOpening.toList ++ (guardClosers c.write ++
      ("</script".toList ++ ['>']))) := by
  have hopen : "\n  <script id=\"".toList ++ (configElementId.toList ++
      "\" type=\"application/json\">".toList) = "\n  ".toList ++ configOpening.toList := by
    rw [configElementId, configOpening]
    repeat rw [String.toList_ofList]
    rfl
  have hclose : "</script>".toList = "</script".toList ++ ['>'] := by
    repeat rw [String.toList_ofList]
    rfl
  have hjson : (escapeScript c.toJson).toList = guardClosers c.write := by
    rw [escapeScript, Config.toJson, String.toList_ofList, String.toList_ofList]
  rw [configBlock, if_neg h, String.toList_append, String.toList_append, String.toList_append,
    String.toList_append, List.append_assoc "\n  <script id=\"".toList, hopen, hclose, hjson]
  simp only [List.append_assoc]

/-- In front of the scripts no tag starts with an `s`. -/
theorem lacks_lead (s : PageShell) : Lacks '<' 's' (s.lead.toList ++ "\n  ".toList) := by
  have happend {a b : String} (ha : Lacks '<' 's' a.toList) (hlast : a.toList.getLast? ≠ some '<')
      (hb : Lacks '<' 's' b.toList) : Lacks '<' 's' (a ++ b).toList := by
    rw [String.toList_append]
    exact ha.append hb (.inl hlast)
  have hescaped {a b : String} (ha : '<' ∉ a.toList) (hb : Lacks '<' 's' b.toList) :
      Lacks '<' 's' (a ++ b).toList :=
    happend (lacks_of_not_mem ha) (fun hlast => ha (List.mem_of_getLast? hlast)) hb
  refine .append (happend ?_ ?_ (happend ?_ ?_ (hescaped (not_mem_escapeText _) (happend ?_ ?_
    (hescaped (not_mem_escapeAttr _) ?_))))) ?_ (.inr ?_)
  all_goals
    rw [String.toList_ofList]
    decide +kernel

theorem configOpening_eq : ∃ mark, configOpening.toList = '<' :: 's' :: mark := by
  rw [configOpening, String.toList_ofList]
  exact ⟨_, rfl⟩

theorem moduleOpening_eq : ∃ mark, moduleOpening.toList = '<' :: 's' :: mark := by
  rw [moduleOpening, String.toList_ofList]
  exact ⟨_, rfl⟩

theorem cutAt?_render_of_default {s : PageShell} (h : s.config = .default) :
    ∃ after, cutAt? moduleOpening.toList s.render.toList =
      some (s.lead.toList ++ "\n  ".toList, after) := by
  obtain ⟨rest, hrender⟩ := s.toList_render
  obtain ⟨mark, hmark⟩ := moduleOpening_eq
  have hblock : (configBlock s.config).toList = [] := by
    rw [configBlock, if_pos h]
    exact String.toList_empty
  refine ⟨rest, ?_⟩
  rw [hrender, hblock, hmark, List.append_nil, ← List.append_assoc, List.cons_append,
    cutAt?_append_of_lacks s.lacks_lead (.inr (by simp)), ← List.cons_append, cutAt?_mark]
  simp

theorem toList_render_of_ne_default {s : PageShell} (h : s.config ≠ .default) :
    ∃ rest, s.render.toList = (s.lead.toList ++ "\n  ".toList) ++ (configOpening.toList ++
      (guardClosers s.config.write ++ ("</script".toList ++
        ('>' :: ("\n  ".toList ++ (moduleOpening.toList ++ rest)))))) := by
  obtain ⟨rest, hrender⟩ := s.toList_render
  refine ⟨rest, ?_⟩
  rw [hrender, toList_configBlock h]
  simp only [List.append_assoc, List.cons_append, List.nil_append]

/-- The first configuration block is the page's own, and the module script follows it. -/
theorem cutAt?_render_of_ne_default {s : PageShell} (h : s.config ≠ .default) :
    ∃ rest, cutAt? configOpening.toList s.render.toList =
      some (s.lead.toList ++ "\n  ".toList, guardClosers s.config.write ++
        ("</script".toList ++ ('>' :: ("\n  ".toList ++ (moduleOpening.toList ++ rest))))) := by
  obtain ⟨rest, hrender⟩ := toList_render_of_ne_default h
  obtain ⟨mark, hmark⟩ := configOpening_eq
  refine ⟨rest, ?_⟩
  rw [hrender, hmark, List.cons_append, cutAt?_append_of_lacks s.lacks_lead (.inr (by simp)),
    ← List.cons_append, cutAt?_mark]
  simp

theorem cutAt?_guardClosers (cs after : List Char) :
    cutAt? "</script".toList (guardClosers cs ++ ("</script".toList ++ after)) =
      some (guardClosers cs, after) := by
  have hmark : "</script".toList = '<' :: '/' :: "script".toList := by
    repeat rw [String.toList_ofList]
  rw [hmark, List.cons_append, cutAt?_append_of_lacks (lacks_guardClosers cs) (.inr (by simp)),
    ← List.cons_append, cutAt?_mark]
  simp

/-- A module script is first looked for behind the opening tag of a configuration block. -/
theorem cutAt?_configOpening (rest : List Char) :
    cutAt? moduleOpening.toList (configOpening.toList ++ rest) =
      (cutAt? moduleOpening.toList rest).map fun z => (configOpening.toList ++ z.1, z.2) := by
  rw [moduleOpening, configOpening, String.toList_ofList, String.toList_ofList]
  simp [cutAt?, Option.map_map, Function.comp_def]

theorem configOpening_infix_iff (s : PageShell) :
    ∃ before after, cutAt? moduleOpening.toList s.render.toList = some (before, after) ∧
      (configOpening.toList <:+: before ↔ s.config ≠ .default) := by
  by_cases h : s.config = .default
  · obtain ⟨after, hcut⟩ := cutAt?_render_of_default h
    refine ⟨_, after, hcut, ⟨fun hin => ?_, fun hne => absurd h hne⟩⟩
    obtain ⟨mark, hmark⟩ := configOpening_eq
    rw [hmark] at hin
    exact absurd hin s.lacks_lead.not_infix
  · obtain ⟨rest, hrender⟩ := toList_render_of_ne_default h
    obtain ⟨mark, hmark⟩ := moduleOpening_eq
    obtain ⟨z, hz⟩ : ∃ z, cutAt? moduleOpening.toList (guardClosers s.config.write ++
        ("</script".toList ++ ('>' :: ("\n  ".toList ++ (moduleOpening.toList ++ rest))))) =
          some z := by
      refine exists_cutAt? (by simp [hmark]) ⟨guardClosers s.config.write ++
        ("</script".toList ++ ('>' :: "\n  ".toList)), rest, ?_⟩
      simp only [List.append_assoc, List.cons_append]
    refine ⟨s.lead.toList ++ "\n  ".toList ++ (configOpening.toList ++ z.1), z.2, ?_, ?_⟩
    · rw [hrender, hmark, cutAt?_append_of_lacks s.lacks_lead (.inl ?_), ← hmark,
        cutAt?_configOpening, hz]
      · rfl
      · rw [String.toList_ofList, List.getLast?_append]
        simp
    · refine ⟨fun _ => h, fun _ => ?_⟩
      exact ⟨s.lead.toList ++ "\n  ".toList, z.1, by simp only [List.append_assoc]⟩

end PageShell

open PageShell

/-- The configuration that a page was generated with is the one that the page starts from. -/
theorem config_reaches_page (s : PageShell) (hv : s.config.violation? = none)
    (hb : s.config.breakpoint ≤ 4294967295) (hy : s.config.yieldEvery ≤ Json.maxNatural) :
    (∃ before after, cutAt? moduleOpening.toList s.render.toList = some (before, after) ∧
      (configOpening.toList <:+: before ↔ s.config ≠ .default)) ∧
    (s.config ≠ .default → ∃ before behind raw after rest,
      cutAt? configOpening.toList s.render.toList = some (before, behind) ∧
      cutAt? "</script".toList behind = some (raw, after) ∧
      after = '>' :: ("\n  ".toList ++ (moduleOpening.toList ++ rest)) ∧
      Config.ofJson (String.ofList raw) = .ok s.config ∧
      ∀ (tree : ElementTree) e, tree.get? configElementId = some e → e.text = String.ofList raw →
        Browser.readConfig tree = (s.config, [])) ∧
    (s.config = .default → ∀ tree : ElementTree, tree.get? configElementId = none →
      Browser.readConfig tree = (s.config, [])) := by
  refine ⟨s.configOpening_infix_iff, fun h => ?_, fun h tree hnone => ?_⟩
  · obtain ⟨rest, hcut⟩ := cutAt?_render_of_ne_default h
    have hread : Config.ofJson (String.ofList (guardClosers s.config.write)) = .ok s.config := by
      have hread := Config.ofJson_escapeScript hv hb hy
      rwa [escapeScript, Config.toJson, String.toList_ofList] at hread
    refine ⟨_, _, _, _, rest, hcut, cutAt?_guardClosers _ _, rfl, hread, ?_⟩
    intro tree e he htext
    simp only [Browser.readConfig, he, htext, hread]
  · rw [Browser.readConfig, hnone, h]

/-- A page whose index lies at an address that closes scripts and quotes. -/
def hostilePage : PageShell where
  title := "</title><script id=\"doc_site_config\">"
  stylesheet := "\"><script type=\"module\">"
  script := "</script>"
  sidebar := []
  content := "<script id=\"doc_site_config\" type=\"application/json\">"
  config := { Config.default with
    indexUrl := "a\\</script>\"\n\u2028</", breakpoint := 4294967295
    ids := { ElementIds.default with search := "<script type=\"module\">" } }

theorem config_reaches_page_hostile :
    hostilePage.config.violation? = none ∧ hostilePage.config ≠ .default ∧
    ∃ before behind raw after,
      cutAt? configOpening.toList hostilePage.render.toList = some (before, behind) ∧
      cutAt? "</script".toList behind = some (raw, after) ∧
      Config.ofJson (String.ofList raw) = .ok hostilePage.config := by
  have hv : hostilePage.config.violation? = none := by decide
  have hne : hostilePage.config ≠ .default := by decide
  obtain ⟨before, behind, raw, after, -, hcut, hraw, -, hread, -⟩ :=
    (config_reaches_page hostilePage hv (by decide) (by decide)).2.1 hne
  exact ⟨hv, hne, before, behind, raw, after, hcut, hraw, hread⟩

end DocPages
