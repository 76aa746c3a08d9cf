import DocPages.Proofs.Config.Embedded
import DocPages.Proofs.Html.Concealed
import DocPages.Proofs.Markup.Tree
import DocPages.Proofs.Script.Literal

/-! The module script of a generated page. Its text ends where it is meant to, and it loads the
script that the page was given as long as the address needs no escape. -/

namespace DocPages

open Html Html.ScriptData Script

namespace PageShell

/-- The page up to the text of its module script. -/
def front (s : PageShell) : String := s.lead ++ configBlock s.config ++ "\n  " ++ moduleOpening

theorem runs_lead (s : PageShell) : ∃ ts, Runs .data s.lead ts .data := by
  have hdoctype : ∃ ts, Runs .data
      "<!DOCTYPE html>\n<html lang=\"en\">\n<head>\n  <meta charset=\"UTF-8\">\n  " ts .data :=
    ⟨_, .text rfl⟩
  have hmeta : ∃ ts, Runs .data
      "<meta name=\"viewport\" content=\"width=device-width, initial-scale=1.0\">\n  <title>" ts
      .data := ⟨_, .text rfl⟩
  have hlink : ∃ ts, Runs .data "</title>\n  <link rel=\"stylesheet\" href=\"" ts
      (.inValue "link" [("rel", "stylesheet")] "href" []) := ⟨_, .text rfl⟩
  have hsheet : ∃ ts, Runs (.inValue "link" [("rel", "stylesheet")] "href" s.stylesheet.toList)
      "\">" ts .data := ⟨_, .text rfl⟩
  obtain ⟨_, hdoctype⟩ := hdoctype
  obtain ⟨_, hmeta⟩ := hmeta
  obtain ⟨_, hlink⟩ := hlink
  obtain ⟨_, hsheet⟩ := hsheet
  exact ⟨_, hdoctype.append (hmeta.append ((runs_escapeText s.title).append
    (hlink.append ((runs_escapeAttr _ _ _ s.stylesheet).append hsheet))))⟩

/-- A reader of the page has then just entered the module script. -/
theorem runs_front (s : PageShell) :
    ∃ ts, Runs .data s.front (ts ++ [.opening "script" [("type", "module")]]) (.raw []) := by
  obtain ⟨ts, hlead⟩ := s.runs_lead
  have hspace : Runs .data "\n  " (chars "\n  ".toList) .data := .text rfl
  have hopen : Runs .data moduleOpening [.opening "script" [("type", "module")]] (.raw []) :=
    .text rfl
  exact ⟨_, ((hlead.append (runs_configBlock s.config)).append hspace).append hopen⟩

theorem toList_render_front (s : PageShell) :
    ∃ rest, s.render.toList =
      s.front.toList ++ (s.moduleScript.toList ++ ("</script".toList ++ '>' :: rest)) := by
  have hopen : "\n  <script type=\"module\">import init from \"".toList =
      "\n  ".toList ++ (moduleOpening.toList ++ "import init from \"".toList) := by
    rw [moduleOpening]
    repeat rw [String.toList_ofList]
    rfl
  have hclose : "\"; init();</script>\n</head>\n<body>\n  <header>".toList =
      "\"; init();".toList ++
        ("</script".toList ++ '>' :: "\n</head>\n<body>\n  <header>".toList) := by
    repeat rw [String.toList_ofList]
    rfl
  unfold front moduleScript
  rw [render_eq, trail]
  simp only [String.toList_append, hopen, hclose, List.append_assoc, List.cons_append]
  exact ⟨_, rfl⟩

theorem toList_moduleScript (s : PageShell) : s.moduleScript.toList = "import init from ".toList ++
    ('\x22' :: (s.script.toList.flatMap attrChar ++ ['\x22']) ++ "; init();".toList) := by
  have hfront : "import init from \"".toList = "import init from ".toList ++ ['\x22'] := by
    repeat rw [String.toList_ofList]
    rfl
  have hback : "\"; init();".toList = '\x22' :: "; init();".toList := by
    repeat rw [String.toList_ofList]
  unfold moduleScript escapeAttr
  rw [String.toList_append, String.toList_append, hfront, hback, String.toList_ofList]
  simp

theorem not_mem_moduleScript (s : PageShell) : '<' ∉ s.moduleScript.toList := by
  unfold moduleScript
  simp [String.toList_append, not_mem_escapeAttr]

theorem nul_not_mem_moduleScript {s : PageShell} (h : ∀ c ∈ s.script.toList, 32 ≤ c.toNat) :
    '\x00' ∉ s.moduleScript.toList := by
  have hchar (c : Char) (hc : c ≠ '\x00') : '\x00' ∉ attrChar c := by
    fun_cases attrChar c
    all_goals try decide
    simp [Ne.symm hc]
  have hscript : '\x00' ∉ s.script.toList.flatMap attrChar := by
    rw [List.mem_flatMap]
    rintro ⟨c, hc, hmem⟩
    refine hchar c ?_ hmem
    rintro rfl
    exact absurd (h _ hc) (by decide)
  rw [toList_moduleScript]
  simp [hscript]

/-- The element ends behind the text that was put into it. -/
theorem scriptText_moduleScript {s : PageShell} (h : ∀ c ∈ s.script.toList, 32 ≤ c.toNat)
    (rest : List Char) :
    scriptText (.text .plain) (s.moduleScript.toList ++ ("</script".toList ++ '>' :: rest)) =
      some (s.moduleScript.toList, '>' :: rest) := by
  have hshown : ¬ Conceals s.moduleScript.toList := by
    rw [← List.append_nil s.moduleScript.toList, conceals_append s.not_mem_moduleScript]
    decide
  rw [scriptText_of_lacks (nul_not_mem_moduleScript h) (lacks_of_not_mem s.not_mem_moduleScript),
    if_neg hshown]

/-- The script imports from a literal, whose value is the given text. -/
def Loads (s : PageShell) : Prop :=
  ∃ literal, s.moduleScript.toList =
      "import init from ".toList ++ (literal ++ "; init();".toList) ∧
    literalValue? literal = some (encode s.script.toList)

theorem loads_iff {s : PageShell} (h : ∀ c ∈ s.script.toList, 32 ≤ c.toNat) :
    s.Loads ↔ ∀ c ∈ s.script.toList, IsPlain c := by
  rw [← literalValue?_attr_iff h]
  constructor
  · rintro ⟨literal, heq, hvalue⟩
    rw [toList_moduleScript, List.append_cancel_left_eq, List.append_cancel_right_eq] at heq
    rwa [heq]
  · intro hvalue
    exact ⟨_, s.toList_moduleScript, hvalue⟩

end PageShell

open PageShell

/-- The module script of a page is an element of its own, whose text ends where the page closes it.
It loads the script that the page was given if and only if nothing in the address needs an
escape: what stands for a character in an attribute stands for itself in a script. -/
theorem module_script_loads_iff (s : PageShell) (h : ∀ c ∈ s.script.toList, 32 ≤ c.toNat) :
    ∃ tokens rest,
      s.render.toList =
        s.front.toList ++ (s.moduleScript.toList ++ ("</script".toList ++ '>' :: rest)) ∧
      Runs .data s.front (tokens ++ [.opening "script" [("type", "module")]]) (.raw []) ∧
      scriptText (.text .plain) (s.moduleScript.toList ++ ("</script".toList ++ '>' :: rest)) =
        some (s.moduleScript.toList, '>' :: rest) ∧
      (s.Loads ↔ ∀ c ∈ s.script.toList, IsPlain c) := by
  obtain ⟨rest, hrender⟩ := s.toList_render_front
  obtain ⟨tokens, hfront⟩ := s.runs_front
  exact ⟨tokens, rest, hrender, hfront, scriptText_moduleScript h rest, loads_iff h⟩

/-- A page that loads the script at the given address. -/
def pageOf (script : String) : PageShell where
  title := "Manual"
  stylesheet := "site.css"
  script := script
  sidebar := []
  content := ""
  config := .default

theorem module_script_loads_iff_beyond_ascii :
    (∀ c ∈ (pageOf "./é 😀/site.js?v=2").script.toList, 32 ≤ c.toNat) ∧
      (pageOf "./é 😀/site.js?v=2").Loads := by
  have hall : (pageOf "./é 😀/site.js?v=2").script.toList.all
      fun c => decide (32 ≤ c.toNat ∧ IsPlain c) := by decide +kernel
  simp only [List.all_eq_true, decide_eq_true_eq] at hall
  obtain ⟨-, -, -, -, -, hiff⟩ := module_script_loads_iff _ fun c hc => (hall c hc).1
  exact ⟨fun c hc => (hall c hc).1, hiff.mpr fun c hc => (hall c hc).2⟩

/-- An ampersand is written as a reference, which the script keeps. -/
theorem module_script_misses_query :
    (pageOf "site.js?a=1&b=2").moduleScript =
        "import init from \"site.js?a=1&amp;b=2\"; init();" ∧
      ¬ (pageOf "site.js?a=1&b=2").Loads := by
  have hall : (pageOf "site.js?a=1&b=2").script.toList.all fun c => decide (32 ≤ c.toNat) := by
    decide +kernel
  simp only [List.all_eq_true, decide_eq_true_eq] at hall
  refine ⟨by decide +kernel, fun hloads => ?_⟩
  exact absurd ((loads_iff hall).mp hloads '&' (by decide +kernel)) (by decide)

end DocPages
