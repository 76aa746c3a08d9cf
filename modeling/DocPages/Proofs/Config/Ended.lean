import DocPages.Proofs.Config.Embedded
import DocPages.Proofs.Html.Concealed

/-! Where the configuration block of a page ends. A browser finds the closing tag that was written
behind the stored form, unless the stored form itself conceals it. -/

namespace DocPages

open Json

section Nul

theorem nul_not_mem_quoteChar (c : Char) : '\x00' ∉ quoteChar c := by
  have hhex : ∀ n < 16, hexDigit n ≠ '\x00' := by decide
  have hhigh : c.toNat < 32 → '\x00' ≠ hexDigit (c.toNat / 16) :=
    fun hlow => (hhex (c.toNat / 16) (by omega)).symm
  have hlow : '\x00' ≠ hexDigit (c.toNat % 16) := (hhex (c.toNat % 16) (by omega)).symm
  have hself : ¬ c.toNat < 32 → '\x00' ≠ c := by
    rintro hc rfl
    exact hc (by decide)
  unfold quoteChar
  repeat' split
  all_goals simp_all

theorem nul_not_mem_writeText (s : String) : '\x00' ∉ writeText s := by
  have htext : '\x00' ∉ s.toList.flatMap quoteChar := by
    rw [List.mem_flatMap]
    rintro ⟨c, -, hc⟩
    exact nul_not_mem_quoteChar c hc
  simp [writeText, htext]

theorem nul_not_mem_writeNat (n : Nat) : '\x00' ∉ writeNat n := by
  intro hmem
  have hdigit := Nat.isDigit_of_mem_toDigits (by decide) (by decide) hmem
  cases hdigit

theorem nul_not_mem_writeItems {xs : List (List Char)} (h : ∀ x ∈ xs, '\x00' ∉ x) :
    '\x00' ∉ writeItems xs := by
  fun_induction writeItems xs with
  | case1 => simp
  | case2 x => exact h x (by simp)
  | case3 x xs _ ih =>
    rw [List.forall_mem_cons] at h
    simp [h.1, ih h.2]

theorem nul_not_mem_writeObject {members : List (String × List Char)}
    (h : ∀ m ∈ members, '\x00' ∉ m.2) : '\x00' ∉ writeObject members := by
  have hitems : '\x00' ∉ writeItems (members.map fun m => writeText m.1 ++ ':' :: m.2) := by
    refine nul_not_mem_writeItems fun x hx => ?_
    obtain ⟨m, hm, rfl⟩ := List.mem_map.mp hx
    simp [nul_not_mem_writeText, h m hm]
  simp [writeObject, hitems]

theorem nul_not_mem_guardClosers {cs : List Char} (h : '\x00' ∉ cs) : '\x00' ∉ guardClosers cs := by
  fun_induction guardClosers cs with
  | case1 => exact h
  | case2 cs ih => simp_all
  | case3 c cs _ ih => simp_all

theorem Config.nul_not_mem_write (c : Config) : '\x00' ∉ c.write := by
  have hids : '\x00' ∉ c.ids.write := by
    refine nul_not_mem_writeObject ?_
    simp [nul_not_mem_writeText]
  refine nul_not_mem_writeObject ?_
  simp [nul_not_mem_writeText, nul_not_mem_writeNat, hids]

end Nul

open PageShell Html.ScriptData

/-- The stored form of the configuration, as it stands in the page. -/
def PageShell.storedConfig (s : PageShell) : List Char := (escapeScript s.config.toJson).toList

namespace PageShell

theorem storedConfig_eq (s : PageShell) : s.storedConfig = guardClosers s.config.write := by
  rw [storedConfig, escapeScript, Config.toJson, String.toList_ofList, String.toList_ofList]

theorem scriptText_storedConfig (s : PageShell) (rest : List Char) :
    scriptText (.text .plain) (s.storedConfig ++ ("</script".toList ++ '>' :: rest)) =
      if Conceals s.storedConfig then
        (scriptText (.text .escaped) rest).map fun y =>
          (s.storedConfig ++ "</script>".toList ++ y.1, y.2)
      else some (s.storedConfig, '>' :: rest) := by
  rw [storedConfig_eq]
  exact scriptText_of_lacks (nul_not_mem_guardClosers s.config.nul_not_mem_write)
    (lacks_guardClosers _) rest

/-- A closing tag that is concealed belongs to the text. -/
theorem prefix_of_conceals {s : PageShell} (hc : Conceals s.storedConfig)
    {rest text after : List Char}
    (h : scriptText (.text .plain) (s.storedConfig ++ ("</script".toList ++ '>' :: rest)) =
      some (text, after)) : s.storedConfig ++ "</script>".toList <+: text := by
  rw [scriptText_storedConfig, if_pos hc] at h
  obtain ⟨y, -, hy⟩ := Option.map_eq_some_iff.mp h
  rw [← (Prod.mk.inj hy).1]
  exact List.prefix_append _ _

theorem scriptText_ne_of_conceals {s : PageShell} (hc : Conceals s.storedConfig)
    (rest : List Char) :
    scriptText (.text .plain) (s.storedConfig ++ ("</script".toList ++ '>' :: rest)) ≠
      some (s.storedConfig, '>' :: rest) := by
  intro h
  have hlength := (prefix_of_conceals hc h).length_le
  have hclose : "</script>".toList.length = 9 := by
    rw [String.toList_ofList]
    rfl
  rw [List.length_append, hclose] at hlength
  omega

end PageShell

/-- A browser that reads on behind the opening tag of the configuration block leaves it at the
closing tag that stands behind the stored form, with exactly that as its text, if and only if the
stored form does not conceal the tag. If it does, the tag belongs to the text. -/
theorem config_block_ends_iff (s : PageShell) (h : s.config ≠ .default) :
    ∃ before rest, cutAt? configOpening.toList s.render.toList =
        some (before, s.storedConfig ++ ("</script".toList ++ '>' :: rest)) ∧
      (scriptText (.text .plain) (s.storedConfig ++ ("</script".toList ++ '>' :: rest)) =
        some (s.storedConfig, '>' :: rest) ↔ ¬ Conceals s.storedConfig) ∧
      (Conceals s.storedConfig → ∀ text after,
        scriptText (.text .plain) (s.storedConfig ++ ("</script".toList ++ '>' :: rest)) =
          some (text, after) → s.storedConfig ++ "</script>".toList <+: text) := by
  obtain ⟨rest, hcut⟩ := cutAt?_render_of_ne_default h
  rw [← storedConfig_eq] at hcut
  refine ⟨_, _, hcut, ⟨fun htext hc => ?_, fun hc => ?_⟩, fun hc _ _ => prefix_of_conceals hc⟩
  · exact scriptText_ne_of_conceals hc _ htext
  · rw [scriptText_storedConfig, if_neg hc]

/-- A page whose index lies at the given address. -/
def pageAt (url : String) : PageShell where
  title := "Manual"
  stylesheet := "site.css"
  script := "site.js"
  sidebar := []
  content := ""
  config := { Config.default with indexUrl := url }

/-- What looks like a comment is closed again. -/
theorem config_block_ends_iff_closed :
    (pageAt "<!--<script></script>-->").config ≠ .default ∧
    ∃ before rest,
      cutAt? configOpening.toList (pageAt "<!--<script></script>-->").render.toList =
        some (before, (pageAt "<!--<script></script>-->").storedConfig ++
          ("</script".toList ++ '>' :: rest)) ∧
      scriptText (.text .plain) ((pageAt "<!--<script></script>-->").storedConfig ++
          ("</script".toList ++ '>' :: rest)) =
        some ((pageAt "<!--<script></script>-->").storedConfig, '>' :: rest) := by
  have hne : (pageAt "<!--<script></script>-->").config ≠ .default := by decide
  have hnot : ¬ Conceals (pageAt "<!--<script></script>-->").storedConfig := by
    rw [storedConfig_eq]
    decide +kernel
  obtain ⟨before, rest, hcut, hiff, -⟩ := config_block_ends_iff _ hne
  exact ⟨hne, before, rest, hcut, hiff.mpr hnot⟩

/-- What looks like a comment is not closed, and a script is opened in it. -/
theorem config_block_runs_on :
    (pageAt "<!--<script>").config.violation? = none ∧
    ∃ before rest, cutAt? configOpening.toList (pageAt "<!--<script>").render.toList =
        some (before, (pageAt "<!--<script>").storedConfig ++ ("</script".toList ++ '>' :: rest)) ∧
      scriptText (.text .plain)
        ((pageAt "<!--<script>").storedConfig ++ ("</script".toList ++ '>' :: rest)) ≠
          some ((pageAt "<!--<script>").storedConfig, '>' :: rest) := by
  have hne : (pageAt "<!--<script>").config ≠ .default := by decide
  have hc : Conceals (pageAt "<!--<script>").storedConfig := by
    rw [storedConfig_eq]
    decide +kernel
  obtain ⟨rest, hcut⟩ := cutAt?_render_of_ne_default hne
  rw [← storedConfig_eq] at hcut
  exact ⟨by decide, _, _, hcut, scriptText_ne_of_conceals hc _⟩

end DocPages
