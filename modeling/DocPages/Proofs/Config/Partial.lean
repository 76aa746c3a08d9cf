import DocPages.Config.Json
import DocPages.Proofs.Json.Filled

/-! Configurations that leave out fields. What is given replaces the default, field by field and id
by id, and the limits are checked afterwards. -/

namespace DocPages

open Json

namespace ElementIds

/-- The ids that may be given. -/
def names : List String :=
  ["search", "search_input", "search_results", "sidebar", "header_button"]

/-- The default ids but for those that are given. -/
def overlay (members : List (String × Datum)) : ElementIds where
  search := given members "search" Datum.text? default.search
  searchInput := given members "search_input" Datum.text? default.searchInput
  searchResults := given members "search_results" Datum.text? default.searchResults
  sidebar := given members "sidebar" Datum.text? default.sidebar
  headerButton := given members "header_button" Datum.text? default.headerButton

/-- What a field makes of its value. -/
def sense (key : String) (ids : ElementIds) (v : Datum) : Option ElementIds :=
  match key with
  | "search" => v.text?.map fun s => { ids with search := s }
  | "search_input" => v.text?.map fun s => { ids with searchInput := s }
  | "search_results" => v.text?.map fun s => { ids with searchResults := s }
  | "sidebar" => v.text?.map fun s => { ids with sidebar := s }
  | "header_button" => v.text?.map fun s => { ids with headerButton := s }
  | _ => none

theorem fill_eq_overlay {members : List (String × Datum)}
    (h : ∀ name ∈ names, MayGive members name Datum.text?) :
    shape.fill sense [] shape.blank members = some (overlay members) := by
  have hblank : shape.blank = overlay [] := rfl
  rw [hblank]
  refine Shape.fill_eq_overlay ?_ ?_ (fun name hname => (h name hname).length_le) nofun
  · intro done key v hkey
    simp only [Shape.names, shape, Field.of, List.map_cons, List.map_nil, List.mem_cons,
      List.not_mem_nil, or_false, not_or] at hkey
    simp [overlay, given_append_of_ne, hkey]
  · intro done key v hkey hmem hnew
    obtain ⟨s, hs⟩ := (h key hkey).of_mem hmem
    simp only [Shape.names, shape, Field.of, List.map_cons, List.map_nil, List.mem_cons,
      List.not_mem_nil, or_false] at hkey
    rcases hkey with rfl | rfl | rfl | rfl | rfl <;>
      simp [sense, overlay, hs, given_append_self hnew hs, given_append_of_ne]

theorem takes_overlay {members : List (String × Datum)}
    (h : ∀ name ∈ names, MayGive members name Datum.text?) :
    Takes shape.read (.object members) (some (overlay members)) := by
  rw [← fill_eq_overlay h]
  refine Shape.takes_object fun field hfield v _ ids => ?_
  simp only [shape, List.mem_cons, List.not_mem_nil, or_false] at hfield
  rcases hfield with rfl | rfl | rfl | rfl | rfl <;> exact takes_field (takes_text v) _ _ ids

end ElementIds

/-- A style is named by a string, or by an object with that one key and a null. -/
def BreakStyle.ofDatum? (v : Datum) : Option BreakStyle :=
  match v.variant? with
  | some "punctuation" => some .punctuation
  | some "punctuation_and_case" => some .punctuationAndCase
  | _ => none

theorem BreakStyle.takes_reader (v : Datum) : Takes BreakStyle.reader v (ofDatum? v) := by
  have htakes : Takes BreakStyle.reader v _ := takes_variant _ v
  convert htakes using 1
  unfold ofDatum?
  cases v.variant? with
  | none => rfl
  | some s =>
    by_cases hp : s = "punctuation"
    · subst hp
      rfl
    · by_cases hc : s = "punctuation_and_case"
      · subst hc
        rfl
      · simp [ofName?, name, hp, hc, Ne.symm hp, Ne.symm hc, Except.toOption]

/-- The default ids but for those that the object gives. -/
def ElementIds.ofDatum? : Datum → Option ElementIds
  | .object members => some (overlay members)
  | _ => none

namespace Config

/-- An object that gives some of the fields, each once and with a value of its type and range. What
else it has does not matter. -/
structure Given (members : List (String × Datum)) : Prop where
  texts : ∀ name ∈ ["index_url", "log_level"], MayGive members name Datum.text?
  sizes : ∀ name ∈ ["max_results", "yield_every"],
    MayGive members name (Datum.naturalUpTo maxNatural)
  breakpoint : MayGive members "breakpoint_px" (Datum.naturalUpTo 4294967295)
  breakStyle : MayGive members "break_style" BreakStyle.ofDatum?
  ids : valuesOf members "ids" = [] ∨ ∃ ids, valuesOf members "ids" = [.object ids] ∧
    ∀ name ∈ ElementIds.names, MayGive ids name Datum.text?

/-- The default configuration but for the fields and ids that are given. -/
def overlay (members : List (String × Datum)) : Config where
  indexUrl := given members "index_url" Datum.text? default.indexUrl
  maxResults := given members "max_results" Datum.natural? default.maxResults
  breakpoint := given members "breakpoint_px" Datum.natural? default.breakpoint
  breakStyle := given members "break_style" BreakStyle.ofDatum? default.breakStyle
  yieldEvery := given members "yield_every" Datum.natural? default.yieldEvery
  logLevel := given members "log_level" Datum.text? default.logLevel
  ids := given members "ids" ElementIds.ofDatum? default.ids

/-- What a field makes of its value. -/
def sense (key : String) (c : Config) (v : Datum) : Option Config :=
  match key with
  | "index_url" => v.text?.map fun s => { c with indexUrl := s }
  | "max_results" => (v.naturalUpTo maxNatural).map fun n => { c with maxResults := n }
  | "breakpoint_px" => (v.naturalUpTo 4294967295).map fun n => { c with breakpoint := n }
  | "break_style" => (BreakStyle.ofDatum? v).map fun s => { c with breakStyle := s }
  | "yield_every" => (v.naturalUpTo maxNatural).map fun n => { c with yieldEvery := n }
  | "log_level" => v.text?.map fun s => { c with logLevel := s }
  | "ids" => (ElementIds.ofDatum? v).map fun ids => { c with ids := ids }
  | _ => none

variable {members : List (String × Datum)}

theorem Given.mayGive_ids (h : Given members) : MayGive members "ids" ElementIds.ofDatum? := by
  obtain hnil | ⟨ids, hone, -⟩ := h.ids
  · exact .inl hnil
  · exact .inr ⟨_, _, hone, rfl⟩

theorem Given.fill_eq_overlay (h : Given members) :
    shape.fill sense [] shape.blank members = some (overlay members) := by
  have hblank : shape.blank = overlay [] := rfl
  rw [hblank]
  refine Shape.fill_eq_overlay ?_ ?_ ?_ nofun
  · intro done key v hkey
    simp only [Shape.names, shape, Field.of, List.map_cons, List.map_nil, List.mem_cons,
      List.not_mem_nil, or_false, not_or] at hkey
    simp [overlay, given_append_of_ne, hkey]
  · intro done key v hkey hmem hnew
    simp only [Shape.names, shape, Field.of, List.map_cons, List.map_nil, List.mem_cons,
      List.not_mem_nil, or_false] at hkey
    rcases hkey with rfl | rfl | rfl | rfl | rfl | rfl | rfl
    · obtain ⟨s, hs⟩ := (h.texts _ (by simp)).of_mem hmem
      simp [sense, overlay, hs, given_append_self hnew hs, given_append_of_ne]
    · obtain ⟨n, hn⟩ := (h.sizes _ (by simp)).of_mem hmem
      have hn' := Datum.natural?_of_naturalUpTo hn
      simp [sense, overlay, hn, given_append_self hnew hn', given_append_of_ne]
    · obtain ⟨n, hn⟩ := h.breakpoint.of_mem hmem
      have hn' := Datum.natural?_of_naturalUpTo hn
      simp [sense, overlay, hn, given_append_self hnew hn', given_append_of_ne]
    · obtain ⟨s, hs⟩ := h.breakStyle.of_mem hmem
      simp [sense, overlay, hs, given_append_self hnew hs, given_append_of_ne]
    · obtain ⟨n, hn⟩ := (h.sizes _ (by simp)).of_mem hmem
      have hn' := Datum.natural?_of_naturalUpTo hn
      simp [sense, overlay, hn, given_append_self hnew hn', given_append_of_ne]
    · obtain ⟨s, hs⟩ := (h.texts _ (by simp)).of_mem hmem
      simp [sense, overlay, hs, given_append_self hnew hs, given_append_of_ne]
    · obtain ⟨ids, hids⟩ := h.mayGive_ids.of_mem hmem
      simp [sense, overlay, hids, given_append_self hnew hids, given_append_of_ne]
  · intro name hname
    simp only [Shape.names, shape, Field.of, List.map_cons, List.map_nil, List.mem_cons,
      List.not_mem_nil, or_false] at hname
    rcases hname with rfl | rfl | rfl | rfl | rfl | rfl | rfl
    · exact (h.texts _ (by simp)).length_le
    · exact (h.sizes _ (by simp)).length_le
    · exact h.breakpoint.length_le
    · exact h.breakStyle.length_le
    · exact (h.sizes _ (by simp)).length_le
    · exact (h.texts _ (by simp)).length_le
    · exact h.mayGive_ids.length_le

theorem Given.takes_overlay (h : Given members) :
    Takes shape.read (.object members) (some (overlay members)) := by
  rw [← h.fill_eq_overlay]
  refine Shape.takes_object fun field hfield v hmem c => ?_
  simp only [shape, List.mem_cons, List.not_mem_nil, or_false] at hfield
  rcases hfield with rfl | rfl | rfl | rfl | rfl | rfl | rfl
  · exact takes_field (takes_text v) _ _ c
  · exact takes_field (takes_nat _ (Nat.le_refl _) v) _ _ c
  · exact takes_field (takes_nat _ (by decide) v) _ _ c
  · exact takes_field (BreakStyle.takes_reader v) _ _ c
  · exact takes_field (takes_nat _ (Nat.le_refl _) v) _ _ c
  · exact takes_field (takes_text v) _ _ c
  · obtain hnil | ⟨ids, hone, hids⟩ := h.ids
    · rw [← mem_valuesOf] at hmem
      exact absurd (hnil ▸ hmem) List.not_mem_nil
    · rw [← mem_valuesOf] at hmem
      obtain rfl : v = .object ids := List.mem_singleton.mp (hone ▸ hmem)
      exact takes_field (ElementIds.takes_overlay hids) _ _ c

theorem Given.ofJson_of_violation (h : Given members) {text : String}
    (hdoc : HeldBy (.object members) text.toList) {e : ConfigError}
    (hv : (overlay members).violation? = some e) : ofJson text = .error e := by
  have hparse := parse_eq_ok h.takes_overlay hdoc
  simp only [ofJson, hparse, hv]

theorem Given.ofJson_of_lawful (h : Given members) {text : String}
    (hdoc : HeldBy (.object members) text.toList)
    (hv : (overlay members).violation? = none) : ofJson text = .ok (overlay members) := by
  have hparse := parse_eq_ok h.takes_overlay hdoc
  simp only [ofJson, hparse, hv]

end Config

/-- An object that gives some of the fields, in whatever order and beside whatever else, stands for
the default configuration with these replaced, if that keeps the limits. Otherwise the first limit
that is not kept is reported. -/
theorem partial_config_overrides (members : List (String × Datum)) (h : Config.Given members)
    (text : String) (hdoc : HeldBy (.object members) text.toList) :
    let c := Config.overlay members
    (1 ≤ c.maxResults ∧ c.maxResults ≤ 10 ∧ 1 ≤ c.yieldEvery ∧ 1 ≤ c.breakpoint →
      Config.ofJson text = .ok c) ∧
    (c.maxResults = 0 → Config.ofJson text = .error (.zero "max_results")) ∧
    (10 < c.maxResults → Config.ofJson text = .error (.tooLarge "max_results" 10)) ∧
    (1 ≤ c.maxResults → c.maxResults ≤ 10 → c.yieldEvery = 0 →
      Config.ofJson text = .error (.zero "yield_every")) ∧
    (1 ≤ c.maxResults → c.maxResults ≤ 10 → 1 ≤ c.yieldEvery → c.breakpoint = 0 →
      Config.ofJson text = .error (.zero "breakpoint_px")) := by
  intro c
  have hnonzero {n : Nat} (hn : 1 ≤ n) : ¬ n = 0 := Nat.ne_of_gt hn
  have hsmall (hn : c.maxResults ≤ 10) : ¬ maxShown < c.maxResults := Nat.not_lt.mpr hn
  refine ⟨?_, ?_, ?_, ?_, ?_⟩
  · rintro ⟨hzero, hten, hyield, hwidth⟩
    refine h.ofJson_of_lawful hdoc ?_
    rw [Config.violation?, if_neg (hnonzero hzero), if_neg (hsmall hten),
      if_neg (hnonzero hyield), if_neg (hnonzero hwidth)]
  · intro hzero
    refine h.ofJson_of_violation hdoc ?_
    rw [Config.violation?, if_pos hzero]
  · intro hten
    refine h.ofJson_of_violation hdoc ?_
    rw [Config.violation?, if_neg (hnonzero (Nat.zero_lt_of_lt hten))]
    exact if_pos hten
  · intro hzero hten hyield
    refine h.ofJson_of_violation hdoc ?_
    rw [Config.violation?, if_neg (hnonzero hzero), if_neg (hsmall hten), if_pos hyield]
  · intro hzero hten hyield hwidth
    refine h.ofJson_of_violation hdoc ?_
    rw [Config.violation?, if_neg (hnonzero hzero), if_neg (hsmall hten),
      if_neg (hnonzero hyield), if_pos hwidth]

/-- Three fields beside a theme that the page does not know. -/
def themedMembers : List (String × Datum) :=
  [("theme", .object [("a", .list [.number ⟨true, 1, some ⟨['5'], nofun, by decide⟩,
      some ⟨'e', ['+'], ⟨['3'], nofun, by decide⟩, by decide, by decide⟩⟩, .null])]),
    ("max_results", .number (.ofNat 3)), ("ids", .object [("sidebar", .text "nav")])]

def themedText : String :=
  "\x7b\"theme\": \x7b\"a\":[-1.5e+3,null]\x7d,\n\"max_\\u0072esults\":3," ++
    " \"ids\":\x7b\"sidebar\":\"nav\"\x7d \x7d"

theorem themedText_spelled : HeldBy (.object themedMembers) themedText.toList := by
  have hnil : Blank [] := nofun
  have hspace : Blank [' '] := by simp [Blank]
  have hline : Blank ['\n'] := by simp [Blank]
  have htheme : Member Spells themedMembers[0] _ :=
    .colon (quoted_self (by decide)) hnil hspace (.object (.one hnil
      (.colon (quoted_self (by decide)) hnil hnil
        (.list (.more hnil (.number _) hnil (.one hnil .null hnil)))) hnil))
  have hfront : Quoted ['m', 'a', 'x', '_'] ['m', 'a', 'x', '_'] := quoted_self (by decide)
  have hletter : Hex 'r'.toNat ['0', '0', '7', '2'] :=
    .digits (i := 0) (j := 0) (k := 7) (l := 2) (by decide) (by decide) (by decide) (by decide)
  have hescaped : Quoted ['m', 'a', 'x', '_', 'r', 'e', 's', 'u', 'l', 't', 's'] _ :=
    hfront.append (.unit hletter (quoted_self (by decide)))
  have hresults : Member Spells themedMembers[1] _ := .colon hescaped hnil hnil (.number _)
  have hids : Member Spells themedMembers[2] _ :=
    .colon (quoted_self (by decide)) hnil hnil (.object (.one hnil
      (.colon (quoted_self (by decide)) hnil hnil (.text (quoted_self (by decide)))) hnil))
  have hmembers : Items (Member Spells) themedMembers _ :=
    .more hnil htheme hnil (.more hline hresults hnil (.one hspace hids hspace))
  have hdoc : HeldBy (.object themedMembers) _ := .value hnil (.object hmembers) hnil
  unfold themedText
  rw [String.toList_append, String.toList_ofList, String.toList_ofList]
  exact hdoc

theorem partial_config_overrides_themed :
    Config.ofJson themedText = .ok { Config.default with
      maxResults := 3, ids := { ElementIds.default with sidebar := "nav" } } := by
  have hids : ∀ name ∈ ElementIds.names, MayGive [("sidebar", .text "nav")] name Datum.text? := by
    simp only [ElementIds.names, List.forall_mem_cons]
    exact ⟨.inl rfl, .inl rfl, .inl rfl, .inr ⟨_, _, rfl, rfl⟩, .inl rfl, nofun⟩
  have hgiven : Config.Given themedMembers := {
    texts := List.forall_mem_cons.mpr ⟨.inl rfl, List.forall_mem_singleton.mpr (.inl rfl)⟩
    sizes := List.forall_mem_cons.mpr
      ⟨.inr ⟨_, _, rfl, rfl⟩, List.forall_mem_singleton.mpr (.inl rfl)⟩
    breakpoint := .inl rfl
    breakStyle := .inl rfl
    ids := .inr ⟨_, rfl, hids⟩ }
  exact (partial_config_overrides themedMembers hgiven themedText themedText_spelled).1 (by decide)

end DocPages
