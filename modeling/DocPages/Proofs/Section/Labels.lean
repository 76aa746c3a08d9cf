import DocPages.Proofs.Page.Installed
import DocPages.Proofs.Page.Script

/-! The label of a section's button follows the state of the section. A label tells the state by its
first sign; pressing the button turns the sign and the section over together, and no other event
touches either of them. -/

namespace DocPages

open Document

namespace Section

/-- The signs by which labels tell the state of a section. -/
def isSign (c : Char) : Bool := c == '+' || c == '-'

/-- The sign for a section that is collapsed or open. -/
def sign (collapsed : Bool) : Char := if collapsed then '+' else '-'

/-- The first sign of the label, if it has one, is the sign for the state of the section. -/
def Tells (collapsed : Bool) (label : String) : Prop :=
  ∀ c ∈ label.toList.find? isSign, c = sign collapsed

instance (collapsed : Bool) (label : String) : Decidable (Tells collapsed label) :=
  decidable_of_iff ((label.toList.find? isSign).all (· == sign collapsed))
    (by simp [Tells, Option.all_eq_true])

def replaceSign (new : Char) : List Char → List Char
  | [] => []
  | c :: cs => if isSign c then new :: cs else c :: replaceSign new cs

/-- The label with the sign for the given state in the place of its first sign. -/
def signed (collapsed : Bool) (label : String) : String :=
  String.ofList (replaceSign (sign collapsed) label.toList)

section Label

variable {collapsed : Bool}

theorem isSign_sign (collapsed : Bool) : isSign (sign collapsed) = true := by
  cases collapsed <;> decide

theorem eq_sign_of_isSign {c : Char} (h : isSign c = true) (collapsed : Bool) :
    c = sign collapsed ∨ c = sign (!collapsed) := by
  cases collapsed <;> simpa [isSign, sign, or_comm] using h

theorem sign_ne_sign_not (collapsed : Bool) : sign collapsed ≠ sign (!collapsed) := by
  cases collapsed <;> decide

theorem relabel_eq (collapsed : Bool) (label : String) :
    relabel collapsed label =
      String.ofList (replaceFirst (sign (!collapsed)) (sign collapsed) label.toList) := by
  cases collapsed <;> rfl

theorem replaceFirst_replaceSign (collapsed : Bool) (cs : List Char) :
    replaceFirst (sign collapsed) (sign (!collapsed)) (replaceSign (sign collapsed) cs) =
      replaceSign (sign (!collapsed)) cs := by
  induction cs with
  | nil => rfl
  | cons c cs ih =>
    cases hc : isSign c with
    | true => simp [replaceSign, hc, replaceFirst]
    | false =>
      have hne : c ≠ sign collapsed := fun heq => by simp [heq, isSign_sign] at hc
      simp [replaceSign, hc, replaceFirst, hne, ih]

/-- Pressing the button of a section whose label tells the state turns the sign over. -/
theorem relabel_signed (collapsed : Bool) (label : String) :
    relabel (!collapsed) (signed collapsed label) = signed (!collapsed) label := by
  rw [relabel_eq, signed, String.toList_ofList, Bool.not_not, replaceFirst_replaceSign, signed]

theorem find?_replaceSign (collapsed : Bool) (cs : List Char) :
    ∀ c ∈ (replaceSign (sign collapsed) cs).find? isSign, c = sign collapsed := by
  induction cs with
  | nil => exact nofun
  | cons c cs ih =>
    cases hc : isSign c with
    | true => simp [replaceSign, hc, isSign_sign]
    | false => simpa [replaceSign, hc] using ih

theorem tells_signed (collapsed : Bool) (label : String) :
    Tells collapsed (signed collapsed label) := by
  rw [Tells, signed, String.toList_ofList]
  exact find?_replaceSign collapsed label.toList

theorem replaceSign_eq_self {cs : List Char}
    (h : ∀ c ∈ cs.find? isSign, c = sign collapsed) : replaceSign (sign collapsed) cs = cs := by
  induction cs with
  | nil => rfl
  | cons c cs ih =>
    cases hc : isSign c with
    | true =>
      rw [List.find?_cons_of_pos hc] at h
      rw [replaceSign, if_pos hc, h c rfl]
    | false =>
      rw [List.find?_cons_of_neg (by simp [hc])] at h
      rw [replaceSign, if_neg (by simp [hc]), ih h]

theorem signed_of_tells {label : String} (h : Tells collapsed label) :
    signed collapsed label = label := by
  rw [signed, replaceSign_eq_self h, String.ofList_toList]

/-- Looking for one sign and then for the other restores a text exactly if its first sign is the one
that was looked for first. -/
theorem replaceFirst_replaceFirst_iff (collapsed : Bool) (cs : List Char) :
    replaceFirst (sign (!collapsed)) (sign collapsed)
        (replaceFirst (sign collapsed) (sign (!collapsed)) cs) = cs ↔
      ∀ c ∈ cs.find? isSign, c = sign collapsed := by
  have hne := sign_ne_sign_not collapsed
  induction cs with
  | nil => simp [replaceFirst]
  | cons c cs ih =>
    cases hc : isSign c with
    | true =>
      rcases eq_sign_of_isSign hc collapsed with rfl | rfl
      · simp [replaceFirst, isSign_sign]
      · simp [replaceFirst, isSign_sign, hne, hne.symm]
    | false =>
      have hold : c ≠ sign collapsed := fun heq => by simp [heq, isSign_sign] at hc
      have hnew : c ≠ sign (!collapsed) := fun heq => by simp [heq, isSign_sign] at hc
      simpa [replaceFirst, hold, hnew, hc] using ih

theorem relabel_relabel_iff (collapsed : Bool) (label : String) :
    relabel collapsed (relabel (!collapsed) label) = label ↔ Tells collapsed label := by
  rw [Tells, ← replaceFirst_replaceFirst_iff, relabel_eq, relabel_eq, String.toList_ofList,
    Bool.not_not, ← String.toList_inj, String.toList_ofList]

end Label

theorem buttonId_injective {id other : String} (h : buttonId id = buttonId other) : id = other := by
  have hlist := congrArg String.toList h
  rw [buttonId, buttonId, String.toList_append, String.toList_append] at hlist
  exact String.toList_inj.mp (List.append_cancel_right hlist)

/-- The section and its button stand in the document, on their own; the section is collapsed or
open, and the button has the label. -/
structure Shows (id : String) (collapsed : Bool) (label : String) (d : FlatDocument) : Prop where
  owner : ∃ e, d.get? id = some e ∧ e.parent = none ∧
    e.classes.count hiddenClass = collapsed.toNat
  button : ∃ b, d.get? (buttonId id) = some b ∧ b.parent = none ∧ b.text = label

section Shows

variable {id label : String} {collapsed : Bool} {d d' : FlatDocument}
  {f : FlatElement → FlatElement}

theorem hasClass_of_count {e : FlatElement} {c : String}
    (h : e.classes.count c = collapsed.toNat) : e.hasClass c = collapsed := by
  cases collapsed with
  | false => simpa [FlatElement.hasClass, List.count_eq_zero] using h
  | true =>
    have hmem : c ∈ e.classes := List.count_pos_iff.mp (by rw [h]; decide)
    simpa [FlatElement.hasClass] using hmem

theorem count_of_le_one {e : FlatElement} {c : String} (h : e.classes.count c ≤ 1) :
    e.classes.count c = (e.hasClass c).toNat := by
  cases hc : e.hasClass c with
  | false => simpa [FlatElement.hasClass, List.count_eq_zero] using hc
  | true =>
    have hmem : c ∈ e.classes := by simpa [FlatElement.hasClass] using hc
    exact Nat.le_antisymm h (List.count_pos_iff.mpr hmem)

theorem count_toggleClass {e : FlatElement} {c : String}
    (h : e.classes.count c = collapsed.toNat) :
    (e.toggleClass c).1 = !collapsed ∧
      (e.toggleClass c).2.classes.count c = (!collapsed).toNat := by
  have hclass := hasClass_of_count h
  cases collapsed with
  | false => simp [FlatElement.toggleClass, hclass, h]
  | true => simp [FlatElement.toggleClass, hclass, h]

theorem Shows.isCollapsed (h : Shows id collapsed label d) : isCollapsed d id = collapsed := by
  obtain ⟨e, he, -, hcount⟩ := h.owner
  simpa [Section.isCollapsed, hasClass, he] using hasClass_of_count hcount

theorem Shows.text (h : Shows id collapsed label d) : text d (buttonId id) = some label := by
  obtain ⟨b, hb, -, rfl⟩ := h.button
  simp only [Document.text, hb, Option.map_some]

/-- What a change of one element has to keep if that element is the section or the button. -/
theorem Shows.modify? {target : String} (h : Shows id collapsed label d)
    (hd : d.modify? target f = some d')
    (hf : ∀ e, (f e).id = e.id ∧ (f e).parent = e.parent)
    (howner : id = target → ∀ e, (f e).classes = e.classes)
    (hbutton : buttonId id = target → ∀ e, (f e).text = e.text) :
    Shows id collapsed label d' := by
  have hget := FlatDocument.get?_modify? (fun e => (hf e).1) hd
  obtain ⟨⟨e, he, hep, hcount⟩, b, hb, hbp, hlabel⟩ := h
  constructor
  · rw [hget, he]
    split
    · rename_i heq
      exact ⟨f e, rfl, (hf e).2.trans hep, by rw [howner heq, hcount]⟩
    · exact ⟨e, rfl, hep, hcount⟩
  · rw [hget, hb]
    split
    · rename_i heq
      exact ⟨f b, rfl, (hf b).2.trans hbp, by rw [hbutton heq, hlabel]⟩
    · exact ⟨b, rfl, hbp, hlabel⟩

theorem Shows.setStyle {target property value : String} (h : Shows id collapsed label d)
    (hd : setStyle d target property value = some d') : Shows id collapsed label d' :=
  h.modify? hd (fun _ => ⟨rfl, rfl⟩) (fun _ _ => rfl) fun _ _ => rfl

theorem Shows.applyEdits (h : Shows id collapsed label d) (target : String)
    (edits : List StyleEdit) : Shows id collapsed label (applyEdits d target edits) := by
  induction edits generalizing d with
  | nil => exact h
  | cons e edits ih =>
    refine ih (d := (Document.setStyle d target e.property e.value).getD d) ?_
    cases hs : Document.setStyle d target e.property e.value with
    | none => exact h
    | some d' => exact h.setStyle hs

theorem Shows.remove? {panel : String} (h : Shows id collapsed label d)
    (hne : id ≠ panel) (hne' : buttonId id ≠ panel) (hd : d.remove? panel = some d') :
    Shows id collapsed label d' := by
  obtain ⟨⟨e, he, hep, hcount⟩, b, hb, hbp, hlabel⟩ := h
  constructor
  · exact ⟨e, FlatDocument.get?_remove? hd hne he (by rw [hep]; exact nofun), hep, hcount⟩
  · exact ⟨b, FlatDocument.get?_remove? hd hne' hb (by rw [hbp]; exact nofun), hbp, hlabel⟩

theorem Shows.append? {parent child html : String} (h : Shows id collapsed label d)
    (hd : d.append? parent child html = some d') : Shows id collapsed label d' := by
  obtain ⟨⟨e, he, hep, hcount⟩, b, hb, hbp, hlabel⟩ := h
  exact ⟨⟨e, FlatDocument.get?_append? hd he, hep, hcount⟩,
    b, FlatDocument.get?_append? hd hb, hbp, hlabel⟩

/-- The button of another section, which may itself be this section or this button. -/
theorem Shows.toggle_other {other : String} {answer : Bool} (h : Shows id collapsed label d)
    (hne : id ≠ other) (hd : toggle d other = some (answer, d')) :
    Shows id collapsed label d' := by
  obtain ⟨flipped, hflip, hlabel⟩ := toggle_cases hd
  have hflipped : Shows id collapsed label flipped := by
    refine h.modify? hflip (fun e => ⟨e.id_toggleClass _, e.parent_toggleClass _⟩)
      (fun heq => absurd heq hne) fun _ e => ?_
    unfold FlatElement.toggleClass
    split <;> rfl
  rcases hlabel with rfl | ⟨s, hs⟩
  · exact hflipped
  · exact hflipped.modify? hs (fun _ => ⟨rfl, rfl⟩) (fun _ _ => rfl)
      fun heq => absurd (buttonId_injective heq) hne

/-- The button of the section itself. -/
theorem Shows.toggle_self (h : Shows id collapsed label d) :
    ∃ d', toggle d id = some (!collapsed, d') ∧
      Shows id (!collapsed) (relabel (!collapsed) label) d' := by
  obtain ⟨⟨e, he, hep, hcount⟩, b, hb, hbp, rfl⟩ := h
  obtain ⟨hanswer, hcount'⟩ := count_toggleClass hcount
  obtain ⟨d', htoggle, hget⟩ := exists_toggle he hb
  rw [hanswer] at htoggle hget
  refine ⟨d', htoggle, ⟨_, ?_, (e.parent_toggleClass _).trans hep, hcount'⟩,
    { b with text := relabel (!collapsed) b.text }, ?_, hbp, rfl⟩
  · rw [hget, if_neg (ne_buttonId id), if_pos rfl]
  · rw [hget, if_pos rfl]

end Shows

end Section

open Section

/-- The event presses the button of the section. -/
def PageEvent.presses (id : String) : PageEvent → Bool
  | .sectionButton owner => owner == id
  | _ => false

/-- How often the button of the section is pressed. -/
def Script.presses (id : String) (script : Script) : Nat := script.countP (·.2.presses id)

theorem PageEvent.eq_of_presses {id : String} {e : PageEvent} (h : e.presses id = true) :
    e = .sectionButton id := by
  unfold presses at h
  split at h
  · rw [beq_iff_eq.mp h]
  · cases h

namespace PageRun

variable {id label : String} {collapsed : Bool} {r : PageRun FlatDocument} {e : PageEvent}

theorem shows_clearResults {p : Page} {d : FlatDocument} (h : Shows id collapsed label d)
    (hid : id ≠ p.config.ids.searchResults) (hbutton : buttonId id ≠ p.config.ids.searchResults) :
    Shows id collapsed label (p.clearResults d) := by
  unfold Page.clearResults
  cases hr : Document.remove d p.config.ids.searchResults with
  | none => exact h
  | some d' => exact h.remove? hid hbutton hr

theorem shows_showResults {p : Page} {d : FlatDocument} (h : Shows id collapsed label d)
    (hid : id ≠ p.config.ids.searchResults) (hbutton : buttonId id ≠ p.config.ids.searchResults)
    (results : List Ranked) : Shows id collapsed label (p.showResults d results).2.1 := by
  have hclear := shows_clearResults h hid hbutton
  unfold Page.showResults Page.presentResults
  split
  · exact hclear
  · split
    · exact hclear
    · rename_i happend
      exact hclear.append? happend

theorem shows_step_other (index : Index) (h : Shows id collapsed label r.document)
    (hid : id ≠ r.page.config.ids.searchResults)
    (hbutton : buttonId id ≠ r.page.config.ids.searchResults) (he : e ≠ .install)
    (hpress : e.presses id = false) : Shows id collapsed label (r.step index e).1.document := by
  cases e with
  | install => exact absurd rfl he
  | viewport | width | headerButton | sidebarLink | transitionEnd => exact h.applyEdits _ _
  | sectionButton owner =>
    have hne : id ≠ owner := fun heq => by simp [PageEvent.presses, heq] at hpress
    simp only [step]
    split
    · rename_i ht
      exact h.toggle_other hne ht
    · exact h
  | search | poll | await => exact h
  | «show» slot =>
    simp only [step]
    split
    · exact shows_showResults h hid hbutton _
    · exact h
  | showResults results => exact shows_showResults h hid hbutton results
  | dismiss => exact shows_clearResults h hid hbutton

theorem shows_press (index : Index) (h : Shows id collapsed label r.document) :
    (r.step index (.sectionButton id)).2.1 = .collapsed (some !collapsed) ∧
      Shows id (!collapsed) (relabel (!collapsed) label)
        (r.step index (.sectionButton id)).1.document := by
  obtain ⟨d', htoggle, hshows⟩ := h.toggle_self
  simp only [step, htoggle, true_and]
  exact hshows

/-- Each press turns the section and the sign over; nothing else does. -/
theorem shows_play (h : Shows id collapsed (signed collapsed label) r.document)
    (hid : id ≠ r.page.config.ids.searchResults)
    (hbutton : buttonId id ≠ r.page.config.ids.searchResults) {script : Script}
    (hscript : ∀ x ∈ script, x.2 ≠ .install) :
    ∃ now, now = (if Script.presses id script % 2 = 0 then collapsed else !collapsed) ∧
      Shows id now (signed now label) (r.play script).document := by
  induction script generalizing r collapsed with
  | nil => exact ⟨collapsed, rfl, h⟩
  | cons x script ih =>
    -- The label is kept as the first one with the sign of the state, so two presses cancel.
    obtain ⟨he, hrest⟩ := List.forall_mem_cons.mp hscript
    have hconfig := config_step x.1 r x.2
    have hcount : Script.presses id (x :: script) =
        Script.presses id script + if x.2.presses id then 1 else 0 := List.countP_cons
    rw [hcount]
    cases hx : x.2.presses id with
    | false =>
      have hnext := shows_step_other x.1 h hid hbutton he hx
      exact ih hnext (by rwa [hconfig]) (by rwa [hconfig]) hrest
    | true =>
      have hnext := (shows_press x.1 h).2
      rw [relabel_signed, ← PageEvent.eq_of_presses hx] at hnext
      obtain ⟨now, hnow, hshows⟩ := ih hnext (by rwa [hconfig]) (by rwa [hconfig]) hrest
      refine ⟨now, hnow.trans ?_, hshows⟩
      by_cases heven : Script.presses id script % 2 = 0
      · have hodd : ¬ (Script.presses id script + 1) % 2 = 0 := by omega
        rw [if_pos heven, if_pos rfl, if_neg hodd]
      · have hnext : (Script.presses id script + 1) % 2 = 0 := by omega
        rw [if_neg heven, if_pos rfl, if_pos hnext, Bool.not_not]

end PageRun

/-- A section and the label of its button stay in step. Let both stand in the document on their own
and not be called like the panel. If the label tells the state of the section, then after any events
but an installation it still does, every press answers whether the section is collapsed afterwards,
only the first sign of the label is another one, and both depend on nothing but whether the button
was pressed an even number of times. Of every label, two presses in a row make the same label again
exactly if it told the state before them. -/
theorem section_label_in_step {r : PageRun FlatDocument} {id : String} {e b : FlatElement}
    (he : r.document.get? id = some e) (hb : r.document.get? (buttonId id) = some b)
    (hroot : e.parent = none ∧ b.parent = none)
    (hid : id ≠ r.page.config.ids.searchResults)
    (hbutton : buttonId id ≠ r.page.config.ids.searchResults)
    (honce : e.classes.count hiddenClass ≤ 1) {before : Bool}
    (hbefore : before = isCollapsed r.document id) :
    (Tells before b.text → ∀ script : Script, (∀ x ∈ script, x.2 ≠ .install) →
      ∀ later, later = r.play script → ∃ now label, now = isCollapsed later.document id ∧
        text later.document (buttonId id) = some label ∧
        now = (if Script.presses id script % 2 = 0 then before else !before) ∧
        label = signed now b.text ∧ Tells now label ∧
        ∀ index next reply, later.step index (.sectionButton id) = (next, reply) →
          reply.1 = .collapsed (some (isCollapsed next.document id))) ∧
    ∀ index index', text (r.play [(index, .sectionButton id),
        (index', .sectionButton id)]).document (buttonId id) = some b.text ↔
      Tells before b.text := by
  have hcount : e.classes.count hiddenClass = before.toNat := by
    have hclass : before = e.hasClass hiddenClass := by
      simp only [hbefore, isCollapsed, hasClass, he, Option.any_some]
    rw [hclass]
    exact count_of_le_one honce
  have h : Shows id before b.text r.document :=
    ⟨⟨e, he, hroot.1, hcount⟩, b, hb, hroot.2, rfl⟩
  constructor
  · rintro htells script hscript later rfl
    rw [← signed_of_tells htells] at h
    obtain ⟨now, hnow, hshows⟩ := PageRun.shows_play h hid hbutton hscript
    refine ⟨now, _, hshows.isCollapsed.symm, hshows.text, hnow, rfl, tells_signed now b.text, ?_⟩
    intro index next reply hstep
    obtain ⟨hreply, hnext⟩ := PageRun.shows_press index hshows
    rw [hstep] at hreply hnext
    rw [hreply, hnext.isCollapsed]
  · intro index index'
    have htwice := (PageRun.shows_press index' (PageRun.shows_press index h).2).2
    rw [Bool.not_not] at htwice
    rw [← relabel_relabel_iff]
    exact (Iff.of_eq (congrArg (· = some b.text) htwice.text)).trans Option.some_inj

/-- A section whose button is a section too, and has a label with more than one sign. -/
def PageRun.stacked : PageRun FlatDocument :=
  .new .default ⟨[.plain "search" [] "", .plain "api" ["collapsible"] "",
    .plain "api.vis_button" ["collapsible"] "a-b [+]", .plain "api.vis_button.vis_button" [] "[-]"]⟩

/-- One press of the section's button among presses of the other button and a search. -/
def Script.pressed : Script :=
  [(⟨[]⟩, .viewport false), (⟨[]⟩, .sectionButton "api.vis_button"), (⟨[]⟩, .sectionButton "api"),
    (⟨[]⟩, .showResults [⟨⟨"", "sqrt", "math.html", "", .function⟩, .noMatch, []⟩]),
    (⟨[]⟩, .sectionButton "api.vis_button"), (⟨[]⟩, .dismiss)]

theorem section_label_in_step_stacked :
    isCollapsed (PageRun.stacked.play Script.pressed).document "api" = true ∧
    text (PageRun.stacked.play Script.pressed).document "api.vis_button" = some "a+b [+]" ∧
    text (PageRun.stacked.play [(⟨[]⟩, .sectionButton "api"),
      (⟨[]⟩, .sectionButton "api")]).document "api.vis_button" = some "a-b [+]" := by
  obtain ⟨hrun, htwice⟩ := @section_label_in_step PageRun.stacked "api"
    (.plain "api" ["collapsible"] "") (.plain "api.vis_button" ["collapsible"] "a-b [+]")
    (by decide) (by decide) (by decide) (by decide) (by decide) (by decide) false (by decide)
  have htells : Tells false "a-b [+]" := by decide
  have hscript : ∀ x ∈ Script.pressed, x.2 ≠ .install := by simp [Script.pressed]
  obtain ⟨now, label, hnow, htext, hparity, rfl, -⟩ := hrun htells Script.pressed hscript _ rfl
  have hpresses : Script.presses "api" Script.pressed = 1 := by decide
  rw [hpresses] at hparity
  obtain rfl : now = true := hparity
  refine ⟨hnow.symm, htext.trans ?_, (htwice ⟨[]⟩ ⟨[]⟩).mpr htells⟩
  decide

end DocPages
