import DocPages.Page
import DocPages.Proofs.Document.Flat

/-! Documents with more elements behind their own. What a page does to elements of other names, it
does as if the further elements were not there. -/

namespace DocPages

open Document

theorem modifyFirst_append {α : Type} {p : α → Bool} {f : α → α} (xs : List α) {ys : List α}
    (h : ∀ y ∈ ys, p y = false) :
    modifyFirst p f (xs ++ ys) = (modifyFirst p f xs).map (· ++ ys) := by
  have hys : modifyFirst p f ys = none := by
    have hnone : ys.find? p = none := List.find?_eq_none.mpr fun y hy => by simp [h y hy]
    rw [← Option.isNone_iff_eq_none, ← Option.not_isSome, isSome_modifyFirst, hnone]
    rfl
  induction xs with
  | nil => exact hys
  | cons x xs ih =>
    rw [List.cons_append]
    unfold modifyFirst
    split
    · rfl
    · rw [ih, Option.map_map, Option.map_map]
      rfl

namespace FlatDocument

def beside (d : FlatDocument) (more : List FlatElement) : FlatDocument := ⟨d.elements ++ more⟩

/-- No further element has the name. -/
def Outside (more : List FlatElement) (id : String) : Prop := ∀ e ∈ more, e.id ≠ id

variable {d : FlatDocument} {more : List FlatElement} {id : String}

theorem get?_beside (h : Outside more id) : (d.beside more).get? id = d.get? id := by
  have hnone : more.find? (·.id == id) = none := by
    rw [List.find?_eq_none]
    intro e he
    simpa using h e he
  simp only [get?, beside, List.find?_append, hnone, Option.or_none]

theorem modify?_beside (h : Outside more id) (f : FlatElement → FlatElement) :
    (d.beside more).modify? id f = (d.modify? id f).map (·.beside more) := by
  have hfirst := modifyFirst_append (p := fun e => e.id == id) (f := f) d.elements
    fun e he => by simpa using h e he
  simp only [modify?, beside, hfirst, Option.map_map]
  rfl

theorem toggleClass_beside (h : Outside more id) (c : String) :
    toggleClass (d.beside more) id c =
      (toggleClass d id c).map fun x => (x.1, x.2.beside more) := by
  simp only [toggleClass, get?_beside h, modify?_beside h]
  cases d.get? id with
  | none => rfl
  | some e => cases d.modify? id fun e => (e.toggleClass c).2 <;> rfl

theorem setStyle_beside (h : Outside more id) (property value : String) :
    setStyle (d.beside more) id property value =
      (setStyle d id property value).map (·.beside more) := modify?_beside h _

theorem setText_beside (h : Outside more id) (s : String) :
    setText (d.beside more) id s = (setText d id s).map (·.beside more) := modify?_beside h _

theorem text_beside (h : Outside more id) : text (d.beside more) id = text d id := by
  simp only [text, get?_beside h]

theorem hasClass_beside (h : Outside more id) (c : String) :
    hasClass (d.beside more) id c = hasClass d id c := by
  simp only [hasClass, get?_beside h]

theorem idsWithClass_beside (h : ∀ e ∈ more, e.classes = []) (c : String) :
    idsWithClass (d.beside more) c = idsWithClass d c := by
  have hnone : more.filter (fun e => !e.id.isEmpty && e.hasClass c) = [] := by
    rw [List.filter_eq_nil_iff]
    intro e he
    simp [FlatElement.hasClass, h e he]
  simp only [idsWithClass, beside, List.filter_append, hnone, List.append_nil]

theorem applyEdits_beside (h : Outside more id) (edits : List StyleEdit) :
    applyEdits (d.beside more) id edits = (applyEdits d id edits).beside more := by
  induction edits generalizing d with
  | nil => rfl
  | cons e edits ih =>
    have hfirst : (setStyle (d.beside more) id e.property e.value).getD (d.beside more) =
        ((setStyle d id e.property e.value).getD d).beside more := by
      rw [setStyle_beside h]
      cases setStyle d id e.property e.value <;> rfl
    simp only [applyEdits, List.foldl_cons] at ih ⊢
    rw [hfirst, ih]

end FlatDocument

open FlatDocument

namespace Section

variable {d : FlatDocument} {more : List FlatElement} {id : String}

/-- No further element is the section or its button. -/
def Unwired (more : List FlatElement) (id : String) : Prop :=
  Outside more id ∧ Outside more (buttonId id)

theorem toggle_beside (h : Unwired more id) :
    toggle (d.beside more) id = (toggle d id).map fun x => (x.1, x.2.beside more) := by
  unfold toggle
  rw [toggleClass_beside h.1]
  cases toggleClass d id hiddenClass with
  | none => rfl
  | some x =>
    obtain ⟨collapsed, flipped⟩ := x
    simp only [Option.map_some, text_beside h.2, setText_beside h.2]
    cases text flipped (buttonId id) with
    | none => rfl
    | some label =>
      dsimp only
      cases setText flipped (buttonId id) (relabel collapsed label) <;> rfl

theorem prepare_beside (h : Unwired more id) :
    prepare (d.beside more) id = (prepare d id).map (·.beside more) := by
  unfold prepare
  rw [setStyle_beside h.2]
  cases setStyle d (buttonId id) "visibility" "visible" with
  | none => rfl
  | some shown =>
    simp only [Option.map_some, hasClass_beside h.1, toggle_beside h]
    split
    · cases toggle shown id <;> rfl
    · rfl

theorem prepareAll_beside {ids : List String} (h : ∀ id ∈ ids, Unwired more id) :
    prepareAll (d.beside more) ids =
      ((prepareAll d ids).1, (prepareAll d ids).2.1.beside more, (prepareAll d ids).2.2) := by
  induction ids generalizing d with
  | nil => rfl
  | cons id ids ih =>
    obtain ⟨hid, hids⟩ := List.forall_mem_cons.mp h
    unfold prepareAll
    rw [prepare_beside hid]
    cases prepare d id with
    | none => simp only [Option.map_none, ih hids]
    | some d' => simp only [Option.map_some, ih hids]

theorem install_beside (hc : ∀ e ∈ more, e.classes = [])
    (h : ∀ id ∈ idsWithClass d collapsibleClass, Unwired more id) :
    install (d.beside more) = ((install d).1, (install d).2.1.beside more, (install d).2.2) := by
  rw [install, idsWithClass_beside hc, prepareAll_beside h]
  rfl

end Section

namespace Page

variable {d : FlatDocument} {more : List FlatElement}

theorem reveal_beside {id : String} (h : Outside more id) :
    reveal (d.beside more) id = ((reveal d id).1.beside more, (reveal d id).2) := by
  unfold reveal
  rw [setStyle_beside h]
  cases setStyle d id "display" "block" <;> rfl

theorem install_beside (p : Page) (hc : ∀ e ∈ more, e.classes = [])
    (hsections : ∀ id ∈ idsWithClass d Section.collapsibleClass, Section.Unwired more id)
    (hsearch : Outside more p.config.ids.search)
    (hbutton : Outside more p.config.ids.headerButton) :
    p.install (d.beside more) =
      ((p.install d).1, (p.install d).2.1.beside more, (p.install d).2.2) := by
  simp only [install, Section.install_beside hc hsections, reveal_beside hsearch,
    reveal_beside hbutton]

end Page

end DocPages
