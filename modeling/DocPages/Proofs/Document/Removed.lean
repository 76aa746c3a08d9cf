import DocPages.Proofs.Document.Flat
import Mathlib.Data.List.Induction

/-! Removing elements from a flat document. A removal takes the children of an element along, but
not what lies deeper, so an element can stay behind whose parent is gone. This is the only way in
which a parent is lost, and it does not happen as long as nothing is appended to what was
appended. -/

namespace DocPages

namespace FlatDocument

open Document

/-- A change of a document. -/
inductive Edit where
  | insert (id : String) (classes : List String) (text : String)
  | append (parent child html : String)
  | remove (id : String)
  | toggleClass (id c : String)
  | setText (id text : String)
  | setStyle (id property value : String)
  deriving DecidableEq, Repr

/-- An edit that asks for a missing element changes nothing. -/
def edit (d : FlatDocument) : Edit → FlatDocument
  | .insert id classes text => d.insert id classes text
  | .append parent child html => (append d parent child html).getD d
  | .remove id => (remove d id).getD d
  | .toggleClass id c => ((toggleClass d id c).map (·.2)).getD d
  | .setText id text => (setText d id text).getD d
  | .setStyle id property value => (setStyle d id property value).getD d

/-- The document that a sequence of edits makes. -/
def edited (edits : List Edit) : FlatDocument := edits.foldl edit .empty

/-- Every element that names a parent has it in the document. -/
def Rooted (d : FlatDocument) : Prop := ∀ e ∈ d.elements, ∀ parent ∈ e.parent, 0 < d.count parent

instance (d : FlatDocument) : Decidable d.Rooted :=
  inferInstanceAs (Decidable (∀ e ∈ d.elements, ∀ parent ∈ e.parent, 0 < d.count parent))

/-- Removing an element leaves one of its grandchildren behind: all elements that are called like
the parent of the grandchild are children of the one that is removed. -/
def Strands (d : FlatDocument) (id : String) : Prop :=
  ∃ e ∈ d.elements.eraseP (·.id == id), ∃ parent ∈ e.parent, parent ≠ id ∧
    ∀ x ∈ d.elements, x.id = parent → x.parent = some id

section Step

variable {d d' : FlatDocument} {id : String}

theorem count_pos_iff (d : FlatDocument) (id : String) :
    0 < d.count id ↔ ∃ e ∈ d.elements, e.id = id := by
  simp [count, List.countP_pos_iff]

theorem mem_skeleton {e : FlatElement} (he : e ∈ d.elements) : (e.id, e.parent) ∈ d.skeleton :=
  List.mem_map_of_mem (f := fun e : FlatElement => (e.id, e.parent)) he

theorem skeleton_getD_modify? (f : FlatElement → FlatElement)
    (hf : ∀ e, (f e).id = e.id ∧ (f e).parent = e.parent) :
    ((d.modify? id f).getD d).skeleton = d.skeleton := by
  cases h : d.modify? id f with
  | none => rfl
  | some d' => exact skeleton_modify? h hf

/-- An edit changes elements in their places, adds one whose parent is there, or removes. -/
theorem edit_cases (d : FlatDocument) (edit : Edit) :
    (d.edit edit).skeleton = d.skeleton ∨
    (∃ e, (d.edit edit).elements = d.elements ++ [e] ∧ ∀ parent ∈ e.parent,
      0 < d.count parent ∧ ∃ html, edit = .append parent e.id html) ∨
    ∃ id, edit = .remove id ∧ d.remove? id = some (d.edit edit) := by
  cases edit with
  | insert id classes text => exact .inr (.inl ⟨_, rfl, nofun⟩)
  | append parent child html =>
    cases happend : d.append? parent child html with
    | none =>
      left
      simp only [FlatDocument.edit, append, happend, Option.getD_none]
    | some d' =>
      have hfound : (d.get? parent).isSome = true := by
        unfold append? at happend
        split at happend
        · assumption
        · cases happend
      refine .inr (.inl ⟨⟨child, some parent, [], "", [], some html⟩, ?_, ?_⟩)
      · simp only [FlatDocument.edit, append, happend, Option.getD_some]
        exact elements_append? happend
      · rintro _ ⟨⟩
        exact ⟨(isSome_get? d parent).mp hfound, html, rfl⟩
  | remove id =>
    cases hremove : d.remove? id with
    | none =>
      left
      simp only [FlatDocument.edit, remove, hremove, Option.getD_none]
    | some d' =>
      refine .inr (.inr ⟨id, rfl, ?_⟩)
      simp only [FlatDocument.edit, remove, hremove, Option.getD_some]
  | toggleClass id c =>
    left
    have htoggle : d.edit (.toggleClass id c) =
        (d.modify? id fun e => (e.toggleClass c).2).getD d := by
      have hsome := isSome_modify? d id fun e => (e.toggleClass c).2
      simp only [FlatDocument.edit, toggleClass]
      cases hget : d.get? id with
      | none =>
        rw [hget] at hsome
        rw [Option.not_isSome_iff_eq_none.mp (Bool.eq_false_iff.mp hsome)]
        rfl
      | some e => cases d.modify? id fun e => (e.toggleClass c).2 <;> rfl
    rw [htoggle]
    exact skeleton_getD_modify? _ fun e => ⟨e.id_toggleClass c, e.parent_toggleClass c⟩
  | setText id text => exact .inl (skeleton_getD_modify? _ fun _ => ⟨rfl, rfl⟩)
  | setStyle id property value => exact .inl (skeleton_getD_modify? _ fun _ => ⟨rfl, rfl⟩)

theorem Rooted.of_skeleton (hd : d.Rooted) (h : d'.skeleton = d.skeleton) : d'.Rooted := by
  intro e he parent hparent
  obtain ⟨e', he', heq⟩ := List.mem_map.mp (h ▸ mem_skeleton he)
  rw [count_of_skeleton h]
  apply hd e' he'
  rw [(Prod.mk.inj heq).2]
  exact hparent

theorem Rooted.concat (hd : d.Rooted) {e : FlatElement} (h : d'.elements = d.elements ++ [e])
    (he : ∀ parent ∈ e.parent, 0 < d.count parent) : d'.Rooted := by
  have hcount (id : String) (hid : 0 < d.count id) : 0 < d'.count id := by
    rw [count, h, List.countP_append]
    exact Nat.add_pos_left hid _
  intro x hx parent hparent
  rw [h, List.mem_append, List.mem_singleton] at hx
  rcases hx with hold | rfl
  · exact hcount parent (hd x hold parent hparent)
  · exact hcount parent (he parent hparent)

theorem elements_remove? (h : d.remove? id = some d') :
    d'.elements = (d.elements.eraseP (·.id == id)).filter fun e => e.parent != some id := by
  unfold remove? at h
  split at h <;> cases h
  rfl

/-- Of the elements with another id, a removal takes those that are children of what it removes. -/
theorem mem_remove?_iff (h : d.remove? id = some d') {e : FlatElement} (he : e.id ≠ id) :
    e ∈ d'.elements ↔ e ∈ d.elements ∧ e.parent ≠ some id := by
  rw [elements_remove? h, List.mem_filter, List.mem_eraseP_of_neg (by simpa using he), bne_iff_ne]

theorem count_remove?_pos_iff (h : d.remove? id = some d') {other : String} (hne : other ≠ id) :
    0 < d'.count other ↔ ∃ e ∈ d.elements, e.id = other ∧ e.parent ≠ some id := by
  rw [count_pos_iff]
  constructor
  · rintro ⟨e, he, rfl⟩
    obtain ⟨hold, hparent⟩ := (mem_remove?_iff h hne).mp he
    exact ⟨e, hold, rfl, hparent⟩
  · rintro ⟨e, he, rfl, hparent⟩
    exact ⟨e, (mem_remove?_iff h hne).mpr ⟨he, hparent⟩, rfl⟩

theorem rooted_remove?_iff (h : d.remove? id = some d') : d'.Rooted ↔ ¬ d.Strands id := by
  constructor
  · rintro hrooted ⟨e, he, parent, hparent, hne, hchildren⟩
    have hleft : e ∈ d'.elements := by
      rw [elements_remove? h, List.mem_filter, bne_iff_ne, hparent]
      exact ⟨he, fun heq => hne (Option.some.inj heq)⟩
    obtain ⟨x, hx, hid, hother⟩ := (count_remove?_pos_iff h hne).mp (hrooted e hleft parent hparent)
    exact hother (hchildren x hx hid)
  · intro hstrands e he parent hparent
    rw [elements_remove? h, List.mem_filter, bne_iff_ne, hparent] at he
    have hne : parent ≠ id := fun heq => he.2 (congrArg some heq)
    by_contra hgone
    refine hstrands ⟨e, he.1, parent, hparent, hne, fun x hx hid => ?_⟩
    by_contra hother
    exact hgone ((count_remove?_pos_iff h hne).mpr ⟨x, hx, hid, hother⟩)

/-- Only an element that is there has grandchildren. -/
theorem Rooted.count_pos_of_strands (hd : d.Rooted) (h : d.Strands id) : 0 < d.count id := by
  obtain ⟨e, he, parent, hparent, -, hchildren⟩ := h
  have hpresent := hd e (List.mem_of_mem_eraseP he) parent hparent
  obtain ⟨x, hx, hid⟩ := (count_pos_iff d parent).mp hpresent
  exact hd x hx id (hchildren x hx hid)

theorem Rooted.remove_iff (hd : d.Rooted) (id : String) :
    (d.edit (.remove id)).Rooted ↔ ¬ d.Strands id := by
  cases hremove : d.remove? id with
  | none =>
    have hmissing : ¬ 0 < d.count id := by
      rw [← isSome_get?]
      intro hfound
      simp [remove?, hfound] at hremove
    have hsame : d.edit (.remove id) = d := by
      simp only [edit, remove, hremove, Option.getD_none]
    rw [hsame]
    exact iff_of_true hd fun hstrands => hmissing (hd.count_pos_of_strands hstrands)
  | some d' =>
    have hremoved : d.edit (.remove id) = d' := by
      simp only [edit, remove, hremove, Option.getD_some]
    rw [hremoved]
    exact rooted_remove?_iff hremove

theorem Rooted.edit_iff (hd : d.Rooted) (edit : Edit) :
    (d.edit edit).Rooted ↔ ∀ id, edit = .remove id → ¬ d.Strands id := by
  by_cases hremove : ∃ id, edit = .remove id
  · obtain ⟨id, rfl⟩ := hremove
    simp only [hd.remove_iff, Edit.remove.injEq, forall_eq']
  · push Not at hremove
    refine iff_of_true ?_ fun id heq => absurd heq (hremove id)
    rcases d.edit_cases edit with hsame | ⟨e, hadded, hparent⟩ | ⟨id, heq, -⟩
    · exact hd.of_skeleton hsame
    · exact hd.concat hadded fun parent hp => (hparent parent hp).1
    · exact absurd heq (hremove id)

end Step

section Run

variable {edits before : List Edit}

theorem edited_concat (edits : List Edit) (edit : Edit) :
    edited (edits ++ [edit]) = (edited edits).edit edit := List.foldl_append

/-- The parents are there all the time exactly if no removal leaves a grandchild behind. -/
theorem rooted_edited_iff (edits : List Edit) :
    (∀ before, before <+: edits → (edited before).Rooted) ↔
      ∀ before id, before ++ [.remove id] <+: edits → ¬ (edited before).Strands id := by
  constructor
  · intro hrooted before id hfront
    have hbefore := hrooted before ((List.prefix_append _ _).trans hfront)
    have hafter := hrooted _ hfront
    rw [edited_concat, hbefore.edit_iff] at hafter
    exact hafter id rfl
  · intro hstrands before hfront
    induction before using List.reverseRecOn with
    | nil => exact nofun
    | append_singleton before edit ih =>
      rw [edited_concat, (ih ((List.prefix_append _ _).trans hfront)).edit_iff]
      rintro id rfl
      exact hstrands before id hfront

/-- An element that names a parent was appended to it. -/
theorem exists_append_of_mem {e : FlatElement} {parent : String} (he : e ∈ (edited edits).elements)
    (hparent : parent ∈ e.parent) : ∃ html, .append parent e.id html ∈ edits := by
  induction edits using List.reverseRecOn generalizing e with
  | nil => cases he
  | append_singleton edits edit ih =>
    rw [edited_concat] at he
    rcases (edited edits).edit_cases edit with hsame | ⟨x, hadded, hx⟩ | ⟨id, -, hremoved⟩
    · obtain ⟨old, hold, heq⟩ := List.mem_map.mp (hsame ▸ mem_skeleton he)
      obtain ⟨hid, hsame⟩ := Prod.mk.inj heq
      obtain ⟨html, hmem⟩ := ih hold (hsame ▸ hparent)
      exact ⟨html, List.mem_append_left _ (hid ▸ hmem)⟩
    · rw [hadded, List.mem_append, List.mem_singleton] at he
      rcases he with hold | rfl
      · obtain ⟨html, hmem⟩ := ih hold hparent
        exact ⟨html, List.mem_append_left _ hmem⟩
      · obtain ⟨-, html, rfl⟩ := hx parent hparent
        exact ⟨html, List.mem_append_right _ List.mem_cons_self⟩
    · obtain ⟨html, hmem⟩ := ih (mem_of_remove? hremoved he) hparent
      exact ⟨html, List.mem_append_left _ hmem⟩

/-- Nothing is appended to an element that has the id of one that was appended. -/
def Shallow (edits : List Edit) : Prop :=
  ∀ parent child html parent' child' html', .append parent child html ∈ edits →
    .append parent' child' html' ∈ edits → parent ≠ child'

theorem Shallow.of_front (h : Shallow edits) (hfront : before <+: edits) : Shallow before :=
  fun _ _ _ _ _ _ happend happend' =>
    h _ _ _ _ _ _ (hfront.subset happend) (hfront.subset happend')

theorem Shallow.not_strands (h : Shallow edits) (hd : (edited edits).Rooted) (id : String) :
    ¬ (edited edits).Strands id := by
  rintro ⟨e, he, parent, hparent, -, hchildren⟩
  have hmem := List.mem_of_mem_eraseP he
  obtain ⟨x, hx, rfl⟩ := (count_pos_iff _ parent).mp (hd e hmem parent hparent)
  obtain ⟨html, happend⟩ := exists_append_of_mem hmem hparent
  obtain ⟨html', happend'⟩ := exists_append_of_mem hx (hchildren x hx rfl)
  exact h _ _ _ _ _ _ happend happend' rfl

end Run

end FlatDocument

open FlatDocument

/-- While a document is edited, every element that names a parent has it in the document exactly if
no removal leaves a grandchild of what it removes behind. That is so whatever is removed if nothing
is appended to what was appended, as with the result panel of a page. -/
theorem parents_stay_iff (edits : List Edit) :
    ((∀ before, before <+: edits → (edited before).Rooted) ↔
      ∀ before id, before ++ [.remove id] <+: edits → ¬ (edited before).Strands id) ∧
    (Shallow edits → ∀ before, before <+: edits → (edited before).Rooted) := by
  refine ⟨rooted_edited_iff edits, fun hshallow before hfront => ?_⟩
  induction before using List.reverseRecOn with
  | nil => exact nofun
  | append_singleton before edit ih =>
    have hbefore := (List.prefix_append before [edit]).trans hfront
    rw [edited_concat, (ih hbefore).edit_iff]
    exact fun id _ => (hshallow.of_front hbefore).not_strands (ih hbefore) id

/-- A search whose result panel is replaced, and which then goes away itself. -/
def panelEdits : List Edit :=
  [.insert "search" [] "", .append "search" "search_results" "<div>", .remove "search_results",
    .append "search" "search_results" "<div>", .setStyle "search" "display" "block",
    .remove "search"]

theorem parents_stay_iff_panel :
    Shallow panelEdits ∧ (edited panelEdits).Rooted ∧
      ¬ (edited panelEdits.dropLast).Strands "search" := by
  have hshallow : Shallow panelEdits := by
    simp +contextual [Shallow, panelEdits]
  obtain ⟨hiff, hrooted⟩ := parents_stay_iff panelEdits
  refine ⟨hshallow, hrooted hshallow _ List.prefix_rfl, ?_⟩
  exact hiff.mp (hrooted hshallow) _ _ List.prefix_rfl

/-- A result that is appended to a panel stays when the search above the panel is removed. -/
theorem grandchild_stays_behind :
    let d := edited [.insert "search" [] "", .append "search" "search_results" "<div>",
      .append "search_results" "first_result" "<a>", .remove "search"]
    d.elements.map (·.id) = ["first_result"] ∧ ¬ d.Rooted := by
  decide

end DocPages
