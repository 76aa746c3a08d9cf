import DocPages.Page.Run
import DocPages.Proofs.Document.Flat

/-! Pages that follow a script. Some events belong to the search; every other event leaves the
searches and the list of elements as they are and only changes elements in their places. -/

namespace DocPages

open Document

/-- The event starts, polls, shows or dismisses a search. -/
def PageEvent.isSearch : PageEvent → Bool
  | .search _ _ | .poll _ | .await _ | .show _ | .showResults _ | .dismiss => true
  | .install | .viewport _ | .width _ | .headerButton | .sidebarLink | .transitionEnd
  | .sectionButton _ => false

namespace PageRun

section Play

variable {δ : Type} [Document δ] {r : PageRun δ}

/-- All events with what they answer and report. -/
def transcript (r : PageRun δ) : Script → List (PageEvent × PageReply × List Notice)
  | [] => []
  | x :: script => (x.2, (r.step x.1 x.2).2) :: transcript (r.step x.1 x.2).1 script

theorem play_invariant {P : PageRun δ → Prop} (hr : P r)
    (hstep : ∀ r index e, P r → P (r.step index e).1) (script : Script) : P (r.play script) := by
  induction script generalizing r with
  | nil => exact hr
  | cons x script ih => exact ih (hstep r x.1 x.2 hr)

end Play

end PageRun

section Skeleton

variable {d d' : FlatDocument}

theorem Section.toggle_cases {owner : String} {collapsed : Bool}
    (h : Section.toggle d owner = some (collapsed, d')) :
    ∃ flipped, d.modify? owner (fun e => (e.toggleClass Section.hiddenClass).2) = some flipped ∧
      (d' = flipped ∨
        ∃ s, flipped.modify? (Section.buttonId owner) (fun e => { e with text := s }) =
          some d') := by
  obtain ⟨⟨b, flipped⟩, hflip, hlabel⟩ := Option.map_eq_some_iff.mp h
  simp only [toggleClass] at hflip
  split at hflip
  · rename_i e changed he hchanged
    cases hflip
    refine ⟨flipped, hchanged, ?_⟩
    simp only at hlabel
    split at hlabel
    · rename_i label hl
      cases hlabel
      cases ht : setText flipped (Section.buttonId owner)
          (Section.relabel (e.toggleClass Section.hiddenClass).1 label) with
      | none => exact .inl rfl
      | some relabelled => exact .inr ⟨_, ht⟩
    · cases hlabel
      exact .inl rfl
  · cases hflip

theorem Section.prepare_cases {owner : String} (h : Section.prepare d owner = some d') :
    ∃ shown, setStyle d (Section.buttonId owner) "visibility" "visible" = some shown ∧
      (d' = shown ∨ ∃ collapsed, Section.toggle shown owner = some (collapsed, d')) := by
  obtain ⟨shown, hshow, hrest⟩ := Option.map_eq_some_iff.mp h
  refine ⟨shown, hshow, ?_⟩
  split at hrest
  · cases ht : Section.toggle shown owner with
    | none =>
      rw [ht] at hrest
      exact .inl hrest.symm
    | some x =>
      rw [ht] at hrest
      cases hrest
      exact .inr ⟨x.1, rfl⟩
  · exact .inl hrest.symm

theorem Section.skeleton_toggle {owner : String} {collapsed : Bool}
    (h : Section.toggle d owner = some (collapsed, d')) : d'.skeleton = d.skeleton := by
  obtain ⟨flipped, hflip, hlabel⟩ := Section.toggle_cases h
  have hflipped : flipped.skeleton = d.skeleton :=
    FlatDocument.skeleton_modify? hflip fun e => ⟨e.id_toggleClass _, e.parent_toggleClass _⟩
  rcases hlabel with rfl | ⟨s, hs⟩
  · exact hflipped
  · exact (FlatDocument.skeleton_modify? hs fun _ => ⟨rfl, rfl⟩).trans hflipped

theorem skeleton_setStyle {id property value : String}
    (h : setStyle d id property value = some d') : d'.skeleton = d.skeleton :=
  FlatDocument.skeleton_modify? h fun _ => ⟨rfl, rfl⟩

theorem Section.skeleton_prepare {owner : String} (h : Section.prepare d owner = some d') :
    d'.skeleton = d.skeleton := by
  obtain ⟨shown, hshow, hrest⟩ := Section.prepare_cases h
  have hshown := skeleton_setStyle hshow
  rcases hrest with rfl | ⟨collapsed, ht⟩
  · exact hshown
  · exact (Section.skeleton_toggle ht).trans hshown

theorem Section.skeleton_prepareAll (d : FlatDocument) (owners : List String) :
    (Section.prepareAll d owners).2.1.skeleton = d.skeleton := by
  induction owners generalizing d with
  | nil => rfl
  | cons owner owners ih =>
    unfold Section.prepareAll
    cases hp : Section.prepare d owner with
    | none => exact ih d
    | some d' => exact (ih d').trans (Section.skeleton_prepare hp)

theorem skeleton_applyEdits (d : FlatDocument) (id : String) (edits : List StyleEdit) :
    (applyEdits d id edits).skeleton = d.skeleton := by
  induction edits generalizing d with
  | nil => rfl
  | cons e edits ih =>
    have hfirst : ((setStyle d id e.property e.value).getD d).skeleton = d.skeleton := by
      cases hs : setStyle d id e.property e.value with
      | none => rfl
      | some d' => exact skeleton_setStyle hs
    exact (ih _).trans hfirst

theorem Page.skeleton_reveal (d : FlatDocument) (id : String) :
    (Page.reveal d id).1.skeleton = d.skeleton := by
  unfold Page.reveal
  cases hs : setStyle d id "display" "block" with
  | none => rfl
  | some d' => exact skeleton_setStyle hs

theorem Page.skeleton_install (p : Page) (d : FlatDocument) :
    (p.install d).2.1.skeleton = d.skeleton :=
  ((Page.skeleton_reveal _ _).trans (Page.skeleton_reveal _ _)).trans
    (Section.skeleton_prepareAll d _)

end Skeleton

namespace PageRun

theorem config_step {δ : Type} [Document δ] (index : Index) (r : PageRun δ) (e : PageEvent) :
    (r.step index e).1.page.config = r.page.config := by
  cases e with
  | sectionButton owner =>
    simp only [step]
    split <;> rfl
  | «show» slot =>
    simp only [step]
    split <;> rfl
  | _ => rfl

/-- What the search is left with by an event that does not belong to it. -/
theorem step_of_not_search (index : Index) (r : PageRun FlatDocument) {e : PageEvent}
    (h : e.isSearch = false) :
    (r.step index e).1.page.session = r.page.session ∧ (r.step index e).1.desk = r.desk ∧
      (r.step index e).1.document.skeleton = r.document.skeleton := by
  cases e with
  | install => exact ⟨rfl, rfl, Page.skeleton_install _ _⟩
  | viewport | width | headerButton | sidebarLink | transitionEnd =>
    exact ⟨rfl, rfl, skeleton_applyEdits _ _ _⟩
  | sectionButton owner =>
    simp only [step]
    split
    · rename_i ht
      exact ⟨rfl, rfl, Section.skeleton_toggle ht⟩
    · exact ⟨rfl, rfl, rfl⟩
  | search | poll | await | «show» | showResults | dismiss => cases h

end PageRun

end DocPages
