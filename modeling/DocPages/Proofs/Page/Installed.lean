import DocPages.Page
import DocPages.Proofs.Document.Flat
import Mathlib.Data.List.Perm.Basic

/-! What the installation of a page does to a flat document in which every collapsible section has
its button. Each section and each button changes once, so what became of them can be read off the
elements that were there before. -/

namespace DocPages

open Document

namespace Section

def settled (e : FlatElement) : FlatElement :=
  if e.hasClass collapsedClass then (e.toggleClass hiddenClass).2 else e

/-- The button of the section `e`, once it is shown. -/
def labelled (e b : FlatElement) : FlatElement :=
  let b := b.setStyle "visibility" "visible"
  if e.hasClass collapsedClass then { b with text := relabel (e.toggleClass hiddenClass).1 b.text }
  else b

section Elements

variable {e b : FlatElement}

theorem hasClass_hidden_settled (h : e.hasClass hiddenClass = false) :
    (settled e).hasClass hiddenClass = e.hasClass collapsedClass := by
  unfold settled
  cases hc : e.hasClass collapsedClass with
  | false => simpa using h
  | true =>
    have hmem : hiddenClass ∈ (e.toggleClass hiddenClass).2.classes := by
      simp [FlatElement.toggleClass, h]
    simpa [FlatElement.hasClass] using hmem

theorem classes_labelled (e b : FlatElement) : (labelled e b).classes = b.classes := by
  unfold labelled
  cases e.hasClass collapsedClass <;> rfl

theorem visibility_labelled (e b : FlatElement) :
    (labelled e b).styles.lookup "visibility" = some "visible" := by
  have hset : (b.setStyle "visibility" "visible").styles.lookup "visibility" = some "visible" := by
    rw [b.lookup_setStyle, if_pos rfl, if_neg (by decide)]
  unfold labelled
  cases e.hasClass collapsedClass with
  | false => exact hset
  | true => exact hset

theorem text_labelled (h : e.hasClass hiddenClass = false) :
    (labelled e b).text = if e.hasClass collapsedClass then relabel true b.text else b.text := by
  have hflip : (e.toggleClass hiddenClass).1 = true := by simp [FlatElement.toggleClass, h]
  unfold labelled
  cases e.hasClass collapsedClass with
  | false => rfl
  | true =>
    rw [hflip]
    rfl

end Elements

theorem ne_buttonId (id : String) : id ≠ buttonId id := by
  intro h
  have hlength := congrArg String.length h
  rw [buttonId, String.length_append] at hlength
  have hsuffix : ".vis_button".length = 11 := by decide
  omega

/-- The ids of sections and of their buttons. -/
def wired (ids : List String) : List String := ids.flatMap fun id => [buttonId id, id]

theorem wired_cons (id : String) (ids : List String) :
    wired (id :: ids) = buttonId id :: id :: wired ids := rfl

theorem wired_perm (ids : List String) : (wired ids).Perm (ids ++ ids.map buttonId) := by
  have hperm := List.map_append_flatMap_perm ids buttonId fun id => [id]
  have hself : ids.flatMap (fun id => [id]) = ids := List.flatMap_singleton' ids
  rw [hself] at hperm
  exact hperm.symm.trans List.perm_append_comm

theorem mem_wired {id : String} {ids : List String} (h : id ∈ ids) :
    id ∈ wired ids ∧ buttonId id ∈ wired ids := by
  constructor
  · exact List.mem_flatMap.mpr ⟨id, h, by simp⟩
  · exact List.mem_flatMap.mpr ⟨id, h, by simp⟩

theorem exists_of_mem_wired {x : String} {ids : List String} (h : x ∈ wired ids) (hnot : x ∉ ids) :
    ∃ id ∈ ids, x = buttonId id := by
  obtain ⟨id, hid, hx⟩ := List.mem_flatMap.mp h
  rcases List.mem_cons.mp hx with rfl | hx
  · exact ⟨id, hid, rfl⟩
  · rw [List.mem_singleton] at hx
    exact absurd (hx ▸ hid) hnot

section Prepare

variable {d : FlatDocument} {id : String} {e b : FlatElement}

theorem exists_toggle (he : d.get? id = some e) (hb : d.get? (buttonId id) = some b) :
    ∃ d', toggle d id = some ((e.toggleClass hiddenClass).1, d') ∧
      ∀ other, d'.get? other =
        if other = buttonId id then
          some { b with text := relabel (e.toggleClass hiddenClass).1 b.text }
        else if other = id then some (e.toggleClass hiddenClass).2 else d.get? other := by
  obtain ⟨flipped, hflip, hget⟩ := FlatDocument.exists_modify?
    (f := fun e => (e.toggleClass hiddenClass).2) (fun e => e.id_toggleClass _) he
  have hbutton : flipped.get? (buttonId id) = some b := by
    rw [hget, if_neg (ne_buttonId id).symm, hb]
  obtain ⟨d', hset, hget'⟩ := FlatDocument.exists_modify?
    (f := fun x => { x with text := relabel (e.toggleClass hiddenClass).1 b.text })
    (fun _ => rfl) hbutton
  refine ⟨d', ?_, fun other => by rw [hget', hget]⟩
  have htoggle : toggleClass d id hiddenClass = some ((e.toggleClass hiddenClass).1, flipped) := by
    simp only [toggleClass, he, hflip]
  have htext : text flipped (buttonId id) = some b.text := by
    simp only [text, hbutton, Option.map_some]
  have hsetText : setText flipped (buttonId id) (relabel (e.toggleClass hiddenClass).1 b.text) =
      some d' := hset
  simp only [toggle, htoggle, Option.map_some, htext, hsetText, Option.getD_some]

theorem exists_prepare (he : d.get? id = some e) (hb : d.get? (buttonId id) = some b) :
    ∃ d', prepare d id = some d' ∧ ∀ other, d'.get? other =
      if other = buttonId id then some (labelled e b)
      else if other = id then some (settled e) else d.get? other := by
  obtain ⟨shown, hshow, hget⟩ := FlatDocument.exists_modify?
    (f := fun b => b.setStyle "visibility" "visible") (fun _ => rfl) hb
  have hsetStyle : setStyle d (buttonId id) "visibility" "visible" = some shown := hshow
  have hsection : shown.get? id = some e := by rw [hget, if_neg (ne_buttonId id), he]
  have hasks : hasClass shown id collapsedClass = e.hasClass collapsedClass := by
    simp only [hasClass, hsection, Option.any_some]
  have hprepare : prepare d id = some (if e.hasClass collapsedClass then
      ((toggle shown id).map (·.2)).getD shown else shown) := by
    simp only [prepare, hsetStyle, Option.map_some, hasks]
  rw [hprepare]
  unfold labelled settled
  cases hc : e.hasClass collapsedClass with
  | false =>
    refine ⟨shown, rfl, fun other => ?_⟩
    rw [hget]
    by_cases hother : other = id
    · simp [hother, ne_buttonId, he]
    · simp [hother]
  | true =>
    have hbutton : shown.get? (buttonId id) = some (b.setStyle "visibility" "visible") := by
      rw [hget, if_pos rfl]
    obtain ⟨d', htoggle, hget'⟩ := exists_toggle hsection hbutton
    refine ⟨d', by simp [htoggle], fun other => ?_⟩
    rw [hget', hget]
    by_cases hother : other = buttonId id
    · simp [hother]
    · simp [hother]

theorem exists_prepareAll {ids : List String} (hnodup : (wired ids).Nodup)
    (hsome : ∀ x ∈ wired ids, (d.get? x).isSome) :
    ∃ d', prepareAll d ids = (ids, d', []) ∧
      (∀ other ∉ wired ids, d'.get? other = d.get? other) ∧
      ∀ id ∈ ids, ∀ e b, d.get? id = some e → d.get? (buttonId id) = some b →
        d'.get? id = some (settled e) ∧ d'.get? (buttonId id) = some (labelled e b) := by
  -- A step changes one section and its button, and no later step names them again.
  induction ids generalizing d with
  | nil => exact ⟨d, rfl, fun _ _ => rfl, fun id hid => absurd hid List.not_mem_nil⟩
  | cons id ids ih =>
    obtain ⟨hbutton, hrest⟩ := List.nodup_cons.mp hnodup
    obtain ⟨hid, hnodup⟩ := List.nodup_cons.mp hrest
    have hbutton : buttonId id ∉ wired ids := fun hmem => hbutton (List.mem_cons_of_mem id hmem)
    obtain ⟨e, he⟩ := Option.isSome_iff_exists.mp (hsome id (by simp [wired]))
    obtain ⟨b, hb⟩ := Option.isSome_iff_exists.mp (hsome (buttonId id) (by simp [wired]))
    obtain ⟨mid, hprepare, hget⟩ := exists_prepare he hb
    have hframe (other : String) (hne : other ≠ buttonId id) (hne' : other ≠ id) :
        mid.get? other = d.get? other := by rw [hget, if_neg hne, if_neg hne']
    have hlater (other : String) (hmem : other ∈ wired ids) : mid.get? other = d.get? other :=
      hframe other (fun heq => hbutton (heq ▸ hmem)) fun heq => hid (heq ▸ hmem)
    obtain ⟨d', hall, hother, hready⟩ := ih hnodup fun x hx => by
      rw [hlater x hx]
      exact hsome x (List.mem_cons_of_mem _ (List.mem_cons_of_mem _ hx))
    refine ⟨d', by simp only [prepareAll, hprepare, hall], fun other hnot => ?_, ?_⟩
    · rw [wired_cons, List.mem_cons, List.mem_cons, not_or, not_or] at hnot
      rw [hother other hnot.2.2, hframe other hnot.1 hnot.2.1]
    · intro x hx e' b' he' hb'
      rcases List.mem_cons.mp hx with rfl | hx
      · rw [he] at he'
        rw [hb] at hb'
        cases he'
        cases hb'
        rw [hother x hid, hother _ hbutton, hget, hget, if_neg (ne_buttonId x), if_pos rfl,
          if_pos rfl]
        exact ⟨rfl, rfl⟩
      · refine hready x hx e' b' ?_ ?_
        · rw [hlater x (mem_wired hx).1, he']
        · rw [hlater _ (mem_wired hx).2, hb']

end Prepare

end Section

namespace Page

open Section

variable {d : FlatDocument}

theorem exists_reveal {id : String} (h : (d.get? id).isSome) :
    ∃ d', reveal d id = (d', []) ∧ style d' id "display" = some "block" ∧
      (∀ other ≠ id, d'.get? other = d.get? other) ∧
      ∀ other c, hasClass d' other c = hasClass d other c := by
  obtain ⟨e, he⟩ := Option.isSome_iff_exists.mp h
  obtain ⟨d', hset, hget⟩ := FlatDocument.exists_modify?
    (f := fun e => e.setStyle "display" "block") (fun _ => rfl) he
  have hsetStyle : setStyle d id "display" "block" = some d' := hset
  refine ⟨d', by simp only [reveal, hsetStyle], ?_, ?_, ?_⟩
  · simp only [style, hget, if_true, Option.bind_some]
    rw [e.lookup_setStyle, if_pos rfl, if_neg (by decide)]
  · intro other hne
    rw [hget, if_neg hne]
  · intro other c
    simp only [hasClass, hget]
    split
    · rename_i heq
      rw [heq, he]
      rfl
    · rfl

theorem exists_install (p : Page) {ids : List String}
    (hsections : idsWithClass d collapsibleClass = ids)
    (hnodup : (wired ids ++ [p.config.ids.headerButton, p.config.ids.search]).Nodup)
    (hsome : ∀ x ∈ wired ids ++ [p.config.ids.headerButton, p.config.ids.search],
      (d.get? x).isSome) :
    ∃ d', p.install d = (ids, d', [.pageInstalled ids.length]) ∧
      style d' p.config.ids.search "display" = some "block" ∧
      style d' p.config.ids.headerButton "display" = some "block" ∧
      (∀ other ∉ ids, ∀ c, hasClass d' other c = hasClass d other c) ∧
      ∀ id ∈ ids, ∀ e b, d.get? id = some e → d.get? (buttonId id) = some b →
        d'.get? id = some (settled e) ∧ d'.get? (buttonId id) = some (labelled e b) := by
  obtain ⟨hwired, hpair, hdisjoint⟩ := List.nodup_append.mp hnodup
  have hne : p.config.ids.headerButton ≠ p.config.ids.search := by
    intro heq
    simp [heq] at hpair
  have hsearch : p.config.ids.search ∉ wired ids :=
    fun hmem => hdisjoint _ hmem _ (by simp) rfl
  have hheader : p.config.ids.headerButton ∉ wired ids :=
    fun hmem => hdisjoint _ hmem _ (by simp) rfl
  obtain ⟨d₁, hprepare, hother, hready⟩ := exists_prepareAll hwired fun x hx =>
    hsome x (List.mem_append_left _ hx)
  have hfound : (d₁.get? p.config.ids.search).isSome := by
    rw [hother _ hsearch]
    exact hsome _ (by simp)
  obtain ⟨d₂, hreveal, hstyle, hget, hclass⟩ := exists_reveal hfound
  have hfound' : (d₂.get? p.config.ids.headerButton).isSome := by
    rw [hget _ hne, hother _ hheader]
    exact hsome _ (by simp)
  obtain ⟨d₃, hreveal', hstyle', hget', hclass'⟩ := exists_reveal hfound'
  have hkept (x : String) (hx : x ∈ wired ids) : d₃.get? x = d₁.get? x := by
    have hxsearch : x ≠ p.config.ids.search := fun heq => hsearch (heq ▸ hx)
    have hxheader : x ≠ p.config.ids.headerButton := fun heq => hheader (heq ▸ hx)
    rw [hget' x hxheader, hget x hxsearch]
  refine ⟨d₃, ?_, ?_, hstyle', ?_, ?_⟩
  · simp only [install, Section.install, hsections, hprepare, hreveal, hreveal', List.nil_append]
  · simpa only [style, hget' _ hne.symm] using hstyle
  · intro other hnot c
    rw [hclass', hclass]
    by_cases hmem : other ∈ wired ids
    · -- Only sections change their classes; what is left of the wired elements are the buttons.
      obtain ⟨id, hid, rfl⟩ := exists_of_mem_wired hmem hnot
      obtain ⟨e, he⟩ := Option.isSome_iff_exists.mp
        (hsome id (List.mem_append_left _ (mem_wired hid).1))
      obtain ⟨b, hb⟩ := Option.isSome_iff_exists.mp
        (hsome (buttonId id) (List.mem_append_left _ hmem))
      have hbutton := (hready id hid e b he hb).2
      simp only [hasClass, hbutton, hb, Option.any_some, FlatElement.hasClass, classes_labelled]
    · simp only [hasClass, hother other hmem]
  · intro id hid e b he hb
    rw [hkept id (mem_wired hid).1, hkept _ (mem_wired hid).2]
    exact hready id hid e b he hb

end Page

end DocPages
