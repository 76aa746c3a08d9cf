import DocPages.Proofs.Document.Flat
import DocPages.Proofs.Document.Tree

/-! Inline styles as values under names: what is set is read back, and nothing else of the element's
style changes. This holds of flat documents and of element trees alike. -/

namespace DocPages

open Document

/-- Setting a property of an element leaves its other properties as they were. Whether it can be
done depends on neither the property nor the value, nor on what was set before. -/
class LawfulStyles (δ : Type) [Document δ] : Prop where
  style_setStyle : ∀ {d d' : δ} {id property value : String},
    setStyle d id property value = some d' → ∀ other, style d' id other =
      if other = property then (if value.isEmpty then none else some value) else style d id other
  isSome_setStyle : ∀ (d : δ) (id property value property' value' : String),
    (setStyle d id property value).isSome = (setStyle d id property' value').isSome
  setStyle_setStyle : ∀ {d d' : δ} {id property value : String},
    setStyle d id property value = some d' →
    ∀ property' value', (setStyle d' id property' value').isSome = true

namespace FlatDocument

theorem isSome_setStyle (d : FlatDocument) (id property value : String) :
    (setStyle d id property value).isSome = (d.get? id).isSome := isSome_modify? d id _

instance : LawfulStyles FlatDocument where
  style_setStyle {d d' id property value} h other := by
    rw [style_setStyle h]
    simp
  isSome_setStyle d id property value property' value' := by
    rw [isSome_setStyle, isSome_setStyle]
  setStyle_setStyle {d d' id property value} h property' value' := by
    have hid (e : FlatElement) : (e.setStyle property value).id = e.id := rfl
    have hcount : d'.count id = d.count id := count_modify? hid h id
    have hfound : (d.get? id).isSome = true := by
      rw [← isSome_setStyle d id property value, h]
      rfl
    rw [isSome_setStyle, isSome_get?, hcount, ← isSome_get?]
    exact hfound

end FlatDocument

namespace ElementTree

variable {t t' : ElementTree} {id : String} {f : TreeElement → TreeElement}

theorem get?_modify (hf : ∀ e, (f e).id = e.id) (key : Nat) (id : String) :
    (t.modify key f).get? id = (t.get? id).map fun e => if e.key = key then f e else e := by
  have hid (e : TreeElement) : (if e.key = key then f e else e).id = e.id := by
    split
    · exact hf e
    · rfl
  unfold get?
  split
  · rfl
  · simp only [modify, List.find?_map, Function.comp_def, hid]

/-- The styled element stands where the element stood. -/
theorem getHtml?_setStyle {property value : String}
    (h : setStyle t id property value = some t') :
    ∃ e, t.getHtml? id = some e ∧ t'.getHtml? id = some (e.setStyle property value) := by
  obtain ⟨e, he, rfl⟩ := Option.map_eq_some_iff.mp h
  refine ⟨e, he, ?_⟩
  obtain ⟨hget, hhtml⟩ := Option.filter_eq_some_iff.mp he
  have hid (x : TreeElement) : (x.setStyle property value).id = x.id := rfl
  rw [getHtml?, get?_modify hid, hget, Option.map_some, if_pos rfl]
  exact Option.filter_some_pos hhtml

theorem isSome_setStyle (t : ElementTree) (id property value : String) :
    (setStyle t id property value).isSome = (t.getHtml? id).isSome := Option.isSome_map

instance : LawfulStyles ElementTree where
  style_setStyle {t t' id property value} h other := by
    obtain ⟨e, he, he'⟩ := getHtml?_setStyle h
    simp only [style, he, he', Option.bind_some, TreeElement.lookup_setStyle]
    by_cases ho : other = property
    · rw [if_pos ho, if_pos ho]
      cases hv : value.isEmpty with
      | true => rfl
      | false => exact Option.filter_some_pos (by simp [hv])
    · rw [if_neg ho, if_neg ho]
  isSome_setStyle t id property value property' value' := by
    rw [isSome_setStyle, isSome_setStyle]
  setStyle_setStyle {t t' id property value} h property' value' := by
    obtain ⟨e, -, he'⟩ := getHtml?_setStyle h
    rw [isSome_setStyle, he', Option.isSome_some]

end ElementTree

end DocPages
