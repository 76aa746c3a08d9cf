import DocPages.Document.Tree
import DocPages.Proofs.Keyed

/-! What changes to an element tree leave as it was. A change of one element keeps the shape of the
tree, styles are kept like values under names, and a class is looked for as the one name in it. -/

namespace DocPages

namespace TreeElement

section Styles

variable {property value other : String}

theorem lookup_replace (styles : List (String × String)) :
    (styles.map fun (p, v) => if p = property then (p, value) else (p, v)).lookup other =
      if other = property then (styles.lookup other).map fun _ => value
      else styles.lookup other := by
  induction styles with
  | nil => simp
  | cons s styles ih =>
    obtain ⟨p, v⟩ := s
    by_cases hp : p = property <;> by_cases ho : other = p <;> grind

theorem isSome_lookup_iff (property : String) (styles : List (String × String)) :
    (styles.lookup property).isSome = styles.any fun (p, _) => p == property := by
  induction styles with
  | nil => rfl
  | cons s styles ih =>
    obtain ⟨p, v⟩ := s
    by_cases hp : property = p
    · simp [hp]
    · have hb : (property == p) = false := by simpa using hp
      have hb' : (p == property) = false := by simpa using fun heq => hp heq.symm
      simp [List.lookup_cons, hb, hb', ih]

theorem lookup_setStyle (e : TreeElement) (property value other : String) :
    (e.setStyle property value).styles.lookup other =
      if other = property then (if value.isEmpty then none else some value)
      else e.styles.lookup other := by
  unfold setStyle
  by_cases hempty : value.isEmpty = true
  · simp only [hempty, if_true]
    by_cases ho : other = property
    · rw [if_pos ho, ho, lookup_filter_self]
    · rw [if_neg ho, lookup_filter_ne ho]
  · simp only [hempty]
    have hset := isSome_lookup_iff property e.styles
    cases hany : e.styles.any fun (p, _) => p == property with
    | true =>
      -- The property has a value, so one of the values is replaced.
      rw [hany] at hset
      obtain ⟨old, hold⟩ := Option.isSome_iff_exists.mp hset
      simp only [Bool.false_eq_true, if_false, if_true, lookup_replace]
      by_cases ho : other = property
      · simp [ho, hold]
      · simp [ho]
    | false =>
      rw [hany, Option.isSome_eq_false_iff, Option.isNone_iff_eq_none] at hset
      simp only [Bool.false_eq_true, if_false, List.lookup_append]
      by_cases ho : other = property
      · simp [ho, hset]
      · have hb : (other == property) = false := by simpa using ho
        simp [ho, hb, List.lookup_cons]

end Styles

end TreeElement

theorem splitWhen_of_not_any {cut : Char → Bool} {cs : List Char} (h : cs.any cut = false) :
    splitWhen cut cs = [cs] := by
  induction cs with
  | nil => rfl
  | cons c cs ih =>
    rw [List.any_cons, Bool.or_eq_false_iff] at h
    simp [splitWhen, h.1, ih h.2]

theorem classNames_of_isToken {c : String} (h : TreeElement.isToken c = true) :
    classNames c = [c] := by
  unfold TreeElement.isToken at h
  rw [Bool.and_eq_true, Bool.not_eq_true', Bool.not_eq_true'] at h
  have hne : c.toList ≠ [] := by
    intro hnil
    simp [String.toList_eq_nil_iff.mp hnil] at h
  simp [classNames, splitWhen_of_not_any h.2, hne]

namespace ElementTree

variable {t : ElementTree} {id : String}

/-- What no change of an element touches: which elements there are, and how they are called. -/
def shape (t : ElementTree) : List (Nat × String × String) :=
  t.elements.map fun e => (e.key, e.id, e.tag)

theorem shape_modify {key : Nat} {f : TreeElement → TreeElement}
    (hf : ∀ e, ((f e).key, (f e).id, (f e).tag) = (e.key, e.id, e.tag)) :
    (t.modify key f).shape = t.shape := by
  rw [shape, shape, modify, List.map_map]
  apply List.map_congr_left
  intro e _
  rw [Function.comp_apply]
  split
  · exact hf e
  · rfl

theorem withClasses_of_isToken {c : String} (h : TreeElement.isToken c = true) :
    t.withClasses c = t.elements.filter (·.hasClass c) := by
  simp [withClasses, classNames_of_isToken h]

theorem find?_of_get? {e : TreeElement} (h : t.get? id = some e) :
    t.elements.find? (·.id == id) = some e := by
  unfold get? at h
  split at h
  · cases h
  · exact h

end ElementTree

end DocPages
