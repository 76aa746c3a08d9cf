import DocPages.Document.Flat
import DocPages.Proofs.Keyed

/-! What changes to a flat document leave as it was. A change of one element is seen only through
what it changes about that element; removing and appending are seen only under their own ids. -/

namespace DocPages

section ModifyFirst

variable {α : Type} {p : α → Bool} {f : α → α}

theorem modifyFirst_eq_some {xs ys : List α} (h : modifyFirst p f xs = some ys) :
    ∃ before x after, xs = before ++ x :: after ∧ (∀ y ∈ before, p y = false) ∧ p x = true ∧
      ys = before ++ f x :: after := by
  induction xs generalizing ys with
  | nil => cases h
  | cons x xs ih =>
    unfold modifyFirst at h
    split at h
    · rename_i hx
      cases h
      exact ⟨[], x, xs, rfl, fun y hy => (nomatch hy), hx, rfl⟩
    · rename_i hx
      obtain ⟨zs, hz, rfl⟩ := Option.map_eq_some_iff.mp h
      obtain ⟨before, y, after, rfl, hbefore, hy, rfl⟩ := ih hz
      refine ⟨x :: before, y, after, rfl, ?_, hy, rfl⟩
      exact List.forall_mem_cons.mpr ⟨Bool.eq_false_iff.mpr hx, hbefore⟩

theorem isSome_modifyFirst (xs : List α) :
    (modifyFirst p f xs).isSome = (xs.find? p).isSome := by
  induction xs with
  | nil => rfl
  | cons x xs ih =>
    unfold modifyFirst
    cases hx : p x with
    | true => simp [hx]
    | false => simpa [hx] using ih

end ModifyFirst

namespace FlatElement

theorem hasClass_toggleClass_of_ne (e : FlatElement) {c other : String} (h : other ≠ c) :
    (e.toggleClass c).2.hasClass other = e.hasClass other := by
  unfold toggleClass
  split
  · simp [hasClass, List.contains_eq_mem, List.mem_erase_of_ne h]
  · simp [hasClass, h]

theorem id_toggleClass (e : FlatElement) (c : String) : (e.toggleClass c).2.id = e.id := by
  unfold toggleClass
  split <;> rfl

theorem parent_toggleClass (e : FlatElement) (c : String) :
    (e.toggleClass c).2.parent = e.parent := by
  unfold toggleClass
  split <;> rfl

theorem styles_toggleClass (e : FlatElement) (c : String) :
    (e.toggleClass c).2.styles = e.styles := by
  unfold toggleClass
  split <;> rfl

theorem lookup_setStyle (e : FlatElement) (property value other : String) :
    (e.setStyle property value).styles.lookup other =
      if other = property then (if value.isEmpty then none else some value)
      else e.styles.lookup other := by
  unfold setStyle
  by_cases ho : other = property
  · subst ho
    cases value.isEmpty with
    | true => simp [lookup_filter_self]
    | false => simp [List.lookup_append, lookup_filter_self]
  · have hb : (other == property) = false := by simpa using ho
    cases value.isEmpty with
    | true => simp [ho, lookup_filter_ne ho]
    | false => simp [ho, hb, List.lookup_append, List.lookup_cons, lookup_filter_ne ho]

end FlatElement

namespace FlatDocument

open Document

variable {d d' : FlatDocument} {id : String} {f : FlatElement → FlatElement}

theorem isSome_get? (d : FlatDocument) (id : String) :
    (d.get? id).isSome = true ↔ 0 < d.count id := by
  rw [get?, List.find?_isSome, count, List.countP_pos_iff]

theorem isSome_modify? (d : FlatDocument) (id : String) (f : FlatElement → FlatElement) :
    (d.modify? id f).isSome = (d.get? id).isSome := by
  rw [modify?, Option.isSome_map, isSome_modifyFirst, get?]

theorem map_modify? {β : Type} {g : FlatElement → β} (hg : ∀ e, g (f e) = g e)
    (h : d.modify? id f = some d') : d'.elements.map g = d.elements.map g := by
  obtain ⟨ys, hy, rfl⟩ := Option.map_eq_some_iff.mp h
  obtain ⟨before, x, after, hx, -, -, rfl⟩ := modifyFirst_eq_some hy
  simp [hx, hg]

theorem get?_modify? (hid : ∀ e, (f e).id = e.id) (h : d.modify? id f = some d') (other : String) :
    d'.get? other = if other = id then (d.get? other).map f else d.get? other := by
  obtain ⟨ys, hy, rfl⟩ := Option.map_eq_some_iff.mp h
  obtain ⟨before, x, after, hx, hbefore, hxid, rfl⟩ := modifyFirst_eq_some hy
  have hxid : x.id = id := by simpa using hxid
  unfold get?
  rw [hx]
  by_cases ho : other = id
  · subst ho
    have hnone : before.find? (fun e => e.id == other) = none := by
      rw [List.find?_eq_none]
      intro e he
      simpa using hbefore e he
    simp [List.find?_append, hnone, hid, hxid]
  · have hne : (x.id == other) = false := by
      simp only [hxid, beq_eq_false_iff_ne]
      exact fun heq => ho heq.symm
    simp [List.find?_append, hid, hne, ho]

theorem exists_modify? {e : FlatElement} (hid : ∀ e, (f e).id = e.id) (h : d.get? id = some e) :
    ∃ d', d.modify? id f = some d' ∧
      ∀ other, d'.get? other = if other = id then some (f e) else d.get? other := by
  have hsome : (d.modify? id f).isSome = true := by rw [isSome_modify?, h, Option.isSome_some]
  obtain ⟨d', hd⟩ := Option.isSome_iff_exists.mp hsome
  refine ⟨d', hd, fun other => ?_⟩
  rw [get?_modify? hid hd]
  split
  · rename_i heq
    rw [heq, h]
    rfl
  · rfl

theorem count_eq_count (d : FlatDocument) (id : String) :
    d.count id = (d.elements.map (·.id)).count id := by
  rw [count, List.count, List.countP_map]
  rfl

theorem idsWithClass_eq (d : FlatDocument) (c : String) :
    idsWithClass d c =
      ((d.elements.map fun e => (e.id, e.hasClass c)).filter fun x => !x.1.isEmpty && x.2).map
        (·.1) := by
  rw [List.filter_map, List.map_map]
  rfl

theorem count_modify? (hid : ∀ e, (f e).id = e.id) (h : d.modify? id f = some d')
    (other : String) : d'.count other = d.count other := by
  rw [count_eq_count, count_eq_count, map_modify? hid h]

theorem idsWithClass_modify? {c : String}
    (hf : ∀ e, (f e).id = e.id ∧ (f e).hasClass c = e.hasClass c)
    (h : d.modify? id f = some d') : idsWithClass d' c = idsWithClass d c := by
  have hg (e : FlatElement) : ((f e).id, (f e).hasClass c) = (e.id, e.hasClass c) := by
    rw [(hf e).1, (hf e).2]
  rw [idsWithClass_eq, idsWithClass_eq, map_modify? (g := fun e => (e.id, e.hasClass c)) hg h]

/-- How the elements are called and what they belong to. -/
def skeleton (d : FlatDocument) : List (String × Option String) :=
  d.elements.map fun e => (e.id, e.parent)

theorem skeleton_modify? (h : d.modify? id f = some d')
    (hf : ∀ e, (f e).id = e.id ∧ (f e).parent = e.parent) : d'.skeleton = d.skeleton :=
  map_modify? (fun e => by rw [(hf e).1, (hf e).2]) h

theorem count_of_skeleton (h : d'.skeleton = d.skeleton) (id : String) :
    d'.count id = d.count id := by
  have hids (x : FlatDocument) : x.elements.map (·.id) = x.skeleton.map (·.1) := by
    rw [skeleton, List.map_map]
    rfl
  rw [count_eq_count, count_eq_count, hids, hids, h]

theorem style_setStyle {property value : String} (h : setStyle d id property value = some d')
    (other q : String) :
    style d' other q =
      if other = id ∧ q = property then (if value.isEmpty then none else some value)
      else style d other q := by
  have hm : d.modify? id (·.setStyle property value) = some d' := h
  have hid (e : FlatElement) : (e.setStyle property value).id = e.id := rfl
  have hget := get?_modify? hid hm other
  simp only [style, hget]
  by_cases ho : other = id
  · subst ho
    have hsome : (d.get? other).isSome = true := by
      rw [← isSome_modify? d other (·.setStyle property value), hm]
      rfl
    obtain ⟨e, he⟩ := Option.isSome_iff_exists.mp hsome
    simp [he, FlatElement.lookup_setStyle]
  · simp [ho]

theorem style_modify? (hf : ∀ e, (f e).id = e.id ∧ (f e).styles = e.styles)
    (h : d.modify? id f = some d') (other q : String) : style d' other q = style d other q := by
  simp only [style, get?_modify? (fun e => (hf e).1) h other]
  split
  · cases d.get? other with
    | none => rfl
    | some e => simp [(hf e).2]
  · rfl

theorem get?_eq_head? (d : FlatDocument) (id : String) :
    d.get? id = (d.elements.filter (·.id == id)).head? := List.head?_filter.symm

theorem count_eq_length (d : FlatDocument) (id : String) :
    d.count id = (d.elements.filter (·.id == id)).length := List.countP_eq_length_filter

theorem get?_eq_none_iff (d : FlatDocument) (id : String) :
    d.get? id = none ↔ d.count id = 0 := by
  have hsome := isSome_get? d id
  cases hget : d.get? id with
  | none => simpa [hget] using hsome
  | some e =>
    rw [hget] at hsome
    have hpos := hsome.mp rfl
    simp [Nat.ne_of_gt hpos]

theorem count_eq_zero_iff (d : FlatDocument) (id : String) :
    d.count id = 0 ↔ ∀ e ∈ d.elements, e.id ≠ id := by
  simp [count, List.countP_eq_zero]

theorem count_remove? (h : d.remove? id = some d') : d'.count id + 1 ≤ d.count id := by
  unfold remove? at h
  split at h
  · rename_i hfound
    cases h
    obtain ⟨e, he, hid⟩ := List.find?_isSome.mp hfound
    -- The first element goes, and of the others only some that count.
    obtain ⟨e', before, after, -, hid', hsplit, herase⟩ :=
      List.exists_of_eraseP (p := fun e => e.id == id) he hid
    have hrest : d.count id = (d.elements.eraseP (·.id == id)).countP (·.id == id) + 1 := by
      rw [herase, count, hsplit, List.countP_append, List.countP_append,
        List.countP_cons_of_pos (p := fun e : FlatElement => e.id == id) hid']
      rfl
    have hfilter := (List.filter_sublist (l := d.elements.eraseP (·.id == id))
      (p := fun e => e.parent != some id)).countP_le (p := fun e => e.id == id)
    rw [hrest]
    exact Nat.add_le_add_right hfilter 1
  · cases h

theorem mem_of_remove? (h : d.remove? id = some d') {e : FlatElement} (he : e ∈ d'.elements) :
    e ∈ d.elements := by
  unfold remove? at h
  split at h
  · cases h
    exact List.mem_of_mem_eraseP (List.mem_filter.mp he).1
  · cases h

theorem filter_remove? (h : d.remove? id = some d') {other : String} (ho : other ≠ id)
    (hp : ∀ e ∈ d.elements, e.id = other → e.parent ≠ some id) :
    d'.elements.filter (·.id == other) = d.elements.filter (·.id == other) := by
  unfold remove? at h
  split at h
  · cases h
    have herase : (d.elements.eraseP (·.id == id)).filter (·.id == other) =
        d.elements.filter (·.id == other) := by
      induction d.elements with
      | nil => rfl
      | cons e es ih =>
        by_cases he : e.id = id
        · have hne : ¬ e.id = other := fun heq => ho (heq.symm.trans he)
          rw [List.eraseP_cons_of_pos (by simpa using he),
            List.filter_cons_of_neg (by simpa using hne)]
        · simp [he, List.filter_cons, ih]
    rw [← herase, List.filter_filter]
    apply List.filter_congr
    intro e he
    by_cases hid : e.id = other
    · simp [hid, hp e (List.mem_of_mem_eraseP he) hid]
    · simp [hid]
  · cases h

/-- The first element with an id stays first if it is neither removed nor part of what is. -/
theorem get?_remove? (h : d.remove? id = some d') {other : String} {e : FlatElement}
    (ho : other ≠ id) (he : d.get? other = some e) (hp : e.parent ≠ some id) :
    d'.get? other = some e := by
  unfold remove? at h
  split at h
  · cases h
    obtain ⟨hid, before, after, hsplit, hbefore⟩ := List.find?_eq_some_iff_append.mp he
    have hid : e.id = other := by simpa using hid
    have hne : e.id ≠ id := fun heq => ho (hid.symm.trans heq)
    obtain ⟨before', after', herase, hsub⟩ : ∃ before' after',
        d.elements.eraseP (·.id == id) = before' ++ e :: after' ∧ before'.Sublist before := by
      rw [hsplit, List.eraseP_append]
      split
      · exact ⟨_, after, rfl, List.eraseP_sublist⟩
      · rw [List.eraseP_cons_of_neg (by simpa using hne)]
        exact ⟨before, _, rfl, .refl before⟩
    rw [get?, List.find?_eq_some_iff_append]
    refine ⟨by simpa using hid, before'.filter fun x => x.parent != some id,
      after'.filter fun x => x.parent != some id, ?_, ?_⟩
    · rw [herase, List.filter_append, List.filter_cons_of_pos (by simpa using hp)]
    · exact fun x hx => hbefore x (hsub.subset (List.mem_filter.mp hx).1)
  · cases h

theorem elements_append? {parent child html : String} (h : d.append? parent child html = some d') :
    d'.elements = d.elements ++ [⟨child, some parent, [], "", [], some html⟩] := by
  unfold append? at h
  split at h <;> cases h
  rfl

theorem get?_append? {parent child html other : String} {e : FlatElement}
    (h : d.append? parent child html = some d') (he : d.get? other = some e) :
    d'.get? other = some e := by
  rw [get?, elements_append? h, List.find?_append, ← get?, he, Option.some_or]

end FlatDocument

end DocPages
