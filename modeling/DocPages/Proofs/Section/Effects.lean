import DocPages.Proofs.Section.Labels
import Mathlib.Data.List.Nodup

/-! What the installation of sections comes to. It shows the buttons and toggles the sections that
ask for it, one by one, and a button may itself be a section. But each of these effects has a field
of an element for itself, so they can be applied in any order, and what becomes of each element can
be told from the document before. -/

namespace DocPages

open Document

section Unique

variable {α : Type} {p : α → Bool} {f g : α → α}

theorem modifyFirst_congr {xs : List α} (h : ∀ x ∈ xs.find? p, f x = g x) :
    modifyFirst p f xs = modifyFirst p g xs := by
  induction xs with
  | nil => rfl
  | cons x xs ih =>
    unfold modifyFirst
    cases hx : p x with
    | true =>
      rw [List.find?_cons_of_pos hx] at h
      rw [if_pos rfl, if_pos rfl, h x rfl]
    | false =>
      rw [List.find?_cons_of_neg (by simp [hx])] at h
      rw [if_neg Bool.false_ne_true, if_neg Bool.false_ne_true, ih h]

/-- If there is at most one element to change, all others may be asked as well. -/
theorem modifyFirst_getD {xs : List α} (h : xs.countP p ≤ 1) :
    (modifyFirst p f xs).getD xs = xs.map fun x => if p x then f x else x := by
  induction xs with
  | nil => rfl
  | cons x xs ih =>
    unfold modifyFirst
    cases hx : p x with
    | true =>
      rw [List.countP_cons_of_pos hx] at h
      have hnone : ∀ y ∈ xs, ¬ p y = true := List.countP_eq_zero.mp (by omega)
      have hrest : xs.map (fun y => if p y then f y else y) = xs.map id :=
        List.map_congr_left fun y hy => if_neg (hnone y hy)
      simp [hx, hrest]
    | false =>
      rw [List.countP_cons_of_neg (by simp [hx])] at h
      have hrest := ih h
      cases hm : modifyFirst p f xs with
      | none => simpa [hm, hx] using hrest
      | some ys => simpa [hm, hx] using hrest

end Unique

namespace FlatDocument

variable {d d' : FlatDocument} {id : String} {f : FlatElement → FlatElement}

/-- No two elements have the same id, unless they have none. -/
def Distinct (d : FlatDocument) : Prop := ((d.elements.map (·.id)).filter (· ≠ "")).Nodup

theorem Distinct.count_le (h : d.Distinct) (hid : id ≠ "") : d.count id ≤ 1 := by
  have hcount := List.nodup_iff_count_le_one.mp h id
  rwa [List.count_filter (by simpa using hid), ← count_eq_count] at hcount

theorem getD_modify? (h : d.count id ≤ 1) :
    (d.modify? id f).getD d = ⟨d.elements.map fun e => if e.id = id then f e else e⟩ := by
  have hlist := modifyFirst_getD (f := f) h
  simp only [beq_iff_eq] at hlist
  rw [← hlist, modify?]
  cases modifyFirst (fun e => e.id == id) f d.elements <;> rfl

theorem hasClass_modify? {c : String} (hf : ∀ e, (f e).id = e.id ∧ (f e).hasClass c = e.hasClass c)
    (h : d.modify? id f = some d') (other : String) : hasClass d' other c = hasClass d other c := by
  simp only [hasClass, get?_modify? (fun e => (hf e).1) h other]
  split
  · cases d.get? other with
    | none => rfl
    | some e => simp [(hf e).2]
  · rfl

/-- A change of all elements that keeps their names. -/
theorem get?_map (hf : ∀ e, (f e).id = e.id) (d : FlatDocument) (id : String) :
    get? ⟨d.elements.map f⟩ id = (d.get? id).map f := by
  simp only [get?, List.find?_map, Function.comp_def, hf]

theorem Distinct.map (h : d.Distinct) (hf : ∀ e, (f e).id = e.id) :
    Distinct ⟨d.elements.map f⟩ := by
  have hids : (d.elements.map f).map (·.id) = d.elements.map (·.id) := by
    rw [List.map_map]
    exact List.map_congr_left fun e _ => hf e
  rw [Distinct, hids]
  exact h

end FlatDocument

open FlatDocument

namespace Section

/-- The parts of the installation. -/
inductive Effect where
  | showButton (id : String)
  | toggle (id : String)
  deriving DecidableEq, Repr

def Effect.apply (d : FlatDocument) : Effect → FlatDocument
  | .showButton id => (setStyle d (buttonId id) "visibility" "visible").getD d
  | .toggle id => ((Section.toggle d id).map (·.2)).getD d

/-- The collapsible elements that have an id and a button, in document order. -/
def equipped (d : FlatDocument) : List String :=
  (d.elements.filter fun e =>
    e.id ≠ "" && e.hasClass collapsibleClass && hasElement d (buttonId e.id)).map (·.id)

/-- Those of them that ask to be collapsed. -/
def folding (d : FlatDocument) : List String := (equipped d).filter (hasClass d · collapsedClass)

/-- Every button is shown, and every section that asks for it is toggled once. -/
def effects (d : FlatDocument) : List Effect :=
  (equipped d).map .showButton ++ (folding d).map .toggle

/-- The first class that hides is taken out, or one is put at the end. -/
def toggledClasses (classes : List String) : List String :=
  if classes.contains hiddenClass then classes.erase hiddenClass else classes ++ [hiddenClass]

def visibleStyles (styles : List (String × String)) : List (String × String) :=
  (styles.filter fun x => x.1 != "visibility") ++ [("visibility", "visible")]

/-- What becomes of an element: only the classes of a section that folds, and the style and the
label of a button, are others than before. -/
def prepared (d : FlatDocument) (e : FlatElement) : FlatElement :=
  { e with
    classes := if e.id ∈ folding d then toggledClasses e.classes else e.classes
    styles := if e.id ∈ (equipped d).map buttonId then visibleStyles e.styles else e.styles
    text := match (folding d).find? (buttonId · == e.id) with
      | some id => relabel (!isCollapsed d id) e.text
      | none => e.text }

/-- The effect finds the elements it is meant for. -/
def Effect.Finds (d : FlatDocument) : Effect → Prop
  | .showButton _ => True
  | .toggle id => id ≠ "" ∧ (d.get? id).isSome

variable {d d' : FlatDocument} {id : String}

section Toggle

theorem buttonId_ne_empty (id : String) : buttonId id ≠ "" := by
  intro h
  have hlength := congrArg String.length h
  rw [buttonId, String.length_append] at hlength
  have hsuffix : ".vis_button".length = 11 := by decide
  have hempty : "".length = 0 := rfl
  omega

theorem toggleClass_eq (e : FlatElement) :
    e.toggleClass hiddenClass =
      (!e.hasClass hiddenClass, { e with classes := toggledClasses e.classes }) := by
  unfold FlatElement.toggleClass toggledClasses FlatElement.hasClass
  cases e.classes.contains hiddenClass <;> rfl

/-- A toggle as two changes of one element each. -/
theorem toggle_eq (d : FlatDocument) (id : String) :
    toggle d id = (d.modify? id fun e => (e.toggleClass hiddenClass).2).map fun flipped =>
      (!isCollapsed d id, (flipped.modify? (buttonId id) fun b =>
        { b with text := relabel (!isCollapsed d id) b.text }).getD flipped) := by
  have hsome := isSome_modify? d id fun e => (e.toggleClass hiddenClass).2
  cases hm : d.modify? id fun e => (e.toggleClass hiddenClass).2 with
  | none =>
    rw [hm] at hsome
    have hnone : d.get? id = none := by simpa using hsome.symm
    simp only [toggle, toggleClass, hnone, Option.map_none]
  | some flipped =>
    rw [hm] at hsome
    obtain ⟨e, he⟩ := Option.isSome_iff_exists.mp hsome.symm
    have hanswer : (e.toggleClass hiddenClass).1 = !isCollapsed d id := by
      rw [toggleClass_eq]
      simp only [isCollapsed, hasClass, he, Option.any_some]
    simp only [toggle, toggleClass, he, hm, hanswer, Option.map_some, text]
    congr 1
    cases hb : flipped.get? (buttonId id) with
    | none =>
      have hnone := isSome_modify? flipped (buttonId id) fun b =>
        { b with text := relabel (!isCollapsed d id) b.text }
      rw [hb, Option.isSome_none, Option.isSome_eq_false_iff, Option.isNone_iff_eq_none] at hnone
      simp [hnone]
    | some b =>
      simp only [Option.map_some, setText, modify?]
      rw [modifyFirst_congr (g := fun b => { b with text := relabel (!isCollapsed d id) b.text })]
      intro x hx
      rw [get?] at hb
      rw [hb] at hx
      cases hx
      rfl

end Toggle

section Order

/-- What the installation asks of a document is the same of both. -/
def Agree (d d' : FlatDocument) : Prop :=
  ∀ id, hasElement d' id = hasElement d id ∧
    hasClass d' id collapsedClass = hasClass d id collapsedClass

theorem agree_modify? {f : FlatElement → FlatElement} (h : d.modify? id f = some d')
    (hf : ∀ e, (f e).id = e.id ∧ (f e).hasClass collapsedClass = e.hasClass collapsedClass) :
    Agree d d' := by
  intro other
  have hcount : d'.count other = d.count other := count_modify? (fun e => (hf e).1) h other
  have hfound : (d'.get? other).isSome = (d.get? other).isSome := by
    rw [Bool.eq_iff_iff, isSome_get?, isSome_get?, hcount]
  exact ⟨hfound, hasClass_modify? hf h other⟩

theorem Agree.trans {d'' : FlatDocument} (h : Agree d d') (h' : Agree d' d'') : Agree d d'' :=
  fun id => ⟨(h' id).1.trans (h id).1, (h' id).2.trans (h id).2⟩

theorem agree_apply (d : FlatDocument) (x : Effect) : Agree d (x.apply d) := by
  have hrefl (d : FlatDocument) : Agree d d := fun _ => ⟨rfl, rfl⟩
  cases x with
  | showButton id =>
    simp only [Effect.apply]
    cases hs : setStyle d (buttonId id) "visibility" "visible" with
    | none => exact hrefl d
    | some d' => exact agree_modify? hs fun _ => ⟨rfl, rfl⟩
  | toggle id =>
    simp only [Effect.apply, toggle_eq]
    cases hflip : d.modify? id fun e => (e.toggleClass hiddenClass).2 with
    | none => exact hrefl d
    | some flipped =>
      have hflipped : Agree d flipped := agree_modify? hflip fun e =>
        ⟨e.id_toggleClass _, e.hasClass_toggleClass_of_ne (by decide)⟩
      simp only [Option.map_some, Option.getD_some]
      cases hlabel : flipped.modify? (buttonId id) fun b =>
          { b with text := relabel (!isCollapsed d id) b.text } with
      | none => exact hflipped
      | some d' => exact hflipped.trans (agree_modify? hlabel fun _ => ⟨rfl, rfl⟩)

theorem agree_foldl (es : List Effect) (d : FlatDocument) :
    Agree d (es.foldl Effect.apply d) := by
  induction es generalizing d with
  | nil => exact fun _ => ⟨rfl, rfl⟩
  | cons x es ih => exact (agree_apply d x).trans (ih (x.apply d))

/-- What is done to a section that has a button. -/
def ownEffects (d : FlatDocument) (id : String) : List Effect :=
  .showButton id :: if hasClass d id collapsedClass then [.toggle id] else []

theorem Agree.ownEffects (h : Agree d d') : ownEffects d' = ownEffects d := by
  funext id
  rw [Section.ownEffects, (h id).2, Section.ownEffects]

theorem prepare_eq (d : FlatDocument) (id : String) :
    prepare d id = if hasElement d (buttonId id) then
      some ((ownEffects d id).foldl Effect.apply d) else none := by
  have hsome : (setStyle d (buttonId id) "visibility" "visible").isSome =
      hasElement d (buttonId id) := isSome_modify? d (buttonId id) _
  cases hs : setStyle d (buttonId id) "visibility" "visible" with
  | none =>
    rw [hs] at hsome
    rw [prepare, hs, ← hsome]
    rfl
  | some shown =>
    have happly : Effect.apply d (.showButton id) = shown := by rw [Effect.apply, hs]; rfl
    have hasks : hasClass shown id collapsedClass = hasClass d id collapsedClass := by
      rw [← happly]
      exact (agree_apply d _ id).2
    rw [hs] at hsome
    rw [prepare, hs, ← hsome, ownEffects, Option.map_some, hasks, List.foldl_cons, happly]
    cases hasClass d id collapsedClass <;> rfl

theorem prepareAll_eq (d : FlatDocument) (ids : List String) :
    ∃ notices, prepareAll d ids = (ids.filter fun id => hasElement d (buttonId id),
      ((ids.filter fun id => hasElement d (buttonId id)).flatMap (ownEffects d)).foldl
        Effect.apply d, notices) := by
  induction ids generalizing d with
  | nil => exact ⟨[], rfl⟩
  | cons id ids ih =>
    rw [prepareAll, prepare_eq]
    cases hb : hasElement d (buttonId id) with
    | false =>
      obtain ⟨notices, hrest⟩ := ih d
      exact ⟨.sectionWithoutButton id :: notices, by simp [hrest, hb]⟩
    | true =>
      -- The sections behind this one are asked in the document it leaves, and answer the same.
      have hagree := agree_foldl (ownEffects d id) d
      obtain ⟨notices, hrest⟩ := ih ((ownEffects d id).foldl Effect.apply d)
      rw [hagree.ownEffects] at hrest
      simp only [(hagree (buttonId _)).1] at hrest
      exact ⟨notices, by simp [hrest, hb]⟩

theorem install_eq (d : FlatDocument) :
    ∃ notices, install d = (equipped d,
      ((equipped d).flatMap (ownEffects d)).foldl Effect.apply d, notices) := by
  obtain ⟨notices, hinstall⟩ := prepareAll_eq d (idsWithClass d collapsibleClass)
  have hids : (idsWithClass d collapsibleClass).filter (fun id => hasElement d (buttonId id)) =
      equipped d := by
    simp only [idsWithClass, List.filter_map, List.filter_filter, equipped]
    congr 1
    apply List.filter_congr
    intro e _
    rw [Bool.eq_iff_iff]
    simp [and_comm, and_assoc]
  rw [hids] at hinstall
  exact ⟨notices, hinstall⟩

theorem nodup_equipped (hd : d.Distinct) : (equipped d).Nodup := by
  rw [FlatDocument.Distinct, List.filter_map] at hd
  refine hd.sublist (List.Sublist.map _ (List.monotone_filter_right _ fun e he => ?_))
  simp only [Bool.and_eq_true] at he
  exact he.1.1

theorem nodup_folding (hd : d.Distinct) : (folding d).Nodup := (nodup_equipped hd).filter _

theorem nodup_effects (hd : d.Distinct) : (effects d).Nodup := by
  refine List.nodup_append.mpr ⟨(nodup_equipped hd).map fun _ _ h => Effect.showButton.inj h,
    (nodup_folding hd).map fun _ _ h => Effect.toggle.inj h, ?_⟩
  intro x hx y hy heq
  obtain ⟨id, -, rfl⟩ := List.mem_map.mp hx
  obtain ⟨other, -, rfl⟩ := List.mem_map.mp hy
  cases heq

theorem finds_of_mem_effects {x : Effect} (h : x ∈ effects d) : x.Finds d := by
  rcases List.mem_append.mp h with hx | hx
  · obtain ⟨id, -, rfl⟩ := List.mem_map.mp hx
    trivial
  · obtain ⟨id, hid, rfl⟩ := List.mem_map.mp hx
    obtain ⟨e, he, rfl⟩ := List.mem_map.mp (List.mem_filter.mp hid).1
    obtain ⟨hmem, hequipped⟩ := List.mem_filter.mp he
    simp only [Bool.and_eq_true, decide_eq_true_eq] at hequipped
    exact ⟨hequipped.1.1, List.find?_isSome.mpr ⟨e, hmem, beq_self_eq_true e.id⟩⟩

theorem perm_effects (d : FlatDocument) :
    ((equipped d).flatMap (ownEffects d)).Perm (effects d) := by
  have hfolding : (folding d).map Effect.toggle = (equipped d).flatMap fun id =>
      if hasClass d id collapsedClass then [.toggle id] else [] := by
    rw [folding]
    induction equipped d with
    | nil => rfl
    | cons id ids ih =>
      rw [List.flatMap_cons, ← ih, List.filter_cons]
      cases hasClass d id collapsedClass <;> rfl
  rw [effects, hfolding]
  exact (List.map_append_flatMap_perm (equipped d) Effect.showButton _).symm

end Order

section Elements

/-- What an effect does to one element, if `collapsed` tells the state of the sections before. -/
def Effect.on (collapsed : String → Bool) (e : FlatElement) : Effect → FlatElement
  | .showButton id =>
    { e with styles := if e.id = buttonId id then visibleStyles e.styles else e.styles }
  | .toggle id =>
    { e with
      classes := if e.id = id then toggledClasses e.classes else e.classes
      text := if e.id = buttonId id then relabel (!collapsed id) e.text else e.text }

variable {collapsed : String → Bool} {x : Effect} {es : List Effect}

theorem id_on (collapsed : String → Bool) (e : FlatElement) (x : Effect) :
    (x.on collapsed e).id = e.id := by
  cases x <;> rfl

theorem apply_eq_map (hd : d.Distinct) (hx : x.Finds d) :
    x.apply d = ⟨d.elements.map fun e => x.on (isCollapsed d) e⟩ := by
  cases x with
  | showButton id =>
    refine (getD_modify? (hd.count_le (buttonId_ne_empty id))).trans ?_
    congr 1
    apply List.map_congr_left
    intro e _
    simp only [Effect.on]
    split <;> rfl
  | toggle id =>
    obtain ⟨hid, hfound⟩ := hx
    obtain ⟨flipped, hflip⟩ : ∃ flipped,
        (d.modify? id fun e => (e.toggleClass hiddenClass).2) = some flipped := by
      rw [← Option.isSome_iff_exists, isSome_modify?]
      exact hfound
    have hmap := getD_modify? (f := fun e => (e.toggleClass hiddenClass).2) (hd.count_le hid)
    rw [hflip, Option.getD_some] at hmap
    have hcount : flipped.count (buttonId id) ≤ 1 := by
      rw [count_modify? (fun e => e.id_toggleClass _) hflip]
      exact hd.count_le (buttonId_ne_empty id)
    simp only [Effect.apply, toggle_eq, hflip, Option.map_some, Option.getD_some]
    rw [getD_modify? hcount, hmap, List.map_map]
    congr 1
    apply List.map_congr_left
    intro e _
    simp only [Function.comp_apply, Effect.on]
    by_cases he : e.id = id
    · have hne : e.id ≠ buttonId id := he ▸ ne_buttonId id
      rw [if_pos he, if_pos he, if_neg (by rwa [e.id_toggleClass]), if_neg hne]
      exact congrArg Prod.snd (toggleClass_eq e)
    · rw [if_neg he, if_neg he]
      split <;> rfl

theorem isCollapsed_apply (hd : d.Distinct) (hx : x.Finds d) (hne : x ≠ .toggle id) :
    isCollapsed (x.apply d) id = isCollapsed d id := by
  rw [apply_eq_map hd hx]
  simp only [isCollapsed, hasClass, get?_map (fun e => id_on _ e x)]
  cases he : d.get? id with
  | none => rfl
  | some e =>
    have hid : e.id = id := by simpa using List.find?_some he
    cases x with
    | showButton other => rfl
    | toggle other =>
      have hother : e.id ≠ other := fun heq => hne (by rw [← heq, hid])
      simp only [Option.map_some, Option.any_some, Effect.on, if_neg hother]
      rfl

theorem Effect.Finds.apply {y : Effect} (hy : y.Finds d) (x : Effect) : y.Finds (x.apply d) := by
  cases y with
  | showButton id => trivial
  | toggle id => exact ⟨hy.1, (agree_apply d x id).1.trans hy.2⟩

/-- Effects that are all applied once each do to every element what they would do alone. -/
theorem foldl_apply (hd : d.Distinct) (hes : es.Nodup) (hfinds : ∀ x ∈ es, x.Finds d) :
    es.foldl Effect.apply d = ⟨d.elements.map fun e => es.foldl (Effect.on (isCollapsed d)) e⟩ := by
  induction es generalizing d with
  | nil => simp
  | cons x es ih =>
    obtain ⟨hx, hes⟩ := List.nodup_cons.mp hes
    obtain ⟨hfind, hfinds⟩ := List.forall_mem_cons.mp hfinds
    have hmap := apply_eq_map hd hfind
    have hd' : (x.apply d).Distinct := by
      rw [hmap]
      exact hd.map fun e => id_on _ e x
    -- A toggle asks for its own section only, and nothing but itself changes what that answers.
    have hstate (e : FlatElement) : es.foldl (Effect.on (isCollapsed (x.apply d))) e =
        es.foldl (Effect.on (isCollapsed d)) e := by
      apply List.foldl_ext
      intro e y hy
      cases y with
      | showButton id => rfl
      | toggle id =>
        have hne : x ≠ .toggle id := fun heq => hx (heq ▸ hy)
        simp only [Effect.on, isCollapsed_apply hd hfind hne]
    rw [List.foldl_cons, ih hd' hes fun y hy => (hfinds y hy).apply x]
    simp only [hstate]
    rw [hmap, List.map_map]
    rfl

/-- Two effects that change the same field of an element change it in the same way. -/
theorem on_comm (collapsed : String → Bool) (e : FlatElement) (x y : Effect) :
    y.on collapsed (x.on collapsed e) = x.on collapsed (y.on collapsed e) := by
  cases x with
  | showButton id =>
    cases y with
    | showButton other =>
      by_cases hsame : id = other
      · rw [hsame]
      · have hbutton : buttonId id ≠ buttonId other := fun h => hsame (buttonId_injective h)
        by_cases hid : e.id = buttonId id
        · simp [Effect.on, hid, hbutton]
        · simp [Effect.on, hid]
    | toggle other => rfl
  | toggle id =>
    cases y with
    | showButton other => rfl
    | toggle other =>
      by_cases hsame : id = other
      · rw [hsame]
      · have hbutton : buttonId id ≠ buttonId other := fun h => hsame (buttonId_injective h)
        -- A section may be the button of the other one; classes and text do not meet.
        by_cases hid : e.id = id
        · simp [Effect.on, hid, hsame, ne_buttonId]
        · by_cases hid' : e.id = buttonId id
          · simp [Effect.on, hid', hbutton, (ne_buttonId id).symm]
          · simp [Effect.on, hid, hid']

/-- The order of effects does not matter. -/
theorem foldl_on_perm {fs : List Effect} (h : es.Perm fs) (e : FlatElement) :
    es.foldl (Effect.on collapsed) e = fs.foldl (Effect.on collapsed) e :=
  h.foldl_eq' (fun x _ y _ e => (on_comm collapsed e x y)) e

theorem not_mem_map_buttonId {ids : List String} (h : id ∉ ids) :
    buttonId id ∉ ids.map buttonId := by
  intro hmem
  obtain ⟨other, hother, heq⟩ := List.mem_map.mp hmem
  exact h (buttonId_injective heq ▸ hother)

theorem foldl_on_showButton {ids : List String} (h : ids.Nodup) (e : FlatElement) :
    (ids.map .showButton).foldl (Effect.on collapsed) e =
      { e with
        styles := if e.id ∈ ids.map buttonId then visibleStyles e.styles else e.styles } := by
  induction ids generalizing e with
  | nil => rfl
  | cons id ids ih =>
    obtain ⟨hid, hids⟩ := List.nodup_cons.mp h
    rw [List.map_cons, List.foldl_cons, ih hids]
    by_cases he : e.id = buttonId id
    · have hnot := not_mem_map_buttonId hid
      simp only [Effect.on, he, hnot, if_true, if_false, List.map_cons, List.mem_cons, true_or]
    · simp only [Effect.on, he, if_false, List.map_cons, List.mem_cons, false_or]

theorem foldl_on_toggle {ids : List String} (h : ids.Nodup) (e : FlatElement) :
    (ids.map .toggle).foldl (Effect.on collapsed) e =
      { e with
        classes := if e.id ∈ ids then toggledClasses e.classes else e.classes
        text := match ids.find? (buttonId · == e.id) with
          | some id => relabel (!collapsed id) e.text
          | none => e.text } := by
  induction ids generalizing e with
  | nil => rfl
  | cons id ids ih =>
    obtain ⟨hid, hids⟩ := List.nodup_cons.mp h
    have hbutton : buttonId id ∉ ids.map buttonId := not_mem_map_buttonId hid
    rw [List.map_cons, List.foldl_cons, ih hids]
    by_cases he : e.id = id
    · have hne : (buttonId id == id) = false := beq_eq_false_iff_ne.mpr (ne_buttonId id).symm
      simp [Effect.on, he, hid, hne, ne_buttonId]
    · by_cases he' : e.id = buttonId id
      · have hnone : ids.find? (buttonId · == buttonId id) = none := by
          rw [List.find?_eq_none]
          intro other hother heq
          exact hbutton (List.mem_map.mpr ⟨other, hother, beq_iff_eq.mp heq⟩)
        simp [Effect.on, he', hnone, (ne_buttonId id).symm]
      · have hne : (buttonId id == e.id) = false := beq_eq_false_iff_ne.mpr (Ne.symm he')
        simp [Effect.on, he, he', hne]

theorem foldl_on_effects (hd : d.Distinct) (e : FlatElement) :
    (effects d).foldl (Effect.on (isCollapsed d)) e = prepared d e := by
  rw [effects, List.foldl_append, foldl_on_showButton (nodup_equipped hd),
    foldl_on_toggle (nodup_folding hd), prepared]

end Elements

end Section

open Section

/-- Installing the sections of a document without two elements of the same name: the answer lists
the collapsible elements that have a name and a button, in document order and each once; their
buttons are shown, and those that ask for it are toggled once, in whatever order; no other element
and no other field is changed. -/
theorem installed_sections {d : FlatDocument}
    (hd : ((d.elements.map (·.id)).filter (· ≠ "")).Nodup) :
    (Section.install d).1 = equipped d ∧ (equipped d).Nodup ∧
    (∀ es : List Effect, es.Perm (effects d) →
      (Section.install d).2.1 = es.foldl Effect.apply d) ∧
    (Section.install d).2.1.elements = d.elements.map (prepared d) := by
  obtain ⟨notices, hinstall⟩ := install_eq d
  have hany (es : List Effect) (hes : es.Perm (effects d)) :
      es.foldl Effect.apply d = ⟨d.elements.map (prepared d)⟩ := by
    rw [foldl_apply hd (hes.symm.nodup (nodup_effects hd)) fun x hx =>
      finds_of_mem_effects (hes.subset hx)]
    simp only [foldl_on_perm hes, foldl_on_effects hd]
  have hall := hany _ (perm_effects d)
  rw [hinstall, hall]
  exact ⟨rfl, nodup_equipped hd, fun es hes => (hany es hes).symm, rfl⟩

/-- A button that is a section, elements without a name and a section without a button. -/
def FlatDocument.stacked : FlatDocument :=
  ⟨[.plain "api.vis_button" ["collapsible", "collapsed_by_default"] "[-]",
    .plain "" ["collapsible"] "", .plain "api" ["collapsible", "collapsed_by_default"] "",
    .plain "" ["collapsible"] "", .plain "orphan" ["collapsible", "collapsed_by_default"] "",
    .plain "api.vis_button.vis_button" [] "-"]⟩

theorem installed_sections_stacked :
    (Section.install FlatDocument.stacked).1 = ["api.vis_button", "api"] ∧
    (Section.install FlatDocument.stacked).2.1 =
      (effects FlatDocument.stacked).reverse.foldl Effect.apply FlatDocument.stacked ∧
    (Section.install FlatDocument.stacked).2.1.elements.head? =
      some ⟨"api.vis_button", none, ["collapsible", "collapsed_by_default", "hide"], "[+]",
        [("visibility", "visible")], none⟩ := by
  obtain ⟨hids, -, horder, helements⟩ := @installed_sections FlatDocument.stacked (by decide)
  refine ⟨hids.trans (by decide), horder _ (List.reverse_perm _), ?_⟩
  rw [helements]
  decide

end DocPages
