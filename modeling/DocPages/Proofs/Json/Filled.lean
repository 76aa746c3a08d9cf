import DocPages.Proofs.Json.Gathered

/-! When the members of an object make a record, and which one. The order does not matter: a record
is accepted if each of its fields comes once at most and with a value that it can use, and it then
is what the members say. It is refused if a field is missing, comes twice or cannot use its
value. -/

namespace DocPages.Json

/-- The values that an object has under a name, in their order. -/
def valuesOf (members : List (String × Datum)) (name : String) : List Datum :=
  (members.filter fun m => m.1 == name).map (·.2)

@[simp] theorem valuesOf_nil (name : String) : valuesOf [] name = [] := rfl

theorem valuesOf_cons (key : String) (v : Datum) (members : List (String × Datum)) (name : String) :
    valuesOf ((key, v) :: members) name =
      if key = name then v :: valuesOf members name else valuesOf members name := by
  by_cases h : key = name <;> simp [valuesOf, h]

theorem valuesOf_append (members members' : List (String × Datum)) (name : String) :
    valuesOf (members ++ members') name = valuesOf members name ++ valuesOf members' name := by
  simp [valuesOf]

theorem mem_valuesOf {members : List (String × Datum)} {name : String} {v : Datum} :
    v ∈ valuesOf members name ↔ (name, v) ∈ members := by
  simp [valuesOf]

/-- What an object gives under a name that it has once at most. -/
def given {α : Type} (members : List (String × Datum)) (name : String) (sense : Datum → Option α)
    (default : α) : α :=
  ((valuesOf members name).head?.bind sense).getD default

/-- The name comes once at most, with a value that makes sense. -/
def MayGive {α : Type} (members : List (String × Datum)) (name : String)
    (sense : Datum → Option α) : Prop :=
  valuesOf members name = [] ∨ ∃ v x, valuesOf members name = [v] ∧ sense v = some x

section Given

variable {α : Type} {members : List (String × Datum)} {name key : String} {v : Datum}
  {sense : Datum → Option α}

theorem given_append_of_ne (h : key ≠ name) (default : α) :
    given (members ++ [(key, v)]) name sense default = given members name sense default := by
  rw [given, given, valuesOf_append, valuesOf_cons, if_neg h, valuesOf_nil, List.append_nil]

theorem given_append_self (hnew : valuesOf members name = []) {x : α} (hx : sense v = some x)
    (default : α) : given (members ++ [(name, v)]) name sense default = x := by
  simp [given, valuesOf_append, valuesOf_cons, hnew, hx]

theorem MayGive.length_le (h : MayGive members name sense) :
    (valuesOf members name).length ≤ 1 := by
  obtain hnil | ⟨v, x, hone, -⟩ := h
  · simp [hnil]
  · simp [hone]

theorem MayGive.of_mem (h : MayGive members name sense) (hv : (name, v) ∈ members) :
    ∃ x, sense v = some x := by
  rw [← mem_valuesOf] at hv
  obtain hnil | ⟨w, x, hone, hx⟩ := h
  · rw [hnil] at hv
    cases hv
  · rw [hone, List.mem_singleton] at hv
    exact ⟨x, hv ▸ hx⟩

end Given

namespace Shape

variable {ρ : Type} {shape : Shape ρ} {sense : String → ρ → Datum → Option ρ}

theorem missing?_eq_none_iff {seen : List String} :
    shape.missing? seen = none ↔ (shape.required → ∀ name ∈ shape.names, name ∈ seen) := by
  unfold missing?
  split
  · rename_i hrequired
    rw [List.find?_eq_none]
    simp [hrequired, names]
  · rename_i hrequired
    simp [hrequired]

section Accepted

variable {overlay : List (String × Datum) → ρ} {members : List (String × Datum)}

/-- What the first members have made is what they say, and so it stays. -/
theorem fill_overlay
    (hframe : ∀ done key v, key ∉ shape.names → overlay (done ++ [(key, v)]) = overlay done)
    (hstep : ∀ done key v, key ∈ shape.names → (key, v) ∈ members → valuesOf done key = [] →
      sense key (overlay done) v = some (overlay (done ++ [(key, v)])))
    (honce : ∀ name ∈ shape.names, (valuesOf members name).length ≤ 1)
    (hrequired : shape.required → ∀ name ∈ shape.names, valuesOf members name ≠ [])
    {done rest : List (String × Datum)} {seen : List String} (hmembers : done ++ rest = members)
    (hseen : ∀ name ∈ shape.names, name ∈ seen ↔ valuesOf done name ≠ []) :
    shape.fill sense seen (overlay done) rest = some (overlay members) := by
  induction rest generalizing done seen with
  | nil =>
    obtain rfl : done = members := by simpa using hmembers
    have hmissing : shape.missing? seen = none :=
      missing?_eq_none_iff.mpr fun hr name hname => (hseen name hname).mpr (hrequired hr name hname)
    simp [fill, hmissing]
  | cons m rest ih =>
    obtain ⟨key, v⟩ := m
    have hsplit : done ++ [(key, v)] ++ rest = members := by simpa using hmembers
    rw [fill]
    split
    · rename_i hkey
      have hnew : valuesOf done key = [] := by
        have hle := honce key hkey
        rw [← hmembers, valuesOf_append, valuesOf_cons, if_pos rfl, List.length_append,
          List.length_cons] at hle
        exact List.eq_nil_of_length_eq_zero (by omega)
      have hmem : (key, v) ∈ members := by simp [← hmembers]
      have hnot : key ∉ seen := by
        rw [hseen key hkey]
        exact fun hne => hne hnew
      rw [if_neg hnot, hstep done key v hkey hmem hnew, Option.bind_some]
      refine ih hsplit fun name hname => ?_
      rw [List.mem_cons, hseen name hname, valuesOf_append, valuesOf_cons, valuesOf_nil]
      by_cases heq : key = name
      · simp [heq]
      · simp [heq, Ne.symm heq]
    · rename_i hkey
      rw [← hframe done key v hkey]
      refine ih hsplit fun name hname => ?_
      have hne : key ≠ name := by
        rintro rfl
        exact hkey hname
      rw [hseen name hname, valuesOf_append, valuesOf_cons, valuesOf_nil, if_neg hne,
        List.append_nil]

/-- A record is what the members say if each field comes once at most and can use its value. -/
theorem fill_eq_overlay
    (hframe : ∀ done key v, key ∉ shape.names → overlay (done ++ [(key, v)]) = overlay done)
    (hstep : ∀ done key v, key ∈ shape.names → (key, v) ∈ members → valuesOf done key = [] →
      sense key (overlay done) v = some (overlay (done ++ [(key, v)])))
    (honce : ∀ name ∈ shape.names, (valuesOf members name).length ≤ 1)
    (hrequired : shape.required → ∀ name ∈ shape.names, valuesOf members name ≠ []) :
    shape.fill sense [] (overlay []) members = some (overlay members) :=
  fill_overlay hframe hstep honce hrequired rfl (by simp)

end Accepted

section Refused

variable {members : List (String × Datum)} {seen : List String} {r : ρ} {name : String}

theorem fill_eq_none_of_mem (hname : name ∈ shape.names) {v : Datum} (hmem : (name, v) ∈ members)
    (hbad : ∀ r, sense name r v = none) : shape.fill sense seen r members = none := by
  induction members generalizing seen r with
  | nil => cases hmem
  | cons m members ih =>
    obtain ⟨key, w⟩ := m
    rw [fill]
    rcases List.mem_cons.mp hmem with heq | hmem
    · cases heq
      rw [if_pos hname]
      split
      · rfl
      · rw [hbad, Option.bind_none]
    · split_ifs
      · rfl
      · exact Option.bind_eq_none_iff.mpr fun r _ => ih hmem
      · exact ih hmem

/-- A field that has come does not come again. -/
theorem fill_eq_none_of_seen (hname : name ∈ shape.names) (hseen : name ∈ seen)
    (hagain : valuesOf members name ≠ []) : shape.fill sense seen r members = none := by
  induction members generalizing seen r with
  | nil => exact absurd rfl hagain
  | cons m members ih =>
    obtain ⟨key, w⟩ := m
    rw [fill]
    rw [valuesOf_cons] at hagain
    by_cases heq : key = name
    · subst heq
      rw [if_pos hname, if_pos hseen]
    · rw [if_neg heq] at hagain
      split_ifs
      · rfl
      · exact Option.bind_eq_none_iff.mpr fun r _ => ih (List.mem_cons_of_mem _ hseen) hagain
      · exact ih hseen hagain

theorem fill_eq_none_of_repeat (hname : name ∈ shape.names)
    (htwice : 2 ≤ (valuesOf members name).length) : shape.fill sense seen r members = none := by
  induction members generalizing seen r with
  | nil => exact absurd htwice (Nat.not_le.mpr Nat.two_pos)
  | cons m members ih =>
    obtain ⟨key, w⟩ := m
    rw [fill]
    rw [valuesOf_cons] at htwice
    by_cases heq : key = name
    · subst heq
      rw [if_pos rfl, List.length_cons] at htwice
      have hagain : valuesOf members key ≠ [] := List.ne_nil_of_length_pos (by omega)
      rw [if_pos hname]
      split
      · rfl
      · exact Option.bind_eq_none_iff.mpr fun r _ =>
          fill_eq_none_of_seen hname List.mem_cons_self hagain
    · rw [if_neg heq] at htwice
      split_ifs
      · rfl
      · exact Option.bind_eq_none_iff.mpr fun r _ => ih htwice
      · exact ih htwice

theorem fill_eq_none_of_missing (hrequired : shape.required) (hname : name ∈ shape.names)
    (hseen : name ∉ seen) (hnever : valuesOf members name = []) :
    shape.fill sense seen r members = none := by
  induction members generalizing seen r with
  | nil =>
    have hmissing : (shape.missing? seen).isSome := by
      rw [Option.isSome_iff_ne_none, ne_eq, missing?_eq_none_iff]
      exact fun hall => hseen (hall hrequired name hname)
    rw [fill, if_pos hmissing]
  | cons m members ih =>
    obtain ⟨key, w⟩ := m
    rw [valuesOf_cons] at hnever
    have hne : key ≠ name := by
      rintro rfl
      simp at hnever
    rw [if_neg hne] at hnever
    rw [fill]
    split_ifs
    · rfl
    · refine Option.bind_eq_none_iff.mpr fun r _ => ih ?_ hnever
      simp [Ne.symm hne, hseen]
    · exact ih hseen hnever

end Refused

end Shape

end DocPages.Json
