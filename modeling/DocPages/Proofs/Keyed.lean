/-! Values kept under names: what is left when one name is taken out. -/

namespace DocPages

variable {κ β : Type} [BEq κ] [LawfulBEq κ] {key name : κ}

theorem lookup_filter_ne (h : name ≠ key) (xs : List (κ × β)) :
    (xs.filter fun x => x.1 != key).lookup name = xs.lookup name := by
  induction xs with
  | nil => rfl
  | cons x xs ih =>
    obtain ⟨k, v⟩ := x
    by_cases hk : k = key
    · subst hk
      have hn : (name == k) = false := by simpa using h
      simp [List.lookup_cons, hn, ih]
    · simp [hk, List.lookup_cons, ih]

theorem lookup_filter_self (key : κ) (xs : List (κ × β)) :
    (xs.filter fun x => x.1 != key).lookup key = none := by
  rw [List.lookup_eq_none_iff]
  intro x hx
  have hne : x.1 ≠ key := by simpa using (List.mem_filter.mp hx).2
  simpa using fun heq => hne heq.symm

end DocPages
