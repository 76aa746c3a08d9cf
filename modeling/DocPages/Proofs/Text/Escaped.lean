import DocPages.Text.Escape
import Mathlib.Data.List.Chain

/-! What escaped text cannot contain: no tag starts in text or in an attribute value, and no closing
tag in the content of a script. -/

namespace DocPages

/-- Nowhere does `y` follow `x`. -/
def Lacks (x y : Char) (cs : List Char) : Prop := cs.IsChain fun p q => ¬ (p = x ∧ q = y)

instance (x y : Char) (cs : List Char) : Decidable (Lacks x y cs) :=
  inferInstanceAs (Decidable (cs.IsChain _))

section Lacks

variable {x y : Char} {as bs mark : List Char}

theorem Lacks.cons {a : Char} (ha : a = x → as.head? ≠ some y) (h : Lacks x y as) :
    Lacks x y (a :: as) := by
  cases as with
  | nil => exact .singleton a
  | cons b as => exact .cons_cons (fun hab => ha hab.1 (congrArg some hab.2)) h

theorem Lacks.head?_ne (h : Lacks x y (x :: as)) : as.head? ≠ some y := by
  intro hhead
  cases as with
  | nil => cases hhead
  | cons b as => exact (List.isChain_cons_cons.mp h).1 ⟨rfl, Option.some.inj hhead⟩

theorem lacks_of_not_mem (h : x ∉ as) : Lacks x y as := by
  induction as with
  | nil => exact .nil
  | cons a as ih =>
    rw [List.mem_cons, not_or] at h
    exact (ih h.2).cons fun ha => absurd ha.symm h.1

theorem Lacks.append (ha : Lacks x y as) (hb : Lacks x y bs)
    (h : as.getLast? ≠ some x ∨ bs.head? ≠ some y) : Lacks x y (as ++ bs) := by
  refine List.isChain_append.mpr ⟨ha, hb, ?_⟩
  rintro p hp q hq ⟨rfl, rfl⟩
  exact h.elim (fun hne => hne hp) fun hne => hne hq

theorem Lacks.not_infix (h : Lacks x y as) : ¬ x :: y :: mark <:+: as := by
  intro hin
  have hchain : Lacks x y (x :: y :: mark) := List.IsChain.infix h hin
  exact (List.isChain_cons_cons.mp hchain).1 ⟨rfl, rfl⟩

end Lacks

theorem not_mem_escapeText (s : String) : '<' ∉ (escapeText s).toList := by
  have hchar (c : Char) : '<' ∉ textChar c := by
    fun_cases textChar c
    all_goals try decide
    simp_all [eq_comm]
  rw [escapeText, String.toList_ofList, List.mem_flatMap]
  rintro ⟨c, -, hc⟩
  exact hchar c hc

theorem not_mem_escapeAttr (s : String) : '<' ∉ (escapeAttr s).toList := by
  have hchar (c : Char) : '<' ∉ attrChar c := by
    fun_cases attrChar c
    all_goals try decide
    simp_all [eq_comm]
  rw [escapeAttr, String.toList_ofList, List.mem_flatMap]
  rintro ⟨c, -, hc⟩
  exact hchar c hc

theorem head?_guardClosers (cs : List Char) : (guardClosers cs).head? = cs.head? := by
  fun_cases guardClosers cs <;> rfl

theorem guardClosers_cons {c : Char} {cs : List Char} (h : c = '<' → cs.head? ≠ some '/') :
    guardClosers (c :: cs) = c :: guardClosers cs := by
  rw [guardClosers]
  rintro rest hc rfl
  exact h hc rfl

theorem lacks_guardClosers (cs : List Char) : Lacks '<' '/' (guardClosers cs) := by
  fun_induction guardClosers cs with
  | case1 => exact .nil
  | case2 cs ih =>
    exact ((ih.cons fun hc => absurd hc (by decide)).cons fun hc => absurd hc (by decide)).cons
      fun _ hhead => absurd hhead (by simp)
  | case3 c cs hne ih =>
    refine ih.cons fun hc hhead => ?_
    rw [head?_guardClosers] at hhead
    cases cs with
    | nil => cases hhead
    | cons d cs => exact hne cs hc (by simpa using hhead)

end DocPages
