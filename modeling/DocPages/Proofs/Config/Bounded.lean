import DocPages.Browser.Start
import DocPages.Proofs.Config.Guarded

/-! What can be relied on about the configuration of a page, whatever its document says. A property
that the blank record has and that every field keeps is kept by a reader of records; so the numbers
of a configuration have the bounds of their readers, and a configuration that is used also has the
bounds that are checked afterwards. -/

namespace DocPages

namespace Json

theorem readNat_le {expected : String} {greatest n : Nat} {cs rest : List Char}
    (h : readNat expected greatest cs = .ok (n, rest)) : n ≤ greatest := by
  unfold readNat at h
  repeat' split at h
  all_goals cases h
  assumption

theorem read_of_parse {α : Type} {read : Reader α} {text : String} {x : α}
    (h : parse read text = .ok x) : ∃ rest, read text.toList = .ok (x, rest) := by
  unfold parse at h
  repeat' split at h
  all_goals cases h
  exact ⟨_, by assumption⟩

section Kept

variable {ρ : Type} {P : ρ → Prop}

/-- Filling in the field keeps the property. -/
def Field.Keeps (field : Field ρ) (P : ρ → Prop) : Prop :=
  ∀ r r' cs rest, P r → field.read r cs = .ok (r', rest) → P r'

theorem Field.keeps_of {α : Type} {name : String} {read : Reader α} {set : ρ → α → ρ}
    (h : ∀ r x cs rest, P r → read cs = .ok (x, rest) → P (set r x)) :
    (Field.of name read set).Keeps P := by
  intro r r' cs rest hr hread
  simp only [Field.of] at hread
  split at hread
  next x _ hx =>
    cases hread
    exact h r x cs _ hr hx
  · cases hread

namespace Shape

variable {shape : Shape ρ} {r r' : ρ} {cs rest : List Char}

theorem readMembers_keeps (hfields : ∀ field ∈ shape.fields, field.Keeps P) {fuel : Nat}
    {first : Bool} {seen : List String} (hr : P r)
    (h : shape.readMembers fuel first seen r cs = .ok (r', rest)) : P r' := by
  induction fuel generalizing first seen r cs with
  | zero => cases h
  | succ fuel ih =>
    rw [readMembers] at h
    repeat' split at h
    all_goals try cases h
    · exact hr
    -- The member is passed over.
    · exact ih hr h
    -- It fills in a field.
    next hfind _ _ _ _ _ _ _ hread =>
      exact ih (hfields _ (List.mem_of_find?_eq_some hfind) _ _ _ _ hr hread) h

theorem readPositional_keeps {fields : List (Field ρ)} (hfields : ∀ field ∈ fields, field.Keeps P)
    {n : Nat} (hr : P r) (h : shape.readPositional n r cs fields = .ok (r', rest)) : P r' := by
  induction fields generalizing n r cs with
  | nil =>
    cases h
    exact hr
  | cons field fields ih =>
    obtain ⟨hfield, hrest⟩ := List.forall_mem_cons.mp hfields
    rw [readPositional] at h
    repeat' split at h
    all_goals try cases h
    · exact hr
    next hread => exact ih hrest (hfield _ _ _ _ hr hread) h

theorem finish_keeps {close : List Char → List Char × Option Fault}
    {x : Except Issue (ρ × List Char)} (hx : ∀ {r cs}, x = .ok (r, cs) → P r)
    (h : finish close x = .ok (r, rest)) : P r := by
  unfold finish at h
  repeat' split at h
  all_goals cases h
  exact hx rfl

theorem read_keeps (hblank : P shape.blank) (hfields : ∀ field ∈ shape.fields, field.Keeps P)
    (h : shape.read cs = .ok (r, rest)) : P r := by
  unfold read at h
  split at h
  · exact finish_keeps (readMembers_keeps hfields hblank) h
  · exact finish_keeps (readPositional_keeps hfields hblank) h
  · cases h

end Shape

end Kept

end Json

open Json Browser

namespace Config

/-- The numbers of a configuration are within their limits. -/
structure Bounded (c : Config) : Prop where
  maxResults : 1 ≤ c.maxResults ∧ c.maxResults ≤ maxShown
  breakpoint : 1 ≤ c.breakpoint ∧ c.breakpoint ≤ Width.widest
  yieldEvery : 1 ≤ c.yieldEvery ∧ c.yieldEvery ≤ maxNatural

theorem bounded_default : default.Bounded := ⟨by decide, by decide, by decide⟩

variable {c : Config} {cs rest : List Char}

theorem numbers_le_of_read (h : shape.read cs = .ok (c, rest)) :
    c.breakpoint ≤ Width.widest ∧ c.yieldEvery ≤ maxNatural := by
  refine Shape.read_keeps (P := fun c => c.breakpoint ≤ Width.widest ∧ c.yieldEvery ≤ maxNatural)
    ⟨by decide, by decide⟩ ?_ h
  simp only [shape, List.forall_mem_cons, List.not_mem_nil, false_imp_iff, implies_true, and_true]
  refine ⟨?_, ?_, ?_, ?_, ?_, ?_, ?_⟩
  all_goals
    refine Field.keeps_of fun r x cs rest hr hread => ?_
  -- Two of the fields are bounded by their readers, and the others have nothing to do with them.
  case refine_3 => exact ⟨readNat_le hread, hr.2⟩
  case refine_5 => exact ⟨hr.1, readNat_le hread⟩
  all_goals exact hr

theorem bounded_of_ofJson {text : String} (h : ofJson text = .ok c) : c.Bounded := by
  unfold ofJson at h
  repeat' split at h
  all_goals cases h
  next hparse hv =>
    obtain ⟨rest, hread⟩ := read_of_parse hparse
    obtain ⟨hbreakpoint, hyield⟩ := numbers_le_of_read hread
    obtain ⟨hresults, hyields, hbreaks⟩ := violation?_eq_none_iff.mp hv
    exact ⟨hresults, ⟨hbreaks, hbreakpoint⟩, ⟨hyields, hyield⟩⟩

theorem bounded_readConfig (t : ElementTree) : (readConfig t).1.Bounded := by
  unfold readConfig
  split
  · exact bounded_default
  · split
    next h => exact bounded_of_ofJson h
    · exact bounded_default

end Config

end DocPages
