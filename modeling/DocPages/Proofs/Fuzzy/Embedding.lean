import DocPages.Proofs.Fuzzy.Placement
import DocPages.Proofs.Text.Fold

/-! The places of a hit in the name. They increase, they lie in the name, and there is one at least.
The name spells the needle at them, except where the two forms of a character differ: a lowercase
letter that folds to another one, such as the final sigma, is found in one form and scored in the
other. -/

namespace DocPages.Fuzzy

section Slots

open Slot

theorem map_ofChars (plain : Bool) (pos : Nat) (before : CharClass) (cs : List Char) :
    (ofChars plain pos before cs).map (fun s => (s.pos, s.wide, s.narrow)) =
      (cs.zipIdx pos).map fun (c, i) => (i, wideForm plain c, narrowForm plain c) := by
  induction cs generalizing pos before with
  | nil => rfl
  | cons c cs ih =>
    rw [ofChars, List.map_cons, ih]
    rfl

theorem map_pos_slots (plain : Bool) (cs : List Char) :
    (slots plain cs).map (·.pos) = List.range cs.length := by
  have h := congrArg (List.map Prod.fst) (map_ofChars plain 0 .whitespace cs)
  rw [List.map_map, List.map_map] at h
  calc (slots plain cs).map (·.pos) = cs.zipIdx.map (·.2) := h
    _ = List.range cs.length := by rw [List.range_eq_range', List.zipIdx_map_snd]

theorem getElem?_of_mem_slots {plain : Bool} {cs : List Char} {s : Slot} (h : s ∈ slots plain cs) :
    ∃ c, cs[s.pos]? = some c ∧ s.wide = wideForm plain c ∧ s.narrow = narrowForm plain c := by
  have hmem := List.mem_map_of_mem (f := fun s : Slot => (s.pos, s.wide, s.narrow)) h
  rw [slots, map_ofChars] at hmem
  obtain ⟨⟨c, i⟩, hc, heq⟩ := List.mem_map.mp hmem
  simp only [Prod.mk.injEq] at heq
  obtain ⟨rfl, hwide, hnarrow⟩ := heq
  exact ⟨c, List.mk_mem_zipIdx_iff_getElem?.mp hc, hwide.symm, hnarrow.symm⟩

end Slots

section Forms

/-- A character that is no lowercase letter with a further folding. -/
def Settled (c : Char) : Prop := CharClass.ofChar c = .lower → foldChar c = c

theorem Settled.foldChar_eq {c : Char} (h : Settled c) (hascii : ¬ isAscii c = true)
    (hupper : CharClass.ofChar c ≠ .upper) : foldChar c = c := by
  by_cases hlower : Table.lowercase.any (CodeRun.contains · c) = true
  · exact h (by rw [CharClass.ofChar, if_neg hascii, if_pos hlower])
  · refine foldChar_eq_self (Option.not_isSome_iff_eq_none.mp fun hstep => hupper ?_)
    rw [CharClass.ofChar, if_neg hascii, if_neg hlower, if_pos hstep]

theorem narrowForm_of_isAscii {plain : Bool} {c : Char} (h : isAscii c = true) :
    Slot.narrowForm plain c = Slot.wideForm plain c := by
  rw [Slot.narrowForm, Slot.wideForm, if_pos h, plainChar, if_pos (of_decide_eq_true h), ite_self]

theorem narrowForm_eq_wideForm {plain : Bool} {c : Char} (h : plain = true ∨ Settled c) :
    Slot.narrowForm plain c = Slot.wideForm plain c := by
  by_cases hascii : isAscii c = true
  · exact narrowForm_of_isAscii hascii
  · rw [Slot.narrowForm, Slot.wideForm, if_neg hascii]
    cases plain with
    | true => rfl
    | false =>
      simp only [Bool.false_eq_true, if_false]
      split
      · rfl
      · rename_i hupper
        exact ((h.resolve_left nofun).foldChar_eq hascii hupper).symm

end Forms

namespace Atom

section Query

theorem foldChar_of_mem_foldWide {cs : List Char} {afterBackslash : Bool} {c : Char}
    (h : c ∈ foldWide afterBackslash cs) : foldChar c = c := by
  have hspace : foldChar ' ' = ' ' := foldChar_toLower (c := ' ') rfl
  have hbackslash : foldChar '\x5c' = '\x5c' := foldChar_toLower (c := '\x5c') rfl
  fun_induction foldWide afterBackslash cs with
  | case1 => cases h
  | case2 afterBackslash d cs _ ih =>
    obtain rfl | h := List.mem_cons.mp h
    · exact hspace
    · exact ih h
  | case3 d cs _ ih =>
    obtain rfl | h := List.mem_cons.mp h
    · exact hbackslash
    · obtain rfl | h := List.mem_cons.mp h
      · exact foldChar_foldChar d
      · exact ih h
  | case4 afterBackslash d cs _ _ ih =>
    obtain rfl | h := List.mem_cons.mp h
    · exact foldChar_foldChar d
    · exact ih h

theorem unescapeSpaces_sublist (cs : List Char) : (unescapeSpaces cs).Sublist cs := by
  fun_induction unescapeSpaces cs with
  | case1 => exact .slnil
  | case2 cs ih => exact (ih.cons_cons ' ').cons '\x5c'
  | case3 c cs _ ih => exact ih.cons_cons c

theorem foldChar_of_mem_needle {piece : List Char} {c : Char} (h : c ∈ (ofPiece piece).needle) :
    foldChar c = c := by
  rw [ofPiece] at h
  split at h
  · rename_i hascii
    obtain ⟨d, hd, rfl⟩ := List.mem_map.mp h
    exact foldChar_toLower (List.all_eq_true.mp hascii d ((unescapeSpaces_sublist piece).subset hd))
  · exact foldChar_of_mem_foldWide h

/-- A whole run of a name is compared with the needle itself. -/
theorem target_ofPiece (piece : List Char) : (ofPiece piece).target = (ofPiece piece).needle := by
  have hplain : (ofPiece piece).wide = true → (ofPiece piece).plain = true →
      ∀ c ∈ (ofPiece piece).needle, plainChar c = c := by
    rw [ofPiece]
    split
    · exact nofun
    · intro _ hplain c hc
      exact eq_of_beq (List.all_eq_true.mp hplain c hc)
  rw [target]
  split
  · rename_i hwide
    refine (List.map_congr_left fun c hc => ?_).trans (List.map_id _)
    split
    · rename_i h
      rw [hplain hwide h c hc]
      exact foldChar_of_mem_needle hc
    · exact foldChar_of_mem_needle hc
  · exact (List.map_congr_left fun c hc => foldChar_of_mem_needle hc).trans (List.map_id _)

theorem target_eq_needle {query : String} {a : Atom} (h : a ∈ parseQuery query) :
    a.target = a.needle := by
  obtain ⟨piece, -, rfl⟩ := List.mem_map.mp (List.mem_filter.mp h).1
  exact target_ofPiece piece

end Query

/-- Strictly increasing offsets at which the name spells the needle. -/
def Embeds (a : Atom) (name : String) (offsets : List Nat) : Prop :=
  offsets.Pairwise (· < ·) ∧
    offsets.map (fun i => name.toList[i]?.map (Slot.wideForm a.plain)) = a.needle.map some

section Hit

variable {query name : String} {a : Atom} {hit : Hit}

/-- The positions of a hit are some of the offsets of the name, in their order. -/
theorem positions_sublist (ha : a ∈ parseQuery query) (h : a.hit? name = some hit) :
    hit.positions.Sublist (List.range name.length) := by
  obtain ⟨taken, hsub, -, hpos, -⟩ := found_hit? (target_eq_needle ha) h
  rw [hpos, ← String.length_toList, ← map_pos_slots a.plain]
  exact hsub.map _

theorem positions_ne_nil (ha : a ∈ parseQuery query) (h : a.hit? name = some hit) :
    hit.positions ≠ [] := by
  obtain ⟨taken, -, hne, hpos, -⟩ := found_hit? (target_eq_needle ha) h
  rw [hpos]
  exact fun hnil => hne (List.map_eq_nil_iff.mp hnil)

theorem embeds_of_hit? (ha : a ∈ parseQuery query) (h : a.hit? name = some hit)
    (hforms : a.plain = true ∨ ∀ c ∈ name.toList, Settled c) : a.Embeds name hit.positions := by
  refine ⟨List.pairwise_lt_range.sublist (positions_sublist ha h), ?_⟩
  obtain ⟨taken, hsub, -, hpos, hspell⟩ := found_hit? (target_eq_needle ha) h
  have hslots : ∀ s ∈ slots a.plain name.toList, s.narrow = s.wide := by
    intro s hs
    obtain ⟨c, hc, hwide, hnarrow⟩ := getElem?_of_mem_slots hs
    rw [hwide, hnarrow]
    exact narrowForm_eq_wideForm (hforms.imp_right fun hall => hall c (List.mem_of_getElem? hc))
  rw [hpos, ← hspell hslots, List.map_map, List.map_map]
  refine List.map_congr_left fun s hs => ?_
  obtain ⟨c, hc, hwide, -⟩ := getElem?_of_mem_slots (hsub.subset hs)
  simp only [Function.comp_apply, hc, hwide, Option.map_some]

-- The final sigma is found, as a sigma, but not scored: two characters, one place.
example : (parseQuery "\u00e9\u03c3").map
    (fun a => (a.needle, (a.hit? "\u00e9\u03c2").map (·.positions))) =
      [(['\u00e9', '\u03c3'], some [0])] := by decide +kernel

end Hit

end Atom

end DocPages.Fuzzy
