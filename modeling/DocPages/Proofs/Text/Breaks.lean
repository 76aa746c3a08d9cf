import DocPages.Text.Breaks
import Mathlib.Data.List.Basic

/-! Break opportunities. A text is marked if every break character comes directly behind a
zero-width space, and thinned if some of these spaces are taken away again. The text with its breaks
is marked and can be thinned to the text. It is contained in every other text of this kind, so it is
the shortest of them and the only one of its length. -/

namespace DocPages

namespace BreakStyle

/-- Every break character comes directly behind a zero-width space; `prev` is the character that
came before. -/
def Marked (style : BreakStyle) (prev : Option Char) (cs : List Char) : Prop :=
  ∀ before c after, cs = before ++ c :: after → style.breaksBefore c = true →
    before.getLast?.or prev = some zeroWidthSpace

/-- Zero-width spaces that stand directly in front of a break character may be missing. -/
inductive Thinned (style : BreakStyle) : List Char → List Char → Prop
  | nil : Thinned style [] []
  | keep (c : Char) {s t : List Char} : Thinned style s t → Thinned style (c :: s) (c :: t)
  | drop {c : Char} {s t : List Char} : style.breaksBefore c = true → Thinned style (c :: s) t →
      Thinned style (zeroWidthSpace :: c :: s) t

variable {style : BreakStyle} {prev : Option Char}

theorem breaksBefore_zeroWidthSpace (style : BreakStyle) :
    style.breaksBefore zeroWidthSpace = false := by
  cases style <;> decide

theorem breaksBefore_case {c : Char} (h : punctuation.breaksBefore c = true) :
    punctuationAndCase.breaksBefore c = true := by
  have hcase : punctuationAndCase.breaksBefore c = (punctuation.breaksBefore c || c.isUpper) := rfl
  rw [hcase, h, Bool.true_or]

theorem getLast?_cons_or (c : Char) (cs : List Char) (prev : Option Char) :
    (c :: cs).getLast?.or prev = cs.getLast?.or (some c) := by
  rw [List.getLast?_cons]
  cases cs.getLast? <;> rfl

section Marked

theorem marked_nil (style : BreakStyle) (prev : Option Char) : style.Marked prev [] := by
  intro before c after h
  simp at h

theorem marked_cons {c : Char} {cs : List Char} :
    style.Marked prev (c :: cs) ↔
      (style.breaksBefore c = true → prev = some zeroWidthSpace) ∧ style.Marked (some c) cs := by
  constructor
  · intro h
    refine ⟨fun hc => by simpa using h [] c cs rfl hc, fun before d after heq hd => ?_⟩
    rw [← getLast?_cons_or]
    exact h (c :: before) d after (by rw [heq]; rfl) hd
  · rintro ⟨hc, hcs⟩ before d after heq hd
    rcases List.cons_eq_append_iff.mp heq with ⟨rfl, hd'⟩ | ⟨rest, rfl, hrest⟩
    · obtain ⟨rfl, -⟩ := List.cons.inj hd'
      simpa using hc hd
    · rw [getLast?_cons_or]
      exact hcs rest d after hrest hd

/-- A style with fewer break characters asks for less. -/
theorem Marked.of_case {cs : List Char} (h : punctuationAndCase.Marked prev cs) :
    punctuation.Marked prev cs :=
  fun before c after heq hc => h before c after heq (breaksBefore_case hc)

theorem marked_spread (style : BreakStyle) (prev : Option Char) (cs : List Char) :
    style.Marked prev (style.spread prev cs) := by
  induction cs generalizing prev with
  | nil => exact marked_nil style prev
  | cons c cs ih =>
    rw [spread]
    split
    · refine marked_cons.mpr ⟨fun hzero => ?_, marked_cons.mpr ⟨fun _ => rfl, ih (some c)⟩⟩
      rw [breaksBefore_zeroWidthSpace] at hzero
      cases hzero
    · rename_i hplaced
      refine marked_cons.mpr ⟨fun hc => ?_, ih (some c)⟩
      simpa [hc] using hplaced

theorem spread_of_marked {cs : List Char} (h : style.Marked prev cs) :
    style.spread prev cs = cs := by
  induction cs generalizing prev with
  | nil => rfl
  | cons c cs ih =>
    obtain ⟨hc, hcs⟩ := marked_cons.mp h
    rw [spread, ih hcs, if_neg]
    rw [Bool.and_eq_true]
    rintro ⟨hbreak, hprev⟩
    simp [hc hbreak] at hprev

theorem marked_iff {cs : List Char} : style.Marked prev cs ↔ style.spread prev cs = cs :=
  ⟨spread_of_marked, fun h => h ▸ marked_spread style prev cs⟩

instance (style : BreakStyle) (prev : Option Char) (cs : List Char) :
    Decidable (style.Marked prev cs) :=
  decidable_of_iff _ marked_iff.symm

end Marked

section Thinned

theorem thinned_spread (style : BreakStyle) (prev : Option Char) (cs : List Char) :
    style.Thinned (style.spread prev cs) cs := by
  induction cs generalizing prev with
  | nil => exact .nil
  | cons c cs ih =>
    rw [spread]
    split
    · rename_i hplaced
      rw [Bool.and_eq_true] at hplaced
      exact .drop hplaced.1 (.keep c (ih (some c)))
    · exact .keep c (ih (some c))

theorem Thinned.sublist {s t : List Char} (h : style.Thinned s t) : t.Sublist s := by
  induction h with
  | nil => exact .slnil
  | keep c h ih => exact ih.cons_cons c
  | drop hc h ih => exact ih.cons _

theorem Thinned.filter_eq {s t : List Char} (h : style.Thinned s t) :
    s.filter (· != zeroWidthSpace) = t.filter (· != zeroWidthSpace) := by
  induction h with
  | nil => rfl
  | keep c h ih => rw [List.filter_cons, List.filter_cons, ih]
  | drop hc h ih =>
    rw [← ih]
    rfl

/-- A space that is already there takes the place of one that would be put in. -/
theorem spread_sublist_cons {c : Char} {cs : List Char} :
    (style.spread prev (c :: cs)).Sublist
      (zeroWidthSpace :: style.spread (some zeroWidthSpace) (c :: cs)) := by
  have hkept : style.spread (some zeroWidthSpace) (c :: cs) = c :: style.spread (some c) cs := by
    simp [spread]
  rw [hkept, spread]
  split
  · exact .refl _
  · exact .cons _ (.refl _)

theorem Thinned.exists_cons {c : Char} {s t : List Char} (hc : style.breaksBefore c = true)
    (h : style.Thinned (c :: s) t) : ∃ u, t = c :: u := by
  cases h with
  | keep c h => exact ⟨_, rfl⟩
  | drop hd h =>
    rw [breaksBefore_zeroWidthSpace] at hc
    cases hc

/-- Whatever is marked and can be thinned to a text holds all that the text needs. -/
theorem Thinned.spread_sublist {s t : List Char} (h : style.Thinned s t)
    (hmarked : style.Marked prev s) : (style.spread prev t).Sublist s := by
  induction h generalizing prev with
  | nil => exact .slnil
  | keep c h ih =>
    obtain ⟨hc, hs⟩ := marked_cons.mp hmarked
    have hkept := (ih hs).cons_cons c
    rw [spread, if_neg]
    · exact hkept
    · rw [Bool.and_eq_true]
      rintro ⟨hbreak, hprev⟩
      simp [hc hbreak] at hprev
  | drop hc h ih =>
    obtain ⟨-, hs⟩ := marked_cons.mp hmarked
    obtain ⟨u, rfl⟩ := h.exists_cons hc
    exact spread_sublist_cons.trans ((ih hs).cons_cons zeroWidthSpace)

end Thinned

/-- Breaks of a coarser style leave room for those of a finer one. -/
theorem spread_spread {fine : BreakStyle}
    (hle : ∀ c, style.breaksBefore c = true → fine.breaksBefore c = true) (prev : Option Char)
    (cs : List Char) : fine.spread prev (style.spread prev cs) = fine.spread prev cs := by
  induction cs generalizing prev with
  | nil => rfl
  | cons c cs ih =>
    have hzero := breaksBefore_zeroWidthSpace fine
    rw [spread]
    split
    · rename_i hplaced
      rw [Bool.and_eq_true] at hplaced
      simp [spread, hzero, hle c hplaced.1, hplaced.2, ih]
    · rw [spread, spread, ih]

section Pieces

/-- The border of two pieces falls between a zero-width space and its break character. -/
def Parts (style : BreakStyle) (as bs : List Char) : Prop :=
  as.getLast? = some zeroWidthSpace ∧ bs.head?.any style.breaksBefore = true

instance (style : BreakStyle) (as bs : List Char) : Decidable (style.Parts as bs) :=
  inferInstanceAs (Decidable (_ ∧ _))

theorem spread_append (style : BreakStyle) (prev : Option Char) (as bs : List Char) :
    style.spread prev (as ++ bs) =
      style.spread prev as ++ style.spread (as.getLast?.or prev) bs := by
  induction as generalizing prev with
  | nil => rfl
  | cons a as ih =>
    rw [List.cons_append, spread, spread, ih, getLast?_cons_or]
    split <;> rfl

theorem spread_of_not_parts {as bs : List Char} (h : ¬ style.Parts as bs) :
    style.spread as.getLast? bs = style.spread none bs := by
  cases bs with
  | nil => rfl
  | cons b bs =>
    rw [spread, spread]
    by_cases hb : style.breaksBefore b = true
    · have hlast : as.getLast? ≠ some zeroWidthSpace := fun hlast => h ⟨hlast, by simpa using hb⟩
      simp [hb, hlast]
    · simp [hb]

theorem spread_of_parts {as bs : List Char} (h : style.Parts as bs) :
    style.spread none bs = zeroWidthSpace :: style.spread as.getLast? bs := by
  obtain ⟨hlast, hhead⟩ := h
  cases bs with
  | nil => cases hhead
  | cons b bs =>
    have hb : style.breaksBefore b = true := by simpa using hhead
    rw [hlast, spread, spread]
    simp [hb]

theorem spread_sublist_flatMap (style : BreakStyle) (pieces : List (List Char)) :
    (style.spread none pieces.flatten).Sublist (pieces.flatMap (style.spread none)) := by
  induction pieces with
  | nil => exact .slnil
  | cons as pieces ih =>
    rw [List.flatten_cons, List.flatMap_cons, spread_append, Option.or_none]
    refine List.Sublist.append_left (List.Sublist.trans ?_ ih) _
    by_cases hparts : style.Parts as pieces.flatten
    · rw [spread_of_parts hparts]
      exact .cons _ (.refl _)
    · rw [spread_of_not_parts hparts]

/-- Breaks put in piece by piece are those of the whole exactly if no border parts a space from its
break character. -/
theorem flatMap_spread_eq_iff {pieces : List (List Char)} (hne : ∀ as ∈ pieces, as ≠ []) :
    pieces.flatMap (style.spread none) = style.spread none pieces.flatten ↔
      pieces.IsChain fun as bs => ¬ style.Parts as bs := by
  induction pieces with
  | nil => exact ⟨fun _ => .nil, fun _ => rfl⟩
  | cons as pieces ih =>
    obtain ⟨-, hne⟩ := List.forall_mem_cons.mp hne
    rw [List.flatten_cons, List.flatMap_cons, spread_append, Option.or_none,
      List.append_cancel_left_eq]
    cases pieces with
    | nil => exact ⟨fun _ => .singleton as, fun _ => rfl⟩
    | cons bs pieces =>
      have hparts : style.Parts as (bs :: pieces).flatten ↔ style.Parts as bs := by
        obtain ⟨b, bs, rfl⟩ := List.exists_cons_of_ne_nil (hne bs List.mem_cons_self)
        exact Iff.rfl
      rw [List.isChain_cons_cons, ← ih hne, ← hparts]
      by_cases hborder : style.Parts as (bs :: pieces).flatten
      · -- The pieces hold one space more than the whole, so they cannot agree.
        have hlength := (spread_sublist_flatMap style (bs :: pieces)).length_le
        rw [spread_of_parts hborder, List.length_cons] at hlength
        refine ⟨fun heq => ?_, fun hchain => absurd hborder hchain.1⟩
        rw [heq] at hlength
        exact absurd hlength (Nat.not_succ_le_self _)
      · rw [spread_of_not_parts hborder]
        exact ⟨fun heq => ⟨hborder, heq⟩, fun hchain => hchain.2⟩

end Pieces

end BreakStyle

open BreakStyle

theorem insertBreaks_eq (style : BreakStyle) (text : String) :
    insertBreaks style text = String.ofList (style.spread none text.toList) := by
  rw [insertBreaks]
  split
  · rfl
  · rename_i hnone
    have hmarked : style.Marked none text.toList := by
      intro before c after heq hc
      refine absurd (List.any_eq_true.mpr ⟨c, ?_, hc⟩) hnone
      rw [heq]
      exact List.mem_append_right _ List.mem_cons_self
    rw [spread_of_marked hmarked, String.ofList_toList]

theorem toList_insertBreaks (style : BreakStyle) (text : String) :
    (insertBreaks style text).toList = style.spread none text.toList := by
  rw [insertBreaks_eq, String.toList_ofList]

theorem insertBreaks_of_marked {style : BreakStyle} {text : String}
    (h : style.Marked none text.toList) : insertBreaks style text = text := by
  rw [insertBreaks_eq, spread_of_marked h, String.ofList_toList]

theorem insertBreaks_insertBreaks {style fine : BreakStyle}
    (hle : ∀ c, style.breaksBefore c = true → fine.breaksBefore c = true) (text : String) :
    insertBreaks fine (insertBreaks style text) = insertBreaks fine text := by
  rw [insertBreaks_eq, toList_insertBreaks, spread_spread hle, insertBreaks_eq]

/-- A text with its breaks is the only shortest one that is marked and can be thinned to the text.
Its visible characters are those of the text, it does not depend on the way out for texts without a
break character, and breaks that are there are kept, also those of the other style. -/
theorem breaks_are_fewest (style : BreakStyle) (text : String) :
    style.Marked none (insertBreaks style text).toList ∧
    style.Thinned (insertBreaks style text).toList text.toList ∧
    (∀ s : String, style.Marked none s.toList → style.Thinned s.toList text.toList →
      (insertBreaks style text).length ≤ s.length ∧
      (s.length = (insertBreaks style text).length → s = insertBreaks style text)) ∧
    (insertBreaks style text).toList.filter (· != zeroWidthSpace) =
      text.toList.filter (· != zeroWidthSpace) ∧
    insertBreaks style text = String.ofList (style.spread none text.toList) ∧
    insertBreaks style (insertBreaks style text) = insertBreaks style text ∧
    insertBreaks punctuationAndCase (insertBreaks punctuation text) =
      insertBreaks punctuationAndCase text ∧
    insertBreaks punctuation (insertBreaks punctuationAndCase text) =
      insertBreaks punctuationAndCase text := by
  have hmarked (style : BreakStyle) : style.Marked none (insertBreaks style text).toList := by
    rw [toList_insertBreaks]
    exact marked_spread style none text.toList
  have hthinned : style.Thinned (insertBreaks style text).toList text.toList := by
    rw [toList_insertBreaks]
    exact thinned_spread style none text.toList
  refine ⟨hmarked style, hthinned, fun s hs ht => ?_, hthinned.filter_eq,
    insertBreaks_eq style text, insertBreaks_of_marked (hmarked style),
    insertBreaks_insertBreaks (fun c => breaksBefore_case) text,
    insertBreaks_of_marked (hmarked punctuationAndCase).of_case⟩
  have hsub : (insertBreaks style text).toList.Sublist s.toList := by
    rw [toList_insertBreaks]
    exact ht.spread_sublist hs
  rw [← String.length_toList, ← String.length_toList]
  refine ⟨hsub.length_le, fun hlength => ?_⟩
  exact String.toList_inj.mp (hsub.eq_of_length hlength.symm).symm

/-- One space too many, in front of the second of two break characters. -/
theorem breaks_are_fewest_spaced :
    punctuation.Marked none "\u200b.\u200b\u200b_".toList ∧
    punctuation.Thinned "\u200b.\u200b\u200b_".toList ".\u200b_".toList ∧
    insertBreaks punctuation ".\u200b_" = "\u200b.\u200b_" ∧
    (insertBreaks punctuation ".\u200b_").length ≤ "\u200b.\u200b\u200b_".length := by
  have hmarked : punctuation.Marked none "\u200b.\u200b\u200b_".toList := by decide +kernel
  have hthinned : punctuation.Thinned "\u200b.\u200b\u200b_".toList ".\u200b_".toList :=
    .drop rfl (.keep _ (.keep _ (.drop rfl (.keep _ .nil))))
  obtain ⟨-, -, hfewest, -⟩ := breaks_are_fewest punctuation ".\u200b_"
  exact ⟨hmarked, hthinned, by decide +kernel, (hfewest _ hmarked hthinned).1⟩

end DocPages
