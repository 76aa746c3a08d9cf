import DocPages.Proofs.Fuzzy.Placement
import Mathlib.Data.List.DropRight
import Mathlib.Data.List.MinMax

/-! A needle that occurs in a name is found. Whatever way is taken, there is a hit as soon as the
characters of the needle occur in their order. The two ways to match many characters look at the
same window, from the first place of the first character to the last place of the last one. -/

namespace DocPages.Fuzzy

theorem Found.sublist {needle : List Char} {run : List Slot} {hit : Hit} (h : Found needle run hit)
    (hforms : ∀ s ∈ run, s.narrow = s.wide) : needle.Sublist (run.map (·.wide)) := by
  obtain ⟨taken, hsub, -, -, hspell⟩ := h
  rw [← hspell hforms]
  exact hsub.map _

section Scans

theorem isSome_shortestStart (needle : List Char) (run : List Slot) :
    (shortestStart needle run).isSome ↔ needle.Sublist (run.map (·.wide)) := by
  fun_induction shortestStart needle run with
  | case1 run => simp
  | case2 c cs => simp
  | case3 c cs s run ih =>
    rw [Option.isSome_map, ih, List.map_cons]
    split
    · rename_i hc
      rw [hc, List.cons_sublist_cons]
    · rename_i hc
      rw [List.cons_sublist_cons']
      simp [Ne.symm hc]

theorem isSome_scoreRun {needle : List Char} {run : List Slot} :
    (scoreRun needle run).isSome ↔ run ≠ [] := by
  cases run <;> simp [scoreRun]

/-- A run that holds a needle and is no longer than it is the needle. -/
theorem exactRun_eq {a : Atom} {run : List Slot} (htarget : a.target = a.needle)
    (h : a.needle.Sublist (run.map (·.wide))) (hlen : run.length = a.needle.length) :
    exactRun a run = scoreRun a.needle run := by
  have heq := h.eq_of_length (by rw [List.length_map, hlen])
  rw [exactRun, htarget, if_pos heq.symm]

theorem isSome_quickPlacement {needle : List Char} {run : List Slot} (hne : needle ≠ [])
    (h : needle.Sublist (run.map (·.wide))) : (quickPlacement needle run).isSome := by
  obtain ⟨⟨start, rest⟩, hstart⟩ :=
    Option.isSome_iff_exists.mp ((isSome_shortestStart needle run).mpr h)
  have hback : needle.reverse.Sublist (start.reverse.map (·.wide)) := by
    rw [List.map_reverse]
    exact (shortest_shortestStart hstart).fits.reverse
  obtain ⟨⟨tight, rest'⟩, htight⟩ :=
    Option.isSome_iff_exists.mp ((isSome_shortestStart _ _).mpr hback)
  have hrun : tight.reverse ≠ [] := by
    intro hnil
    have hfits := (shortest_shortestStart htight).fits
    rw [List.reverse_eq_nil_iff.mp hnil] at hfits
    exact hne (List.reverse_eq_nil_iff.mp (List.sublist_nil.mp hfits))
  simpa [quickPlacement, hstart, htight] using isSome_scoreRun.mpr hrun

end Scans

section Rows

theorem sublist_concat {α : Type} {cs l : List α} {x : α} (h : cs.Sublist (l ++ [x])) :
    cs.Sublist l ∨ ∃ init, cs = init ++ [x] ∧ init.Sublist l := by
  obtain ⟨init, last, rfl, hinit, hlast⟩ := List.sublist_append_iff.mp h
  obtain rfl | rfl := List.sublist_singleton.mp hlast
  · exact .inl (by rwa [List.append_nil])
  · exact .inr ⟨init, rfl, hinit⟩

/-- The characters occur in a run of slots, the last of them in slot `s` behind the others. -/
def EndsIn (cs : List Char) (before : List Slot) (s : Slot) : Prop :=
  ∃ init, cs = init ++ [s.narrow] ∧ init.Sublist (before.map (·.narrow))

/-- A row has a cell wherever the characters can end; `before` are the slots in front of the row. -/
def RowFilled (cs : List Char) : List Slot → List Slot → List (Option Cell) → Prop
  | _, [], row => row = []
  | _, _ :: _, [] => False
  | before, s :: window, cell :: row =>
    (EndsIn cs before s → cell.isSome) ∧ RowFilled cs (before ++ [s]) window row

theorem rowFilled_firstRow (c : Char) (before window : List Slot) :
    RowFilled [c] before window (firstRow c window) := by
  induction window generalizing before with
  | nil => rfl
  | cons s window ih =>
    refine ⟨fun ⟨init, hinit, _⟩ => ?_, ih _⟩
    have hc : c = s.narrow := by
      have hlast := congrArg List.getLast? hinit
      simpa using hlast
    rw [Cell.first, if_pos hc.symm]
    rfl

theorem isSome_extend {m : Option Cell} {p : Option Carry} (h : m.isSome ∨ p.isSome) (s : Slot) :
    (Cell.extend m p s).isSome := by
  cases m <;> cases p <;> simp only [Cell.extend] <;> grind

theorem isSome_next {m : Option Cell} {p : Option Carry} (h : m.isSome ∨ p.isSome) :
    (Carry.next m p).isSome := by
  cases m <;> cases p <;> simp only [Carry.next] <;> grind

theorem rowFilled_nextRow {cs : List Char} {c : Char} {before window : List Slot}
    {m : Option Cell} {p : Option Carry} {row : List (Option Cell)}
    (hfront : cs.Sublist (before.map (·.narrow)) → m.isSome ∨ p.isSome)
    (hrow : RowFilled cs before window row) :
    RowFilled (cs ++ [c]) before window (nextRow c m p window row) := by
  fun_induction nextRow c m p window row generalizing before with
  | case1 m p s window above row ih =>
    obtain ⟨habove, hrow⟩ := hrow
    refine ⟨?_, ih (fun hcs => ?_) hrow⟩
    · rintro ⟨init, heq, hinit⟩
      obtain ⟨rfl, hc⟩ := List.append_inj' heq rfl
      rw [if_pos (List.singleton_injective hc).symm]
      exact isSome_extend (hfront hinit) s
    · -- The characters end in this slot, in the cell above, or in front of it.
      rw [List.map_append, List.map_singleton] at hcs
      obtain hcs | hcs := sublist_concat hcs
      · exact .inr (isSome_next (hfront hcs))
      · exact .inl (habove hcs)
  | case2 window m p row hempty =>
    cases window with
    | nil => rfl
    | cons s window =>
      cases row with
      | nil => exact hrow.elim
      | cons cell row => exact (hempty _ _ _ _ rfl rfl).elim

theorem rowFilled_lastRow {cs : List Char} {window : List Slot} {row : List (Option Cell)}
    (hne : cs ≠ []) (hrow : RowFilled cs [] window row) (ds : List Char) :
    RowFilled (cs ++ ds) [] window (lastRow window row ds) := by
  induction ds generalizing cs row with
  | nil => rwa [List.append_nil]
  | cons d ds ih =>
    rw [List.append_cons]
    refine ih (by simp) (rowFilled_nextRow (fun hcs => ?_) hrow)
    exact absurd (List.sublist_nil.mp hcs) hne

theorem RowFilled.exists_cell {cs : List Char} {before window : List Slot}
    {row : List (Option Cell)} (h : RowFilled cs before window row)
    (hcs : cs.Sublist ((before ++ window).map (·.narrow)))
    (hfront : ¬ cs.Sublist (before.map (·.narrow))) : ∃ cell, some cell ∈ row := by
  induction window generalizing before row with
  | nil => exact absurd (by rwa [List.append_nil] at hcs) hfront
  | cons s window ih =>
    cases row with
    | nil => exact h.elim
    | cons cell row =>
      obtain ⟨hcell, hrow⟩ := h
      by_cases hs : cs.Sublist ((before ++ [s]).map (·.narrow))
      · rw [List.map_append, List.map_singleton] at hs
        have hsome := hcell ((sublist_concat hs).resolve_left hfront)
        obtain ⟨m, rfl⟩ := Option.isSome_iff_exists.mp hsome
        exact ⟨m, List.mem_cons_self⟩
      · rw [List.append_cons] at hcs
        obtain ⟨m, hm⟩ := ih hrow hcs hs
        exact ⟨m, List.mem_cons_of_mem _ hm⟩

/-- No cell of a row is better than the best. -/
theorem exists_bestCell {row : List (Option Cell)} {cell : Cell} (h : some cell ∈ row) :
    ∃ best, bestCell row = some best ∧ cell.score ≤ best.score := by
  rw [← List.reduceOption_mem_iff] at h
  rw [bestCell]
  generalize row.reduceOption = cells at h ⊢
  induction cells using List.reverseRecOn generalizing cell with
  | nil => cases h
  | append_singleton cells last ih =>
    rw [List.foldl_concat]
    obtain hmem | hlast := List.mem_append.mp h
    · obtain ⟨best, hbest, hle⟩ := ih hmem
      rw [hbest]
      dsimp only
      split
      · exact ⟨last, rfl, by omega⟩
      · exact ⟨best, rfl, hle⟩
    · obtain rfl := List.mem_singleton.mp hlast
      split
      · exact ⟨cell, rfl, Nat.le_refl _⟩
      · split
        · exact ⟨cell, rfl, Nat.le_refl _⟩
        · exact ⟨_, rfl, by omega⟩

/-- A cell that goes on from the cell above is worth as much as the run at least. -/
theorem exists_extend (cell : Cell) (p : Option Carry) (s : Slot) :
    ∃ next, Cell.extend (some cell) p s = some next ∧ (cell.inRun s).score ≤ next.score := by
  cases p with
  | none => exact ⟨_, rfl, Nat.le_refl _⟩
  | some p =>
    rw [Cell.extend]
    split
    · exact ⟨_, rfl, Nat.le_refl _⟩
    · exact ⟨_, rfl, by omega⟩

/-- Two neighbours far behind in a window still give their cell. -/
theorem exists_nextRow {c : Char} {s t : Slot} {cell : Cell} (ht : t.narrow = c)
    {front after : List Slot} {row rest : List (Option Cell)} {above : Option Cell}
    (hlen : front.length = row.length) {m : Option Cell} {p : Option Carry} :
    ∃ next, some next ∈
        nextRow c m p (front ++ s :: t :: after) (row ++ some cell :: above :: rest) ∧
      (cell.inRun t).score ≤ next.score := by
  induction front generalizing row m p with
  | nil =>
    obtain rfl := List.length_eq_zero_iff.mp hlen.symm
    obtain ⟨next, hnext, hle⟩ := exists_extend cell (Carry.next m p) t
    refine ⟨next, ?_, hle⟩
    simp [nextRow, ht, hnext]
  | cons u front ih =>
    cases row with
    | nil => cases hlen
    | cons x row =>
      obtain ⟨next, hnext, hle⟩ := ih (Nat.succ.inj hlen)
      exact ⟨next, List.mem_cons_of_mem _ hnext, hle⟩

theorem isSome_bestPlacement {needle : List Char} {window : List Slot} (hne : needle ≠ [])
    (h : needle.Sublist (window.map (·.narrow))) : (bestPlacement needle window).isSome := by
  cases needle with
  | nil => exact absurd rfl hne
  | cons c cs =>
    have hrow := rowFilled_lastRow (List.cons_ne_nil c []) (rowFilled_firstRow c [] window) cs
    obtain ⟨cell, hcell⟩ := hrow.exists_cell h (by simp)
    obtain ⟨best, hbest, -⟩ := exists_bestCell hcell
    rw [bestPlacement, hbest]
    rfl

theorem isSome_placement {asciiName : Bool} {needle : List Char} {window : List Slot}
    (hne : needle ≠ []) (hforms : ∀ s ∈ window, s.narrow = s.wide)
    (h : needle.Sublist (window.map (·.wide))) : (placement asciiName needle window).isSome := by
  rw [placement]
  split
  · rw [← List.map_congr_left hforms] at h
    exact isSome_bestPlacement hne h
  · exact isSome_quickPlacement hne h

end Rows

section Single

/-- What a single character is worth in a slot. -/
def Slot.hit (s : Slot) : Hit := ⟨charScore + 2 * s.bonus, [s.pos]⟩

/-- The slots as if nothing stood between them, behind a character of class `before`. -/
def closeUp (before : CharClass) : List Slot → List Slot
  | [] => []
  | s :: rest => { s with before := before } :: closeUp s.here rest

/-- The slots as if nothing stood between them. The first one stays where it is. -/
def sideBySide : List Slot → List Slot
  | [] => []
  | s :: rest => s :: closeUp s.here rest

/-- The slots of a name that hold a needle of one character. -/
def occurrences (needle : List Char) (name : List Slot) : List Slot :=
  name.filter fun s => [s.wide] == needle

theorem occurrences_singleton (c : Char) (name : List Slot) :
    occurrences [c] name = name.filter fun s => s.wide == c := by
  simp [occurrences]

theorem foldl_best (run : List Slot) :
    run.foldl (fun best s => match best with
      | none => some s.hit
      | some b => if b.score < s.hit.score then some s.hit else some b) none =
      (run.argmax Slot.bonus).map Slot.hit := by
  induction run using List.reverseRecOn with
  | nil => rfl
  | append_singleton run last ih =>
    rw [List.foldl_concat, ih, List.argmax_concat]
    cases run.argmax Slot.bonus with
    | none => rfl
    | some s =>
      have hlt : s.hit.score < last.hit.score ↔ s.bonus < last.bonus := by
        simp only [Slot.hit]
        omega
      simp only [Option.map_some, hlt]
      split <;> rfl

/-- In a name within ASCII the bonus of a place counts from the character in front of it. -/
theorem matchSingleAscii_eq (c : Char) (name : List Slot) :
    Atom.matchSingleAscii c name = ((occurrences [c] name).argmax Slot.bonus).map Slot.hit := by
  rw [occurrences_singleton]
  exact foldl_best _

theorem filter_dropWhile_not {α : Type} (p : α → Bool) (l : List α) :
    (l.dropWhile fun x => !p x).filter p = l.filter p := by
  induction l with
  | nil => rfl
  | cons x l ih =>
    cases hx : p x with
    | true => rw [List.dropWhile_cons_of_neg (by simp [hx])]
    | false =>
      rw [List.dropWhile_cons_of_pos (by simp [hx]), ih, List.filter_cons_of_neg (by simp [hx])]

theorem foldl_closeUp (kept : Hit) (before : CharClass) (run : List Slot) :
    (run.foldl (fun (best : Hit × CharClass) s =>
        let score := charScore + 2 * best.2.bonus s.here
        (if best.1.score < score then ⟨score, [s.pos]⟩ else best.1, s.here)) (kept, before)).1 =
      (closeUp before run).foldl (fun b s => if b.score < s.hit.score then s.hit else b) kept := by
  induction run generalizing kept before with
  | nil => rfl
  | cons s run ih =>
    rw [List.foldl_cons, ih]
    rfl

/-- In any other name it counts from the place before. -/
theorem matchSingleWide_eq {c : Char} {name : List Slot} (hforms : ∀ s ∈ name, s.narrow = s.wide) :
    Atom.matchSingleWide c name =
      ((sideBySide (occurrences [c] name)).argmax Slot.bonus).map Slot.hit := by
  have hdrop : (name.dropWhile fun s => s.wide != c).filter (fun s => s.narrow == c) =
      occurrences [c] name := by
    rw [occurrences_singleton]
    refine Eq.trans (List.filter_congr fun s hs => ?_)
      (filter_dropWhile_not (fun s : Slot => s.wide == c) name)
    rw [hforms s ((List.dropWhile_sublist _).subset hs)]
  rw [Atom.matchSingleWide.eq_def]
  split
  · rename_i hnil
    rw [← hdrop, hnil]
    rfl
  · rename_i s rest hrun
    have hs : s.narrow = c := by
      have hstop := List.head?_dropWhile_not (fun s : Slot => s.wide != c) name
      rw [hrun] at hstop
      rw [hforms s ((List.dropWhile_sublist _).subset (hrun ▸ List.mem_cons_self))]
      simpa using hstop
    rw [hrun, List.filter_cons_of_pos (by simp [hs])] at hdrop
    rw [← hdrop, List.filter_cons_of_pos (by simp [hs]), sideBySide, ← foldl_best]
    -- The first place is better than none, so both sides go on from its hit.
    have hfirst : 0 < charScore + 2 * s.before.bonus s.here := Nat.add_pos_left (by decide) _
    simp only [List.foldl_cons, hfirst, if_true, foldl_closeUp]
    exact (List.foldl_hom some fun b t => (apply_ite some _ _ _).symm).symm

end Single

section Window

/-- The slots from the first place of the first character of a needle to the last place of the last
one. -/
def window (needle : List Char) (name : List Slot) : List Slot :=
  (name.dropWhile fun s => some s.wide != needle.head?).rdropWhile fun s =>
    some s.wide != needle.getLast?

theorem cutAfterLast_append {c : Char} {start rest : List Slot}
    (h : (∃ s ∈ rest, s.wide = c) ∨ ∃ s ∈ start.getLast?, s.wide = c) :
    cutAfterLast c (start ++ rest) = start ++ cutAfterLast c rest := by
  rw [cutAfterLast, cutAfterLast, List.reverse_append, List.dropWhile_append]
  split
  · rename_i hempty
    have hnone : rest.reverse.dropWhile (fun s => s.wide != c) = [] := List.isEmpty_iff.mp hempty
    obtain ⟨s, hs, hc⟩ | ⟨s, hs, hc⟩ := h
    · have hne := List.dropWhile_eq_nil_iff.mp hnone s (List.mem_reverse.mpr hs)
      simp [hc] at hne
    · rw [hnone, List.reverse_nil, List.append_nil]
      obtain ⟨init, rfl⟩ := List.getLast?_eq_some_iff.mp hs
      rw [List.reverse_concat, List.dropWhile_cons_of_neg (by simp [hc]), List.reverse_cons,
        List.reverse_reverse]
  · rw [List.reverse_append, List.reverse_reverse]

/-- The shortest start that holds a needle ends with the needle's last character. -/
theorem Shortest.exists_last {needle : List Char} {run taken rest : List Slot} {last : Char}
    (h : Shortest needle run taken rest) (hlast : needle.getLast? = some last) :
    ∃ s ∈ taken.getLast?, s.wide = last := by
  obtain ⟨-, hfits, hshort⟩ := h
  obtain ⟨init, rfl⟩ := List.getLast?_eq_some_iff.mp hlast
  obtain rfl | ⟨front, s, rfl⟩ := taken.eq_nil_or_concat'
  · simp at hfits
  · refine ⟨s, List.getLast?_concat, ?_⟩
    rw [List.map_append, List.map_singleton] at hfits hshort
    rw [List.dropLast_concat] at hshort
    obtain ⟨init', heq, -⟩ := (sublist_concat hfits).resolve_left (hshort (by simp))
    exact (List.singleton_injective (List.append_inj' heq rfl).2).symm

theorem sublist_dropWhile {c : Char} {cs : List Char} {name : List Slot}
    (h : (c :: cs).Sublist (name.map (·.wide))) :
    (c :: cs).Sublist ((name.dropWhile fun s => some s.wide != some c).map (·.wide)) := by
  induction name with
  | nil => exact h
  | cons s name ih =>
    by_cases hc : s.wide = c
    · rwa [List.dropWhile_cons_of_neg (by simp [hc])]
    · rw [List.dropWhile_cons_of_pos (by simp [hc])]
      obtain h | ⟨heq, -⟩ := List.cons_sublist_cons'.mp h
      · exact ih h
      · exact absurd heq.symm hc

theorem window_eq {needle : List Char} {last : Char} (hlast : needle.getLast? = some last)
    (name : List Slot) : window needle name =
      cutAfterLast last (name.dropWhile fun s => some s.wide != needle.head?) := by
  rw [window, hlast]
  rfl

/-- The window begins with the shortest start that holds the needle. -/
theorem exists_window {needle : List Char} {last : Char} {name : List Slot}
    (hlast : needle.getLast? = some last) (h : needle.Sublist (name.map (·.wide))) :
    ∃ start rest,
      shortestStart needle (name.dropWhile fun s => some s.wide != needle.head?) =
        some (start, rest) ∧
      needle.Sublist (start.map (·.wide)) ∧
      window needle name = start ++ cutAfterLast last rest := by
  have hrun : needle.Sublist
      ((name.dropWhile fun s => some s.wide != needle.head?).map (·.wide)) := by
    cases needle with
    | nil => cases hlast
    | cons c cs => exact sublist_dropWhile h
  obtain ⟨⟨start, rest⟩, hstart⟩ :=
    Option.isSome_iff_exists.mp ((isSome_shortestStart _ _).mpr hrun)
  have hshort := shortest_shortestStart hstart
  refine ⟨start, rest, hstart, hshort.fits, ?_⟩
  rw [window_eq hlast, hshort.split]
  exact cutAfterLast_append (.inr (hshort.exists_last hlast))

theorem sublist_window {needle : List Char} {last : Char} {name : List Slot}
    (hlast : needle.getLast? = some last) (h : needle.Sublist (name.map (·.wide))) :
    needle.Sublist ((window needle name).map (·.wide)) := by
  obtain ⟨start, rest, -, hfits, hwindow⟩ := exists_window hlast h
  rw [hwindow, List.map_append]
  exact hfits.trans (List.sublist_append_left _ _)

theorem window_sublist (needle : List Char) (name : List Slot) :
    (window needle name).Sublist name :=
  (List.rdropWhile_prefix _ _).sublist.trans (List.dropWhile_sublist _)

/-- A needle of several characters ends behind the first slot of its window. -/
theorem exists_window_cons {needle : List Char} {last : Char} {name : List Slot}
    (hlast : needle.getLast? = some last) (hmany : 2 ≤ needle.length)
    (h : needle.Sublist (name.map (·.wide))) :
    ∃ s rest, (name.dropWhile fun s => some s.wide != needle.head?) = s :: rest ∧
      window needle name = s :: cutAfterLast last rest := by
  obtain ⟨c, d, cs, rfl⟩ : ∃ c d cs, needle = c :: d :: cs :=
    match needle, hmany with
    | c :: d :: cs, _ => ⟨c, d, cs, rfl⟩
  have hrun := sublist_dropWhile h
  rw [window_eq hlast, List.head?_cons]
  cases hdrop : name.dropWhile fun s => some s.wide != some c with
  | nil =>
    rw [hdrop] at hrun
    cases hrun
  | cons s rest =>
    rw [hdrop] at hrun
    have htail : (d :: cs).Sublist (rest.map (·.wide)) := hrun.tail
    have hmem : last ∈ rest.map (·.wide) :=
      htail.subset (List.mem_of_getLast? (by rwa [List.getLast?_cons_cons] at hlast))
    obtain ⟨t, ht, rfl⟩ := List.mem_map.mp hmem
    refine ⟨s, rest, rfl, ?_⟩
    change cutAfterLast t.wide ([s] ++ rest) = [s] ++ cutAfterLast t.wide rest
    exact cutAfterLast_append (.inl ⟨t, ht, rfl⟩)

/-- The hit of a needle in its window: the window is the needle, or the needle is placed in it. -/
def inWindow (asciiName : Bool) (needle : List Char) (window : List Slot) : Option Hit :=
  if window.length = needle.length then scoreRun needle window
  else placement asciiName needle window

theorem isSome_inWindow {asciiName : Bool} {needle : List Char} {window : List Slot}
    (hne : needle ≠ []) (hforms : ∀ s ∈ window, s.narrow = s.wide)
    (h : needle.Sublist (window.map (·.wide))) : (inWindow asciiName needle window).isSome := by
  rw [inWindow]
  split
  · rw [isSome_scoreRun]
    rintro rfl
    exact hne (List.sublist_nil.mp h)
  · exact isSome_placement hne hforms h

namespace Atom

theorem matchManyAscii_eq {needle : List Char} {last : Char} {name : List Slot}
    (hlast : needle.getLast? = some last) (h : needle.Sublist (name.map (·.wide))) :
    matchManyAscii needle last name = inWindow true needle (window needle name) := by
  obtain ⟨start, rest, hstart, -, hwindow⟩ := exists_window hlast h
  simp only [matchManyAscii, hstart, hwindow]
  rfl

theorem matchManyWide_eq {a : Atom} {last : Char} {name : List Slot}
    (htarget : a.target = a.needle) (hlast : a.needle.getLast? = some last)
    (hmany : 2 ≤ a.needle.length) (h : a.needle.Sublist (name.map (·.wide))) :
    a.matchManyWide last name = inWindow false a.needle (window a.needle name) := by
  have hfits := sublist_window hlast h
  obtain ⟨s, rest, hrun, hwindow⟩ := exists_window_cons hlast hmany h
  have hle := hfits.length_le.trans_eq (List.length_map _)
  simp only [matchManyWide, hrun]
  rw [← hwindow, if_neg (Nat.not_lt.mpr hle), inWindow]
  split
  · rename_i hlen
    exact exactRun_eq htarget hfits hlen
  · rfl

end Atom

end Window

namespace Atom

variable {a : Atom} {name : List Slot}

/-- The places that a single character is chosen from. In a name outside ASCII their bonuses count
as if they stood side by side. -/
def places (asciiName : Bool) (needle : List Char) (name : List Slot) : List Slot :=
  if asciiName then occurrences needle name else sideBySide (occurrences needle name)

theorem places_eq_nil_iff {asciiName : Bool} {needle : List Char} :
    places asciiName needle name = [] ↔ occurrences needle name = [] := by
  rw [places]
  split
  · rfl
  · cases occurrences needle name <;> simp [sideBySide]

/-- The hit of an atom that occurs in a name. -/
def placed (asciiName : Bool) (a : Atom) (name : List Slot) : Option Hit :=
  if name.length = a.needle.length then exactRun a name
  else if a.needle.length = 1 then
    ((places asciiName a.needle name).argmax Slot.bonus).map Slot.hit
  else inWindow asciiName a.needle (window a.needle name)

theorem matchAscii_of_wide (h : a.wide = true) : a.matchAscii name = none := by
  rw [matchAscii, h]
  rfl

theorem matchAscii_eq (hne : a.needle ≠ []) (hwide : a.wide = false)
    (h : a.needle.Sublist (name.map (·.wide))) : a.matchAscii name = a.placed true name := by
  have hle := h.length_le.trans_eq (List.length_map _)
  rw [matchAscii, placed, if_neg (by simpa [hwide] using hle)]
  split
  · rfl
  · obtain ⟨needle, plain, wide⟩ := a
    cases needle with
    | nil => exact absurd rfl hne
    | cons c cs =>
      cases cs with
      | nil => exact matchSingleAscii_eq c name
      | cons d cs => exact matchManyAscii_eq (List.getLast?_eq_some_getLast hne) h

theorem matchWide_eq (htarget : a.target = a.needle) (hne : a.needle ≠ [])
    (hforms : ∀ s ∈ name, s.narrow = s.wide) (h : a.needle.Sublist (name.map (·.wide))) :
    a.matchWide name = a.placed false name := by
  have hle := h.length_le.trans_eq (List.length_map _)
  rw [matchWide, placed, if_neg (Nat.not_lt.mpr hle)]
  split
  · rfl
  · obtain ⟨needle, plain, wide⟩ := a
    cases needle with
    | nil => exact absurd rfl hne
    | cons c cs =>
      cases cs with
      | nil => exact matchSingleWide_eq hforms
      | cons d cs =>
        exact matchManyWide_eq htarget (List.getLast?_eq_some_getLast hne) (by simp) h

theorem isSome_placed {asciiName : Bool} (htarget : a.target = a.needle) (hne : a.needle ≠ [])
    (hforms : ∀ s ∈ name, s.narrow = s.wide) (h : a.needle.Sublist (name.map (·.wide))) :
    (a.placed asciiName name).isSome := by
  rw [placed]
  split
  · rename_i hlen
    rw [exactRun_eq htarget h hlen, isSome_scoreRun]
    rintro rfl
    exact hne (List.sublist_nil.mp h)
  · split
    · rename_i hone
      obtain ⟨c, hc⟩ := List.length_eq_one_iff.mp hone
      rw [hc, List.singleton_sublist] at h
      obtain ⟨s, hs, rfl⟩ := List.mem_map.mp h
      have hmem : s ∈ occurrences a.needle name := by simp [occurrences, hs, hc]
      rw [Option.isSome_map, ← Option.ne_none_iff_isSome, Ne, List.argmax_eq_none,
        places_eq_nil_iff]
      exact List.ne_nil_of_mem hmem
    · exact isSome_inWindow hne (fun s hs => hforms s ((window_sublist _ _).subset hs))
        (sublist_window (List.getLast?_eq_some_getLast hne) h)

theorem isSome_matchAscii_iff (htarget : a.target = a.needle) (hne : a.needle ≠ [])
    (hforms : ∀ s ∈ name, s.narrow = s.wide) :
    (a.matchAscii name).isSome ↔ a.wide = false ∧ a.needle.Sublist (name.map (·.wide)) := by
  constructor
  · intro h
    obtain ⟨hit, hhit⟩ := Option.isSome_iff_exists.mp h
    refine ⟨Bool.eq_false_iff.mpr fun hwide => ?_, (found_matchAscii htarget hhit).sublist hforms⟩
    rw [matchAscii_of_wide hwide] at h
    cases h
  · rintro ⟨hwide, h⟩
    rw [matchAscii_eq hne hwide h]
    exact isSome_placed htarget hne hforms h

theorem isSome_matchWide_iff (htarget : a.target = a.needle) (hne : a.needle ≠ [])
    (hforms : ∀ s ∈ name, s.narrow = s.wide) :
    (a.matchWide name).isSome ↔ a.needle.Sublist (name.map (·.wide)) := by
  constructor
  · intro h
    obtain ⟨hit, hhit⟩ := Option.isSome_iff_exists.mp h
    exact (found_matchWide htarget hhit).sublist hforms
  · intro h
    rw [matchWide_eq htarget hne hforms h]
    exact isSome_placed htarget hne hforms h

end Atom

end DocPages.Fuzzy
