import DocPages.Fuzzy.Match
import Mathlib.Data.List.ReduceOption

/-! Where an atom is found. Whatever way is taken, by one scan, by two scans or by rows, a hit lies
at some slots of the name, in their order. Slots have one form for the search and one for the score;
where these agree, the slots of a hit spell the needle. -/

namespace DocPages.Fuzzy

/-- A hit at some slots of a run, in their order. They spell the needle if the run has the same form
for the search and for the score. -/
def Found (needle : List Char) (run : List Slot) (hit : Hit) : Prop :=
  ∃ taken : List Slot, taken.Sublist run ∧ taken ≠ [] ∧ hit.positions = taken.map (·.pos) ∧
    ((∀ s ∈ run, s.narrow = s.wide) → taken.map (·.wide) = needle)

theorem Found.mono {needle : List Char} {run run' : List Slot} {hit : Hit}
    (h : Found needle run hit) (hsub : run.Sublist run') : Found needle run' hit := by
  obtain ⟨taken, htaken, hne, hpos, hspell⟩ := h
  exact ⟨taken, htaken.trans hsub, hne, hpos, fun hforms =>
    hspell fun s hs => hforms s (hsub.subset hs)⟩

/-- The needle fits into the text, but no longer if the text loses its first or its last
character. -/
structure Tight (needle cs : List Char) : Prop where
  fits : needle.Sublist cs
  first : ¬ needle.Sublist cs.tail
  last : ¬ needle.Sublist cs.dropLast

theorem tight_self {needle : List Char} (hne : needle ≠ []) : Tight needle needle := by
  have hpos := List.length_pos_iff.mpr hne
  refine ⟨.refl _, fun h => ?_, fun h => ?_⟩
  · have hle := h.length_le
    rw [List.length_tail] at hle
    omega
  · have hle := h.length_le
    rw [List.length_dropLast] at hle
    omega

section Run

/-- The slots that a scan takes when it goes for the wanted characters one after the other. -/
def picks (wanted : List Char) : List Slot → List Slot
  | [] => []
  | s :: rest =>
    if wanted.head? == some s.narrow then s :: picks (Tally.advance wanted) rest
    else picks wanted rest

theorem picks_sublist (wanted : List Char) (run : List Slot) : (picks wanted run).Sublist run := by
  induction run generalizing wanted with
  | nil => exact .slnil
  | cons s run ih =>
    rw [picks]
    split
    · exact (ih _).cons_cons s
    · exact (ih _).cons s

theorem positions_foldl (t : Tally) (run : List Slot) :
    (run.foldl Tally.step t).positions =
      ((picks t.wanted run).map (·.pos)).reverse ++ t.positions := by
  induction run generalizing t with
  | nil => rfl
  | cons s run ih =>
    rw [List.foldl_cons, ih, picks, Tally.step]
    split
    · simp
    · rfl

/-- A scan for characters that end with the run takes one slot for each of them. -/
theorem map_narrow_picks {wanted : List Char} {run : List Slot}
    (hfits : wanted.Sublist (run.map (·.narrow)))
    (hlast : ¬ wanted.Sublist (run.map (·.narrow)).dropLast) :
    (picks wanted run).map (·.narrow) = wanted := by
  induction run generalizing wanted with
  | nil => exact (List.sublist_nil.mp hfits).symm
  | cons s run ih =>
    cases wanted with
    | nil => exact absurd (List.nil_sublist _) hlast
    | cons c wanted =>
      rw [List.map_cons] at hfits hlast
      by_cases hc : c = s.narrow
      · subst hc
        have hrest := List.cons_sublist_cons.mp hfits
        rw [picks, if_pos (by simp), List.map_cons]
        refine congrArg _ ?_
        cases wanted with
        | nil =>
          -- The last wanted character stays, so there must be no slot behind it.
          cases run with
          | nil => rfl
          | cons t run => exact absurd (.cons_cons _ (List.nil_sublist _)) hlast
        | cons d wanted =>
          refine ih hrest fun hshort => hlast ?_
          rw [List.dropLast_cons_of_ne_nil (by rintro hnil; simp [hnil] at hrest)]
          exact hshort.cons_cons _
      · have hrest : (c :: wanted).Sublist (run.map (·.narrow)) := by
          cases hfits with
          | cons _ h => exact h
          | cons_cons _ h => exact absurd rfl hc
        rw [picks, if_neg (by simpa using hc)]
        refine ih hrest fun hshort => hlast ?_
        rw [List.dropLast_cons_of_ne_nil (by rintro hnil; simp [hnil] at hrest)]
        exact hshort.cons _

theorem found_scoreRun {needle : List Char} {run : List Slot} {hit : Hit}
    (h : scoreRun needle run = some hit)
    (htight : (∀ s ∈ run, s.narrow = s.wide) → Tight needle (run.map (·.wide))) :
    Found needle run hit := by
  cases run with
  | nil => cases h
  | cons s run =>
    refine ⟨s :: picks (Tally.advance needle) run, (picks_sublist _ _).cons_cons s,
      List.cons_ne_nil _ _, ?_, fun hforms => ?_⟩
    · rw [scoreRun] at h
      rw [← Option.some.inj h]
      simp [positions_foldl, Tally.start]
    · obtain ⟨hfits, hfirst, hlast⟩ := htight hforms
      -- The first slot counts as matched without a look at it. It is, in a tight run.
      have hhead : needle.head? = some s.narrow := by
        rw [hforms s List.mem_cons_self]
        cases hfits with
        | cons _ h => exact absurd h hfirst
        | cons_cons _ h => rfl
      have htaken : s :: picks (Tally.advance needle) run = picks needle (s :: run) := by
        rw [picks, if_pos (by simp [hhead])]
      have hsub := picks_sublist needle (s :: run)
      rw [← List.map_congr_left hforms] at hfits hlast
      rw [htaken, ← List.map_congr_left fun t ht => hforms t (hsub.subset ht)]
      exact map_narrow_picks hfits hlast

theorem found_scoreRun_self {needle : List Char} {run : List Slot} {hit : Hit}
    (h : scoreRun needle run = some hit) (heq : run.map (·.wide) = needle) :
    Found needle run hit := by
  refine found_scoreRun h fun _ => ?_
  rw [heq]
  refine tight_self fun hnil => ?_
  rw [hnil, List.map_eq_nil_iff] at heq
  rw [heq] at h
  cases h

theorem found_exactRun {a : Atom} {run : List Slot} {hit : Hit} (htarget : a.target = a.needle)
    (h : exactRun a run = some hit) : Found a.needle run hit := by
  rw [exactRun, htarget] at h
  split at h
  · exact found_scoreRun_self h ‹_›
  · cases h

end Run

section Scans

/-- A start that holds the needle, and no shorter one does. -/
structure Shortest (needle : List Char) (run taken rest : List Slot) : Prop where
  split : run = taken ++ rest
  fits : needle.Sublist (taken.map (·.wide))
  last : needle ≠ [] → ¬ needle.Sublist (taken.map (·.wide)).dropLast

theorem shortest_shortestStart {needle : List Char} {run taken rest : List Slot}
    (h : shortestStart needle run = some (taken, rest)) : Shortest needle run taken rest := by
  fun_induction shortestStart needle run generalizing taken with
  | case1 run =>
    cases h
    exact ⟨rfl, .slnil, fun hne => absurd rfl hne⟩
  | case2 c cs => cases h
  | case3 c cs s run ih =>
    obtain ⟨⟨taken, rest⟩, hnext, heq⟩ := Option.map_eq_some_iff.mp h
    cases heq
    obtain ⟨rfl, hfits, hlast⟩ := ih hnext
    by_cases hc : s.wide = c
    · rw [if_pos hc] at hnext hfits hlast
      refine ⟨rfl, ?_, fun _ hshort => ?_⟩
      · rw [List.map_cons, hc]
        exact hfits.cons_cons c
      · rw [List.map_cons, hc] at hshort
        cases taken with
        | nil => cases hshort
        | cons t taken =>
          rw [List.dropLast_cons_of_ne_nil (by simp), List.cons_sublist_cons] at hshort
          refine hlast (fun hnil => ?_) hshort
          rw [hnil] at hnext
          simp [shortestStart] at hnext
    · rw [if_neg hc] at hnext hfits hlast
      refine ⟨rfl, hfits.cons _, fun hne hshort => ?_⟩
      cases taken with
      | nil => cases hfits
      | cons t taken =>
        rw [List.map_cons, List.dropLast_cons_of_ne_nil (by simp)] at hshort
        cases hshort with
        | cons _ hshort => exact hlast hne hshort
        | cons_cons _ _ => exact hc rfl

/-- Two scans, one from each end, leave a tight run. -/
theorem tight_of_shortest {needle : List Char} {run start rest tight rest' : List Slot}
    (hne : needle ≠ []) (h : Shortest needle run start rest)
    (h' : Shortest needle.reverse start.reverse tight rest') :
    Tight needle (tight.reverse.map (·.wide)) := by
  obtain ⟨-, -, hlast⟩ := h
  obtain ⟨hsplit, hfits, hfirst⟩ := h'
  have hstart : start = rest'.reverse ++ tight.reverse := by
    rw [← List.reverse_append, ← hsplit, List.reverse_reverse]
  have htight : tight.reverse.map (·.wide) ≠ [] := by
    intro hnil
    simp only [List.map_eq_nil_iff, List.reverse_eq_nil_iff] at hnil
    rw [hnil] at hfits
    exact hne (List.reverse_eq_nil_iff.mp (List.sublist_nil.mp hfits))
  refine ⟨?_, fun hshort => ?_, fun hshort => hlast hne ?_⟩
  · rw [List.map_reverse, ← List.reverse_sublist, List.reverse_reverse]
    exact hfits
  · rw [List.map_reverse, List.tail_reverse, ← List.reverse_sublist, List.reverse_reverse] at hshort
    exact hfirst (by simpa using hne) hshort
  · rw [hstart, List.map_append, List.dropLast_append_of_ne_nil htight]
    exact hshort.trans (List.sublist_append_right _ _)

theorem found_quickPlacement {needle : List Char} {run : List Slot} {hit : Hit}
    (h : quickPlacement needle run = some hit) : Found needle run hit := by
  obtain ⟨⟨start, rest⟩, hstart, h⟩ := Option.bind_eq_some_iff.mp h
  obtain ⟨⟨tight, rest'⟩, htight, h⟩ := Option.bind_eq_some_iff.mp h
  have hfirst := shortest_shortestStart hstart
  have hsecond := shortest_shortestStart htight
  have hne : needle ≠ [] := by
    rintro rfl
    rw [List.reverse_nil, shortestStart] at htight
    cases htight
    cases h
  have hsub : tight.reverse.Sublist run := by
    rw [hfirst.split, ← List.reverse_reverse start, hsecond.split, List.reverse_append]
    exact (List.sublist_append_right _ _).trans (List.sublist_append_left _ _)
  exact (found_scoreRun h fun _ => tight_of_shortest hne hfirst hsecond).mono hsub

end Scans

section Rows

/-- A path, last place first, that spells the characters in some slots of a run. -/
def Places (cs : List Char) (run : List Slot) (path : List Nat) : Prop :=
  ∃ taken : List Slot, taken.Sublist run ∧ taken.map (·.narrow) = cs ∧
    path.reverse = taken.map (·.pos)

theorem Places.mono {cs : List Char} {run run' : List Slot} {path : List Nat}
    (h : Places cs run path) (hsub : run.Sublist run') : Places cs run' path := by
  obtain ⟨taken, htaken, hcs, hpath⟩ := h
  exact ⟨taken, htaken.trans hsub, hcs, hpath⟩

theorem Places.snoc {cs : List Char} {run : List Slot} {path : List Nat} {s : Slot} {c : Char}
    (h : Places cs run path) (hc : s.narrow = c) :
    Places (cs ++ [c]) (run ++ [s]) (s.pos :: path) := by
  obtain ⟨taken, htaken, hcs, hpath⟩ := h
  refine ⟨taken ++ [s], htaken.append (.refl _), ?_, ?_⟩
  · rw [List.map_append, hcs, ← hc]
    rfl
  · rw [List.reverse_cons, hpath, List.map_append]
    rfl

/-- Every cell of a row holds a path that spells the characters and ends in its slot at the
latest; `before` are the slots in front of the row. -/
def RowPlaces (cs : List Char) : List Slot → List Slot → List (Option Cell) → Prop
  | _, _, [] => True
  | _, [], _ :: _ => False
  | before, s :: window, cell :: row =>
    (∀ m ∈ cell, Places cs (before ++ [s]) m.path) ∧ RowPlaces cs (before ++ [s]) window row

theorem rowPlaces_firstRow (c : Char) (before window : List Slot) :
    RowPlaces [c] before window (firstRow c window) := by
  induction window generalizing before with
  | nil => trivial
  | cons s window ih =>
    refine ⟨fun m hm => ?_, ih _⟩
    rw [Cell.first] at hm
    split at hm
    · rename_i hc
      cases hm
      exact ⟨[s], List.sublist_append_right _ _, by simp [hc], rfl⟩
    · cases hm

theorem places_extend {cs : List Char} {before : List Slot} {m : Option Cell} {p : Option Carry}
    (hm : ∀ cell ∈ m, Places cs before cell.path) (hp : ∀ carry ∈ p, Places cs before carry.path)
    {s : Slot} {c : Char} (hc : s.narrow = c) {cell : Cell} (h : Cell.extend m p s = some cell) :
    Places (cs ++ [c]) (before ++ [s]) cell.path := by
  rw [Cell.extend.eq_def] at h
  split at h
  · cases h
  · cases h
    exact (hp _ rfl).snoc hc
  · cases h
    exact (hm _ rfl).snoc hc
  · split at h
    · cases h
      exact (hm _ rfl).snoc hc
    · cases h
      exact (hp _ rfl).snoc hc

theorem places_next {cs : List Char} {before : List Slot} {m : Option Cell} {p : Option Carry}
    (hm : ∀ cell ∈ m, Places cs before cell.path) (hp : ∀ carry ∈ p, Places cs before carry.path)
    {carry : Carry} (h : Carry.next m p = some carry) : Places cs before carry.path := by
  cases m with
  | none =>
    cases p with
    | none => cases h
    | some p =>
      cases h
      exact hp p rfl
  | some m =>
    cases p with
    | none =>
      cases h
      exact hm m rfl
    | some p =>
      rw [Carry.next] at h
      split at h
      · cases h
        exact hm m rfl
      · cases h
        exact hp p rfl

theorem rowPlaces_nextRow {cs : List Char} {c : Char} {before window : List Slot}
    {m : Option Cell} {p : Option Carry} {row : List (Option Cell)}
    (hm : ∀ cell ∈ m, Places cs before cell.path) (hp : ∀ carry ∈ p, Places cs before carry.path)
    (hrow : RowPlaces cs before window row) :
    RowPlaces (cs ++ [c]) before window (nextRow c m p window row) := by
  fun_induction nextRow c m p window row generalizing before with
  | case1 m p s window above row ih =>
    -- The cell above belongs to this slot, so it is handed on to the next one only.
    obtain ⟨habove, hrow⟩ := hrow
    refine ⟨fun cell hcell => ?_, ih habove (fun carry hcarry => ?_) hrow⟩
    · split at hcell
      · rename_i hc
        exact places_extend hm hp hc hcell
      · cases hcell
    · exact (places_next hm hp hcarry).mono (List.sublist_append_left _ _)
  | case2 => simp only [RowPlaces]

theorem rowPlaces_lastRow {cs : List Char} {window : List Slot} {row : List (Option Cell)}
    (hrow : RowPlaces cs [] window row) (ds : List Char) :
    RowPlaces (cs ++ ds) [] window (lastRow window row ds) := by
  induction ds generalizing cs row with
  | nil => rwa [List.append_nil]
  | cons d ds ih =>
    rw [List.append_cons]
    exact ih (rowPlaces_nextRow nofun nofun hrow)

theorem RowPlaces.places {cs : List Char} {before window : List Slot} {row : List (Option Cell)}
    (h : RowPlaces cs before window row) {cell : Cell} (hcell : some cell ∈ row) :
    Places cs (before ++ window) cell.path := by
  induction row generalizing before window with
  | nil => cases hcell
  | cons m row ih =>
    cases window with
    | nil => exact h.elim
    | cons s window =>
      rw [List.append_cons]
      obtain ⟨hhead, htail⟩ := h
      cases hcell with
      | head => exact (hhead cell rfl).mono (List.sublist_append_left _ _)
      | tail _ hcell => exact ih htail hcell

theorem mem_of_mem_bestCell (row : List (Option Cell)) :
    ∀ cell ∈ bestCell row, some cell ∈ row := by
  rw [bestCell]
  refine List.foldlRecOn (motive := fun best => ∀ cell ∈ best, some cell ∈ row) _ _ (by simp) ?_
  intro best hbest m hm cell hcell
  have hm := List.reduceOption_mem_iff.mp hm
  split at hcell
  · cases hcell
    exact hm
  · split at hcell
    · cases hcell
      exact hm
    · exact hbest cell hcell

theorem found_bestPlacement {needle : List Char} {window : List Slot} {hit : Hit}
    (h : bestPlacement needle window = some hit) : Found needle window hit := by
  cases needle with
  | nil => cases h
  | cons c cs =>
    obtain ⟨cell, hcell, rfl⟩ := Option.map_eq_some_iff.mp h
    have hrow := rowPlaces_lastRow (rowPlaces_firstRow c [] window) cs
    obtain ⟨taken, hsub, hcs, hpath⟩ := hrow.places (mem_of_mem_bestCell _ cell hcell)
    refine ⟨taken, hsub, ?_, hpath, fun hforms => ?_⟩
    · rintro rfl
      cases hcs
    · rw [← List.map_congr_left fun s hs => hforms s (hsub.subset hs)]
      exact hcs

end Rows

theorem found_placement {asciiName : Bool} {needle : List Char} {window : List Slot} {hit : Hit}
    (h : placement asciiName needle window = some hit) : Found needle window hit := by
  rw [placement] at h
  split at h
  · exact found_bestPlacement h
  · exact found_quickPlacement h

theorem cutAfterLast_sublist (c : Char) (run : List Slot) : (cutAfterLast c run).Sublist run := by
  rw [cutAfterLast, ← List.reverse_sublist, List.reverse_reverse]
  exact List.dropWhile_sublist _

namespace Atom

section Single

variable {c : Char} {name : List Slot} {hit : Hit}

/-- A hit in one slot of a name. -/
def HitAt (c : Char) (name : List Slot) (hit : Hit) : Prop :=
  ∃ s ∈ name, hit.positions = [s.pos] ∧ (s.narrow = s.wide → s.wide = c)

theorem HitAt.found (h : HitAt c name hit) : Found [c] name hit := by
  obtain ⟨s, hs, hpos, hc⟩ := h
  refine ⟨[s], List.singleton_sublist.mpr hs, List.cons_ne_nil _ _, hpos, fun hforms => ?_⟩
  rw [List.map_singleton, hc (hforms s hs)]

theorem hitAt_of_mem_matchSingleAscii (c : Char) (name : List Slot) :
    ∀ hit ∈ matchSingleAscii c name, HitAt c name hit := by
  rw [matchSingleAscii]
  refine List.foldlRecOn (motive := fun best => ∀ hit ∈ best, HitAt c name hit) _ _ (by simp) ?_
  intro best hbest s hs hit hhit
  obtain ⟨hs, hc⟩ := List.mem_filter.mp hs
  have hat (score : Nat) : HitAt c name ⟨score, [s.pos]⟩ :=
    ⟨s, hs, rfl, fun _ => eq_of_beq hc⟩
  split at hhit
  · cases hhit
    exact hat _
  · split at hhit
    · cases hhit
      exact hat _
    · exact hbest hit hhit

theorem hitAt_matchSingleWide (h : matchSingleWide c name = some hit) : HitAt c name hit := by
  rw [matchSingleWide.eq_def] at h
  split at h
  · cases h
  · rename_i s rest hrun
    have hsub : (s :: rest).Sublist name := hrun ▸ List.dropWhile_sublist _
    have hs : s.wide = c := by
      have hstop := List.head?_dropWhile_not (fun s : Slot => s.wide != c) name
      rw [hrun] at hstop
      simpa using hstop
    cases h
    refine List.foldlRecOn (motive := fun best : Hit × CharClass => HitAt c name best.1) _ _
      ⟨s, hsub.subset List.mem_cons_self, rfl, fun _ => hs⟩ ?_
    intro best hbest t ht
    obtain ⟨ht, hc⟩ := List.mem_filter.mp ht
    dsimp only
    split
    · exact ⟨t, hsub.subset ht, rfl, fun hforms => hforms ▸ eq_of_beq hc⟩
    · exact hbest

end Single

theorem found_matchManyAscii {needle : List Char} {last : Char} {name : List Slot} {hit : Hit}
    (h : matchManyAscii needle last name = some hit) : Found needle name hit := by
  obtain ⟨⟨start, rest⟩, hstart, h⟩ := Option.bind_eq_some_iff.mp h
  obtain ⟨hsplit, hfits, -⟩ := shortest_shortestStart hstart
  have hsub : (start ++ cutAfterLast last rest).Sublist name := by
    have hrun := hsplit ▸ List.dropWhile_sublist (l := name) _
    exact ((cutAfterLast_sublist last rest).append_left start).trans hrun
  refine Found.mono ?_ hsub
  dsimp only at h
  split at h
  · rename_i hlen
    -- A window that holds the needle and is no longer than it is the needle.
    have hwindow : needle.Sublist ((start ++ cutAfterLast last rest).map (·.wide)) := by
      rw [List.map_append]
      exact hfits.trans (List.sublist_append_left _ _)
    exact found_scoreRun_self h (hwindow.eq_of_length (by rw [List.length_map, hlen])).symm
  · exact found_placement h

theorem found_matchManyWide {a : Atom} {last : Char} {name : List Slot} {hit : Hit}
    (htarget : a.target = a.needle) (h : a.matchManyWide last name = some hit) :
    Found a.needle name hit := by
  rw [matchManyWide.eq_def] at h
  split at h
  · cases h
  · rename_i s rest hrun
    have hsub : (s :: cutAfterLast last rest).Sublist name :=
      ((cutAfterLast_sublist last rest).cons_cons s).trans (hrun ▸ List.dropWhile_sublist _)
    refine Found.mono ?_ hsub
    dsimp only at h
    split at h
    · cases h
    · split at h
      · exact found_exactRun htarget h
      · exact found_placement h

theorem found_matchAscii {a : Atom} {name : List Slot} {hit : Hit}
    (htarget : a.target = a.needle) (h : a.matchAscii name = some hit) :
    Found a.needle name hit := by
  rw [matchAscii] at h
  split at h
  · cases h
  · split at h
    · exact found_exactRun htarget h
    · split at h
      · rename_i c hneedle
        rw [hneedle]
        exact (hitAt_of_mem_matchSingleAscii c name hit h).found
      · exact found_matchManyAscii h
      · cases h

theorem found_matchWide {a : Atom} {name : List Slot} {hit : Hit}
    (htarget : a.target = a.needle) (h : a.matchWide name = some hit) :
    Found a.needle name hit := by
  rw [matchWide] at h
  split at h
  · cases h
  · split at h
    · exact found_exactRun htarget h
    · split at h
      · rename_i c hneedle
        rw [hneedle]
        exact (hitAt_matchSingleWide h).found
      · exact found_matchManyWide htarget h
      · cases h

theorem found_hit? {a : Atom} {name : String} {hit : Hit} (htarget : a.target = a.needle)
    (h : a.hit? name = some hit) : Found a.needle (slots a.plain name.toList) hit := by
  rw [hit?] at h
  split at h
  · exact found_matchAscii htarget h
  · exact found_matchWide htarget h

end Atom

end DocPages.Fuzzy
