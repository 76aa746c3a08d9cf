import DocPages.Proofs.Fuzzy.Complete
import DocPages.Proofs.Fuzzy.Positions

/-! Names within ASCII have a way of their own. It is compared with the way that reads any name
character by character. Both match the same names, as long as the query is within ASCII too. They
weigh a match alike if the choice between places is the same: for a single character the two count
the bonus of a place in different ways, and for several characters they differ in how large a window
may be before they stop looking for the best placement. -/

namespace DocPages

/-- Two scorers give an entry the same score and its name the same positions. -/
def Scorer.Agree (s t : Scorer) (e : Entry) : Prop :=
  s.score e = t.score e ∧ s.positions e.name = t.positions e.name

namespace Fuzzy

section Words

theorem all_flatten_splitWords (prev : Option Char) (cs : List Char) :
    (splitWords prev cs).flatten.all isAscii = cs.all isAscii := by
  induction cs generalizing prev with
  | nil => rfl
  | cons c cs ih =>
    rw [splitWords, List.all_cons, ← ih (some c)]
    split
    · rename_i hparts
      obtain rfl : c = ' ' := by simp_all
      rfl
    · -- The first piece of the rest goes on with this character.
      cases splitWords (some c) cs with
      | nil => rfl
      | cons piece rest => simp

theorem Atom.wide_ofPiece (piece : List Char) :
    (Atom.ofPiece piece).wide = !piece.all isAscii := by
  rw [ofPiece]
  split
  · rename_i hascii
    rw [hascii]
    rfl
  · rename_i hascii
    rw [Bool.eq_false_iff.mpr hascii]
    rfl

/-- A character outside ASCII leaves something to look for, also if it is a combining mark: the
first character of a piece is kept. -/
theorem Atom.needle_ne_nil_of_wide {piece : List Char} (h : (Atom.ofPiece piece).wide = true) :
    (Atom.ofPiece piece).needle ≠ [] := by
  rw [wide_ofPiece, Bool.not_eq_true'] at h
  rw [ofPiece, h]
  cases piece with
  | nil => cases h
  | cons c cs => simp [clusterHeads, foldWide]

/-- No atom of a query was typed outside ASCII if and only if the query is within ASCII. -/
theorem wide_eq_false_iff (query : String) :
    (∀ a ∈ parseQuery query, a.wide = false) ↔ ∀ c ∈ query.toList, isAscii c = true := by
  rw [← List.all_eq_true, ← all_flatten_splitWords none, List.all_flatten, List.all_eq_true]
  constructor
  · intro h piece hpiece
    by_contra hascii
    have hwide : (Atom.ofPiece piece).wide = true := by
      rw [Atom.wide_ofPiece, Bool.eq_false_iff.mpr hascii]
      rfl
    have hmem : Atom.ofPiece piece ∈ parseQuery query :=
      List.mem_filter.mpr ⟨List.mem_map_of_mem hpiece, by
        simpa using Atom.needle_ne_nil_of_wide hwide⟩
    exact absurd hwide (Bool.eq_false_iff.mp (h _ hmem))
  · intro h a ha
    obtain ⟨piece, hpiece, rfl⟩ := List.mem_map.mp (List.mem_filter.mp ha).1
    rw [Atom.wide_ofPiece, h piece hpiece]
    rfl

theorem needle_ne_nil {query : String} {a : Atom} (ha : a ∈ parseQuery query) : a.needle ≠ [] := by
  simpa using (List.mem_filter.mp ha).2

end Words

section Weight

/-- Both ways choose the same place: for a single character, the same slot has the greatest bonus,
and the same bonus, whether it counts from the character in front or from the place before; for
several characters, the rows for their window fit either way or neither way. -/
def Atom.WeighsAlike (a : Atom) (name : List Slot) : Prop :=
  if a.needle.length = 1 then
    ((occurrences a.needle name).argmax Slot.bonus).map (fun s => (s.pos, s.bonus)) =
      ((sideBySide (occurrences a.needle name)).argmax Slot.bonus).map fun s => (s.pos, s.bonus)
  else
    rowsFit true (window a.needle name).length a.needle.length =
      rowsFit false (window a.needle name).length a.needle.length

instance (a : Atom) (name : List Slot) : Decidable (a.WeighsAlike name) :=
  inferInstanceAs (Decidable (ite _ _ _))

theorem inWindow_eq {needle : List Char} {window : List Slot}
    (h : rowsFit true window.length needle.length = rowsFit false window.length needle.length) :
    inWindow true needle window = inWindow false needle window := by
  rw [inWindow, inWindow, placement, placement, h]

theorem Atom.WeighsAlike.placed_eq {a : Atom} {name : List Slot} (h : a.WeighsAlike name) :
    a.placed true name = a.placed false name := by
  rw [WeighsAlike] at h
  rw [placed, placed]
  split
  · rfl
  · split
    · rename_i hone
      rw [if_pos hone] at h
      have hhit : Slot.hit = (fun (p : Nat × Nat) => (⟨charScore + 2 * p.2, [p.1]⟩ : Hit)) ∘
          fun s => (s.pos, s.bonus) := rfl
      rw [hhit, ← Option.map_map, ← Option.map_map]
      exact congrArg _ h
    · rename_i hone
      rw [if_neg hone] at h
      exact inWindow_eq h

/-- A window of no more than a few thousand slots leaves room for the rows either way. -/
theorem rowsFit_eq {width rows : Nat} (h : width ≤ 2361) :
    rowsFit true width rows = rowsFit false width rows := by
  have hcells : (width + 1 - rows) * rows ≤ width * rows := by
    cases rows with
    | zero => simp
    | succ rows => exact Nat.mul_le_mul_right _ (by omega)
  simp only [rowsFit]
  generalize (width + 1 - rows) * rows = cells at hcells ⊢
  rw [Bool.eq_iff_iff]
  simp only [Bool.and_eq_true, decide_eq_true_eq, if_true, Bool.false_eq_true, if_false]
  omega

theorem Atom.weighsAlike_of_length {a : Atom} {name : List Slot} (hmany : 2 ≤ a.needle.length)
    (h : name.length ≤ 2361) : a.WeighsAlike name := by
  rw [WeighsAlike, if_neg (by omega)]
  exact rowsFit_eq ((window_sublist _ _).length_le.trans h)

theorem argmax_cons_of_le {s : Slot} {run : List Slot} (h : ∀ t ∈ run, t.bonus ≤ s.bonus) :
    (s :: run).argmax Slot.bonus = some s := by
  rw [List.argmax_cons]
  cases hmax : run.argmax Slot.bonus with
  | none => rfl
  | some t => exact if_neg (Nat.not_lt.mpr (h t (List.argmax_mem hmax)))

theorem CharClass.bonus_le (x y : CharClass) : x.bonus y ≤ 10 := by
  cases x <;> cases y <;> decide

/-- A single character that occurs once, or first where nothing can be better. -/
theorem Atom.weighsAlike_of_first {a : Atom} {name : List Slot} (hone : a.needle.length = 1)
    (h : (occurrences a.needle name).length ≤ 1 ∨
      ∃ s ∈ (occurrences a.needle name).head?, s.bonus = 10) : a.WeighsAlike name := by
  rw [WeighsAlike, if_pos hone]
  match hplaces : occurrences a.needle name with
  | [] => rfl
  | [s] => rfl
  | s :: t :: rest =>
    obtain hlen | ⟨s', hs, hbonus⟩ := h
    · simp [hplaces] at hlen
    · obtain rfl : s = s' := by simpa [hplaces] using hs
      have hbest (t : Slot) : t.bonus ≤ s.bonus := hbonus ▸ CharClass.bonus_le _ _
      rw [sideBySide, argmax_cons_of_le fun t _ => hbest t, argmax_cons_of_le fun t _ => hbest t]

end Weight

section Scorers

/-- The match of an atom in a name that is read character by character, also if it is within
ASCII. -/
def Atom.charHit? (a : Atom) (name : String) : Option Hit := a.matchWide (slots a.plain name.toList)

/-- The scorer that looks for each atom by `hit?`. -/
def scorerBy (hit? : Atom → String → Option Hit) (query : String) : Scorer where
  isEmpty := (parseQuery query).isEmpty
  base? name := ((parseQuery query).mapM (hit? · name)).map totalScore
  positions name :=
    match (parseQuery query).mapM (hit? · name) with
    | none => []
    | some hits => dropRepeats (hits.flatMap (·.positions)).mergeSort

/-- The scorer that reads every name character by character. -/
def charScorer (query : String) : Scorer := scorerBy Atom.charHit? query

theorem hits?_eq_mapM (name : String) (atoms : List Atom) :
    hits? name atoms = atoms.mapM (·.hit? name) := by
  induction atoms with
  | nil => rfl
  | cons a atoms ih =>
    rw [hits?, List.mapM_cons, ← ih]
    cases a.hit? name <;> cases hits? name atoms <;> rfl

theorem scorer_eq (query : String) : scorer query = scorerBy Atom.hit? query := by
  have hpos (name : String) : positions (parseQuery query) name =
      (scorerBy Atom.hit? query).positions name := by
    simp only [scorerBy, ← hits?_eq_mapM]
    cases h : hits? name (parseQuery query) with
    | none => exact positions_eq_nil h
    | some hits => exact positions_eq h
  have hbase (name : String) : baseScore? (parseQuery query) name =
      (scorerBy Atom.hit? query).base? name := by
    simp only [scorerBy, ← hits?_eq_mapM]
    rfl
  rw [scorer, funext hpos, funext hbase, scorerBy]

theorem isSome_mapM {find : Atom → Option Hit} {atoms : List Atom} :
    (atoms.mapM find).isSome ↔ ∀ a ∈ atoms, (find a).isSome := by
  induction atoms with
  | nil => simp
  | cons a atoms ih =>
    rw [List.forall_mem_cons, ← ih, List.mapM_cons]
    cases find a <;> cases atoms.mapM find <;> simp

theorem mapM_congr {find find' : Atom → Option Hit} {atoms : List Atom}
    (h : ∀ a ∈ atoms, find a = find' a) : atoms.mapM find = atoms.mapM find' := by
  induction atoms with
  | nil => rfl
  | cons a atoms ih =>
    obtain ⟨ha, hrest⟩ := List.forall_mem_cons.mp h
    rw [List.mapM_cons, List.mapM_cons, ha, ih hrest]

end Scorers

section Agreement

variable {hit? hit?' : Atom → String → Option Hit} {query : String} {e : Entry}

theorem scorerBy_matches_iff : (scorerBy hit? query).score e ≠ .noMatch ↔
    ∀ a ∈ parseQuery query, (hit? a e.name).isSome := by
  have hbase : ((scorerBy hit? query).base? e.name).isSome =
      ((parseQuery query).mapM (hit? · e.name)).isSome := Option.isSome_map
  rw [Scorer.score_ne_noMatch_iff, hbase, isSome_mapM]

theorem agree_of_mapM_eq (h : (parseQuery query).mapM (hit? · e.name) =
    (parseQuery query).mapM (hit?' · e.name)) :
    (scorerBy hit? query).Agree (scorerBy hit?' query) e := by
  refine ⟨?_, ?_⟩
  · simp only [Scorer.score, scorerBy, h]
  · simp only [scorerBy, h]

theorem agree_of_noMatch (h : (scorerBy hit? query).score e = .noMatch)
    (h' : (scorerBy hit?' query).score e = .noMatch) :
    (scorerBy hit? query).Agree (scorerBy hit?' query) e := by
  have hnone {hit? : Atom → String → Option Hit} (h : (scorerBy hit? query).score e = .noMatch) :
      (parseQuery query).mapM (hit? · e.name) = none := by
    rw [← Option.not_isSome_iff_eq_none, isSome_mapM, ← scorerBy_matches_iff, not_not]
    exact h
  exact agree_of_mapM_eq ((hnone h).trans (hnone h').symm)

end Agreement

section Names

variable {query name : String} {a : Atom}

theorem forms_of_ascii (hname : ∀ c ∈ name.toList, isAscii c = true) {plain : Bool} :
    ∀ s ∈ slots plain name.toList, s.narrow = s.wide := by
  intro s hs
  obtain ⟨c, hc, hwide, hnarrow⟩ := getElem?_of_mem_slots hs
  rw [hwide, hnarrow]
  exact narrowForm_of_isAscii (hname c (List.mem_of_getElem? hc))

theorem length_slots (plain : Bool) (cs : List Char) : (slots plain cs).length = cs.length := by
  rw [← List.length_map, map_pos_slots, List.length_range]

theorem exists_ofChars_append (plain : Bool) (pos : Nat) (before : CharClass)
    (cs ds : List Char) : ∃ pos' before', Slot.ofChars plain pos before (cs ++ ds) =
      Slot.ofChars plain pos before cs ++ Slot.ofChars plain pos' before' ds := by
  induction cs generalizing pos before with
  | nil => exact ⟨pos, before, rfl⟩
  | cons c cs ih =>
    obtain ⟨pos', before', h⟩ := ih (pos + 1) (CharClass.ofChar c)
    exact ⟨pos', before', congrArg _ h⟩

theorem hit?_of_ascii (hname : ∀ c ∈ name.toList, isAscii c = true) :
    a.hit? name = a.matchAscii (slots a.plain name.toList) := by
  rw [Atom.hit?, if_pos (List.all_eq_true.mpr hname)]

/-- An atom matches a name within ASCII if it was typed within ASCII and matches it character by
character. -/
theorem isSome_hit?_iff (ha : a ∈ parseQuery query) (hname : ∀ c ∈ name.toList, isAscii c = true) :
    (a.hit? name).isSome ↔ a.wide = false ∧ (a.charHit? name).isSome := by
  have hforms : ∀ s ∈ slots a.plain name.toList, s.narrow = s.wide := forms_of_ascii hname
  rw [hit?_of_ascii hname, Atom.charHit?,
    Atom.isSome_matchAscii_iff (Atom.target_eq_needle ha) (needle_ne_nil ha) hforms,
    Atom.isSome_matchWide_iff (Atom.target_eq_needle ha) (needle_ne_nil ha) hforms]

theorem hit?_eq_charHit? (ha : a ∈ parseQuery query) (hwide : a.wide = false)
    (hname : ∀ c ∈ name.toList, isAscii c = true)
    (h : a.WeighsAlike (slots a.plain name.toList)) : a.hit? name = a.charHit? name := by
  have hsome := isSome_hit?_iff ha hname
  by_cases hchar : (a.charHit? name).isSome
  · have htarget := Atom.target_eq_needle ha
    have hne := needle_ne_nil ha
    have hforms : ∀ s ∈ slots a.plain name.toList, s.narrow = s.wide := forms_of_ascii hname
    have hfits := (Atom.isSome_matchWide_iff htarget hne hforms).mp hchar
    rw [hit?_of_ascii hname, Atom.charHit?, Atom.matchAscii_eq hne hwide hfits,
      Atom.matchWide_eq htarget hne hforms hfits, h.placed_eq]
  · rw [Option.not_isSome_iff_eq_none.mp hchar,
      Option.not_isSome_iff_eq_none.mp fun hhit => hchar (hsome.mp hhit).2]

end Names

section Distant

/-- Two letters with a gap between them at the start, and as a word of their own at the end. -/
def distant (n : Nat) : List Char := 'a' :: 'x' :: 'b' :: (List.replicate n 'x' ++ [' ', 'a', 'b'])

theorem ofChar_lower (pos : Nat) (before : CharClass) :
    ∀ c ∈ ['a', 'b', 'x'], Slot.ofChar true pos before c = ⟨pos, c, c, before, .lower⟩ := by
  have hforms : ['a', 'b', 'x'].all (fun c => Slot.wideForm true c = c ∧
      Slot.narrowForm true c = c ∧ CharClass.ofChar c = .lower) = true := by decide +kernel
  intro c hc
  obtain ⟨hwide, hnarrow, hclass⟩ := of_decide_eq_true (List.all_eq_true.mp hforms c hc)
  rw [Slot.ofChar, hwide, hnarrow, hclass]

theorem slots_distant_start (n : Nat) : ∃ rest, slots true (distant n) =
    ⟨0, 'a', 'a', .whitespace, .lower⟩ :: ⟨1, 'x', 'x', .lower, .lower⟩ ::
      ⟨2, 'b', 'b', .lower, .lower⟩ :: rest := by
  refine ⟨Slot.ofChars true 3 .lower (List.replicate n 'x' ++ [' ', 'a', 'b']), ?_⟩
  simp only [slots, distant, Slot.ofChars, ofChar_lower _ _ 'a' (by simp),
    ofChar_lower _ _ 'x' (by simp), ofChar_lower _ _ 'b' (by simp)]

theorem slots_distant_end (n : Nat) : ∃ front pos, slots true (distant n) =
    front ++ [⟨pos, 'a', 'a', .whitespace, .lower⟩, ⟨pos + 1, 'b', 'b', .lower, .lower⟩] := by
  obtain ⟨pos, before, h⟩ := exists_ofChars_append true 0 .whitespace
    ('a' :: 'x' :: 'b' :: List.replicate n 'x') [' ', 'a', 'b']
  have hspace : (Slot.ofChar true pos before ' ').here = .whitespace :=
    (by decide +kernel : CharClass.ofChar ' ' = .whitespace)
  simp only [Slot.ofChars, hspace, ofChar_lower _ _ 'a' (by simp),
    ofChar_lower _ _ 'b' (by simp)] at h
  exact ⟨_, pos + 1, h.trans (List.append_cons _ _ _)⟩

theorem length_distant (n : Nat) : (slots true (distant n)).length = n + 6 := by
  rw [length_slots]
  simp [distant]

theorem window_distant (n : Nat) :
    window ['a', 'b'] (slots true (distant n)) = slots true (distant n) := by
  obtain ⟨rest, hstart⟩ := slots_distant_start n
  obtain ⟨front, pos, hend⟩ := slots_distant_end n
  rw [window, hstart, List.dropWhile_cons_of_neg (by simp), ← hstart, hend, List.append_cons,
    List.rdropWhile_concat_neg _ _ _ (by simp)]

theorem placed_distant (asciiName : Bool) (n : Nat) :
    Atom.placed asciiName ⟨['a', 'b'], true, false⟩ (slots true (distant n)) =
      placement asciiName ['a', 'b'] (slots true (distant n)) := by
  have hlen : (slots true (distant n)).length ≠ ['a', 'b'].length := by
    rw [length_distant]
    simp
  rw [Atom.placed, if_neg hlen, if_neg (by simp), window_distant, inWindow, if_neg hlen]

/-- The rows find the word at the end. -/
theorem exists_bestPlacement_distant (n : Nat) :
    ∃ hit, bestPlacement ['a', 'b'] (slots true (distant n)) = some hit ∧ 62 ≤ hit.score := by
  obtain ⟨front, pos, hend⟩ := slots_distant_end n
  rw [hend]
  have hrow : firstRow 'a' (front ++ [⟨pos, 'a', 'a', .whitespace, .lower⟩,
      ⟨pos + 1, 'b', 'b', .lower, .lower⟩]) =
        firstRow 'a' front ++ [some ⟨36, 10, [pos]⟩, none] := by
    simp [firstRow, Cell.first, charScore, Slot.bonus, CharClass.bonus]
  have hcell : ∃ next, some next ∈ nextRow 'b' none none
      (front ++ [⟨pos, 'a', 'a', .whitespace, .lower⟩, ⟨pos + 1, 'b', 'b', .lower, .lower⟩])
      (firstRow 'a' front ++ [some ⟨36, 10, [pos]⟩, none]) ∧
        (Cell.inRun ⟨36, 10, [pos]⟩ ⟨pos + 1, 'b', 'b', .lower, .lower⟩).score ≤ next.score :=
    exists_nextRow (by rfl) (by rw [firstRow, List.length_map])
  obtain ⟨next, hnext, hle⟩ := hcell
  obtain ⟨best, hbest, hscore⟩ := exists_bestCell hnext
  refine ⟨⟨best.score, best.path.reverse⟩, ?_, Nat.le_trans hle hscore⟩
  rw [bestPlacement, hrow, lastRow, lastRow, hbest, Option.map_some]

/-- The two scans stop at the start. -/
theorem quickPlacement_distant (n : Nat) :
    quickPlacement ['a', 'b'] (slots true (distant n)) = some ⟨49, [0, 2]⟩ := by
  obtain ⟨rest, hstart⟩ := slots_distant_start n
  have hshort : shortestStart ['a', 'b'] (⟨0, 'a', 'a', .whitespace, .lower⟩ ::
      ⟨1, 'x', 'x', .lower, .lower⟩ :: ⟨2, 'b', 'b', .lower, .lower⟩ :: rest) =
        some ([⟨0, 'a', 'a', .whitespace, .lower⟩, ⟨1, 'x', 'x', .lower, .lower⟩,
          ⟨2, 'b', 'b', .lower, .lower⟩], rest) := by
    simp [shortestStart]
  rw [hstart, quickPlacement, hshort, Option.bind_eq_bind, Option.bind_some]
  dsimp only
  decide

theorem ascii_distant (n : Nat) : ∀ c ∈ distant n, isAscii c = true := by
  intro c hc
  simp only [distant, List.mem_cons, List.mem_append, List.mem_replicate, List.not_mem_nil,
    or_false] at hc
  obtain rfl | rfl | rfl | ⟨-, rfl⟩ | rfl | rfl | rfl := hc <;> rfl

theorem sublist_distant (n : Nat) :
    ['a', 'b'].Sublist ((slots true (distant n)).map (·.wide)) := by
  obtain ⟨rest, hstart⟩ := slots_distant_start n
  rw [hstart]
  exact .cons_cons _ (.cons _ (.cons_cons _ (List.nil_sublist _)))

theorem exists_hit?_distant {n : Nat} (hfit : rowsFit true (n + 6) 2 = true) :
    ∃ hit, Atom.hit? ⟨['a', 'b'], true, false⟩ (.ofList (distant n)) = some hit ∧
      62 ≤ hit.score := by
  rw [hit?_of_ascii (by simpa using ascii_distant n), String.toList_ofList,
    Atom.matchAscii_eq (by simp) rfl (sublist_distant n), placed_distant, placement,
    length_distant]
  exact (if_pos hfit).symm ▸ exists_bestPlacement_distant n

theorem charHit?_distant {n : Nat} (hfit : rowsFit false (n + 6) 2 = false) :
    Atom.charHit? ⟨['a', 'b'], true, false⟩ (.ofList (distant n)) = some ⟨49, [0, 2]⟩ := by
  have hforms : ∀ s ∈ slots true (distant n), s.narrow = s.wide := by
    have hforms := @forms_of_ascii (.ofList (distant n)) (by simpa using ascii_distant n) true
    rwa [String.toList_ofList] at hforms
  rw [Atom.charHit?, String.toList_ofList,
    Atom.matchWide_eq (by decide +kernel) (by simp) hforms (sublist_distant n), placed_distant,
    placement, length_distant, if_neg (by simp [hfit])]
  exact quickPlacement_distant n

theorem score_of_singleton {hit? : Atom → String → Option Hit} {query : String} {a : Atom}
    {e : Entry} {hit : Hit} (hquery : parseQuery query = [a]) (h : hit? a e.name = some hit) :
    (scorerBy hit? query).score e = .ofBase hit.score e.kind := by
  simp [Scorer.score, scorerBy, hquery, h, totalScore]

end Distant

end Fuzzy

open Fuzzy

/-- A name within ASCII matches if and only if the query is within ASCII too and the name matches
when it is read character by character. The answers of the two ways are the same if the name does
not match that way, and for a query within ASCII if each atom weighs alike. An atom of several
characters does so in names that are not very long. An atom of one character does so if it occurs
once in the name, or first where no other place can be better. -/
theorem ascii_name_read_by_characters (query : String) (e : Entry)
    (hname : ∀ c ∈ e.name.toList, isAscii c = true) :
    ((scorer query).score e ≠ .noMatch ↔
      (∀ c ∈ query.toList, isAscii c = true) ∧ (charScorer query).score e ≠ .noMatch) ∧
    ((charScorer query).score e = .noMatch ∨
        (∀ c ∈ query.toList, isAscii c = true) ∧
          (∀ a ∈ parseQuery query, a.WeighsAlike (slots a.plain e.name.toList)) →
      (scorer query).Agree (charScorer query) e) ∧
    ∀ a ∈ parseQuery query,
      (2 ≤ a.needle.length → e.name.length ≤ 2361 →
        a.WeighsAlike (slots a.plain e.name.toList)) ∧
      (a.needle.length = 1 →
        (occurrences a.needle (slots a.plain e.name.toList)).length ≤ 1 ∨
          (∃ s ∈ (occurrences a.needle (slots a.plain e.name.toList)).head?, s.bonus = 10) →
        a.WeighsAlike (slots a.plain e.name.toList)) := by
  rw [scorer_eq, charScorer]
  have hmatch : (scorerBy Atom.hit? query).score e ≠ .noMatch ↔
      (∀ c ∈ query.toList, isAscii c = true) ∧
        (scorerBy Atom.charHit? query).score e ≠ .noMatch := by
    rw [scorerBy_matches_iff, scorerBy_matches_iff, ← wide_eq_false_iff, ← forall₂_and]
    exact forall₂_congr fun a ha => isSome_hit?_iff ha hname
  refine ⟨hmatch, ?_, fun a _ => ⟨fun hmany hlen => ?_, Atom.weighsAlike_of_first⟩⟩
  · rintro (hno | ⟨hquery, halike⟩)
    · exact agree_of_noMatch (not_ne_iff.mp fun h => (hmatch.mp h).2 hno) hno
    · have hwide := (wide_eq_false_iff query).mpr hquery
      exact agree_of_mapM_eq (mapM_congr fun a ha =>
        hit?_eq_charHit? ha (hwide a ha) hname (halike a ha))
  · refine Atom.weighsAlike_of_length hmany ?_
    rwa [length_slots, String.length_toList]

/-- A name with a choice for each atom. The last place of the single letter is the best one,
whichever way it is weighed. -/
theorem ascii_name_read_by_characters_chosen :
    (∀ c ∈ "dataAxis".toList, isAscii c = true) ∧ (∀ c ∈ "TA a".toList, isAscii c = true) ∧
    (∀ a ∈ parseQuery "TA a", a.WeighsAlike (slots a.plain "dataAxis".toList)) ∧
    (scorer "TA a").Agree (charScorer "TA a") ⟨"", "dataAxis", "", "", .member⟩ ∧
    (scorer "TA a").score ⟨"", "dataAxis", "", "", .member⟩ ≠ .noMatch ∧
    (scorer "\u212a").Agree (charScorer "\u212a") ⟨"", "dataAxis", "", "", .member⟩ := by
  have hname : ∀ c ∈ "dataAxis".toList, isAscii c = true :=
    List.all_eq_true.mp (by decide +kernel)
  have hquery : ∀ c ∈ "TA a".toList, isAscii c = true := List.all_eq_true.mp (by decide +kernel)
  have halike : ∀ a ∈ parseQuery "TA a", a.WeighsAlike (slots a.plain "dataAxis".toList) := by
    decide +kernel
  let e : Entry := ⟨"", "dataAxis", "", "", .member⟩
  obtain ⟨hmatch, hsame, -⟩ := ascii_name_read_by_characters "TA a" e hname
  obtain ⟨-, hno, -⟩ := ascii_name_read_by_characters "\u212a" e hname
  exact ⟨hname, hquery, halike, hsame (.inr ⟨hquery, halike⟩),
    hmatch.mpr ⟨hquery, by decide +kernel⟩, hno (.inl (by decide +kernel))⟩

/-- Where reading by characters gives another answer. The Kelvin sign is folded to a letter and a
combining mark is dropped, but the query was not typed within ASCII. A single letter is better as a
word of its own than inside one, unless its bonus counts from the place before. In a very long name
there is room for the rows only within ASCII. -/
theorem ascii_name_differs_by_characters :
    (∀ name ∈ ["k", "e", "ab b", .ofList (distant 9000)], ∀ c ∈ name.toList, isAscii c = true) ∧
    ((scorer "\u212a").score ⟨"", "k", "", "", .member⟩ = .noMatch ∧
      (charScorer "\u212a").score ⟨"", "k", "", "", .member⟩ = ⟨360⟩) ∧
    ((scorer "e\u0301").score ⟨"", "e", "", "", .member⟩ = .noMatch ∧
      (charScorer "e\u0301").score ⟨"", "e", "", "", .member⟩ = ⟨360⟩) ∧
    ((scorer "b").score ⟨"", "ab b", "", "", .member⟩ = ⟨360⟩ ∧
      (charScorer "b").score ⟨"", "ab b", "", "", .member⟩ = ⟨160⟩) ∧
    (620 ≤ ((scorer "ab").score ⟨"", .ofList (distant 9000), "", "", .member⟩).tenths ∧
      (charScorer "ab").score ⟨"", .ofList (distant 9000), "", "", .member⟩ = ⟨490⟩) := by
  have hnames : ∀ name ∈ ["k", "e", "ab b"], name.toList.all isAscii = true := by decide +kernel
  refine ⟨?_, by decide +kernel, by decide +kernel, by decide +kernel, ?_⟩
  · intro name hname
    obtain hname | rfl : name ∈ ["k", "e", "ab b"] ∨ name = .ofList (distant 9000) := by
      simpa [or_assoc] using hname
    · exact List.all_eq_true.mp (hnames name hname)
    · rw [String.toList_ofList]
      exact ascii_distant 9000
  have hquery : parseQuery "ab" = [⟨['a', 'b'], true, false⟩] := by decide +kernel
  have hascii : rowsFit true (9000 + 6) 2 = true := by decide
  have hwide : rowsFit false (9000 + 6) 2 = false := by decide
  generalize 9000 = n at hascii hwide ⊢
  obtain ⟨hit, hhit, hle⟩ := exists_hit?_distant hascii
  have hfast := score_of_singleton (e := ⟨"", .ofList (distant n), "", "", .member⟩) hquery hhit
  have hchar := score_of_singleton (e := ⟨"", .ofList (distant n), "", "", .member⟩) hquery
    (charHit?_distant hwide)
  rw [scorer_eq, hfast, charScorer, hchar]
  refine ⟨?_, rfl⟩
  change (620 : Int) ≤ 10 * hit.score + 0
  omega

end DocPages
