import DocPages.Proofs.Fuzzy.Positions

/-! A query as a collection of words. How the words are spaced, in which order they come and in
which case they are typed does not matter: the atoms are the same but for their order, and neither
the score of a name nor its positions depend on that. -/

namespace DocPages.Fuzzy

/-- A word of plain characters, none of which parts or escapes. -/
def IsWord (w : List Char) : Prop := w ≠ [] ∧ ∀ c ∈ w, isAscii c ∧ c ≠ ' ' ∧ c ≠ '\x5c'

/-- The query holds the words in this order, with spaces between and around them. -/
inductive Typed : List (List Char) → List Char → Prop
  | nil : Typed [] []
  | space {words : List (List Char)} {query : List Char} :
    Typed words query → Typed words (' ' :: query)
  | word {words : List (List Char)} {query : List Char} (w : List Char) :
    IsWord w → (∀ c ∈ query.head?, c = ' ') → Typed words query → Typed (w :: words) (w ++ query)

def Atom.ofWord (w : List Char) : Atom := ⟨w.map Char.toLower, true, false⟩

section Split

variable {c : Char} {w cs : List Char}

theorem splitWords_of_ne {prev : Option Char} (h : prev ≠ some '\x5c') :
    splitWords prev cs = splitWords none cs := by
  cases cs with
  | nil => rfl
  | cons c cs => simp [splitWords, h]

theorem splitWords_space (cs : List Char) :
    splitWords none (' ' :: cs) = [] :: splitWords none cs := by
  have hrest : splitWords (some ' ') cs = splitWords none cs := splitWords_of_ne (by decide)
  simp [splitWords, hrest]

theorem splitWords_append (h : ∀ c ∈ w, c ≠ ' ' ∧ c ≠ '\x5c') (hw : w ≠ []) (cs : List Char) :
    splitWords none (w ++ cs) =
      (w ++ (splitWords none cs).headD []) :: (splitWords none cs).tail := by
  induction w with
  | nil => exact absurd rfl hw
  | cons c w ih =>
    obtain ⟨⟨hspace, hslash⟩, hrest⟩ := List.forall_mem_cons.mp h
    have hnext : splitWords (some c) (w ++ cs) = splitWords none (w ++ cs) :=
      splitWords_of_ne (by simpa using hslash)
    rw [List.cons_append, splitWords, hnext]
    cases w with
    | nil => simp [hspace]
    | cons d w =>
      rw [ih hrest (List.cons_ne_nil d w)]
      simp [hspace]

theorem headD_splitWords (h : ∀ c ∈ cs.head?, c = ' ') : (splitWords none cs).headD [] = [] := by
  cases cs with
  | nil => rfl
  | cons c cs =>
    obtain rfl := h c rfl
    rw [splitWords_space]
    rfl

theorem unescapeSpaces_eq_self (h : '\x5c' ∉ cs) : unescapeSpaces cs = cs := by
  fun_induction unescapeSpaces cs with
  | case1 => rfl
  | case2 cs ih => simp at h
  | case3 c cs _ ih =>
    rw [List.mem_cons, not_or] at h
    rw [ih h.2]

theorem IsWord.ofPiece_eq (h : IsWord w) : Atom.ofPiece w = .ofWord w := by
  have hascii : w.all isAscii = true := List.all_eq_true.mpr fun c hc => (h.2 c hc).1
  have hslash : '\x5c' ∉ w := fun hmem => (h.2 _ hmem).2.2 rfl
  rw [Atom.ofPiece, if_pos hascii, unescapeSpaces_eq_self hslash, Atom.ofWord]

/-- The atoms of a query are its words in lower case. -/
theorem Typed.parseQuery_eq {words : List (List Char)} {query : String}
    (h : Typed words query.toList) : parseQuery query = words.map .ofWord := by
  rw [parseQuery]
  generalize query.toList = query at h ⊢
  induction h with
  | nil => rfl
  | space _ ih =>
    rw [splitWords_space, List.map_cons, List.filter_cons_of_neg (by decide)]
    exact ih
  | word w hw hstop _ ih =>
    have hneedle : (!(Atom.ofWord w).needle.isEmpty) = true := by
      simpa [Atom.ofWord] using hw.1
    rw [splitWords_append (fun c hc => (hw.2 c hc).2) hw.1, headD_splitWords hstop,
      List.append_nil, List.map_cons, List.map_cons, hw.ofPiece_eq, List.filter_cons,
      if_pos hneedle]
    refine congrArg _ (Eq.trans ?_ ih)
    -- The first piece behind the word is empty and gives no atom.
    have hfirst := headD_splitWords hstop
    cases hsplit : splitWords none _ with
    | nil => rfl
    | cons piece pieces =>
      rw [hsplit, List.headD_cons] at hfirst
      subst hfirst
      rw [List.map_cons, List.filter_cons_of_neg (by decide), List.tail_cons]

end Split

section Order

variable {name : String} {atoms atoms' : List Atom}

theorem hits?_perm (h : atoms.Perm atoms') :
    (hits? name atoms = none ∧ hits? name atoms' = none) ∨
      ∃ hits hits', hits? name atoms = some hits ∧ hits? name atoms' = some hits' ∧
        hits.Perm hits' := by
  have hsome : (hits? name atoms).isSome ↔ (hits? name atoms').isSome := by
    rw [isSome_hits?, isSome_hits?]
    simp only [h.mem_iff]
  cases hhits : hits? name atoms with
  | none =>
    rw [hhits] at hsome
    exact .inl ⟨rfl, Option.not_isSome_iff_eq_none.mp fun hs => nomatch hsome.mpr hs⟩
  | some hits =>
    obtain ⟨hits', hhits'⟩ := Option.isSome_iff_exists.mp (hsome.mp (hhits ▸ rfl))
    refine .inr ⟨hits, hits', rfl, hhits', ?_⟩
    have hmap := (h.map (·.hit? name)).filterMap id
    rw [map_hit? hhits, map_hit? hhits'] at hmap
    simpa [List.filterMap_map] using hmap

theorem totalScore_perm {hits hits' : List Hit} (h : hits.Perm hits') :
    totalScore hits = totalScore hits' := by
  induction h with
  | nil => rfl
  | cons hit _ ih => rw [totalScore, totalScore, ih]
  | swap a b hits =>
    simp only [totalScore]
    omega
  | trans _ _ ih ih' => exact ih.trans ih'

theorem baseScore?_perm (h : atoms.Perm atoms') :
    baseScore? atoms name = baseScore? atoms' name := by
  rw [baseScore?, baseScore?]
  obtain ⟨hnone, hnone'⟩ | ⟨hits, hits', hhits, hhits', hperm⟩ := hits?_perm h
  · rw [hnone, hnone']
  · rw [hhits, hhits', Option.map_some, Option.map_some, totalScore_perm hperm]

/-- The positions are sorted and each comes once, so they are determined by which there are. -/
theorem positions_perm (h : atoms.Perm atoms') : positions atoms name = positions atoms' name := by
  have hsame (p : Nat) : p ∈ positions atoms name ↔ p ∈ positions atoms' name := by
    obtain ⟨hnone, hnone'⟩ | ⟨hits, hits', hhits, hhits', hperm⟩ := hits?_perm h
    · rw [positions_eq_nil hnone, positions_eq_nil hnone']
    · rw [mem_positions hhits, mem_positions hhits']
      simp only [hperm.mem_iff]
  have hsorted (atoms : List Atom) := pairwise_positions atoms name
  have hnodup (atoms : List Atom) : (positions atoms name).Nodup :=
    (hsorted atoms).imp Nat.ne_of_lt
  have hperm : (positions atoms name).Perm (positions atoms' name) :=
    (List.perm_ext_iff_of_nodup (hnodup _) (hnodup _)).mpr hsame
  exact hperm.eq_of_pairwise (fun p q _ _ hlt hgt => absurd hgt (Nat.lt_asymm hlt))
    (hsorted _) (hsorted _)

theorem scorer_eq_of_perm {query query' : String}
    (h : (parseQuery query).Perm (parseQuery query')) : scorer query = scorer query' := by
  have hempty : (parseQuery query).isEmpty = (parseQuery query').isEmpty := by
    rw [Bool.eq_iff_iff, List.isEmpty_iff, List.isEmpty_iff]
    exact ⟨fun hnil => (hnil ▸ h).nil_eq.symm, fun hnil => (hnil ▸ h).eq_nil⟩
  have hbase : baseScore? (parseQuery query) = baseScore? (parseQuery query') :=
    funext fun name => baseScore?_perm h
  have hpos : positions (parseQuery query) = positions (parseQuery query') :=
    funext fun name => positions_perm h
  simp only [scorer, hempty, hbase, hpos]

end Order

end DocPages.Fuzzy

namespace DocPages

open Fuzzy

/-- Two queries whose words are the same up to their order and the case of their letters rank the
entries alike: the same entries in the same order, with the same scores and positions. -/
theorem ranking_depends_on_words {words words' : List (List Char)} {query query' : String}
    (h : Typed words query.toList) (h' : Typed words' query'.toList)
    (hsame : (words.map (·.map Char.toLower)).Perm (words'.map (·.map Char.toLower)))
    (o : SearchOptions) (entries : List Entry) :
    ∃ results, (rank query o none entries).results = some results ∧
      (rank query' o none entries).results = some results := by
  have hperm : (parseQuery query).Perm (parseQuery query') := by
    rw [h.parseQuery_eq, h'.parseQuery_eq]
    have hmap := hsame.map fun needle => Atom.mk needle true false
    rwa [List.map_map, List.map_map] at hmap
  refine ⟨_, congrArg Ranking.Report.results (rank_uncancelled query o entries), ?_⟩
  rw [rank_uncancelled, Ranking.answer_start, Ranking.answer_start, scorer_eq_of_perm hperm]

def overlappedEntries : List Entry :=
  [⟨"", "xabc", "", "", .member⟩, ⟨"", "abc", "", "", .function⟩, ⟨"", "ab", "", "", .classType⟩]

/-- Two words that share a letter of the names, typed in both orders. -/
theorem ranking_depends_on_words_overlapping :
    Typed [['a', 'B'], ['b', 'c']] " aB  bc".toList ∧
    Typed [['B', 'C'], ['A', 'b']] "BC Ab ".toList ∧
    ∃ results, (rank " aB  bc" ⟨1, 0⟩ none overlappedEntries).results = some results ∧
      (rank "BC Ab " ⟨1, 0⟩ none overlappedEntries).results = some results := by
  have hword {c d : Char} (hc : isAscii c ∧ c ≠ ' ' ∧ c ≠ '\x5c')
      (hd : isAscii d ∧ d ≠ ' ' ∧ d ≠ '\x5c') : IsWord [c, d] := by
    simp [IsWord, hc, hd]
  have h : Typed [['a', 'B'], ['b', 'c']] " aB  bc".toList := by
    rw [String.toList_ofList]
    exact .space (.word ['a', 'B'] (hword (by decide) (by decide)) (by simp)
      (.space (.space (.word ['b', 'c'] (hword (by decide) (by decide)) (by simp) .nil))))
  have h' : Typed [['B', 'C'], ['A', 'b']] "BC Ab ".toList := by
    rw [String.toList_ofList]
    exact .word ['B', 'C'] (hword (by decide) (by decide)) (by simp)
      (.space (.word ['A', 'b'] (hword (by decide) (by decide)) (by simp) (.space .nil)))
  exact ⟨h, h', ranking_depends_on_words h h' (by decide) _ _⟩

end DocPages
