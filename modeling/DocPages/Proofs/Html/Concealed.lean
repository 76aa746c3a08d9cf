import DocPages.Proofs.Html.ScriptData
import Mathlib.Data.List.Infix

/-! When a text hides the closing tag behind it. It does exactly if some `<!--` in it is not closed
by a `-->`, and a `<script` stands behind that `<!--`. -/

namespace DocPages.Html.ScriptData

/-- The text starts with `<script` and a character that ends the name. -/
def opensScript : List Char → Bool
  | '<' :: cs => isScript (cs.take 6) && (cs.drop 6).head?.any endsName
  | _ => false

def Opens (cs : List Char) : Prop := ∃ v, v <:+ cs ∧ opensScript v

/-- A `-->` closes what a `<!--` has opened. -/
def Closes (cs : List Char) : Prop := ['-', '-', '>'] <:+: cs

/-- The dashes of `<!--` may belong to the `-->` as well. -/
def Conceals (cs : List Char) : Prop :=
  ∃ u, u <:+ cs ∧ ['<', '!', '-', '-'] <+: u ∧ ¬ Closes (u.drop 2) ∧ Opens u

instance (cs : List Char) : Decidable (Opens cs) :=
  decidable_of_iff (∃ v ∈ cs.tails, opensScript v) (by simp [Opens])

instance (cs : List Char) : Decidable (Closes cs) :=
  inferInstanceAs (Decidable (_ <:+: _))

instance (cs : List Char) : Decidable (Conceals cs) :=
  decidable_of_iff (∃ u ∈ cs.tails, ['<', '!', '-', '-'] <+: u ∧ ¬ Closes (u.drop 2) ∧ Opens u)
    (by simp [Conceals])

section Parts

variable {c : Char} {cs : List Char}

theorem opens_cons : Opens (c :: cs) ↔ opensScript (c :: cs) ∨ Opens cs := by
  simp [Opens, List.suffix_cons_iff, or_and_right, exists_or]

theorem opens_cons_of_ne (hc : c ≠ '<') : Opens (c :: cs) ↔ Opens cs := by
  rw [opens_cons, opensScript]
  · simp
  · simpa using hc

theorem conceals_cons : Conceals (c :: cs) ↔
    (['<', '!', '-', '-'] <+: c :: cs ∧ ¬ Closes ((c :: cs).drop 2) ∧ Opens (c :: cs)) ∨
      Conceals cs := by
  simp [Conceals, List.suffix_cons_iff, or_and_right, exists_or]

theorem conceals_cons_of_ne (hc : c ≠ '<') : Conceals (c :: cs) ↔ Conceals cs := by
  rw [conceals_cons, List.cons_prefix_cons]
  simp [Ne.symm hc]

theorem closes_cons : Closes (c :: cs) ↔ ['-', '-', '>'] <+: c :: cs ∨ Closes cs :=
  List.infix_cons_iff

theorem closes_cons_of_ne (hc : c ≠ '-') : Closes (c :: cs) ↔ Closes cs := by
  rw [closes_cons, List.cons_prefix_cons]
  simp [Ne.symm hc]

theorem conceals_append {front : List Char} (h : '<' ∉ front) :
    Conceals (front ++ cs) ↔ Conceals cs := by
  induction front with
  | nil => rfl
  | cons c front ih =>
    rw [List.mem_cons, not_or] at h
    rw [List.cons_append, conceals_cons_of_ne (Ne.symm h.1), ih h.2]

theorem closes_append {front : List Char} (h : '-' ∉ front) :
    Closes (front ++ cs) ↔ Closes cs := by
  induction front with
  | nil => rfl
  | cons c front ih =>
    rw [List.mem_cons, not_or] at h
    rw [List.cons_append, closes_cons_of_ne (Ne.symm h.1), ih h.2]

/-- Dashes do not matter in front of a character that does not close with them. -/
theorem closes_dashes {d : Nat} (hdash : c ≠ '-') (hend : ¬ (c = '>' ∧ 2 ≤ d)) :
    Closes (List.replicate d '-' ++ c :: cs) ↔ Closes cs := by
  induction d with
  | zero => exact closes_cons_of_ne hdash
  | succ d ih =>
    have hstart : ¬ ['-', '-', '>'] <+: '-' :: (List.replicate d '-' ++ c :: cs) := by
      rcases d with _ | _ | d
      · simp [Ne.symm hdash]
      · intro h
        simp only [List.replicate, List.cons_append, List.nil_append, List.cons_prefix_cons] at h
        exact hend ⟨h.2.2.1.symm, Nat.le_refl 2⟩
      · simp [List.replicate_succ]
    rw [List.replicate_succ, List.cons_append, closes_cons, ih fun h => hend ⟨h.1, by omega⟩]
    exact or_iff_right hstart

theorem closes_dashes_end {d : Nat} (hd : 2 ≤ d) : Closes (List.replicate d '-' ++ '>' :: cs) := by
  obtain ⟨k, rfl⟩ := Nat.exists_eq_add_of_le' hd
  refine ⟨List.replicate k '-', cs, ?_⟩
  rw [List.replicate_add]
  simp [List.replicate]

theorem not_closes_dashes (d : Nat) : ¬ Closes (List.replicate d '-') := by
  intro h
  have hmem : '>' ∈ List.replicate d '-' := h.subset (by simp)
  simp at hmem

end Parts

section Levels

/-- Behind the text a closing tag is that of an inner script. -/
def EndsDoubly (m : Mode) (cs : List Char) : Prop := ∃ x, run m cs = some x ∧ x.2.level = .doubly

variable {c : Char} {cs text : List Char} {m m' : Mode} {level : Level}

theorem endsDoubly_nil : EndsDoubly m [] ↔ m.level = .doubly := by
  simp [EndsDoubly, run]

theorem endsDoubly_cons (h : step m c = some (text, m')) :
    EndsDoubly m (c :: cs) ↔ EndsDoubly m' cs := by
  rw [EndsDoubly, EndsDoubly, run, h, Option.bind_some]
  constructor
  · rintro ⟨x, hx, hlevel⟩
    obtain ⟨y, hy, rfl⟩ := Option.map_eq_some_iff.mp hx
    exact ⟨y, hy, hlevel⟩
  · rintro ⟨y, hy, hlevel⟩
    exact ⟨_, congrArg _ hy, hlevel⟩

theorem endsDoubly_like_text (h : step m c = some (text, (stepText level c).2)) :
    EndsDoubly m (c :: cs) ↔ EndsDoubly (.text level) (c :: cs) :=
  (endsDoubly_cons h).trans (endsDoubly_cons rfl).symm

theorem endsDoubly_text_cons (hc : c ≠ '<') (hdash : level = .plain ∨ c ≠ '-') :
    EndsDoubly (.text level) (c :: cs) ↔ EndsDoubly (.text level) cs := by
  have hdash : ¬ (c = '-' ∧ level ≠ .plain) := by tauto
  have hstep : step (.text level) c = some ([shown c], .text level) := by
    rw [step, stepText, if_neg hc, if_neg hdash]
  exact endsDoubly_cons hstep

/-- Text behind some dashes. -/
def dashed (level : Level) : Nat → Mode
  | 0 => .text level
  | 1 => .dash level
  | _ + 2 => .dashes level

theorem endsDoubly_dashed_dash (hlevel : level ≠ .plain) (d : Nat) :
    EndsDoubly (dashed level d) ('-' :: cs) ↔ EndsDoubly (dashed level (d + 1)) cs := by
  have hstep : step (dashed level d) '-' = some (['-'], dashed level (d + 1)) := by
    rcases d with _ | _ | d
    · simp [dashed, step, stepText, hlevel]
    · rfl
    · rfl
  exact endsDoubly_cons hstep

theorem endsDoubly_dashed_end {d : Nat} (hd : 2 ≤ d) :
    EndsDoubly (dashed level d) ('>' :: cs) ↔ EndsDoubly (.text .plain) cs := by
  obtain ⟨k, rfl⟩ := Nat.exists_eq_add_of_le' hd
  exact endsDoubly_cons rfl

theorem endsDoubly_dashed_like_text {d : Nat} (hdash : c ≠ '-') (hend : ¬ (c = '>' ∧ 2 ≤ d)) :
    EndsDoubly (dashed level d) (c :: cs) ↔ EndsDoubly (.text level) (c :: cs) := by
  rcases d with _ | _ | d
  · rfl
  · exact endsDoubly_like_text (by rw [dashed, step, if_neg hdash])
  · have hend : c ≠ '>' := fun hc => hend ⟨hc, by omega⟩
    exact endsDoubly_like_text (by rw [dashed, step, if_neg hdash, if_neg hend])

/-- A mode that goes on as if nothing had been begun. -/
theorem endsDoubly_as_text (hm : m.level = level)
    (h : ∀ c ∈ cs.head?, ∃ text, step m c = some (text, (stepText level c).2)) :
    EndsDoubly m cs ↔ EndsDoubly (.text level) cs := by
  cases cs with
  | nil => rw [endsDoubly_nil, endsDoubly_nil, hm, Mode.level]
  | cons c cs =>
    obtain ⟨text, hstep⟩ := h c rfl
    exact endsDoubly_like_text hstep

theorem endsDoubly_lessThan_doubly (hslash : cs.head? ≠ some '/') :
    EndsDoubly (.lessThan .doubly) cs ↔ EndsDoubly (.text .doubly) cs := by
  refine endsDoubly_as_text rfl fun c hc => ⟨(stepText .doubly c).1, ?_⟩
  rw [step, if_neg]
  rintro rfl
  exact hslash hc

theorem endsDoubly_lessThan_plain (hslash : cs.head? ≠ some '/') (h : ¬ ['!', '-', '-'] <+: cs) :
    EndsDoubly (.lessThan .plain) cs ↔ EndsDoubly (.text .plain) cs := by
  by_cases hbang : cs.head? = some '!'
  · obtain ⟨cs, rfl⟩ := List.head?_eq_some_iff.mp hbang
    have hstep : step (.lessThan .plain) '!' = some (['<', '!'], .escapeStart) := rfl
    rw [endsDoubly_cons hstep, endsDoubly_text_cons (by decide) (.inl rfl)]
    by_cases hdash : cs.head? = some '-'
    · obtain ⟨cs, rfl⟩ := List.head?_eq_some_iff.mp hdash
      have hstep : step .escapeStart '-' = some (['-'], .escapeStartDash) := rfl
      rw [endsDoubly_cons hstep, endsDoubly_text_cons (by decide) (.inl rfl)]
      refine endsDoubly_as_text rfl fun c hc => ⟨(stepText .plain c).1, ?_⟩
      rw [step, if_neg]
      rintro rfl
      obtain ⟨cs, rfl⟩ := List.head?_eq_some_iff.mp hc
      exact h ⟨cs, rfl⟩
    · refine endsDoubly_as_text rfl fun c hc => ⟨(stepText .plain c).1, ?_⟩
      rw [step, if_neg]
      rintro rfl
      exact hdash hc
  · refine endsDoubly_as_text rfl fun c hc => ⟨'<' :: (stepText .plain c).1, ?_⟩
    rw [step, if_neg, if_neg]
    · rfl
    · rintro rfl
      exact hbang hc
    · rintro rfl
      exact hslash hc

end Levels

section Script

variable {c : Char} {cs name rest : List Char}

/-- The text goes on with what is missing of `script` and a character that ends the name. -/
def Completes (name cs rest : List Char) : Prop :=
  ∃ more c, cs = more ++ c :: rest ∧ isScript (name ++ more) ∧ endsName c

theorem isAlpha_of_isScript (h : isScript name) : ∀ c ∈ name, c.isAlpha := by
  intro c hc
  have hlower : c.toLower ∈ script := by
    rw [← eq_of_beq h]
    exact List.mem_map_of_mem hc
  have hscript : script.all Char.isAlpha := by decide
  have halpha := List.all_eq_true.mp hscript _ hlower
  unfold Char.toLower at halpha
  split at halpha
  · rename_i hupper
    exact Bool.or_eq_true_iff.mpr (.inl (decide_eq_true hupper))
  · exact halpha

theorem length_of_isScript (h : isScript name) : name.length = 6 := by
  rw [← List.length_map, eq_of_beq h]
  rfl

theorem not_isAlpha_of_endsName (h : endsName c) : ¬ c.isAlpha := by
  simp only [endsName, isBlank, List.contains_eq_mem, Bool.or_eq_true, decide_eq_true_eq,
    beq_iff_eq, List.mem_cons, List.not_mem_nil, or_false] at h
  rcases h with ((rfl | rfl | rfl | rfl | rfl) | rfl) | rfl <;> decide

theorem not_completes_nil : ¬ Completes name [] rest := by
  rintro ⟨more, c, h, -⟩
  simp at h

theorem completes_cons_iff : Completes name (c :: cs) rest ↔
    (endsName c ∧ isScript name ∧ cs = rest) ∨ (c.isAlpha ∧ Completes (name ++ [c]) cs rest) := by
  constructor
  · rintro ⟨more, e, heq, hname, he⟩
    cases more with
    | nil =>
      cases heq
      exact .inl ⟨he, by simpa using hname, rfl⟩
    | cons d more =>
      obtain ⟨rfl, rfl⟩ := List.cons.inj heq
      refine .inr ⟨isAlpha_of_isScript hname c (by simp), more, e, rfl, ?_, he⟩
      rw [List.append_assoc]
      exact hname
  · rintro (⟨hc, hname, rfl⟩ | ⟨hc, more, e, rfl, hname, he⟩)
    · exact ⟨[], c, rfl, by rwa [List.append_nil], hc⟩
    · rw [List.append_assoc] at hname
      exact ⟨c :: more, e, rfl, hname, he⟩

theorem endsDoubly_of_completes (h : Completes name cs rest) :
    EndsDoubly (.doubleEscapeStart name) cs ↔ EndsDoubly (.text .doubly) rest := by
  induction cs generalizing name with
  | nil => exact absurd h not_completes_nil
  | cons c cs ih =>
    rcases completes_cons_iff.mp h with ⟨hc, hname, rfl⟩ | ⟨hc, hmore⟩
    · exact endsDoubly_cons (by rw [step, if_pos hc, if_pos hname])
    · have hend : ¬ endsName c := fun hend => not_isAlpha_of_endsName hend hc
      rw [← ih hmore]
      exact endsDoubly_cons (by rw [step, if_neg hend, if_pos hc])

theorem endsDoubly_of_not_completes (h : ∀ rest, ¬ Completes name cs rest) :
    EndsDoubly (.doubleEscapeStart name) cs ↔ EndsDoubly (.text .escaped) cs := by
  induction cs generalizing name with
  | nil => simp [endsDoubly_nil, Mode.level]
  | cons c cs ih =>
    by_cases hend : endsName c
    · have hname : ¬ isScript name :=
        fun hname => h cs (completes_cons_iff.mpr (.inl ⟨hend, hname, rfl⟩))
      have hstep : step (.doubleEscapeStart name) c = some ([c], .text .escaped) := by
        rw [step, if_pos hend, if_neg hname]
      have hne : c ≠ '<' ∧ c ≠ '-' := by
        constructor <;> rintro rfl <;> revert hend <;> decide
      rw [endsDoubly_cons hstep, endsDoubly_text_cons hne.1 (.inr hne.2)]
    · by_cases hc : c.isAlpha
      · have hstep : step (.doubleEscapeStart name) c =
            some ([c], .doubleEscapeStart (name ++ [c])) := by
          rw [step, if_neg hend, if_pos hc]
        have hne : c ≠ '<' ∧ c ≠ '-' := by
          constructor <;> rintro rfl <;> revert hc <;> decide
        rw [endsDoubly_cons hstep, endsDoubly_text_cons hne.1 (.inr hne.2)]
        exact ih fun rest hmore => h rest (completes_cons_iff.mpr (.inr ⟨hc, hmore⟩))
      · exact endsDoubly_like_text (by rw [step, if_neg hend, if_neg hc])

theorem opensScript_iff : opensScript ('<' :: cs) ↔ ∃ rest, Completes [] cs rest := by
  rw [opensScript, Bool.and_eq_true, Option.any_eq_true]
  constructor
  · rintro ⟨hname, c, hc, hend⟩
    obtain ⟨rest, hrest⟩ := List.head?_eq_some_iff.mp hc
    exact ⟨rest, cs.take 6, c, by rw [← hrest, List.take_append_drop], hname, hend⟩
  · rintro ⟨rest, name, c, rfl, hname, hend⟩
    have hlength := length_of_isScript hname
    rw [List.nil_append] at hname hlength
    simp [← hlength, hname, hend]

/-- The name and the character behind it neither open nor close anything. -/
theorem Completes.forall_ne (h : Completes [] cs rest) :
    ∃ front, cs = front ++ rest ∧ ∀ c ∈ front, c ≠ '<' ∧ c ≠ '-' := by
  obtain ⟨name, e, rfl, hname, hend⟩ := h
  refine ⟨name ++ [e], by simp, fun c hc => ?_⟩
  rcases List.mem_append.mp hc with hmem | hmem
  · have halpha := isAlpha_of_isScript hname c hmem
    constructor <;> rintro rfl <;> revert halpha <;> decide
  · obtain rfl := List.mem_singleton.mp hmem
    constructor <;> rintro rfl <;> revert hend <;> decide

theorem Completes.suffix (h : Completes [] cs rest) : rest <:+ cs := by
  obtain ⟨front, rfl, -⟩ := h.forall_ne
  exact List.suffix_append front rest

theorem Completes.conceals_iff (h : Completes [] cs rest) : Conceals cs ↔ Conceals rest := by
  obtain ⟨front, rfl, hfront⟩ := h.forall_ne
  exact conceals_append fun hmem => (hfront _ hmem).1 rfl

theorem Completes.closes_iff (h : Completes [] cs rest) : Closes cs ↔ Closes rest := by
  obtain ⟨front, rfl, hfront⟩ := h.forall_ne
  exact closes_append fun hmem => (hfront _ hmem).2 rfl

theorem endsDoubly_lessThan_of_completes (hslash : cs.head? ≠ some '/')
    (h : Completes [] cs rest) :
    EndsDoubly (.lessThan .escaped) cs ↔ EndsDoubly (.text .doubly) rest := by
  cases cs with
  | nil => exact absurd h not_completes_nil
  | cons c cs =>
    have hc : c ≠ '/' := fun hc => hslash (congrArg some hc)
    rcases completes_cons_iff.mp h with ⟨-, hname, -⟩ | ⟨halpha, hmore⟩
    · cases hname
    · rw [← endsDoubly_of_completes hmore]
      exact endsDoubly_cons (by rw [step, if_neg hc, if_pos halpha, List.nil_append])

theorem endsDoubly_lessThan_of_not_completes (hslash : cs.head? ≠ some '/')
    (h : ∀ rest, ¬ Completes [] cs rest) :
    EndsDoubly (.lessThan .escaped) cs ↔ EndsDoubly (.text .escaped) cs := by
  cases cs with
  | nil => simp [endsDoubly_nil, Mode.level]
  | cons c cs =>
    have hc : c ≠ '/' := fun hc => hslash (congrArg some hc)
    by_cases halpha : c.isAlpha
    · have hstep : step (.lessThan .escaped) c = some (['<', c], .doubleEscapeStart [c]) := by
        rw [step, if_neg hc, if_pos halpha]
      have hne : c ≠ '<' ∧ c ≠ '-' := by
        constructor <;> rintro rfl <;> revert halpha <;> decide
      have hmore (rest : List Char) : ¬ Completes [c] cs rest :=
        fun hmore => h rest (completes_cons_iff.mpr (.inr ⟨halpha, hmore⟩))
      rw [endsDoubly_cons hstep, endsDoubly_of_not_completes hmore,
        endsDoubly_text_cons hne.1 (.inr hne.2)]
    · exact endsDoubly_like_text (by rw [step, if_neg hc, if_neg halpha]; rfl)

end Script

section Told

variable {c : Char} {cs : List Char}

/-- What reading a text leads to, told by what stands in it. -/
structure Told (cs : List Char) : Prop where
  plain : EndsDoubly (.text .plain) cs ↔ Conceals cs
  deeper (level : Level) (d : Nat) : level ≠ .plain → (EndsDoubly (dashed level d) cs ↔
    Conceals cs ∨ ¬ Closes (List.replicate d '-' ++ cs) ∧ (level = .doubly ∨ Opens cs))

theorem told_nil : Told [] where
  plain := by
    have hnot : ¬ Conceals [] := by decide
    simp [endsDoubly_nil, Mode.level, hnot]
  deeper level d hlevel := by
    have hnot : ¬ Conceals [] := by decide
    have hopens : ¬ Opens [] := by decide
    have hmode : (dashed level d).level = level := by rcases d with _ | _ | d <;> rfl
    simp [endsDoubly_nil, hmode, hnot, hopens, not_closes_dashes]

theorem Told.cons_of_ne (hc : c ≠ '<') (h : Told cs) : Told (c :: cs) where
  plain := by
    rw [endsDoubly_text_cons hc (.inl rfl), conceals_cons_of_ne hc]
    exact h.plain
  deeper level d hlevel := by
    rw [conceals_cons_of_ne hc, opens_cons_of_ne hc]
    by_cases hdash : c = '-'
    · subst hdash
      rw [endsDoubly_dashed_dash hlevel, h.deeper level (d + 1) hlevel, List.replicate_succ']
      simp
    · by_cases hend : c = '>' ∧ 2 ≤ d
      · obtain ⟨rfl, hd⟩ := hend
        rw [endsDoubly_dashed_end hd, h.plain]
        simp [closes_dashes_end hd]
      · rw [endsDoubly_dashed_like_text hdash hend, endsDoubly_text_cons hc (.inr hdash),
          closes_dashes hdash hend]
        exact h.deeper level 0 hlevel

theorem conceals_opener (h : ¬ ['!', '-', '-'] <+: cs) : Conceals ('<' :: cs) ↔ Conceals cs := by
  rw [conceals_cons, List.cons_prefix_cons]
  simp [h]

/-- A `<!--` at the start does not matter where the rest is known to be escaped. -/
theorem conceals_opener_or {p : Prop} (hp : ¬ Closes cs → Opens ('<' :: cs) → p) :
    Conceals ('<' :: cs) ∨ p ↔ Conceals cs ∨ p := by
  rw [conceals_cons, or_assoc]
  refine or_iff_right_of_imp fun ⟨hmark, hclose, hopens⟩ => .inr (hp (fun h => hclose ?_) hopens)
  obtain ⟨ds, hds⟩ := hmark
  obtain rfl := (List.cons.inj hds).2
  exact (closes_cons_of_ne (by decide)).mp h

theorem not_opensScript_bang : ¬ opensScript ('<' :: '!' :: cs) := by
  rw [opensScript_iff]
  rintro ⟨rest, h⟩
  rcases completes_cons_iff.mp h with ⟨hend, -⟩ | ⟨halpha, -⟩
  · cases hend
  · cases halpha

theorem Told.plain_opener (hslash : cs.head? ≠ some '/') (h : ∀ ds, ds <:+ cs → Told ds) :
    EndsDoubly (.text .plain) ('<' :: cs) ↔ Conceals ('<' :: cs) := by
  by_cases hmark : ['!', '-', '-'] <+: cs
  · obtain ⟨ds, rfl⟩ := hmark
    have hopened : EndsDoubly (.text .plain) ('<' :: '!' :: '-' :: '-' :: ds) ↔
        EndsDoubly (dashed .escaped 2) ds :=
      (endsDoubly_cons rfl).trans <| (endsDoubly_cons rfl).trans <|
        (endsDoubly_cons rfl).trans (endsDoubly_cons rfl)
    have hds := (h ds (List.suffix_append _ ds)).deeper .escaped 2 (by decide)
    simp only [List.cons_append, List.nil_append]
    rw [hopened, hds, conceals_cons, conceals_cons_of_ne (by decide),
      conceals_cons_of_ne (by decide), conceals_cons_of_ne (by decide), opens_cons,
      opens_cons_of_ne (by decide), opens_cons_of_ne (by decide), opens_cons_of_ne (by decide)]
    simp [not_opensScript_bang, or_comm, List.replicate]
  · have hstep : step (.text .plain) '<' = some ([], .lessThan .plain) := rfl
    rw [endsDoubly_cons hstep, endsDoubly_lessThan_plain hslash hmark, conceals_opener hmark]
    exact (h cs (List.suffix_refl cs)).plain

theorem Told.doubly_opener (hslash : cs.head? ≠ some '/') (h : Told cs) (d : Nat) :
    EndsDoubly (dashed .doubly d) ('<' :: cs) ↔
      Conceals ('<' :: cs) ∨ ¬ Closes (List.replicate d '-' ++ '<' :: cs) := by
  have hstep : step (.text .doubly) '<' = some (['<'], .lessThan .doubly) := rfl
  have hcs := h.deeper .doubly 0 (by decide)
  rw [endsDoubly_dashed_like_text (by decide) (by simp), endsDoubly_cons hstep,
    endsDoubly_lessThan_doubly hslash, closes_dashes (by decide) (by simp),
    conceals_opener_or fun hclose _ => hclose]
  simpa [dashed] using hcs

theorem Told.escaped_opener (hslash : cs.head? ≠ some '/') (h : ∀ ds, ds <:+ cs → Told ds)
    (d : Nat) : EndsDoubly (dashed .escaped d) ('<' :: cs) ↔
      Conceals ('<' :: cs) ∨
        ¬ Closes (List.replicate d '-' ++ '<' :: cs) ∧ Opens ('<' :: cs) := by
  have hstep : step (.text .escaped) '<' = some ([], .lessThan .escaped) := rfl
  rw [endsDoubly_dashed_like_text (by decide) (by simp), endsDoubly_cons hstep,
    closes_dashes (by decide) (by simp), conceals_opener_or And.intro]
  by_cases hscript : opensScript ('<' :: cs)
  · obtain ⟨rest, hrest⟩ := opensScript_iff.mp hscript
    have hopens : Opens ('<' :: cs) := opens_cons.mpr (.inl hscript)
    rw [endsDoubly_lessThan_of_completes hslash hrest]
    have hdoubly := (h rest hrest.suffix).deeper .doubly 0 (by decide)
    rw [hrest.conceals_iff, hrest.closes_iff]
    simpa [dashed, hopens] using hdoubly
  · have hcs := (h cs (List.suffix_refl cs)).deeper .escaped 0 (by decide)
    rw [opens_cons, or_iff_right hscript]
    rw [opensScript_iff, not_exists] at hscript
    rw [endsDoubly_lessThan_of_not_completes hslash hscript]
    simpa [dashed] using hcs

/-- By induction on the text, for all its ends at once, as a `<!--` and a `<script` are passed over
in one go. -/
theorem told_of_lacks (hcs : Lacks '<' '/' cs) : ∀ ds, ds <:+ cs → Told ds := by
  induction cs with
  | nil =>
    intro ds hds
    rw [List.suffix_nil.mp hds]
    exact told_nil
  | cons c cs ih =>
    have hshorter := ih (List.IsChain.tail hcs)
    intro ds hds
    rcases List.suffix_cons_iff.mp hds with rfl | hds
    · by_cases hc : c = '<'
      · subst hc
        have hslash := hcs.head?_ne
        refine ⟨Told.plain_opener hslash hshorter, fun level d hlevel => ?_⟩
        cases level with
        | plain => exact absurd rfl hlevel
        | escaped => simpa using Told.escaped_opener hslash hshorter d
        | doubly => simpa using (hshorter cs (List.suffix_refl cs)).doubly_opener hslash d
      · exact (hshorter cs (List.suffix_refl cs)).cons_of_ne hc
    · exact hshorter ds hds

end Told

theorem level_eq_doubly_iff {cs : List Char} {x : List Char × Mode} (hcs : Lacks '<' '/' cs)
    (hrun : run (.text .plain) cs = some x) : x.2.level = .doubly ↔ Conceals cs := by
  rw [← (told_of_lacks hcs cs (List.suffix_refl cs)).plain]
  constructor
  · exact fun hlevel => ⟨x, hrun, hlevel⟩
  · rintro ⟨y, hy, hlevel⟩
    cases hrun.symm.trans hy
    exact hlevel

/-- A text without `</` that is put into a script element is its content, unless it conceals the
closing tag. -/
theorem scriptText_of_lacks {text : List Char} (hnul : '\x00' ∉ text) (hlacks : Lacks '<' '/' text)
    (rest : List Char) :
    scriptText (.text .plain) (text ++ ("</script".toList ++ '>' :: rest)) =
      if Conceals text then
        (scriptText (.text .escaped) rest).map fun y => (text ++ "</script>".toList ++ y.1, y.2)
      else some (text, '>' :: rest) := by
  obtain ⟨x, hrun, hx⟩ := run_inside (m := .text .plain) hlacks trivial False.elim
  rw [scriptText_of_run hnul hrun hx]
  exact if_congr (level_eq_doubly_iff hlacks hrun) rfl rfl

end DocPages.Html.ScriptData
