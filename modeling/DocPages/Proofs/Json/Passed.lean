import DocPages.Proofs.Json.Grammar

/-! Passing over any value. -/

namespace DocPages.Json

section Skip

variable {mode mode' : Mode} {opened opened' : List Bracket} {c : Char} {cs ws rest : List Char}

theorem skipFrom_go (h : skipStep opened c mode = .go mode' opened') (cs : List Char) :
    skipFrom mode opened (c :: cs) = skipFrom mode' opened' cs := by
  rw [skipFrom, h]

/-- Where a value has ended, the reader is in the mode `after`, also if no bracket is open. -/
theorem skipFrom_complete (h : skipStep opened c mode = .complete opened') (cs : List Char) :
    skipFrom mode opened (c :: cs) = skipFrom .after opened' cs := by
  rw [skipFrom, h]
  cases opened' with
  | cons b opened => rfl
  | nil => cases cs <;> rfl

theorem skipFrom_blanks (hws : Blank ws)
    (h : ∀ c, isBlank c = true → skipStep opened c mode = .go mode opened) (cs : List Char) :
    skipFrom mode opened (ws ++ cs) = skipFrom mode opened cs := by
  induction ws with
  | nil => rfl
  | cons c ws ih =>
    obtain ⟨hc, hws⟩ := List.forall_mem_cons.mp hws
    rw [List.cons_append, skipFrom_go (h c (isBlank_iff.mpr hc)), ih hws]

theorem skipFrom_value_blanks (hws : Blank ws) (cs : List Char) :
    skipFrom .value opened (ws ++ cs) = skipFrom .value opened cs :=
  skipFrom_blanks hws (fun c hc => by simp [skipStep, Step.startValue, hc]) cs

theorem skipFrom_colon_blanks (hws : Blank ws) (cs : List Char) :
    skipFrom .colon opened (ws ++ cs) = skipFrom .colon opened cs :=
  skipFrom_blanks hws (fun c hc => by simp [skipStep, hc]) cs

theorem skipFrom_after_blanks {b : Bracket} (hws : Blank ws) (cs : List Char) :
    skipFrom .after (b :: opened) (ws ++ cs) = skipFrom .after (b :: opened) cs :=
  skipFrom_blanks hws (fun c hc => by simp [skipStep, Step.afterValue, hc]) cs

theorem skipFrom_hex {n : Nat} {hex : List Char} (h : Hex n hex) (isKey : Bool) (cs : List Char) :
    skipFrom (.escape isKey) opened ('u' :: (hex ++ cs)) = skipFrom (.text isKey) opened cs := by
  have hstep {i : Fin 16} {x : Char} (hx : x ∈ hexForms i) (left : Nat) (cs : List Char) :
      skipFrom (.hex isKey (left + 2)) opened (x :: cs) =
        skipFrom (.hex isKey (left + 1)) opened cs := by
    refine skipFrom_go ?_ cs
    simp [skipStep, hexValue?_of_mem hx]
  have hlast {i : Fin 16} {x : Char} (hx : x ∈ hexForms i) (cs : List Char) :
      skipFrom (.hex isKey 1) opened (x :: cs) = skipFrom (.text isKey) opened cs := by
    refine skipFrom_go ?_ cs
    simp [skipStep, hexValue?_of_mem hx]
  have hu : skipStep opened 'u' (.escape isKey) = .go (.hex isKey 4) opened := rfl
  obtain ⟨ha, hb, hc, hd⟩ := h
  rw [skipFrom_go hu]
  exact (hstep ha 2 _).trans ((hstep hb 1 _).trans ((hstep hc 0 _).trans (hlast hd _)))

/-- A key is followed by its colon, and a value that is a text has ended. -/
theorem skipFrom_text {cs body : List Char} (h : Quoted cs body) (isKey : Bool)
    (rest : List Char) : skipFrom (.text isKey) opened (body ++ '\x22' :: rest) =
      skipFrom (if isKey then .colon else .after) opened rest := by
  have hslash : skipStep opened '\x5c' (.text isKey) = .go (.escape isKey) opened := rfl
  induction h with
  | nil =>
    cases isKey with
    | true => exact skipFrom_go rfl rest
    | false => exact skipFrom_complete rfl rest
  | @plain c cs body hquote hback hlow _ ih =>
    have hstep : skipStep opened c (.text isKey) = .go (.text isKey) opened := by
      simp [skipStep, hquote, hback, Nat.not_lt.mpr hlow]
    rw [List.cons_append, skipFrom_go hstep, ih]
  | @short e c cs body hmem _ ih =>
    have hstep : skipStep opened e (.escape isKey) = .go (.text isKey) opened := by
      have htable : ∀ p ∈ escapes, p.1 ≠ 'u' := by decide
      simp [skipStep, htable _ hmem, shortEscape?_of_mem hmem]
    rw [List.cons_append, List.cons_append, skipFrom_go hslash, skipFrom_go hstep, ih]
  | unit hn _ ih =>
    rw [List.cons_append, List.cons_append, List.append_assoc, skipFrom_go hslash,
      skipFrom_hex hn, ih]
  | pair _ hhigh hlow _ ih =>
    simp only [List.cons_append, List.append_assoc]
    rw [skipFrom_go hslash, skipFrom_hex hhigh, skipFrom_go hslash, skipFrom_hex hlow, ih]

end Skip

section Number

variable {opened : List Bracket} {rest : List Char}

theorem skipFrom_number_end (hrest : Stops rest) {mode : Mode}
    (hmode : mode ∈ [Mode.zero, .digits, .fraction, .exponentDigits]) :
    skipFrom mode opened rest = skipFrom .after opened rest := by
  simp only [List.mem_cons, List.not_mem_nil, or_false] at hmode
  cases rest with
  | nil => rcases hmode with rfl | rfl | rfl | rfl <;> rfl
  | cons c cs =>
    obtain ⟨hdigit, hpoint, hmark⟩ := hrest.endsNumber c rfl
    simp only [isExponentMark, Bool.or_eq_false_iff, beq_eq_false_iff_ne] at hmark
    have hstep : skipStep opened c mode = skipStep opened c .after := by
      rcases hmode with rfl | rfl | rfl | rfl <;>
        simp [skipStep, Step.inNumber, hdigit, hpoint, hmark]
    rw [skipFrom, skipFrom, hstep]

theorem skipFrom_digits {ds : List Char} (hds : ∀ c ∈ ds, c.isDigit) {mode : Mode}
    (hmode : mode ∈ [Mode.digits, .fraction, .exponentDigits]) (rest : List Char) :
    skipFrom mode opened (ds ++ rest) = skipFrom mode opened rest := by
  simp only [List.mem_cons, List.not_mem_nil, or_false] at hmode
  induction ds with
  | nil => rfl
  | cons c ds ih =>
    obtain ⟨hc, hds⟩ := List.forall_mem_cons.mp hds
    have hstep : skipStep opened c mode = .go mode opened := by
      rcases hmode with rfl | rfl | rfl <;> simp [skipStep, Step.inNumber, hc]
    rw [List.cons_append, skipFrom_go hstep, ih hds]

/-- The digits that have to follow: the first one leads to the mode of the others. -/
theorem skipFrom_digits_of_first (digits : Digits) {start mode : Mode}
    (hmode : mode ∈ [Mode.digits, .fraction, .exponentDigits])
    (hfirst : ∀ c : Char, c.isDigit → skipStep opened c start = .go mode opened)
    (rest : List Char) :
    skipFrom start opened (digits.text ++ rest) = skipFrom mode opened rest := by
  obtain ⟨text, hne, hdigit⟩ := digits
  cases text with
  | nil => exact absurd rfl hne
  | cons c ds =>
    obtain ⟨hc, hds⟩ := List.forall_mem_cons.mp (List.all_eq_true.mp hdigit)
    rw [List.cons_append, skipFrom_go (hfirst c hc), skipFrom_digits hds hmode]

theorem skipFrom_exponent (e : Exponent) (hrest : Stops rest) {mode : Mode}
    (hmode : mode ∈ [Mode.zero, .digits, .fraction]) :
    skipFrom mode opened (e.mark :: (e.sign ++ (e.digits.text ++ rest))) =
      skipFrom .after opened rest := by
  have hmark : skipStep opened e.mark mode = .go .exponent opened := by
    have hmem := e.mark_mem
    simp only [List.mem_cons, List.not_mem_nil, or_false] at hmode hmem
    rcases hmode with rfl | rfl | rfl <;> rcases hmem with h | h <;> rw [h] <;> rfl
  have hsign : skipFrom .exponent opened (e.sign ++ (e.digits.text ++ rest)) =
      skipFrom .exponentDigits opened rest := by
    have hmem := e.sign_mem
    simp only [List.mem_cons, List.not_mem_nil, or_false] at hmem
    have hsigned : skipFrom .exponentSign opened (e.digits.text ++ rest) =
        skipFrom .exponentDigits opened rest :=
      skipFrom_digits_of_first e.digits (by simp) (fun c hc => by simp [skipStep, hc]) rest
    rcases hmem with h | h | h <;> rw [h]
    · refine skipFrom_digits_of_first e.digits (by simp) (fun c hc => ?_) rest
      have hsign : c ≠ '+' ∧ c ≠ '-' := by
        constructor <;> (rintro rfl; cases hc)
      simp [skipStep, hsign, hc]
    · exact hsigned
    · exact hsigned
  rw [skipFrom_go hmark, hsign, skipFrom_number_end hrest (by simp)]

theorem skipFrom_tail (n : Numeral) (hrest : Stops rest) {mode : Mode}
    (hmode : mode ∈ [Mode.zero, .digits]) :
    skipFrom mode opened (n.tail ++ rest) = skipFrom .after opened rest := by
  have hexponent {mode : Mode} (hmode : mode ∈ [Mode.zero, .digits, .fraction]) :
      skipFrom mode opened
        (n.exponent.elim [] (fun e => e.mark :: (e.sign ++ e.digits.text)) ++ rest) =
          skipFrom .after opened rest := by
    cases n.exponent with
    | none => exact skipFrom_number_end hrest (by grind)
    | some e => simpa using skipFrom_exponent e hrest hmode
  rw [Numeral.tail, List.append_assoc]
  cases n.places with
  | none => exact hexponent (by grind)
  | some digits =>
    have hpoint : skipStep opened '.' mode = .go .point opened := by
      simp only [List.mem_cons, List.not_mem_nil, or_false] at hmode
      rcases hmode with rfl | rfl <;> rfl
    rw [Option.elim_some, List.cons_append, skipFrom_go hpoint]
    have hplaces (rest : List Char) : skipFrom .point opened (digits.text ++ rest) =
        skipFrom .fraction opened rest :=
      skipFrom_digits_of_first digits (by simp) (fun c hc => by simp [skipStep, hc]) rest
    rw [hplaces, hexponent (by simp)]

/-- A whole number is a zero, or its digits start with another one. -/
theorem skipFrom_whole {start : Mode} (hstart : start ∈ [Mode.value, .minus]) (n : Nat)
    (rest : List Char) : ∃ mode ∈ [Mode.zero, .digits],
      skipFrom start opened (writeNat n ++ rest) = skipFrom mode opened rest := by
  simp only [List.mem_cons, List.not_mem_nil, or_false] at hstart
  have hdigits : ∀ c ∈ writeNat n, c.isDigit :=
    fun c hc => Nat.isDigit_of_mem_toDigits (by decide) (by decide) hc
  cases hn : writeNat n with
  | nil => exact absurd hn Nat.toDigits_ne_nil
  | cons c ds =>
    rw [hn] at hdigits
    obtain ⟨hc, hds⟩ := List.forall_mem_cons.mp hdigits
    by_cases hzero : c = '0'
    · subst hzero
      cases ds with
      | cons d ds => exact absurd hn (toDigits_ne_zero_cons n d ds)
      | nil =>
        refine ⟨.zero, by simp, skipFrom_go ?_ rest⟩
        rcases hstart with rfl | rfl <;> rfl
    · refine ⟨.digits, by simp, ?_⟩
      have hstep : skipStep opened c start = .go .digits opened := by
        have hblank := isBlank_of_isDigit hc
        have hne : c ≠ 'n' ∧ c ≠ 't' ∧ c ≠ 'f' ∧ c ≠ '\x22' ∧ c ≠ '[' ∧ c ≠ '\x7b' ∧ c ≠ '-' := by
          refine ⟨?_, ?_, ?_, ?_, ?_, ?_, ?_⟩ <;> (rintro rfl; cases hc)
        rcases hstart with rfl | rfl
        · simp [skipStep, Step.startValue, hblank, hne, hc]
        · simp [skipStep, hzero, hc]
      rw [List.cons_append, skipFrom_go hstep, skipFrom_digits hds (by simp)]

theorem skipFrom_numeral (n : Numeral) (hrest : Stops rest) :
    skipFrom .value opened (n.write ++ rest) = skipFrom .after opened rest := by
  have hwhole {start : Mode} (hstart : start ∈ [Mode.value, .minus]) :
      skipFrom start opened (writeNat n.whole ++ (n.tail ++ rest)) =
        skipFrom .after opened rest := by
    obtain ⟨mode, hmode, heq⟩ := skipFrom_whole hstart n.whole (n.tail ++ rest)
    rw [heq, skipFrom_tail n hrest hmode]
  rw [Numeral.write, List.append_assoc, List.append_assoc]
  cases n.negative with
  | false => exact hwhole (by simp)
  | true =>
    have hminus : skipStep opened '-' .value = .go .minus opened := rfl
    exact (skipFrom_go hminus _).trans (hwhole (by simp))

end Number

section Compound

variable {opened : List Bracket}

theorem skipFrom_word (w : Char) (ws : List Char) (rest : List Char) :
    skipFrom (.word (w :: ws)) opened (w :: ws ++ rest) = skipFrom .after opened rest := by
  induction ws generalizing w with
  | nil => exact skipFrom_complete (by simp [skipStep]) rest
  | cons w' ws ih => exact (skipFrom_go (by simp [skipStep]) _).trans (ih w')

/-- A reader that passes over the text is behind a value, whatever brackets are open. -/
def Passed (text : List Char) : Prop :=
  ∀ opened rest, Stops rest → skipFrom .value opened (text ++ rest) = skipFrom .after opened rest

section Brackets

/-- What the modes inside brackets have in common: one in front of the first item, one in front of
the others, and the closing bracket. -/
structure Inside (opened : List Bracket) (bracket : Bracket) (first start : Mode) (close : Char) :
    Prop where
  blank_first : ∀ c, isBlank c = true →
    skipStep (bracket :: opened) c first = .go first (bracket :: opened)
  blank_start : ∀ c, isBlank c = true →
    skipStep (bracket :: opened) c start = .go start (bracket :: opened)
  first_eq : ∀ c, isBlank c = false → c ≠ close →
    skipStep (bracket :: opened) c first = skipStep (bracket :: opened) c start
  close_first : skipStep (bracket :: opened) close first = .complete opened
  close_after : skipStep (bracket :: opened) close .after = .complete opened
  comma : skipStep (bracket :: opened) ',' .after = .go start (bracket :: opened)
  mem : close ∈ [',', ']', '\x7d']

theorem inside_list : Inside opened .list .firstValue .value ']' where
  blank_first c hc := by simp [skipStep, hc]
  blank_start c hc := by simp [skipStep, Step.startValue, hc]
  first_eq c hc hne := by simp [skipStep, hc, hne]
  close_first := rfl
  close_after := rfl
  comma := rfl
  mem := by decide

theorem inside_object : Inside opened .object .firstKey .key '\x7d' where
  blank_first c hc := by
    have hne : c ≠ '\x7d' := by
      rintro rfl
      cases hc
    simp [skipStep, Step.startKey, hc, hne]
  blank_start c hc := by simp [skipStep, Step.startKey, hc]
  first_eq c hc hne := by simp [skipStep, Step.startKey, hc, hne]
  close_first := rfl
  close_after := rfl
  comma := rfl
  mem := by decide

variable {bracket : Bracket} {first start : Mode} {close : Char}

namespace Inside

theorem skipFrom_empty (h : Inside opened bracket first start close) {ws : List Char}
    (hws : Blank ws) (rest : List Char) :
    skipFrom first (bracket :: opened) (ws ++ close :: rest) = skipFrom .after opened rest := by
  rw [skipFrom_blanks hws h.blank_first, skipFrom_complete h.close_first]

variable {α : Type} {P : α → List Char → Prop} {xs : List α} {text : List Char} {n : Nat}

theorem skipFrom_rest (h : Inside opened bracket first start close)
    (hP : ∀ x t, P x t → t.length ≤ n → ∀ rest, Stops rest →
      skipFrom start (bracket :: opened) (t ++ rest) = skipFrom .after (bracket :: opened) rest)
    (hitems : Items P xs text) (hn : text.length ≤ n) (rest : List Char) :
    skipFrom start (bracket :: opened) (text ++ close :: rest) = skipFrom .after opened rest := by
  induction hitems with
  | @one x ws t ws' hws hx hws' =>
    simp only [List.length_append] at hn
    simp only [List.append_assoc]
    rw [skipFrom_blanks hws h.blank_start,
      hP x t hx (by omega) _ (hws'.stops_append (stops_cons h.mem rest)),
      skipFrom_after_blanks hws', skipFrom_complete h.close_after]
  | @more x xs ws t ws' more hws hx hws' _ ih =>
    simp only [List.length_append, List.length_cons] at hn
    simp only [List.append_assoc, List.cons_append]
    rw [skipFrom_blanks hws h.blank_start,
      hP x t hx (by omega) _ (hws'.stops_append (stops_cons (by simp) _)),
      skipFrom_after_blanks hws', skipFrom_go h.comma, ih (by omega)]

theorem skipFrom_items (h : Inside opened bracket first start close)
    (hhead : ∀ x t, P x t → ∃ c cs, t = c :: cs ∧ isBlank c = false ∧ c ≠ close)
    (hP : ∀ x t, P x t → t.length ≤ n → ∀ rest, Stops rest →
      skipFrom start (bracket :: opened) (t ++ rest) = skipFrom .after (bracket :: opened) rest)
    (hitems : Items P xs text) (hn : text.length ≤ n) (rest : List Char) :
    skipFrom first (bracket :: opened) (text ++ close :: rest) = skipFrom .after opened rest := by
  rw [← h.skipFrom_rest hP hitems hn rest]
  obtain ⟨ws, c, cs, hws, rfl, hblank, hne⟩ := hitems.head hhead
  rw [List.append_assoc, skipFrom_blanks hws h.blank_first, skipFrom_blanks hws h.blank_start,
    List.cons_append, skipFrom, skipFrom, h.first_eq c hblank hne]

end Inside

end Brackets

theorem skipFrom_member {m : String × Datum} {text : List Char} (h : Member Spells m text)
    (hpassed : ∀ v t, Spells v t → t.length ≤ text.length → Passed t) {rest : List Char}
    (hrest : Stops rest) : skipFrom .key opened (text ++ rest) = skipFrom .after opened rest := by
  obtain ⟨hkey, hws, hws', hx⟩ := h
  have hquote : skipStep opened '\x22' .key = .go (.text true) opened := rfl
  have hcolon : skipStep opened ':' .colon = .go .value opened := rfl
  have hvalue := hpassed _ _ hx (by simp only [List.length_cons, List.length_append]; omega)
  simp only [List.cons_append, List.append_assoc]
  rw [skipFrom_go hquote, skipFrom_text hkey, if_pos rfl, skipFrom_colon_blanks hws,
    skipFrom_go hcolon, skipFrom_value_blanks hws', hvalue _ _ hrest]

/-- Passing over a value works at every depth, so the induction is on the length of its text. -/
theorem passed_of_length (n : Nat) : ∀ v text, Spells v text → text.length ≤ n → Passed text := by
  induction n with
  | zero =>
    intro v text h hn
    obtain ⟨c, cs, rfl, -⟩ := h.starts
    exact absurd hn (Nat.not_succ_le_zero _)
  | succ n ih =>
    intro v text h hn opened rest hrest
    cases h with
    | null => exact (skipFrom_go rfl _).trans (skipFrom_word 'u' ['l', 'l'] rest)
    | yes => exact (skipFrom_go rfl _).trans (skipFrom_word 'r' ['u', 'e'] rest)
    | no => exact (skipFrom_go rfl _).trans (skipFrom_word 'a' ['l', 's', 'e'] rest)
    | number m => exact skipFrom_numeral m hrest
    | text hbody =>
      have hquote : skipStep opened '\x22' .value = .go (.text false) opened := rfl
      simp only [List.cons_append, List.append_assoc, List.nil_append]
      rw [skipFrom_go hquote, skipFrom_text hbody]
      rfl
    | emptyList hws =>
      have hopen : skipStep opened '[' .value = .go .firstValue (.list :: opened) := rfl
      simp only [List.cons_append, List.append_assoc, List.nil_append]
      rw [skipFrom_go hopen, inside_list.skipFrom_empty hws]
    | list hitems =>
      have hopen : skipStep opened '[' .value = .go .firstValue (.list :: opened) := rfl
      simp only [List.length_cons, List.length_append] at hn
      simp only [List.cons_append, List.append_assoc, List.nil_append]
      rw [skipFrom_go hopen]
      exact inside_list.skipFrom_items (fun v t hv => hv.opens)
        (fun v t hv ht => ih v t hv (by omega) _) hitems (Nat.le_refl _) rest
    | emptyObject hws =>
      have hopen : skipStep opened '\x7b' .value = .go .firstKey (.object :: opened) := rfl
      simp only [List.cons_append, List.append_assoc, List.nil_append]
      rw [skipFrom_go hopen, inside_object.skipFrom_empty hws]
    | object hmembers =>
      have hopen : skipStep opened '\x7b' .value = .go .firstKey (.object :: opened) := rfl
      simp only [List.length_cons, List.length_append] at hn
      simp only [List.cons_append, List.append_assoc, List.nil_append]
      rw [skipFrom_go hopen]
      refine inside_object.skipFrom_items (fun m t hm => ?_) (fun m t hm ht rest hrest => ?_)
        hmembers (Nat.le_refl _) rest
      · cases hm
        exact ⟨_, _, rfl, rfl, by decide⟩
      · exact skipFrom_member hm (fun v u hu hle => ih v u hu (by omega)) hrest

/-- Whatever value stands there, it is passed over to its end. -/
theorem Spells.skipValue_eq {v : Datum} {text : List Char} (h : Spells v text) {ws rest : List Char}
    (hws : Blank ws) (hrest : Stops rest) : skipValue (ws ++ (text ++ rest)) = .ok rest := by
  have hafter : skipFrom .after [] rest = .ok rest := by cases rest <;> rfl
  rw [Json.skipValue, skipFrom_value_blanks hws,
    passed_of_length text.length v text h (Nat.le_refl _) [] rest hrest, hafter]

end Compound

end DocPages.Json
