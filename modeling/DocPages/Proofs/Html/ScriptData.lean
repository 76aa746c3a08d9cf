import DocPages.Proofs.Html.Token

/-! The text of a script element as a browser finds its end. Behind `<!--` the text counts as
escaped, and behind a `<script` in escaped text as doubly escaped: there `</script` closes the inner
script only, and the element goes on. -/

namespace DocPages.Html.ScriptData

inductive Level where
  | plain
  | escaped
  | doubly
  deriving DecidableEq, Repr

/-- Modes that are common to several levels carry theirs. -/
inductive Mode where
  | text (level : Level)
  | dash (level : Level)
  | dashes (level : Level)
  | lessThan (level : Level)
  | endTagOpen (level : Level)
  | endTagName (level : Level) (name : List Char)
  | escapeStart
  | escapeStartDash
  | doubleEscapeStart (name : List Char)
  | doubleEscapeEnd (name : List Char)
  deriving DecidableEq, Repr

def Mode.level : Mode → Level
  | .text level | .dash level | .dashes level | .lessThan level | .endTagOpen level
  | .endTagName level _ => level
  | .escapeStart | .escapeStartDash => .plain
  | .doubleEscapeStart _ => .escaped
  | .doubleEscapeEnd _ => .doubly

/-- What has been taken but does not count as text yet. -/
def Mode.held : Mode → List Char
  | .lessThan .plain | .lessThan .escaped => ['<']
  | .endTagOpen _ => ['<', '/']
  | .endTagName _ name => '<' :: '/' :: name
  | _ => []

/-- The character as it is shown. -/
def shown (c : Char) : Char := if c = '\x00' then '\ufffd' else c

def isScript (name : List Char) : Bool := name.map Char.toLower == script

/-- The text that a character adds, and where the reader is behind it. -/
def stepText (level : Level) (c : Char) : List Char × Mode :=
  if c = '<' then (if level = .doubly then ['<'] else [], .lessThan level)
  else if c = '-' ∧ level ≠ .plain then (['-'], .dash level)
  else ([shown c], .text level)

/-- What was held back is text after all. -/
def release (held : List Char) (level : Level) (c : Char) : List Char × Mode :=
  (held ++ (stepText level c).1, (stepText level c).2)

/-- There is no next mode behind the name of the closing tag. -/
def step : Mode → Char → Option (List Char × Mode)
  | .text level, c => some (stepText level c)
  | .dash level, c => some (if c = '-' then (['-'], .dashes level) else stepText level c)
  | .dashes level, c =>
    some (if c = '-' then (['-'], .dashes level)
      else if c = '>' then (['>'], .text .plain)
      else stepText level c)
  | .lessThan .plain, c =>
    some (if c = '/' then ([], .endTagOpen .plain)
      else if c = '!' then (['<', '!'], .escapeStart)
      else release ['<'] .plain c)
  | .lessThan .escaped, c =>
    some (if c = '/' then ([], .endTagOpen .escaped)
      else if c.isAlpha then (['<', c], .doubleEscapeStart [c])
      else release ['<'] .escaped c)
  | .lessThan .doubly, c =>
    some (if c = '/' then (['/'], .doubleEscapeEnd []) else stepText .doubly c)
  | .endTagOpen level, c =>
    some (if c.isAlpha then ([], .endTagName level [c]) else release ['<', '/'] level c)
  | .endTagName level name, c =>
    if endsName c ∧ isScript name then none
    else if c.isAlpha then some ([], .endTagName level (name ++ [c]))
    else some (release ('<' :: '/' :: name) level c)
  | .escapeStart, c => some (if c = '-' then (['-'], .escapeStartDash) else stepText .plain c)
  | .escapeStartDash, c =>
    some (if c = '-' then (['-'], .dashes .escaped) else stepText .plain c)
  | .doubleEscapeStart name, c =>
    some (if endsName c then ([c], .text (if isScript name then .doubly else .escaped))
      else if c.isAlpha then ([c], .doubleEscapeStart (name ++ [c]))
      else stepText .escaped c)
  | .doubleEscapeEnd name, c =>
    some (if endsName c then ([c], .text (if isScript name then .escaped else .doubly))
      else if c.isAlpha then ([c], .doubleEscapeEnd (name ++ [c]))
      else stepText .doubly c)

def run (m : Mode) : List Char → Option (List Char × Mode)
  | [] => some ([], m)
  | c :: cs => (step m c).bind fun x => (run x.2 cs).map fun y => (x.1 ++ y.1, y.2)

/-- The text of the element and what follows the name of its closing tag; nothing if it is not
closed. -/
def scriptText (m : Mode) : List Char → Option (List Char × List Char)
  | [] => none
  | c :: cs =>
    match step m c with
    | none => some ([], c :: cs)
    | some (text, m) => (scriptText m cs).map fun x => (text ++ x.1, x.2)

example : scriptText (.text .plain) "<!--</scripts><!</SCRIPT >".toList =
    some ("<!--</scripts><!".toList, " >".toList) := by
  decide +kernel

example : scriptText (.text .plain) "<!-- <script></script>--></script>".toList =
    some ("<!-- <script></script>-->".toList, ">".toList) := by
  decide +kernel

section Kept

theorem stepText_held (level : Level) {c : Char} (hc : c ≠ '\x00') :
    (stepText level c).1 ++ (stepText level c).2.held = [c] := by
  unfold stepText
  split
  · rename_i h
    subst h
    cases level <;> rfl
  · split
    · rename_i h
      rw [h.1]
      rfl
    · simp [Mode.held, shown, hc]

variable {m m' : Mode} {text : List Char}

/-- Nothing that is taken gets lost. -/
theorem step_held {c : Char} (hc : c ≠ '\x00') (h : step m c = some (text, m')) :
    text ++ m'.held = m.held ++ [c] := by
  have htext (level : Level) := stepText_held level hc
  unfold step at h
  repeat' split at h
  all_goals simp only [Option.some.injEq, Prod.ext_iff, reduceCtorEq] at h
  all_goals
    obtain ⟨rfl, rfl⟩ := h
    simp_all [Mode.held, release]

theorem run_held {cs : List Char} (hcs : '\x00' ∉ cs) (h : run m cs = some (text, m')) :
    text ++ m'.held = m.held ++ cs := by
  induction cs generalizing m text with
  | nil =>
    cases h
    simp
  | cons c cs ih =>
    rw [List.mem_cons, not_or] at hcs
    rw [run, Option.bind_eq_some_iff] at h
    obtain ⟨⟨first, mid⟩, hstep, hrest⟩ := h
    obtain ⟨⟨second, last⟩, hrun, heq⟩ := Option.map_eq_some_iff.mp hrest
    cases heq
    have hfirst := step_held (Ne.symm hcs.1) hstep
    rw [List.append_assoc, ih hcs.2 hrun, ← List.append_assoc, hfirst, List.append_assoc]
    rfl

theorem scriptText_append {cs : List Char} (h : run m cs = some (text, m')) (rest : List Char) :
    scriptText m (cs ++ rest) = (scriptText m' rest).map fun x => (text ++ x.1, x.2) := by
  induction cs generalizing m text with
  | nil =>
    cases h
    simp
  | cons c cs ih =>
    rw [run, Option.bind_eq_some_iff] at h
    obtain ⟨⟨first, mid⟩, hstep, hrest⟩ := h
    obtain ⟨⟨second, last⟩, hrun, heq⟩ := Option.map_eq_some_iff.mp hrest
    cases heq
    rw [List.cons_append, scriptText, hstep]
    simp only [ih hrun, Option.map_map, Function.comp_def, List.append_assoc]

end Kept

section Inside

/-- No closing tag has been begun. -/
def Mode.Inside : Mode → Prop
  | .endTagOpen _ | .endTagName _ _ | .doubleEscapeEnd _ => False
  | _ => True

/-- A slash would begin one. -/
def Mode.Opened : Mode → Prop
  | .lessThan _ => True
  | _ => False

theorem stepText_inside (level : Level) (c : Char) :
    (stepText level c).2.Inside ∧ ((stepText level c).2.Opened → c = '<') := by
  unfold stepText
  repeat' split
  all_goals simp_all [Mode.Inside, Mode.Opened]

variable {m : Mode}

theorem step_inside {c : Char} (hm : m.Inside) (hslash : m.Opened → c ≠ '/') :
    ∃ x, step m c = some x ∧ x.2.Inside ∧ (x.2.Opened → c = '<') := by
  have htext (level : Level) := stepText_inside level c
  unfold step
  split
  all_goals try exact hm.elim
  all_goals
    refine ⟨_, rfl, ?_⟩
    repeat' split
  all_goals first
    | exact htext _
    | simp_all [Mode.Inside, Mode.Opened]

theorem run_inside {cs : List Char} (hcs : Lacks '<' '/' cs) (hm : m.Inside)
    (hslash : m.Opened → cs.head? ≠ some '/') : ∃ x, run m cs = some x ∧ x.2.Inside := by
  induction cs generalizing m with
  | nil => exact ⟨_, rfl, hm⟩
  | cons c cs ih =>
    have hc : m.Opened → c ≠ '/' := by simpa using hslash
    obtain ⟨x, hstep, hx, hopened⟩ := step_inside hm hc
    have hhead : x.2.Opened → cs.head? ≠ some '/' := by
      intro h
      obtain rfl := hopened h
      exact hcs.head?_ne
    obtain ⟨y, hrun, hy⟩ := ih (List.IsChain.tail hcs) hx hhead
    refine ⟨(x.1 ++ y.1, y.2), ?_, hy⟩
    rw [run, hstep, Option.bind_some, hrun]
    rfl

theorem step_lessThan (hm : m.Inside) :
    step m '<' =
      some (m.held ++ (if m.level = .doubly then ['<'] else []), .lessThan m.level) := by
  cases m with
  | endTagOpen | endTagName | doubleEscapeEnd => exact hm.elim
  | lessThan level => cases level <;> rfl
  | _ => rfl

theorem scriptText_close (hm : m.Inside) (rest : List Char) :
    scriptText m ("</script".toList ++ '>' :: rest) =
      if m.level = .doubly then
        (scriptText (.text .escaped) rest).map fun x => (m.held ++ "</script>".toList ++ x.1, x.2)
      else some (m.held, '>' :: rest) := by
  have hmark : "</script".toList = '<' :: "/script".toList := by
    repeat rw [String.toList_ofList]
  have hclosed {level : Level} (h : level ≠ .doubly) :
      scriptText (.lessThan level) ("/script".toList ++ '>' :: rest) = some ([], '>' :: rest) := by
    rw [String.toList_ofList]
    cases level with
    | plain | escaped => rfl
    | doubly => exact absurd rfl h
  have hinner : run (.lessThan .doubly) ("/script".toList ++ ['>']) =
      some ("/script>".toList, .text .escaped) := by
    repeat rw [String.toList_ofList]
    rfl
  have hwhole : "</script>".toList = '<' :: "/script>".toList := by
    repeat rw [String.toList_ofList]
  rw [hmark, List.cons_append, scriptText, step_lessThan hm]
  simp only
  split
  · rename_i hlevel
    have hbracket : '>' :: rest = ['>'] ++ rest := rfl
    rw [hlevel, hbracket, ← List.append_assoc, scriptText_append hinner, hwhole, Option.map_map]
    simp [Function.comp_def]
  · rename_i hlevel
    rw [hclosed hlevel]
    simp

/-- The element ends at the closing tag behind a text, unless the text ends doubly escaped. Then the
tag is a part of what the element holds. -/
theorem scriptText_of_run {text rest : List Char} {x : List Char × Mode} (htext : '\x00' ∉ text)
    (hrun : run (.text .plain) text = some x) (hx : x.2.Inside) :
    scriptText (.text .plain) (text ++ ("</script".toList ++ '>' :: rest)) =
      if x.2.level = .doubly then
        (scriptText (.text .escaped) rest).map fun y => (text ++ "</script>".toList ++ y.1, y.2)
      else some (text, '>' :: rest) := by
  have hheld : x.1 ++ x.2.held = text := run_held htext hrun
  rw [scriptText_append hrun, scriptText_close hx]
  split
  · simp [Option.map_map, Function.comp_def, ← hheld]
  · simp [hheld]

end Inside

end DocPages.Html.ScriptData
