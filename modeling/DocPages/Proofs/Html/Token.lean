import DocPages.Proofs.Text.Escaped

/-! A reader for markup: tags, quoted attributes, character references, and scripts, whose content
is raw. It takes one character at a time, so what it makes of a text is put together from what it
makes of the parts. Escaped text never leaves the place it was put into. -/

namespace DocPages.Html

abbrev Attrs : Type := List (String × String)

inductive Token where
  | char (c : Char)
  | void (name : String) (attrs : Attrs)
  | opening (name : String) (attrs : Attrs)
  | closing (name : String)
  deriving DecidableEq, Repr

/-- A tag that is being read. -/
structure Tag where
  isClosing : Bool
  name : List Char
  attrs : Attrs
  deriving DecidableEq, Repr

inductive Mode where
  | data
  | reference (seen : List Char)
  | tagOpen
  | closingOpen
  | declaration
  | tagName (tag : Tag)
  | gap (tag : Tag)
  | attrName (tag : Tag) (name : List Char)
  | valueOpen (tag : Tag) (name : List Char)
  | value (tag : Tag) (name : List Char) (quote : Char) (value : List Char)
  | valueReference (tag : Tag) (name : List Char) (quote : Char) (value seen : List Char)
  /-- Inside a script; `seen` is the start of what may be its closing tag. -/
  | raw (seen : List Char)
  deriving DecidableEq, Repr

def isBlank (c : Char) : Bool := [' ', '\t', '\n', '\x0c', '\r'].contains c

/-- Elements without content. -/
def voidNames : List String :=
  ["area", "base", "br", "col", "embed", "hr", "img", "input", "link", "meta", "source", "track",
    "wbr"]

def charOfCode (n : Nat) : Char :=
  if n.isValidChar ∧ n ≠ 0 then Char.ofNat n else '\ufffd'

def isReferenceChar (c : Char) : Bool := c.isAlphanum || c == '#'

def digitValue? (base : Nat) (c : Char) : Option Nat :=
  let n :=
    if c.isDigit then c.toNat - '0'.toNat
    else if c.isAlpha then c.toLower.toNat - 'a'.toNat + 10
    else base
  if n < base then some n else none

def codeOf (base : Nat) (digits : List Char) : Option Nat :=
  if digits.isEmpty then none
  else digits.foldlM (fun n d => (digitValue? base d).map (base * n + ·)) 0

/-- The character that a reference stands for. -/
def referred? (name : List Char) : Option Char :=
  if name = ['a', 'm', 'p'] then some '&'
  else if name = ['l', 't'] then some '<'
  else if name = ['g', 't'] then some '>'
  else if name = ['q', 'u', 'o', 't'] then some '\x22'
  else if name = ['a', 'p', 'o', 's'] then some '\x27'
  else match name with
    | '#' :: 'x' :: digits => (codeOf 16 digits).map charOfCode
    | '#' :: digits => (codeOf 10 digits).map charOfCode
    | _ => none

/-- What a finished reference is read as; an unknown one is text. -/
def resolve (name : List Char) : List Char :=
  match referred? name with
  | some c => [c]
  | none => '&' :: name ++ [';']

namespace Tag

def add (tag : Tag) (name value : List Char) : Tag :=
  { tag with attrs := tag.attrs ++ [(String.ofList name, String.ofList value)] }

/-- The token of a complete tag, and where the reader is behind it. -/
def finish (tag : Tag) : List Token × Mode :=
  let name := String.ofList tag.name
  if tag.isClosing then ([.closing name], .data)
  else if voidNames.contains name then ([.void name tag.attrs], .data)
  else ([.opening name tag.attrs], if name = "script" then .raw [] else .data)

end Tag

def chars (cs : List Char) : List Token := cs.map .char

def stepData (c : Char) : List Token × Mode :=
  if c = '<' then ([], .tagOpen)
  else if c = '&' then ([], .reference [])
  else ([.char c], .data)

def endsName (c : Char) : Bool := isBlank c || c == '/' || c == '>'

def stepGap (tag : Tag) (c : Char) : Option (List Token × Mode) :=
  if c = '>' then some tag.finish
  else if endsName c then some ([], .gap tag)
  else if ['\x22', '\x27', '<', '='].contains c then none
  else some ([], .attrName tag [c.toLower])

def stepValue (tag : Tag) (name : List Char) (quote : Char) (value : List Char) (c : Char) : Mode :=
  if c = quote then .gap (tag.add name value)
  else if c = '&' then .valueReference tag name quote value []
  else .value tag name quote (value ++ [c])

def script : List Char := ['s', 'c', 'r', 'i', 'p', 't']

def startsEnd : List Char → Bool
  | '<' :: '/' :: name => (name.map Char.toLower).isPrefixOf script
  | _ => false

def stepRaw (seen : List Char) (c : Char) : Option (List Token × Mode) :=
  -- A `<` always starts anew, as a closing tag has no other.
  if c = '<' then some (chars seen, .raw [c])
  else if seen.map Char.toLower = '<' :: '/' :: script ∧ endsName c then
    stepGap ⟨true, script, []⟩ c
  else if startsEnd (seen ++ [c]) then some ([], .raw (seen ++ [c]))
  else some (chars (seen ++ [c]), .raw [])

/-- What one character does. There is no next mode where a reader would have to mend the text.
Characters are taken as they come: newlines have been normalised before, and U+0000 is data like any
other character, where a browser drops or replaces it. -/
def step : Mode → Char → Option (List Token × Mode)
  | .data, c => some (stepData c)
  | .reference seen, c =>
    if c = ';' then some (chars (resolve seen), .data)
    else if isReferenceChar c then some ([], .reference (seen ++ [c]))
    else some (chars ('&' :: seen) ++ (stepData c).1, (stepData c).2)
  | .tagOpen, c =>
    if c = '/' then some ([], .closingOpen)
    else if c = '!' then some ([], .declaration)
    else if c = '?' then none
    else if c.isAlpha then some ([], .tagName ⟨false, [c.toLower], []⟩)
    else some (.char '<' :: (stepData c).1, (stepData c).2)
  | .closingOpen, c => if c.isAlpha then some ([], .tagName ⟨true, [c.toLower], []⟩) else none
  | .declaration, c =>
    if c = '>' then some ([], .data) else if c = '-' then none else some ([], .declaration)
  | .tagName tag, c =>
    if endsName c then stepGap tag c
    else some ([], .tagName { tag with name := tag.name ++ [c.toLower] })
  | .gap tag, c => stepGap tag c
  | .attrName tag name, c =>
    if c = '=' then some ([], .valueOpen tag name)
    else if endsName c then stepGap (tag.add name []) c
    else some ([], .attrName tag (name ++ [c.toLower]))
  | .valueOpen tag name, c =>
    if isBlank c then some ([], .valueOpen tag name)
    else if c = '\x22' ∨ c = '\x27' then some ([], .value tag name c [])
    else none
  | .value tag name quote value, c => some ([], stepValue tag name quote value c)
  | .valueReference tag name quote value seen, c =>
    if c = ';' then some ([], .value tag name quote (value ++ resolve seen))
    else if isReferenceChar c then some ([], .valueReference tag name quote value (seen ++ [c]))
    else some ([], stepValue tag name quote (value ++ '&' :: seen) c)
  | .raw seen, c => stepRaw seen c

def run (m : Mode) : List Char → Option (List Token × Mode)
  | [] => some ([], m)
  | c :: cs => (step m c).bind fun x => (run x.2 cs).map fun y => (x.1 ++ y.1, y.2)

/-- The tokens of a text that is read from data back to data. -/
def tokenize (s : String) : Option (List Token) :=
  match run .data s.toList with
  | some (ts, .data) => some ts
  | _ => none

example : tokenize "<P\tTitle='&quot;'>a < b &amp; c&d;<br/></p >" = some
    (.opening "p" [("title", "\"")] :: chars "a < b & c&d;".toList ++
      [.void "br" [], .closing "p"]) := by
  decide +kernel

/-- Inside a quoted attribute value of an opening tag. -/
def Mode.inValue (tag : String) (attrs : Attrs) (attr : String) (value : List Char) : Mode :=
  .value ⟨false, tag.toList, attrs⟩ attr.toList '\x22' value

def Runs (m : Mode) (s : String) (ts : List Token) (m' : Mode) : Prop :=
  run m s.toList = some (ts, m')

section Runs

variable {m m' m'' : Mode} {ts us : List Token}

theorem run_append (m : Mode) (as bs : List Char) :
    run m (as ++ bs) =
      (run m as).bind fun x => (run x.2 bs).map fun y => (x.1 ++ y.1, y.2) := by
  induction as generalizing m with
  | nil => simp [run]
  | cons c as ih =>
    simp only [List.cons_append, run, ih]
    cases step m c with
    | none => rfl
    | some x =>
      simp only [Option.bind_some]
      cases run x.2 as with
      | none => rfl
      | some y => simp [Function.comp_def]

theorem Runs.append {a b : String} (ha : Runs m a ts m') (hb : Runs m' b us m'') :
    Runs m (a ++ b) (ts ++ us) m'' := by
  have hrun := run_append m a.toList b.toList
  rw [ha, Option.bind_some, hb] at hrun
  rw [Runs, String.toList_append]
  exact hrun

theorem Runs.assoc {a b c : String} (h : Runs m (a ++ (b ++ c)) ts m') :
    Runs m (a ++ b ++ c) ts m' := by
  rw [String.append_assoc]
  exact h

theorem Runs.of_eq {s : String} (h : Runs m s ts m') (heq : ts = us) : Runs m s us m' := heq ▸ h

theorem Runs.text {cs : List Char} (h : run m cs = some (ts, m')) :
    Runs m (String.ofList cs) ts m' := by
  rw [Runs, String.toList_ofList]
  exact h

theorem tokenize_eq_some_iff {s : String} : tokenize s = some ts ↔ Runs .data s ts .data := by
  rw [tokenize, Runs]
  constructor
  · intro h
    split at h
    · rename_i us heq
      rw [heq, Option.some.inj h]
    · cases h
  · intro h
    rw [h]

end Runs

section Escaped

theorem chars_toList_append (a b c : String) :
    chars (a ++ b ++ c).toList = chars a.toList ++ chars b.toList ++ chars c.toList := by
  rw [String.toList_append, String.toList_append]
  simp only [chars, List.map_append]

theorem run_textChar (c : Char) : run .data (textChar c) = some ([.char c], .data) := by
  fun_cases textChar c
  all_goals try (rw [String.toList_ofList]; rfl)
  rename_i hamp hlt _
  have hdata : stepData c = ([.char c], .data) := by rw [stepData, if_neg hlt, if_neg hamp]
  simp [run, step, hdata]

theorem runs_escapeText (s : String) : Runs .data (escapeText s) (chars s.toList) .data := by
  have hrun (cs : List Char) : run .data (cs.flatMap textChar) = some (chars cs, .data) := by
    induction cs with
    | nil => rfl
    | cons c cs ih =>
      rw [List.flatMap_cons, run_append, run_textChar, Option.bind_some, ih]
      rfl
  exact .text (hrun s.toList)

theorem run_attrChar (tag : Tag) (name value : List Char) (c : Char) :
    run (.value tag name '\x22' value) (attrChar c) =
      some ([], .value tag name '\x22' (value ++ [c])) := by
  fun_cases attrChar c
  all_goals try (rw [String.toList_ofList]; rfl)
  rename_i hamp _ _ hquote _
  have hvalue : stepValue tag name '\x22' value c = .value tag name '\x22' (value ++ [c]) := by
    rw [stepValue, if_neg hquote, if_neg hamp]
  simp [run, step, hvalue]

theorem runs_escapeAttr_append (tag : String) (attrs : Attrs) (attr : String) (value : List Char)
    (s : String) : Runs (.inValue tag attrs attr value) (escapeAttr s) []
      (.inValue tag attrs attr (value ++ s.toList)) := by
  have hrun (tag : Tag) (name value cs : List Char) :
      run (.value tag name '\x22' value) (cs.flatMap attrChar) =
        some ([], .value tag name '\x22' (value ++ cs)) := by
    induction cs generalizing value with
    | nil => simp [run]
    | cons c cs ih =>
      rw [List.flatMap_cons, run_append, run_attrChar, Option.bind_some, ih]
      simp
  exact .text (hrun _ _ value s.toList)

theorem runs_escapeAttr (tag : String) (attrs : Attrs) (attr s : String) :
    Runs (.inValue tag attrs attr []) (escapeAttr s) [] (.inValue tag attrs attr s.toList) :=
  runs_escapeAttr_append tag attrs attr [] s

theorem runs_plainText {s : String} (h : escapeText s = s) :
    Runs .data s (chars s.toList) .data := by
  have hruns := runs_escapeText s
  rwa [h] at hruns

theorem runs_plainAttr (tag : String) (attrs : Attrs) (attr : String) (value : List Char)
    {s : String} (h : escapeAttr s = s) :
    Runs (.inValue tag attrs attr value) s [] (.inValue tag attrs attr (value ++ s.toList)) := by
  have hruns := runs_escapeAttr_append tag attrs attr value s
  rwa [h] at hruns

end Escaped

section Raw

theorem step_raw_nil {c : Char} (hc : c ≠ '<') :
    step (.raw []) c = some ([.char c], .raw []) := by
  have hstart : startsEnd [c] = false := by
    unfold startsEnd
    simp
  simp [step, stepRaw, hc, hstart, chars]

theorem step_raw_open {c : Char} (hc : c ≠ '<') (hslash : c ≠ '/') :
    step (.raw ['<']) c = some (chars ['<', c], .raw []) := by
  have hstart : startsEnd ['<', c] = false := by
    unfold startsEnd
    simp [hslash]
  simp [step, stepRaw, hc, script, hstart]

theorem step_raw_restart (seen : List Char) :
    step (.raw seen) '<' = some (chars seen, .raw ['<']) :=
  rfl

/-- Raw text without the start of a closing tag is passed over. -/
theorem run_raw {cs : List Char} (h : Lacks '<' '/' cs) (seen rest : List Char)
    (hseen : seen = [] ∨ seen = ['<'] ∧ cs.head? ≠ some '/') :
    run (.raw seen) (cs ++ '<' :: rest) =
      (run (.raw ['<']) rest).map fun y => (chars (seen ++ cs) ++ y.1, y.2) := by
  -- A `<` is held back until the next character tells that no closing tag starts with it.
  induction cs generalizing seen with
  | nil =>
    rw [List.nil_append, List.append_nil, run, step_raw_restart]
    rfl
  | cons c cs ih =>
    have hrest : Lacks '<' '/' cs := List.IsChain.tail h
    by_cases hc : c = '<'
    · subst hc
      rw [List.cons_append, run, step_raw_restart, Option.bind_some,
        ih hrest ['<'] (.inr ⟨rfl, h.head?_ne⟩)]
      simp [chars, Function.comp_def]
    · rcases hseen with rfl | ⟨rfl, hslash⟩
      · rw [List.cons_append, run, step_raw_nil hc, Option.bind_some, ih hrest [] (.inl rfl)]
        simp [chars, Function.comp_def]
      · have hne : c ≠ '/' := fun heq => hslash (congrArg some heq)
        rw [List.cons_append, run, step_raw_open hc hne, Option.bind_some,
          ih hrest [] (.inl rfl)]
        simp [chars, Function.comp_def]

theorem Runs.raw {s : String} (h : '<' ∉ s.toList) :
    Runs (.raw []) s (chars s.toList) (.raw []) := by
  rw [Runs]
  generalize s.toList = cs at h ⊢
  induction cs with
  | nil => rfl
  | cons c cs ih =>
    rw [List.mem_cons, not_or] at h
    rw [run, step_raw_nil (Ne.symm h.1), Option.bind_some, ih h.2]
    rfl

theorem Runs.script {s : String} (h : Lacks '<' '/' s.toList) :
    Runs (.raw []) (s ++ "</script>") (chars s.toList ++ [.closing "script"]) .data := by
  have hclose : "</script>".toList = '<' :: "/script>".toList := by
    repeat rw [String.toList_ofList]
  have hend : run (.raw ['<']) "/script>".toList = some ([.closing "script"], .data) := by
    rw [String.toList_ofList]
    rfl
  rw [Runs, String.toList_append, hclose, run_raw h [] _ (.inl rfl), hend]
  rfl

end Raw

end DocPages.Html
