import DocPages.Proofs.Html.Token

/-! Markup as a forest. A text is read as a forest exactly if its tokens are those of the forest, so
a forest whose tags are closed in order is the only one that a text stands for. -/

namespace DocPages.Html

inductive Node where
  | char (c : Char)
  | void (name : String) (attrs : Attrs)
  | element (name : String) (attrs : Attrs) (children : List Node)
  deriving Repr

theorem Node.induction_forest {P : List Node → Prop} (nil : P [])
    (char : ∀ c ns, P ns → P (.char c :: ns))
    (void : ∀ name attrs ns, P ns → P (.void name attrs :: ns))
    (element : ∀ name attrs children ns, P children → P ns → P (.element name attrs children :: ns))
    (ns : List Node) : P ns :=
  @Node.rec_1 (fun n => ∀ ns, P ns → P (n :: ns)) P char void
    (fun name attrs children hc ns => element name attrs children ns hc) nil
    (fun _ ns hn hns => hn ns hns) ns

mutual

def Node.tokens : Node → List Token
  | .char c => [.char c]
  | .void name attrs => [.void name attrs]
  | .element name attrs children =>
    .opening name attrs :: Node.tokensAll children ++ [.closing name]

def Node.tokensAll : List Node → List Token
  | [] => []
  | n :: ns => n.tokens ++ Node.tokensAll ns

end

open Node

/-- What is read behind a token: the nodes up to the next closing tag, and for each such tag its
name and the nodes behind it. -/
abbrev Stack : Type := List Node × List (String × List Node)

def place : Token → Stack → Option Stack
  | .char c, (ns, outer) => some (.char c :: ns, outer)
  | .void name attrs, (ns, outer) => some (.void name attrs :: ns, outer)
  | .closing name, (ns, outer) => some ([], (name, ns) :: outer)
  | .opening name attrs, (ns, (closed, behind) :: outer) =>
    if name = closed then some (.element name attrs ns :: behind, outer) else none
  | .opening _ _, (_, []) => none

def nest (ts : List Token) (stack : Stack) : Option Stack :=
  ts.foldr (fun t s => s.bind (place t)) (some stack)

/-- The forest of a text in which every tag is closed in order. As in `step`, carriage returns and
U+0000 stay what they are. -/
def parse (s : String) : Option (List Node) :=
  match (tokenize s).bind (nest · ([], [])) with
  | some (ns, []) => some ns
  | _ => none

def text (s : String) : List Node := s.toList.map .char

def Token.char? : Token → Option Char
  | .char c => some c
  | _ => none

/-- All text of a forest. -/
def content (ns : List Node) : List Char := (tokensAll ns).filterMap Token.char?

section Nest

@[simp] theorem tokensAll_append (ms ns : List Node) :
    tokensAll (ms ++ ns) = tokensAll ms ++ tokensAll ns := by
  induction ms with
  | nil => rfl
  | cons m ms ih => simp [tokensAll, ih]

@[simp] theorem tokensAll_text (s : String) : tokensAll (text s) = chars s.toList := by
  rw [text, chars]
  induction s.toList with
  | nil => rfl
  | cons c cs ih => simp [tokensAll, tokens, ih]

@[simp] theorem content_append (ms ns : List Node) :
    content (ms ++ ns) = content ms ++ content ns := by
  rw [content, tokensAll_append, List.filterMap_append]
  rfl

@[simp] theorem content_element (name : String) (attrs : Attrs) (children : List Node) :
    content [.element name attrs children] = content children := by
  simp only [content, tokensAll, tokens, List.append_nil, List.cons_append, List.filterMap_append,
    List.filterMap_cons_none (by rfl : Token.char? (.opening name attrs) = none)]
  exact List.append_nil _

@[simp] theorem content_text (s : String) : content (text s) = s.toList := by
  rw [content, tokensAll_text, chars, List.filterMap_map]
  exact List.filterMap_some

theorem content_flatMap {α : Type} (xs : List α) (f : α → List Node) :
    content (xs.flatMap f) = xs.flatMap fun x => content (f x) := by
  induction xs with
  | nil => rfl
  | cons x xs ih => rw [List.flatMap_cons, List.flatMap_cons, content_append, ih]

theorem nest_cons (t : Token) (ts : List Token) (stack : Stack) :
    nest (t :: ts) stack = (nest ts stack).bind (place t) := rfl

theorem nest_append (ts us : List Token) (stack : Stack) :
    nest (ts ++ us) stack = (nest us stack).bind (nest ts) := by
  induction ts with
  | nil => exact (Option.bind_fun_some _).symm
  | cons t ts ih =>
    rw [List.cons_append, nest_cons, ih, Option.bind_assoc]
    rfl

theorem nest_tokensAll (ns behind : List Node) (outer : List (String × List Node)) :
    nest (tokensAll ns) (behind, outer) = some (ns ++ behind, outer) := by
  -- Tokens are placed from the last to the first, so what stands behind the forest comes first.
  induction ns using Node.induction_forest generalizing behind outer with
  | nil => rfl
  | char c ns ih =>
    rw [tokensAll, tokens, List.singleton_append, nest_cons, ih]
    rfl
  | void name attrs ns ih =>
    rw [tokensAll, tokens, List.singleton_append, nest_cons, ih]
    rfl
  | element name attrs children ns ihc ihn =>
    have hinner : nest (tokensAll children ++ [.closing name]) (ns ++ behind, outer) =
        some (children, (name, ns ++ behind) :: outer) := by
      rw [nest_append, nest, List.foldr_cons, List.foldr_nil, Option.bind_some, place,
        Option.bind_some, ihc, List.append_nil]
    rw [tokensAll, tokens, nest_append, ihn, Option.bind_some, List.cons_append, nest_cons, hinner,
      Option.bind_some, place, if_pos rfl]
    rfl

def Stack.tokens (stack : Stack) : List Token :=
  tokensAll stack.1 ++ stack.2.flatMap fun x => .closing x.1 :: tokensAll x.2

theorem tokens_place {t : Token} {stack stack' : Stack} (h : place t stack = some stack') :
    stack'.tokens = t :: stack.tokens := by
  obtain ⟨ns, outer⟩ := stack
  cases t with
  | char c =>
    cases h
    simp [Stack.tokens, tokensAll, Node.tokens]
  | void name attrs =>
    cases h
    simp [Stack.tokens, tokensAll, Node.tokens]
  | closing name =>
    cases h
    simp [Stack.tokens, tokensAll]
  | opening name attrs =>
    cases outer with
    | nil => cases h
    | cons x outer =>
      obtain ⟨closed, behind⟩ := x
      rw [place] at h
      split at h
      · rename_i hname
        cases h
        simp [Stack.tokens, tokensAll, Node.tokens, hname]
      · cases h

theorem tokens_nest {ts : List Token} {stack stack' : Stack} (h : nest ts stack = some stack') :
    stack'.tokens = ts ++ stack.tokens := by
  induction ts generalizing stack' with
  | nil =>
    cases h
    rfl
  | cons t ts ih =>
    obtain ⟨mid, hmid, hplace⟩ := Option.bind_eq_some_iff.mp h
    rw [tokens_place hplace, ih hmid]
    rfl

theorem parse_eq_some_iff {s : String} {ns : List Node} :
    parse s = some ns ↔ Runs .data s (tokensAll ns) .data := by
  rw [← tokenize_eq_some_iff, parse]
  constructor
  · intro h
    split at h
    · rename_i ms heq
      obtain ⟨ts, hts, hnest⟩ := Option.bind_eq_some_iff.mp heq
      have htokens := tokens_nest hnest
      rw [← Option.some.inj h, hts]
      simpa [Stack.tokens, tokensAll] using htokens.symm
    · cases h
  · intro h
    rw [h, Option.bind_some, nest_tokensAll, List.append_nil]

theorem runs_join {α : Type} {xs : List α} {f : α → String} {g : α → List Node}
    (h : ∀ x ∈ xs, Runs .data (f x) (tokensAll (g x)) .data) :
    Runs .data (String.join (xs.map f)) (tokensAll (xs.flatMap g)) .data := by
  induction xs with
  | nil => exact .text rfl
  | cons x xs ih =>
    have hx := h x List.mem_cons_self
    have hxs := ih fun y hy => h y (List.mem_cons_of_mem x hy)
    rw [List.map_cons, String.join_cons, List.flatMap_cons, tokensAll_append]
    exact hx.append hxs

end Nest

end DocPages.Html
