import DocPages.Ranking

/-! Search sessions: only the search that was started last is wanted. -/

namespace DocPages

/-- The flags of the tokens that were made, by the numbers of the tokens. Whoever holds a token
reads the same flag. -/
structure Tokens where
  flags : List Bool
  deriving DecidableEq, Repr

namespace Tokens

def empty : Tokens := ⟨[]⟩

def size (t : Tokens) : Nat := t.flags.length

/-- A new token, which is not cancelled. -/
def make (t : Tokens) : Nat × Tokens := (t.size, ⟨t.flags ++ [false]⟩)

/-- Sets the flag of a token; a flag is never taken down. -/
def cancel (t : Tokens) (token : Nat) : Tokens := ⟨t.flags.set token true⟩

/-- A token that was not made is not there to be wanted. -/
def isCancelled (t : Tokens) (token : Nat) : Bool := t.flags.getD token true

end Tokens

/-- A session remembers the token of the search that is outstanding. -/
structure Session where
  options : SearchOptions
  tokens : Tokens
  current : Option Nat
  deriving DecidableEq, Repr

/-- A search that was started and has not finished. -/
structure Search where
  token : Nat
  pauses : Nat
  ranking : Ranking

namespace Session

def new (options : SearchOptions) : Session := ⟨options, .empty, none⟩

/-- Cancels the outstanding search, if there is one. -/
def cancel (s : Session) : Session :=
  match s.current with
  | none => s
  | some token => { s with tokens := s.tokens.cancel token, current := none }

/-- Cancels the outstanding search, if there is one, and hands out a new token. -/
def begin (s : Session) : Nat × Session :=
  let s := s.cancel
  let (token, tokens) := s.tokens.make
  (token, { s with tokens := tokens, current := some token })

def search (s : Session) (query : String) (index : Index) : Search × Session :=
  let (token, s) := s.begin
  (⟨token, 0, .start query s.options index.entries⟩, s)

end Session

namespace Search

inductive Outcome where
  | pending (search : Search)
  | finished (pauses : Nat) (results : Option (List Ranked))

/-- One poll. Of the session a search sees the flag of its own token only. -/
def poll (tokens : Tokens) (search : Search) : Outcome × List Notice :=
  match search.ranking.poll (!tokens.isCancelled search.token) with
  | (.paused r, notices) =>
    (.pending { search with pauses := search.pauses + 1, ranking := r }, notices)
  | (.finished results, notices) => (.finished search.pauses results, notices)

def awaitFrom (tokens : Tokens) : Nat → Search → Outcome × List Notice
  | 0, search => (.pending search, [])
  | fuel + 1, search =>
    match search.poll tokens with
    | (.pending search, notices) =>
      let (outcome, more) := awaitFrom tokens fuel search
      (outcome, notices ++ more)
    | done => done

/-- Polls until the search has finished. -/
def await (tokens : Tokens) (search : Search) : Outcome × List Notice :=
  search.awaitFrom tokens (search.ranking.rest.length + 1)

end Search

end DocPages
