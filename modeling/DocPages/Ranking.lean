import DocPages.Entry
import DocPages.Fuzzy.Match
import DocPages.Notice

/-! Ranking the entries of an index against a query, in chunks with pauses between them. -/

namespace DocPages

/-- How names are scored for one query. -/
structure Scorer where
  /-- The query asks for nothing. -/
  isEmpty : Bool
  base? : String → Option Nat
  positions : String → List Nat

def Fuzzy.scorer (query : String) : Scorer :=
  let atoms := parseQuery query
  ⟨atoms.isEmpty, baseScore? atoms, Fuzzy.positions atoms⟩

structure Scored where
  entry : Entry
  score : Score
  deriving DecidableEq, Repr

namespace Scorer

def score (s : Scorer) (e : Entry) : Score :=
  match s.base? e.name with
  | some base => .ofBase base e.kind
  | none => .noMatch

/-- The entries that match, in their order. -/
def scoreAll (s : Scorer) (entries : List Entry) : List Scored :=
  (entries.map fun e => ⟨e, s.score e⟩).filter fun x => x.score.atLeast .cutoff

/-- The best `limit` of the scored entries; equal scores keep their order. -/
def best (s : Scorer) (limit : Nat) (scored : List Scored) : List Ranked :=
  ((scored.mergeSort fun a b => a.score.atLeast b.score).take limit).map fun x =>
    ⟨x.entry, x.score, s.positions x.entry.name⟩

end Scorer

structure SearchOptions where
  limit : Nat
  yieldEvery : Nat
  deriving DecidableEq, Repr

def SearchOptions.default : SearchOptions := ⟨10, 256⟩

/-- Entries between two pauses. -/
def SearchOptions.chunk (o : SearchOptions) : Nat := max o.yieldEvery 1

/-- A ranking on its way: what it has scored and what is still to come. -/
structure Ranking where
  query : String
  scorer : Scorer
  options : SearchOptions
  started : Bool
  handled : Nat
  scored : List Scored
  rest : List Entry

namespace Ranking

inductive Outcome where
  | paused (ranking : Ranking)
  /-- Nothing if the ranking was cancelled. -/
  | finished (results : Option (List Ranked))

def ofScorer (query : String) (scorer : Scorer) (options : SearchOptions) (entries : List Entry) :
    Ranking := ⟨query, scorer, options, false, 0, [], entries⟩

def start (query : String) (options : SearchOptions) (entries : List Entry) : Ranking :=
  ofScorer query (Fuzzy.scorer query) options entries

/-- Scores the next chunk, and pauses if entries are left. -/
def advance (r : Ranking) : Outcome :=
  let scored := r.scored ++ r.scorer.scoreAll (r.rest.take r.options.chunk)
  let rest := r.rest.drop r.options.chunk
  if rest.isEmpty then .finished (some (r.scorer.best r.options.limit scored))
  else .paused { r with
    started := true, handled := r.handled + r.options.chunk, scored := scored, rest := rest }

/-- Goes on up to the next pause, unless the search is no longer wanted. -/
def poll (wanted : Bool) (r : Ranking) : Outcome × List Notice :=
  if !wanted then
    (.finished none, if r.started then [.rankingCancelled r.query r.handled] else [])
  else if !r.started && r.scorer.isEmpty then (.finished (some []), [])
  else (r.advance, [])

/-- How a ranking ended, after how many pauses, and what it reported. -/
structure Report where
  pauses : Nat
  results : Option (List Ranked)
  notices : List Notice

/-- Polls to the end; `wanted k` tells whether the search is still wanted after `k` pauses. -/
def runFrom (wanted : Nat → Bool) (pauses : Nat) : Nat → Ranking → Report
  | 0, _ => ⟨pauses, none, []⟩
  | fuel + 1, r =>
    match r.poll (wanted pauses) with
    | (.finished results, notices) => ⟨pauses, results, notices⟩
    | (.paused r, notices) =>
      let report := runFrom wanted (pauses + 1) fuel r
      { report with notices := notices ++ report.notices }

/-- Every chunk but the last is followed by a pause and holds an entry. -/
def run (wanted : Nat → Bool) (r : Ranking) : Report := runFrom wanted 0 (r.rest.length + 1) r

end Ranking

/-- The cancellation that happens before the start (`some 0`), during a pause, or never. -/
def wantedUntil (cancelAt : Option Nat) (pauses : Nat) : Bool :=
  match cancelAt with
  | none => true
  | some k => pauses < k

/-- Ranks all entries, or stops when it is cancelled. -/
def rank (query : String) (options : SearchOptions) (cancelAt : Option Nat) (entries : List Entry) :
    Ranking.Report :=
  (Ranking.start query options entries).run (wantedUntil cancelAt)

end DocPages
