import DocPages.Index.Json
import DocPages.Notice

/-! Loading the search index once. -/

namespace DocPages

inductive LoadError where
  | network (url message : String)
  | status (url : String) (code : Nat)
  | parse (error : Json.Error)
  | notText
  deriving DecidableEq, Repr

def LoadError.message : LoadError → String
  | network url message => "failed to fetch " ++ url ++ ": " ++ message
  | status url code => "fetching " ++ url ++ " returned HTTP " ++ toString code
  | parse error => "malformed search index: " ++ error.message
  | notText => "malformed search index: response body is not text"

/-- The outcome of a load for what was fetched from `url`. -/
def settleLoad (url : String) : Except LoadError String → Except LoadError Index × List Notice
  | .error e => (.error e, [])
  | .ok body =>
    match Index.ofJson body with
    | .error e => (.error (.parse e), [])
    | .ok index => (.ok index, [.indexLoaded index.size url])

/-- What a fetch brings, and after how many polls. -/
structure Fetch where
  body : Except LoadError String
  delay : Nat

/-- An index as the handles on a load share it; the number tells the objects of a loader apart. -/
structure SharedIndex where
  number : Nat
  index : Index
  deriving DecidableEq, Repr

/-- A load as its handles share it. -/
inductive SharedLoad where
  | waiting (fetch : Fetch)
  | settled (outcome : Except LoadError SharedIndex)

/-- A handle on a load, by the number of the load. Once it has brought the outcome it is spent. -/
inductive LoadHandle where
  | on (load : Nat)
  | spent
  deriving DecidableEq, Repr

/-- The answer to a poll of a handle. -/
inductive LoadPoll where
  | pending
  | ready (outcome : Except LoadError SharedIndex)
  /-- A spent handle must not be polled again; the poll fails, and nothing comes of it. -/
  | spent

/-- A loader asks once for its `url`. It keeps a handle on the load that it has started, and gives
out copies of this handle; `fetched` lists what it asked for, and `made` counts the index objects
that were made. -/
structure Loader where
  url : String
  fetch : String → Fetch
  kept : Option LoadHandle
  loads : List SharedLoad
  fetched : List String
  made : Nat

namespace Loader

def new (url : String) (fetch : String → Fetch) : Loader := ⟨url, fetch, none, [], [], 0⟩

/-- A handle on the load, which starts at the first call. -/
def load (l : Loader) : Loader × LoadHandle × List Notice :=
  match l.kept with
  | some handle => (l, handle, [])
  | none =>
    let handle := .on l.loads.length
    ({ l with
        kept := some handle
        loads := l.loads ++ [.waiting (l.fetch l.url)]
        fetched := l.fetched ++ [l.url] }, handle, [.fetchingIndex l.url])

/-- Keeps the outcome of a load for all its handles. -/
def keep (l : Loader) (load : Nat) (outcome : Except LoadError SharedIndex) : Loader :=
  { l with loads := l.loads.set load (.settled outcome) }

/-- Makes the index of what was fetched, if it is one, and keeps the outcome. -/
def settle (l : Loader) (load : Nat) (body : Except LoadError String) :
    Loader × Except LoadError SharedIndex × List Notice :=
  match settleLoad l.url body with
  | (.error e, notices) => (l.keep load (.error e), .error e, notices)
  | (.ok index, notices) =>
    let outcome := .ok ⟨l.made, index⟩
    ({ l.keep load outcome with made := l.made + 1 }, outcome, notices)

/-- A poll of a handle moves the load that it shares with others. -/
def poll (l : Loader) : LoadHandle → Loader × LoadHandle × LoadPoll × List Notice
  | .spent => (l, .spent, .spent, [])
  | .on load =>
    match l.loads[load]? with
    | none => (l, .on load, .pending, []) -- no such load
    | some (.waiting ⟨body, n + 1⟩) =>
      ({ l with loads := l.loads.set load (.waiting ⟨body, n⟩) }, .on load, .pending, [])
    | some (.waiting ⟨body, 0⟩) =>
      let (l, outcome, notices) := l.settle load body
      (l, .spent, .ready outcome, notices)
    | some (.settled outcome) => (l, .spent, .ready outcome, [])

/-- Polls a handle until it brings the outcome. -/
def await (l : Loader) (handle : LoadHandle) : Loader × LoadHandle × LoadPoll × List Notice :=
  let arrived : SharedLoad → SharedLoad
    | .waiting fetch => .waiting { fetch with delay := 0 }
    | settled => settled
  match handle with
  | .spent => l.poll .spent
  | .on load => poll { l with loads := l.loads.modify load arrived } (.on load)

end Loader

end DocPages
