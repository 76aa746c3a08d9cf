import DocPages.Session

/-! Searches kept under names, and the events that drive them. -/

namespace DocPages

inductive Job where
  | running (search : Search)
  | finished (results : Option (List Ranked))

/-- The jobs of a page or session, by name. -/
structure Desk where
  jobs : List (String × Job)

namespace Desk

/-- The answer to a poll. -/
inductive Reply where
  | noSlot
  | alreadyDone
  | pending (pauses : Nat)
  | finished (pauses : Nat) (results : Option (List Ranked))

def empty : Desk := ⟨[]⟩

def get? (d : Desk) (slot : String) : Option Job := d.jobs.lookup slot

/-- Puts a job in a slot, in place of what the slot held. -/
def put (d : Desk) (slot : String) (job : Job) : Desk :=
  ⟨(slot, job) :: d.jobs.filter fun (name, _) => name != slot⟩

/-- The results of a search that ran to its end. -/
def results? (d : Desk) (slot : String) : Option (List Ranked) :=
  match d.get? slot with
  | some (.finished results) => results
  | _ => none

/-- Polls a slot by the given way of polling. -/
def advance (d : Desk) (slot : String) (poll : Search → Search.Outcome × List Notice) :
    Desk × Reply × List Notice :=
  match d.get? slot with
  | none => (d, .noSlot, [])
  | some (.finished _) => (d, .alreadyDone, [])
  | some (.running search) =>
    match poll search with
    | (.pending search, notices) => (d.put slot (.running search), .pending search.pauses, notices)
    | (.finished pauses results, notices) =>
      (d.put slot (.finished results), .finished pauses results, notices)

end Desk

inductive SessionEvent where
  | begin
  | cancel
  | search (slot query : String)
  | poll (slot : String)
  | await (slot : String)
  deriving DecidableEq, Repr

/-- A session, its jobs, and the tokens that `begin` handed out. -/
structure SessionRun where
  session : Session
  desk : Desk
  begun : List Nat

namespace SessionRun

inductive Reply where
  | nothing
  | started
  | job (reply : Desk.Reply)

def new (options : SearchOptions) : SessionRun := ⟨.new options, .empty, []⟩

def cancelled (r : SessionRun) : List Bool := r.begun.map r.session.tokens.isCancelled

def step (index : Index) (r : SessionRun) : SessionEvent → SessionRun × Reply × List Notice
  | .begin =>
    let (token, session) := r.session.begin
    ({ r with session := session, begun := r.begun ++ [token] }, .nothing, [])
  | .cancel => ({ r with session := r.session.cancel }, .nothing, [])
  | .search slot query =>
    let (search, session) := r.session.search query index
    ({ r with session := session, desk := r.desk.put slot (.running search) }, .started, [])
  | .poll slot =>
    let (desk, reply, notices) := r.desk.advance slot (Search.poll r.session.tokens)
    ({ r with desk := desk }, .job reply, notices)
  | .await slot =>
    let (desk, reply, notices) := r.desk.advance slot (Search.await r.session.tokens)
    ({ r with desk := desk }, .job reply, notices)

end SessionRun

end DocPages
