import DocPages.Browser.Start

/-! A browser driven by what its user and the network do. -/

namespace DocPages

namespace Browser

/-- Runs a task up to the point where it has to wait. Only a timer makes a search wait. -/
def runTask (b : Browser) : Task → Browser
  | .load i =>
    match b.pages[i]? with
    | none => b
    | some page =>
      let url := page.config.indexUrl
      { b with fetched := b.fetched ++ [url], waiting := b.waiting ++ [i] }.report
        [.fetchingIndex url]
  | .loaded i reply =>
    match b.pages[i]? with
    | none => b
    | some page =>
      let url := page.config.indexUrl
      match settleLoad url (reply.text url) with
      | (.ok index, notices) => wireSearch i (b.report notices) page.config index
      | (.error e, notices) => b.report (notices ++ [.indexUnavailable e.message url])
  | .search i search =>
    match b.pages[i]? with
    | none => b
    | some page =>
      let tokens := page.session.tokens
      match if b.hasTimers then search.poll tokens else search.await tokens with
      | (.pending search, notices) =>
        { b with timers := b.timers ++ [Task.search i search] }.report notices
      | (.finished _ none, notices) => b.report notices
      | (.finished _ (some results), notices) => (b.report notices).showResults i results

/-- Runs all tasks that can run; none of them makes another one ready. -/
def settle (b : Browser) : Browser := b.ready.foldl runTask { b with ready := [] }

end Browser

inductive BrowserEvent where
  | start
  | event (target type key : String)
  | type (target value : String)
  /-- Focuses an element, or nothing if there is no such element. -/
  | focus (target : String)
  | media (holds : Bool)
  | resize (width : Browser.Width)
  | respond (reply : Browser.FetchReply)
  | tick
  | panic (payload : PanicPayload)
  | remove (id : String)
  deriving DecidableEq, Repr

inductive BrowserReply where
  | nothing
  | started (outcome : Except Browser.Value Unit)
  | noTarget
  | noFetch
  | fired (timers : Nat)
  | removed (found : Bool)

namespace Browser

def act (b : Browser) : BrowserEvent → Browser × BrowserReply
  | .start =>
    let (b, outcome) := b.start
    (b, .started outcome)
  | .event target type key =>
    match b.tree.get? target with
    | some e => (b.dispatch e.key type key, .nothing)
    | none => (b, .noTarget)
  | .type target value =>
    match b.tree.get? target with
    | some e =>
      let b := { b with tree := b.tree.modify e.key fun e => { e with value := value } }
      (b.dispatch e.key "input" "", .nothing)
    | none => (b, .noTarget)
  | .focus target => (b.moveFocus ((b.tree.get? target).map fun e => ⟨e.key, e.id⟩), .nothing)
  | .media holds =>
    let media := match b.media with
      | .list _ => .list holds
      | media => media
    ({ b with media := media }.dispatchAt .mediaList "change" holds, .nothing)
  | .resize width => ({ b with width := width }.dispatchAt .window "resize" false, .nothing)
  | .respond reply =>
    match b.waiting with
    | [] => (b, .noFetch)
    | i :: waiting =>
      ({ b with waiting := waiting, ready := b.ready ++ [.loaded i reply] }, .nothing)
  | .tick => ({ b with timers := [], ready := b.ready ++ b.timers }, .fired b.timers.length)
  | .panic payload => (if b.hooked then b.report [.panic payload] else b, .nothing)
  | .remove id =>
    let (found, b) := b.removeId .free id
    (b, .removed found)

/-- One event and all that follows from it at once; the console keeps what is new. -/
def step (b : Browser) (e : BrowserEvent) : Browser × BrowserReply :=
  let (b, reply) := { b with console := [] }.act e
  (b.settle, reply)

end Browser

end DocPages
