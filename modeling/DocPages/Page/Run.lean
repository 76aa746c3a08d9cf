import DocPages.Page
import DocPages.Session.Desk

/-! Pages driven by a script of events. -/

namespace DocPages

inductive PageEvent where
  | install
  | viewport (desktop : Bool)
  | width (px : Nat)
  | headerButton
  | sidebarLink
  | transitionEnd
  | sectionButton (id : String)
  | search (slot query : String)
  | poll (slot : String)
  | await (slot : String)
  /-- Shows the results of a search that has finished. -/
  | show (slot : String)
  | showResults (results : List Ranked)
  | dismiss

/-- Events in their order, each with the index in which a search would be started. -/
abbrev Script : Type := List (Index × PageEvent)

/-- Events that all come with the same index. -/
def Script.on (index : Index) (events : List PageEvent) : Script :=
  events.map fun e => (index, e)

inductive PageReply where
  | nothing
  | sections (ids : List String)
  | collapsed (answer : Option Bool)
  | started
  | job (reply : Desk.Reply)
  | count (n : Nat)

/-- A page in its document, with the searches it was asked for. -/
structure PageRun (δ : Type) where
  page : Page
  document : δ
  desk : Desk

namespace PageRun

variable {δ : Type} [Document δ]

def new (config : Config) (d : δ) : PageRun δ := ⟨.new config, d, .empty⟩

def put (r : PageRun δ) : Page × δ × List Notice → PageRun δ × PageReply × List Notice
  | (page, document, notices) =>
    ({ r with page := page, document := document }, .nothing, notices)

def presented (r : PageRun δ) : Nat × δ × List Notice → PageRun δ × PageReply × List Notice
  | (n, document, notices) => ({ r with document := document }, .count n, notices)

def step (index : Index) (r : PageRun δ) : PageEvent → PageRun δ × PageReply × List Notice
  | .install =>
    let (sections, document, notices) := r.page.install r.document
    ({ r with document := document }, .sections sections, notices)
  | .viewport desktop => r.put (r.page.onViewport r.document desktop)
  | .width px => r.put (r.page.onWidth r.document px)
  | .headerButton => r.put (r.page.onHeaderButton r.document)
  | .sidebarLink => r.put (r.page.onSidebarLink r.document)
  | .transitionEnd => r.put (r.page.onTransitionEnd r.document)
  | .sectionButton id =>
    match Section.toggle r.document id with
    | some (collapsed, document) =>
      ({ r with document := document }, .collapsed (some collapsed), [])
    | none => (r, .collapsed none, [])
  | .search slot query =>
    let (search, page) := r.page.startSearch query index
    ({ r with page := page, desk := r.desk.put slot (.running search) }, .started, [])
  | .poll slot =>
    let (desk, reply, notices) := r.desk.advance slot (Search.poll r.page.session.tokens)
    ({ r with desk := desk }, .job reply, notices)
  | .await slot =>
    let (desk, reply, notices) := r.desk.advance slot (Search.await r.page.session.tokens)
    ({ r with desk := desk }, .job reply, notices)
  | .show slot =>
    match r.desk.results? slot with
    | some results => r.presented (r.page.showResults r.document results)
    | none => (r, .nothing, [])
  | .showResults results => r.presented (r.page.showResults r.document results)
  | .dismiss =>
    let (page, document) := r.page.dismiss r.document
    ({ r with page := page, document := document }, .nothing, [])

def play (r : PageRun δ) (script : Script) : PageRun δ :=
  script.foldl (fun r x => (r.step x.1 x.2).1) r

end PageRun

end DocPages
