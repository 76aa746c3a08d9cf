import DocPages.Page.Run
import DocPages.Proofs.Page.Panel
import DocPages.Proofs.Session.Futures
import Mathlib

/-! Searches as tasks of a page. Every start spawns a task; a task that is polled to its end shows
its results in the same step, and a dismissal takes the panel away. Whatever the order of these
steps, only the newest search can show anything, and only until it is dismissed. -/

namespace DocPages

inductive TaskEvent where
  | start (query : String)
  | dismiss
  | poll (task : Nat)
  deriving DecidableEq, Repr

def TaskEvent.isStart : TaskEvent → Bool
  | .start _ => true
  | .dismiss | .poll _ => false

def Job.isRunning : Job → Bool
  | .running _ => true
  | .finished _ => false

/-- A page with the number of tasks that it has spawned. -/
structure TaskRun (δ : Type) where
  page : PageRun δ
  spawned : Nat

namespace TaskRun

def slot (task : Nat) : String := toString task

theorem slot_injective {i j : Nat} (h : slot i = slot j) : i = j := Nat.repr_injective h

section Definitions

variable {δ : Type} [Document δ]

def new (config : Config) (d : δ) : TaskRun δ := ⟨.new config d, 0⟩

/-- One step, and the task that shows its results in it, if one does. -/
def step (index : Index) (r : TaskRun δ) : TaskEvent → TaskRun δ × Option Nat
  | .start query => (⟨(r.page.step index (.search (slot r.spawned) query)).1, r.spawned + 1⟩, none)
  | .dismiss => (⟨(r.page.step index .dismiss).1, r.spawned⟩, none)
  | .poll task =>
    match r.page.step index (.poll (slot task)) with
    | (page, .job (.finished _ (some results)), _) =>
      (⟨(page.step index (.showResults results)).1, r.spawned⟩, some task)
    | (page, _, _) => (⟨page, r.spawned⟩, none)

def run (index : Index) (r : TaskRun δ) (events : List TaskEvent) : TaskRun δ :=
  events.foldl (fun r e => (r.step index e).1) r

/-- The tasks that show their results, in the order in which they do. -/
def shows (index : Index) (r : TaskRun δ) : List TaskEvent → List Nat
  | [] => []
  | e :: events => (r.step index e).2.toList ++ shows index (r.step index e).1 events

def session (r : TaskRun δ) : Session := r.page.page.session

def advance (r : TaskRun δ) (task : Nat) : Desk × Desk.Reply × List Notice :=
  r.page.desk.advance (slot task) (Search.poll r.session.tokens)

/-- The task has a search that has not finished. -/
def Pending (r : TaskRun δ) (task : Nat) : Prop :=
  ∃ search, r.page.desk.get? (slot task) = some (.running search)

end Definitions

theorem not_pending_of_jobs {δ : Type} {r : TaskRun δ}
    (h : r.page.desk.jobs.all (fun x => !x.2.isRunning) = true) (task : Nat) :
    ¬ r.Pending task := by
  rintro ⟨search, hj⟩
  obtain ⟨before, after, hjobs, -⟩ := List.lookup_eq_some_iff.mp hj
  rw [hjobs] at h
  simp [Job.isRunning] at h

section Steps

variable {δ : Type} [Document δ] {index : Index} {r : TaskRun δ}

theorem run_cons (e : TaskEvent) (events : List TaskEvent) :
    r.run index (e :: events) = (r.step index e).1.run index events := rfl

theorem run_append (as bs : List TaskEvent) :
    r.run index (as ++ bs) = (r.run index as).run index bs := List.foldl_append

theorem step_start (query : String) :
    r.step index (.start query) =
      (⟨⟨{ r.page.page with session := r.session.begin.2 }, r.page.document,
        r.page.desk.put (slot r.spawned) (.running (r.session.search query index).1)⟩,
        r.spawned + 1⟩, none) := rfl

theorem step_dismiss :
    r.step index .dismiss =
      (⟨⟨{ r.page.page with session := r.session.cancel },
        r.page.page.clearResults r.page.document, r.page.desk⟩, r.spawned⟩, none) := rfl

theorem spawned_step (e : TaskEvent) :
    (r.step index e).1.spawned = if e.isStart then r.spawned + 1 else r.spawned := by
  cases e with
  | start query => rfl
  | dismiss => rfl
  | poll task =>
    simp only [step]
    split <;> rfl

theorem spawned_run (events : List TaskEvent) :
    (r.run index events).spawned = r.spawned + events.countP TaskEvent.isStart := by
  induction events generalizing r with
  | nil => rfl
  | cons e events ih =>
    rw [run_cons, ih, spawned_step, List.countP_cons]
    split <;> omega

theorem step_poll_shown {task n : Nat} {results : List Ranked}
    (h : (r.advance task).2.1 = .finished n (some results)) :
    r.step index (.poll task) =
      (⟨⟨r.page.page, (r.page.page.showResults r.page.document results).2.1, (r.advance task).1⟩,
        r.spawned⟩, some task) := by
  have hp : (r.page.step index (.poll (slot task))).2.1 = .job (r.advance task).2.1 := rfl
  rw [h] at hp
  simp only [step]
  split
  · rename_i page m shown notices heq
    rw [heq] at hp
    cases hp
    have hpage : (r.page.step index (.poll (slot task))).1 = page := by rw [heq]
    rw [← hpage]
    rfl
  · rename_i page reply notices hne heq
    rw [heq] at hp
    exact absurd hp (hne n results)

theorem step_poll_quiet {task : Nat}
    (h : ∀ n results, (r.advance task).2.1 ≠ .finished n (some results)) :
    r.step index (.poll task) =
      (⟨⟨r.page.page, r.page.document, (r.advance task).1⟩, r.spawned⟩, none) := by
  have hp : (r.page.step index (.poll (slot task))).2.1 = .job (r.advance task).2.1 := rfl
  simp only [step]
  split
  · rename_i page m shown notices heq
    rw [heq] at hp
    exact absurd (PageReply.job.inj hp).symm (h m shown)
  · rename_i page reply notices hne heq
    have hpage : (r.page.step index (.poll (slot task))).1 = page := by rw [heq]
    rw [← hpage]
    rfl

/-- All that a poll can do: it shows the results that it gets, or it only moves the search. -/
theorem step_poll_cases (index : Index) (r : TaskRun δ) (task : Nat) :
    (∃ n results, (r.advance task).2.1 = .finished n (some results) ∧
      r.step index (.poll task) =
        (⟨⟨r.page.page, (r.page.page.showResults r.page.document results).2.1, (r.advance task).1⟩,
          r.spawned⟩, some task)) ∨
      r.step index (.poll task) =
        (⟨⟨r.page.page, r.page.document, (r.advance task).1⟩, r.spawned⟩, none) := by
  by_cases h : ∃ n results, (r.advance task).2.1 = .finished n (some results)
  · obtain ⟨n, results, h⟩ := h
    exact .inl ⟨n, results, h, step_poll_shown h⟩
  · exact .inr (step_poll_quiet fun n results hn => h ⟨n, results, hn⟩)

theorem pending_of_step {e : TaskEvent} {task : Nat} (he : e.isStart = false)
    (h : (r.step index e).1.Pending task) : r.Pending task := by
  cases e with
  | start query => cases he
  | dismiss => exact h
  | poll i =>
    obtain ⟨search, hj⟩ := h
    have hdesk : (r.step index (.poll i)).1.page.desk = (r.advance i).1 := by
      rcases step_poll_cases index r i with ⟨n, results, -, hstep⟩ | hstep <;> rw [hstep]
    rw [hdesk] at hj
    obtain ⟨before, hb, -⟩ := Desk.running_of_advance hj
    exact ⟨before, hb⟩

end Steps

end TaskRun

end DocPages
