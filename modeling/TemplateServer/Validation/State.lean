import TemplateServer.Analysis
import TemplateServer.Document.Store

/-!
Validation of documents that have come to rest. A change of a document starts a timer; when the
timer runs out, the document is analysed and the reports are published, and when a document is
closed its reports are cleared. Both happen under a guard of the document, which one task holds
at a time.

Everything that is under way is a task. The tasks stand in the order in which each of them last
moved on, so the first task that fits is always the one that has waited longest. To abort a
validation takes two turns: it is marked at once, and until its next turn it stays in the way of
the tasks behind it.
-/

namespace TemplateServer.Validation

/-- What is published about a document: the reports, and the version they are about. -/
structure Notice where
  reports : List Report
  version : Option Int
deriving DecidableEq

def Notice.clear : Notice :=
  ⟨[], none⟩

def Notice.about (document : Document) : Notice :=
  ⟨(Analysis.ofText document.uri.text document.text).reports, some document.version⟩

/-- A notice, the document it is about and when it was published, in milliseconds. -/
structure Publication where
  time : Nat
  uri : Uri
  notice : Notice
deriving DecidableEq

inductive Job where
  /-- Validate the document, if the ticket is still the one that its timer was started with. -/
  | validation (ticket : Nat)
  /-- Clear the document, for the caller with this number. -/
  | retirement (call : Nat)
  /-- Nothing any more. The validation with this ticket was aborted, but until it is dropped it
  keeps its place at a guard, or the guard that it was handed. -/
  | aborted (ticket : Nat)
  /-- Drop the aborted validation with this ticket. -/
  | removal (ticket : Nat)
deriving DecidableEq

def Job.isRetirement : Job → Bool
  | .retirement _ => true
  | _ => false

/-- Whether something was asked for that is still to be done. -/
def Job.isLive : Job → Bool
  | .validation _ => true
  | .retirement _ => true
  | .aborted _ => false
  | .removal _ => false

inductive Stage where
  /-- It goes on once the clock shows this time. -/
  | timed (due : Nat)
  /-- It waits for a guard. -/
  | queued (guard : Nat)
  /-- It was handed a guard. -/
  | entering (guard : Nat)
  /-- It holds a guard and waits for a permit to publish. -/
  | waiting (guard : Nat) (notice : Notice)
  /-- It holds a guard and was handed a permit. -/
  | permitted (guard : Nat) (notice : Notice)
  /-- It waits for nothing but its turn. -/
  | ready
deriving DecidableEq

/-- The guard that a task at this stage holds. -/
def Stage.guard? : Stage → Option Nat
  | .timed _ => none
  | .queued _ => none
  | .entering guard => some guard
  | .waiting guard _ => some guard
  | .permitted guard _ => some guard
  | .ready => none

def Stage.isQueuedOn (guard : Nat) : Stage → Bool
  | .queued other => other == guard
  | _ => false

def Stage.isWaiting : Stage → Bool
  | .waiting _ _ => true
  | _ => false

def Stage.isRunnable (now : Nat) : Stage → Bool
  | .timed due => due ≤ now
  | .queued _ => false
  | .entering _ => true
  | .waiting _ _ => false
  | .permitted _ _ => true
  | .ready => true

structure Task where
  uri : Uri
  job : Job
  stage : Stage
deriving DecidableEq

/-- More than the turns that a task can still take until it waits for a permit or ends, counting
the one that drops it if it is aborted at a guard. -/
def Task.steps (task : Task) : Nat :=
  match task.stage with
  | .timed _ => 4
  | .queued _ => if task.job.isLive then 3 else 2
  | .entering _ => 1
  | .waiting _ _ => 0
  | .permitted _ _ => 1
  | .ready => 1

def Task.drops (remover task : Task) : Bool :=
  match remover.job with
  | .removal ticket => task.uri == remover.uri && task.job == .aborted ticket
  | _ => false

/-- The tasks after the validation with this ticket was aborted, each where it was. -/
def markAborted (ticket : Nat) : List Task → List Task
  | [] => []
  | task :: tasks =>
    if task.job = .validation ticket then
      { task with job := .aborted ticket } :: tasks
    else
      task :: markAborted ticket tasks

structure State where
  store : Store
  /-- The clock, in milliseconds. -/
  now : Nat
  /-- How long a document must rest, in milliseconds. -/
  delay : UInt64
  nextTicket : Nat
  /-- The number of the next caller that wants a document cleared. -/
  nextCall : Nat
  /-- The tickets of the timers that count. -/
  pending : List (Uri × Nat)
  /-- The guards that the next tasks will ask for. -/
  guards : List (Uri × Nat)
  nextGuard : Nat
  tasks : List Task
  /-- The document whose notices need a permit each. -/
  gate : Option Uri
  permits : Nat
  published : List Publication
deriving DecidableEq

def State.initial (delay : UInt64) (gate : Option Uri) : State where
  store := .empty
  now := 0
  delay := delay
  nextTicket := 0
  nextCall := 0
  pending := []
  guards := []
  nextGuard := 0
  tasks := []
  gate := gate
  permits := 0
  published := []

namespace State

def isPending (uri : Uri) (state : State) : Bool :=
  (state.pending.lookup uri).isSome

def nextDue? (state : State) : Option Nat :=
  (state.tasks.filterMap fun task =>
    match task.stage with
    | .timed due => if state.now < due then some due else none
    | _ => none).min?

def retiring (state : State) : Nat :=
  state.tasks.countP fun task => task.job.isRetirement

end State

end TemplateServer.Validation
