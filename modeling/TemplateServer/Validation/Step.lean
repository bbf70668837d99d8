import TemplateServer.Validation.State

/-!
What tasks do when they go on, and how they are run until all of them wait.
-/

namespace TemplateServer.Validation

namespace State

/-! ### Guards -/

def isHeld (guard : Nat) (state : State) : Bool :=
  state.tasks.any fun task => task.stage.guard? == some guard

/-- The guard to ask for on behalf of a document, which is made if there is none. -/
def guardFor (uri : Uri) (state : State) : Nat × State :=
  match state.guards.lookup uri with
  | some guard => (guard, state)
  | none =>
    (state.nextGuard,
      { state with
        guards := (uri, state.nextGuard) :: state.guards
        nextGuard := state.nextGuard + 1 })

def forgetGuard (uri : Uri) (state : State) : State :=
  { state with guards := state.guards.filter fun entry => entry.1 ≠ uri }

/-- Hands a guard that has become free to the task that has waited for it longest. -/
def handOver (guard : Nat) (state : State) : State :=
  match state.tasks.find? fun task => task.stage.isQueuedOn guard with
  | none => state
  | some task =>
    { state with
      tasks :=
        (state.tasks.eraseP fun task => task.stage.isQueuedOn guard)
          ++ [{ task with stage := .entering guard }] }

/-! ### Timers -/

/-- Aborts the validation with this ticket. One that sleeps holds nothing and is gone at once. Any
other is only marked: one that was handed its guard has a turn coming, in which it is dropped, and
one that waits for the guard is given such a turn behind all others. -/
def abort (ticket : Nat) (state : State) : State :=
  match state.tasks.find? fun task => task.job == .validation ticket with
  | none => state
  | some task =>
    match task.stage with
    | .timed _ =>
      { state with tasks := state.tasks.eraseP fun task => task.job == .validation ticket }
    | .queued _ =>
      { state with
        tasks := markAborted ticket state.tasks ++ [⟨task.uri, .removal ticket, .ready⟩] }
    | _ => { state with tasks := markAborted ticket state.tasks }

/-- Drops what a task is there to drop. If the guard has come to it by now, the next task is handed
the guard. -/
def drop (remover : Task) (state : State) : State :=
  match state.tasks.find? remover.drops with
  | none => state
  | some task =>
    let rest := { state with tasks := state.tasks.eraseP remover.drops }
    match task.stage.guard? with
    | some guard => rest.handOver guard
    | none => rest

def forgetTimer (uri : Uri) (state : State) : State :=
  { state with pending := state.pending.filter fun entry => entry.1 ≠ uri }

def cancel (uri : Uri) (state : State) : State :=
  match state.pending.lookup uri with
  | none => state
  | some ticket => (state.forgetTimer uri).abort ticket

/-! ### Publishing -/

def push (task : Task) (state : State) : State :=
  { state with tasks := state.tasks ++ [task] }

/-- Publishes a notice and ends the task that holds the guard. When a document was cleared, its
guard is used no more. -/
def deliver (task : Task) (guard : Nat) (notice : Notice) (state : State) : State :=
  let publication : Publication := ⟨state.now, task.uri, notice⟩
  let told := { state with published := state.published ++ [publication] }
  match task.job with
  | .retirement _ => (told.forgetGuard task.uri).handOver guard
  | _ => told.handOver guard

/-- Publishes a notice, once there is a permit if the document needs one. -/
def publish (task : Task) (guard : Nat) (notice : Notice) (state : State) : State :=
  if state.gate = some task.uri then
    match state.permits with
    | 0 => state.push { task with stage := .waiting guard notice }
    | permits + 1 => deliver task guard notice { state with permits := permits }
  else
    deliver task guard notice state

/-! ### Tasks -/

/-- Does what a task is for, now that it holds the guard. A validation whose timer does not count
any more, or whose document is not open, ends without publishing, and so does one that was
aborted. -/
def enter (task : Task) (guard : Nat) (state : State) : State :=
  match task.job with
  | .validation ticket =>
    if state.pending.lookup task.uri = some ticket then
      match state.store.find? task.uri with
      | none => (state.forgetTimer task.uri).handOver guard
      | some document => publish task guard (.about document) (state.forgetTimer task.uri)
    else
      state.handOver guard
  | .retirement _ => publish task guard .clear (state.cancel task.uri)
  | .aborted _ => state.handOver guard
  | .removal _ => state.handOver guard

def approach (task : Task) (state : State) : State :=
  let (guard, state) := state.guardFor task.uri
  if state.isHeld guard then
    state.push { task with stage := .queued guard }
  else
    state.enter task guard

def resume (task : Task) (state : State) : State :=
  match task.stage with
  | .timed _ => state.approach task
  | .entering guard => state.enter task guard
  | .permitted guard notice => state.deliver task guard notice
  | .queued _ => state.push task
  | .waiting _ _ => state.push task
  | .ready => state.drop task

def step? (state : State) : Option State :=
  match state.tasks.find? fun task => task.stage.isRunnable state.now with
  | none => none
  | some task =>
    some (State.resume task
      { state with tasks := state.tasks.eraseP fun task => task.stage.isRunnable state.now })

def run : Nat → State → State
  | 0, state => state
  | limit + 1, state =>
    match state.step? with
    | none => state
    | some next => run limit next

/-- More than the steps that the tasks can still take before each of them waits or ends. -/
def steps (state : State) : Nat :=
  state.tasks.foldr (fun task count => task.steps + count) 0

def settle (state : State) : State :=
  state.run state.steps

end State

end TemplateServer.Validation
