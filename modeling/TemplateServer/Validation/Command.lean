import TemplateServer.Validation.Step

/-!
The calls that drive validation. The delay is set as a span of time.
-/

namespace TemplateServer.Validation

structure Duration where
  seconds : Nat
  nanoseconds : Nat
deriving DecidableEq

namespace Duration

def ofMilliseconds (count : UInt64) : Duration :=
  ⟨count.toNat / 1000, count.toNat % 1000 * 1000000⟩

/-- The whole milliseconds in a span. What does not fit 64 bits wraps around. -/
def milliseconds (duration : Duration) : UInt64 :=
  UInt64.ofNat ((duration.seconds * 1000000000 + duration.nanoseconds) / 1000000)

/-- Milliseconds survive the way through a span. -/
@[simp]
theorem milliseconds_ofMilliseconds (count : UInt64) :
    (ofMilliseconds count).milliseconds = count := by
  have same :
      (count.toNat / 1000 * 1000000000 + count.toNat % 1000 * 1000000) / 1000000 =
        count.toNat := by
    omega
  simp only [ofMilliseconds, milliseconds, same, UInt64.ofNat_toNat]

end Duration

/-- The longest time that a timer runs, in milliseconds: thirty years of 365 days. -/
def longestRest : Nat :=
  30 * 365 * 24 * 60 * 60 * 1000

namespace State

/-- When a timer that is started now runs out. -/
def due (state : State) : Nat :=
  state.now + min state.delay.toNat longestRest

def schedule (uri : Uri) (state : State) : State :=
  let cleared := state.cancel uri
  let task : Task := ⟨uri, .validation cleared.nextTicket, .timed cleared.due⟩
  { cleared with
    nextTicket := cleared.nextTicket + 1
    pending := (uri, cleared.nextTicket) :: cleared.pending
    tasks := cleared.tasks ++ [task] }

def retirement (uri : Uri) (state : State) : Task :=
  ⟨uri, .retirement state.nextCall, .timed state.now⟩

def retire (uri : Uri) (state : State) : State :=
  State.push (state.retirement uri) { state with nextCall := state.nextCall + 1 }

def retireNow (uri : Uri) (state : State) : State :=
  State.resume (state.retirement uri) { state with nextCall := state.nextCall + 1 }

/-- Sets how long documents must rest; timers that run already keep their time. -/
def setDelay (delay : Duration) (state : State) : State :=
  { state with delay := delay.milliseconds }

/-- Hands a permit to the task that has waited longest for one, or keeps it. -/
def grant (state : State) : State :=
  match state.tasks.find? fun task => task.stage.isWaiting with
  | some ⟨uri, job, .waiting guard notice⟩ =>
    { state with
      tasks :=
        (state.tasks.eraseP fun task => task.stage.isWaiting)
          ++ [⟨uri, job, .permitted guard notice⟩] }
  | _ => { state with permits := state.permits + 1 }

def release (count : Nat) (state : State) : State :=
  let granted := min count (state.tasks.countP fun task => task.stage.isWaiting)
  let served := Nat.repeat grant granted state
  { served with permits := served.permits + (count - granted) }

def shutdown (state : State) : State :=
  state.pending.foldl (fun state entry => state.cancel entry.1) state

/-- The times before `target` at which tasks become due. -/
def dueBefore (target : Nat) (state : State) : List Nat :=
  (state.tasks.filterMap fun task =>
    match task.stage with
    | .timed due => if due < target then some due else none
    | _ => none).mergeSort

/-- Moves the clock to `time`, unless it is past that already, and runs what is due. -/
def passTo (state : State) (time : Nat) : State :=
  settle { state with now := max state.now time }

/-- Moves the clock forward. What becomes due on the way runs at its own time; what is due at the
end has yet to run. -/
def advance (duration : Nat) (state : State) : State :=
  let target := state.now + duration
  if duration = 0 then
    state
  else
    { (state.dueBefore target).foldl passTo state.settle with now := target }

end State

inductive Command where
  | openDocument (document : Document)
  | changeDocument (document : Document)
  | closeDocument (uri : Uri)
  | schedule (uri : Uri)
  | retire (uri : Uri)
  | isPending (uri : Uri)
  | setDelay (delay : Duration)
  | advance (duration : Nat)
  | release (count : Nat)
  | shutdown
  /-- No call at all. -/
  | idle
deriving DecidableEq

inductive Reply where
  | nothing
  | flag (value : Bool)
  | outcome (value : ChangeOutcome)
  | document (value : Option Document)
deriving DecidableEq

namespace State

def perform (command : Command) (state : State) : Reply × State :=
  match command with
  | .openDocument document =>
    let (value, store) := state.store.insertNew document
    (.flag value, { state with store := store })
  | .changeDocument document =>
    let (value, store) := state.store.change document
    (.outcome value, { state with store := store })
  | .closeDocument uri =>
    let (value, store) := state.store.erase uri
    (.document value, { state with store := store })
  | .schedule uri => (.nothing, state.schedule uri)
  | .retire uri => (.nothing, state.retire uri)
  | .isPending uri => (.flag (state.isPending uri), state)
  | .setDelay delay => (.nothing, state.setDelay delay)
  | .advance duration => (.nothing, state.advance duration)
  | .release count => (.nothing, state.release count)
  | .shutdown => (.nothing, state.shutdown)
  | .idle => (.nothing, state)

/-- Makes a call and then, if it is to settle, lets tasks go on until none can. -/
def apply (settles : Bool) (command : Command) (state : State) : Reply × State :=
  let (reply, next) := state.perform command
  (reply, if settles then next.settle else next)

end State

end TemplateServer.Validation
