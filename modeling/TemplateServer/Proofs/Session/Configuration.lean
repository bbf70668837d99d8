import TemplateServer.Proofs.Session.View
import TemplateServer.Proofs.Settings

/-!
Changes of settings. The delay of validation is a second copy of what the settings say. Nothing that
is under way looks at the delay, so a change of it shows only in timers that are started later. Main
statement: the two copies agree in every state of a session, settings that a client sent are taken
over as a whole or not at all, and timers that run already keep their time.
-/

namespace TemplateServer

open Validation

/-! ### The delay and what is under way -/

namespace Validation.State

def withDelay (delay : UInt64) (state : State) : State :=
  { state with delay := delay }

/-- Whether something that happens to a state neither looks at the delay nor changes it. -/
def Ignores (happens : State → State) : Prop :=
  ∀ delay state, happens (withDelay delay state) = withDelay delay (happens state)

theorem Ignores.delay {happens : State → State} (ignores : Ignores happens) (state : State) :
    (happens state).delay = state.delay := by
  have same := ignores state.delay state
  have kept : withDelay state.delay state = state := rfl
  rw [kept] at same
  rw [same]
  rfl

theorem ignores_handOver (guard : Nat) : Ignores (handOver guard) := by
  intro delay state
  unfold handOver withDelay
  cases state.tasks.find? fun task => task.stage.isQueuedOn guard with
  | none => rfl
  | some task => rfl

theorem ignores_abort (ticket : Nat) : Ignores (abort ticket) := by
  intro delay state
  unfold abort withDelay
  simp only
  cases state.tasks.find? fun task => task.job == .validation ticket with
  | none => rfl
  | some task =>
      obtain ⟨owner, job, stage⟩ := task
      cases stage with
      | _ => rfl

theorem ignores_drop (remover : Task) : Ignores (drop remover) := by
  intro delay state
  unfold drop withDelay
  simp only
  cases state.tasks.find? remover.drops with
  | none => rfl
  | some task =>
      simp only
      cases task.stage.guard? with
      | none => rfl
      | some guard =>
          exact ignores_handOver guard delay
            { state with tasks := state.tasks.eraseP remover.drops }

theorem ignores_cancel (uri : Uri) : Ignores (cancel uri) := by
  intro delay state
  unfold cancel withDelay
  simp only
  cases state.pending.lookup uri with
  | none => rfl
  | some ticket => exact ignores_abort ticket delay (state.forgetTimer uri)

theorem ignores_deliver (task : Task) (guard : Nat) (notice : Notice) :
    Ignores (deliver task guard notice) := by
  intro delay state
  rw [deliver_eq, deliver_eq]
  exact ignores_handOver guard delay
    { state with
      published := state.published ++ [⟨state.now, task.uri, notice⟩]
      guards :=
        if task.job.isRetirement then state.guards.filter fun entry => entry.1 ≠ task.uri
        else state.guards }

theorem ignores_publish (task : Task) (guard : Nat) (notice : Notice) :
    Ignores (publish task guard notice) := by
  intro delay state
  have gate : (withDelay delay state).gate = state.gate := rfl
  have permits : (withDelay delay state).permits = state.permits := rfl
  unfold publish
  rw [gate, permits]
  by_cases gated : state.gate = some task.uri
  · rw [if_pos gated, if_pos gated]
    cases state.permits with
    | zero => rfl
    | succ left => exact ignores_deliver task guard notice delay { state with permits := left }
  · rw [if_neg gated, if_neg gated]
    exact ignores_deliver task guard notice delay state

theorem ignores_enter (task : Task) (guard : Nat) : Ignores (enter task guard) := by
  intro delay state
  have pending : (withDelay delay state).pending = state.pending := rfl
  have store : (withDelay delay state).store = state.store := rfl
  unfold enter
  rw [pending, store]
  cases task.job with
  | validation ticket =>
      by_cases listed : state.pending.lookup task.uri = some ticket
      · simp only [if_pos listed]
        cases state.store.find? task.uri with
        | none => exact ignores_handOver guard delay (state.forgetTimer task.uri)
        | some document =>
            exact ignores_publish task guard (.about document) delay (state.forgetTimer task.uri)
      · simp only [if_neg listed]
        exact ignores_handOver guard delay state
  | retirement call =>
      simp only [ignores_cancel task.uri delay state]
      exact ignores_publish task guard .clear delay (state.cancel task.uri)
  | aborted ticket => exact ignores_handOver guard delay state
  | removal ticket => exact ignores_handOver guard delay state

theorem guardFor_withDelay (uri : Uri) (delay : UInt64) (state : State) :
    guardFor uri (withDelay delay state) =
      ((state.guardFor uri).1, withDelay delay (state.guardFor uri).2) := by
  unfold guardFor withDelay
  cases state.guards.lookup uri with
  | none => rfl
  | some guard => rfl

theorem ignores_approach (task : Task) : Ignores (approach task) := by
  intro delay state
  unfold approach
  rw [guardFor_withDelay]
  change (if isHeld (state.guardFor task.uri).1 (state.guardFor task.uri).2 then _ else _) =
    withDelay delay
      (if isHeld (state.guardFor task.uri).1 (state.guardFor task.uri).2 then _ else _)
  split
  · rfl
  · exact ignores_enter task _ delay _

theorem ignores_resume (task : Task) : Ignores (resume task) := by
  intro delay state
  unfold resume
  split
  · exact ignores_approach task delay state
  · exact ignores_enter task _ delay state
  · exact ignores_deliver task _ _ delay state
  · rfl
  · rfl
  · exact ignores_drop task delay state

theorem step?_withDelay (delay : UInt64) (state : State) :
    step? (withDelay delay state) = (step? state).map (withDelay delay) := by
  have tasks : (withDelay delay state).tasks = state.tasks := rfl
  have now : (withDelay delay state).now = state.now := rfl
  unfold step?
  rw [tasks, now]
  cases state.tasks.find? fun task => task.stage.isRunnable state.now with
  | none => rfl
  | some task =>
      exact congrArg some (ignores_resume task delay
        { state with tasks := state.tasks.eraseP fun task => task.stage.isRunnable state.now })

theorem ignores_run (limit : Nat) : Ignores (run limit) := by
  intro delay state
  induction limit generalizing state with
  | zero => rfl
  | succ limit ih =>
      rw [run, run, step?_withDelay]
      cases step? state with
      | none => rfl
      | some next => exact ih next

theorem ignores_settle : Ignores settle :=
  fun delay state => ignores_run state.steps delay state

theorem ignores_shutdown : Ignores shutdown := by
  have all (entries : List (Uri × Nat)) :
      Ignores fun state => entries.foldl (fun state entry => state.cancel entry.1) state := by
    intro delay state
    induction entries generalizing state with
    | nil => rfl
    | cons entry entries ih =>
        simp only [List.foldl_cons, ignores_cancel entry.1 delay state]
        exact ih (state.cancel entry.1)
  exact fun delay state => all state.pending delay state

/-- What is under way becomes due at the same times whatever the delay is. -/
theorem ignores_advance (duration : Nat) : Ignores (advance duration) := by
  have passes (times : List Nat) : Ignores fun state => times.foldl passTo state := by
    intro delay state
    induction times generalizing state with
    | nil => rfl
    | cons time times ih =>
        have first : (withDelay delay state).passTo time = withDelay delay (state.passTo time) :=
          ignores_settle delay { state with now := max state.now time }
        simp only [List.foldl_cons, first]
        exact ih (state.passTo time)
  intro delay state
  unfold advance
  simp only
  split
  · rfl
  · rw [ignores_settle delay state]
    have later := passes (state.dueBefore (state.now + duration)) delay state.settle
    exact congrArg (fun next => { next with now := state.now + duration }) later

end Validation.State

/-! ### States of a session -/

namespace Session

/-- The states that a session can come to: an event is taken in, or a task goes on. -/
inductive Reachable (settings : Settings) : Session → Prop where
  | initial : Reachable settings (.initial settings)
  | handles {session : Session} (reached : Reachable settings session) (event : Event) :
    Reachable settings (session.handle event)
  | proceeds {session : Session} {next : State} (reached : Reachable settings session)
    (stepped : session.validation.step? = some next) :
    Reachable settings { session with validation := next }

theorem Reachable.settle {settings : Settings} {session : Session}
    (reached : Reachable settings session) : Reachable settings session.settle := by
  have runs (limit : Nat) {session : Session} (reached : Reachable settings session) :
      Reachable settings { session with validation := session.validation.run limit } := by
    induction limit generalizing session with
    | zero => exact reached
    | succ limit ih =>
        rw [State.run]
        cases stepped : session.validation.step? with
        | none => exact reached
        | some next => exact ih (reached.proceeds stepped)
  exact runs session.validation.steps reached

theorem reachable_applyAll (settings : Settings) (steps : List (Bool × Event)) :
    Reachable settings ((Session.initial settings).applyAll steps) := by
  have onward {session : Session} (reached : Reachable settings session) :
      Reachable settings (session.applyAll steps) := by
    induction steps generalizing session with
    | nil => exact reached
    | cons step steps ih =>
        apply ih
        obtain ⟨settles, event⟩ := step
        cases settles with
        | false => exact reached.handles event
        | true => exact (reached.handles event).settle
  exact onward .initial

/-! ### Both copies of the setting -/

def InStep (session : Session) : Prop :=
  session.validation.delay = session.settings.validation.debounceMs

variable {session : Session}

theorem setSettings_eq (settings : Settings) (session : Session) :
    session.setSettings settings = { session with
      settings := settings
      validation := session.validation.withDelay settings.validation.debounceMs } := by
  unfold setSettings State.setDelay
  rw [Duration.milliseconds_ofMilliseconds]
  rfl

theorem InStep.applySettings (inStep : session.InStep) (sent : Json) :
    (session.applySettings sent).InStep := by
  unfold Session.applySettings
  split
  · exact inStep
  · rw [setSettings_eq]
    rfl
  · exact inStep

theorem InStep.schedule (inStep : session.InStep) (uri : Uri) (store : Store) :
    InStep { session with
      validation := State.schedule uri { session.validation with store := store } } := by
  have kept := (State.ignores_cancel uri).delay { session.validation with store := store }
  exact kept.trans inStep

theorem InStep.handle (inStep : session.InStep) (event : Event) :
    (session.handle event).InStep := by
  cases event with
  | started options =>
      cases options with
      | none => exact inStep
      | some sent => exact inStep.applySettings sent
  | acknowledged => exact inStep
  | opened document => exact inStep.schedule document.uri _
  | changed uri version texts =>
      change (session.changeDocument uri version texts).InStep
      unfold changeDocument
      split
      · exact inStep
      · split
        · exact inStep
        · exact inStep.schedule uri _
  | closed uri =>
      have kept := (State.ignores_resume (State.retirement uri
        { session.validation with store := (session.validation.store.erase uri).2 })).delay
        { session.validation with
          store := (session.validation.store.erase uri).2
          nextCall := session.validation.nextCall + 1 }
      exact kept.trans inStep
  | configured sent => exact inStep.applySettings sent
  | elapsed duration => exact ((State.ignores_advance duration).delay _).trans inStep
  | shutdown => exact (State.ignores_shutdown.delay _).trans inStep
  | idle => exact inStep

theorem Reachable.inStep {settings : Settings} (reached : Reachable settings session) :
    session.InStep := by
  induction reached with
  | initial => exact Duration.milliseconds_ofMilliseconds settings.validation.debounceMs
  | handles _ event ih => exact ih.handle event
  | @proceeds session next _ stepped ih =>
      have kept := (State.sameSetting_step? stepped).delay
      exact kept.trans ih

/-! ### Settings from a client -/

variable {sent value : Json}

theorem applySettings_of_absent (absent : sent.member? "lg" = none) (session : Session) :
    session.applySettings sent = session := by
  unfold applySettings Settings.ofClient?
  rw [absent]
  rfl

theorem applySettings_of_refused (found : sent.member? "lg" = some value)
    (refused : ∀ settings : Settings, ¬settings.Stands value) (session : Session) :
    ∃ reason, session.applySettings sent = { session with
      log := session.log ++
        [⟨session.validation.now, "Ignoring invalid LG configuration: " ++ reason⟩] } := by
  unfold applySettings Settings.ofClient?
  rw [found]
  cases decoded : Settings.ofJson value with
  | ok settings => exact absurd ((Settings.ofJson_iff value settings).mp decoded) (refused settings)
  | error misfit =>
      refine ⟨misfit.message, ?_⟩
      rw [Option.map_some, decoded]

theorem applySettings_of_given {settings : Settings} (given : settings.Given sent)
    (session : Session) :
    session.applySettings sent = { session with
      settings := settings
      validation := session.validation.withDelay settings.validation.debounceMs } := by
  unfold applySettings
  rw [(Settings.ofClient?_iff sent settings).mpr given]
  exact setSettings_eq settings session

/-- The delay is what the settings say in every state of a session. What a client sends without
settings in it has no effect, what cannot be read as settings has none but a message in the log, and
settings are taken over with the delay while all else stays: what is under way goes on as it would
have, when all that is due has run and after any time. -/
theorem configuration_in_step :
    (∀ (settings : Settings) (session : Session), Reachable settings session →
      session.validation.delay = session.settings.validation.debounceMs) ∧
    (∀ (settings : Settings) (steps : List (Bool × Event)),
      Reachable settings ((Session.initial settings).applyAll steps)) ∧
    ∀ (sent : Json) (event : Event), event = .started (some sent) ∨ event = .configured sent →
      ∀ session : Session,
      (sent.member? "lg" = none → session.handle event = session) ∧
      (∀ value, sent.member? "lg" = some value → (∀ settings : Settings, ¬settings.Stands value) →
        ∃ reason, session.handle event = { session with
          log := session.log ++
            [⟨session.validation.now, "Ignoring invalid LG configuration: " ++ reason⟩] }) ∧
      ∀ settings : Settings, settings.Given sent →
        session.handle event = { session with
          settings := settings
          validation := session.validation.withDelay settings.validation.debounceMs } ∧
        (session.handle event).validation.settle =
          session.validation.settle.withDelay settings.validation.debounceMs ∧
        ∀ duration, (session.handle event).validation.advance duration =
          (session.validation.advance duration).withDelay settings.validation.debounceMs := by
  refine ⟨fun _ _ reached => reached.inStep, reachable_applyAll, ?_⟩
  intro sent event sends session
  have handled : session.handle event = session.applySettings sent := by
    rcases sends with rfl | rfl
    · rfl
    · rfl
  rw [handled]
  refine ⟨fun absent => applySettings_of_absent absent session,
    fun value found refused => applySettings_of_refused found refused session, ?_⟩
  intro settings given
  rw [applySettings_of_given given]
  refine ⟨rfl, ?_, ?_⟩
  · exact State.ignores_settle settings.validation.debounceMs session.validation
  · intro duration
    exact State.ignores_advance duration settings.validation.debounceMs session.validation

/-- The greatest number of 64 bits reaches the delay as it is, while the timer of a document that is
open already still runs out after 500 milliseconds; settings without a number have the default, and
a text in place of settings leaves them and the timer as they are. -/
theorem configuration_in_step_at_greatest :
    let uri : Uri := ⟨"file:///a.lg"⟩
    let session := (Session.initial {}).applyAll [(true, .opened ⟨uri, 1, "# A\n- one"⟩)]
    let sent : Json := .object [("lg", .object [("validation", .object
      [("debounceMs", .integer 18446744073709551615)])])]
    let next := session.handle (.configured sent)
    let refused := next.handle (.configured (.object [("lg", .string "x")]))
    session.validation.delay = session.settings.validation.debounceMs ∧
      next.settings = ⟨⟨18446744073709551615⟩⟩ ∧ next.validation.delay = 18446744073709551615 ∧
      next.validation.tasks = [⟨uri, .validation 0, .timed 500⟩] ∧
      (next.handle (.configured (.object [("lg", .array [])]))).settings = {} ∧
      refused.settings = next.settings ∧ refused.validation = next.validation := by
  intro uri session sent next refused
  have greatest : Settings.Given sent ⟨⟨18446744073709551615⟩⟩ :=
    ⟨_, rfl, _, rfl, .first ⟨_, rfl, .first rfl fun _ => nofun⟩ fun _ => nofun⟩
  have default : Settings.Given (.object [("lg", .array [])]) {} := ⟨_, rfl, _, rfl, .none⟩
  have none (settings : Settings) : ¬settings.Stands (.string "x") := by
    rintro ⟨given, same, _⟩
    cases same
  have reached : Reachable {} session := configuration_in_step.2.1 {} _
  have taken : next = _ :=
    ((configuration_in_step.2.2 sent _ (Or.inr rfl) session).2.2 _ greatest).1
  have again := ((configuration_in_step.2.2 _ _ (Or.inr rfl) next).2.2 _ default).1
  obtain ⟨reason, kept : refused = _⟩ :=
    (configuration_in_step.2.2 (.object [("lg", .string "x")]) _ (Or.inr rfl) next).2.1 _ rfl none
  have running : session.validation.tasks = [⟨uri, .validation 0, .timed 500⟩] := by decide +kernel
  refine ⟨configuration_in_step.1 {} session reached, by rw [taken], by rw [taken]; rfl, ?_,
    by rw [again], by rw [kept], by rw [kept]⟩
  rw [taken]
  exact running

end Session

end TemplateServer
