import TemplateServer.Proofs.Validation.Turn

/-!
Runs of the validation. A run is a list of moves: a call that returns at once, the turn of the
first task that can go on, or time that passes. Calls that settle and calls that let time pass are
made of these moves, so what holds after every move holds in every state there can be, also
between two turns. Main statements: settling ends with no task that can go on, and every sequence
of calls is a run.
-/

namespace TemplateServer.Validation

/-- Whether a call returns at once: all do but the one that lets time pass. -/
def Command.isInstant : Command → Bool
  | .advance _ => false
  | _ => true

/-- What can happen next. -/
inductive Move where
  | call (command : Command) (instant : command.isInstant = true)
  /-- The first task that can go on does so, if there is one. -/
  | turn
  /-- The clock moves on to a time, unless it is past that. -/
  | pass (time : Nat)

def Move.command? : Move → Option Command
  | .call command _ => some command
  | .turn => none
  | .pass _ => none

namespace State

def move (state : State) : Move → State
  | .call command _ => (state.perform command).2
  | .turn => state.step?.getD state
  | .pass time => { state with now := max state.now time }

def follow (state : State) (moves : List Move) : State :=
  moves.foldl move state

def applyAll (state : State) (steps : List (Bool × Command)) : State :=
  steps.foldl (fun state step => (state.apply step.1 step.2).2) state

/-- Whether a run that starts with nothing under way leads here. -/
def Reachable (state : State) : Prop :=
  ∃ delay gate moves, state = (State.initial delay gate).follow moves

@[simp]
theorem follow_nil (state : State) : state.follow [] = state :=
  rfl

@[simp]
theorem follow_cons (state : State) (move : Move) (moves : List Move) :
    state.follow (move :: moves) = (state.move move).follow moves :=
  rfl

@[simp]
theorem follow_append (state : State) (first second : List Move) :
    state.follow (first ++ second) = (state.follow first).follow second :=
  List.foldl_append

/-- Where there are no moves, all of them are as told. -/
theorem forall_moves_nil {told : List Move → Move → Prop} :
    ∀ before later, before ++ [later] <+: ([] : List Move) → told before later := by
  intro before later earlier
  exact absurd (List.prefix_nil.mp earlier) (List.append_ne_nil_of_right_ne_nil _ (by simp))

/-- All moves are as told for what comes before them if the first is and those after it are. -/
theorem forall_moves_cons {told : List Move → Move → Prop} {move : Move} {moves : List Move} :
    (∀ before later, before ++ [later] <+: move :: moves → told before later) ↔
      told [] move ∧
        ∀ before later, before ++ [later] <+: moves → told (move :: before) later := by
  constructor
  · intro all
    refine ⟨all [] move ⟨moves, rfl⟩, ?_⟩
    intro before later earlier
    exact all (move :: before) later (List.cons_prefix_cons.mpr ⟨rfl, earlier⟩)
  · rintro ⟨first, rest⟩ before later earlier
    cases before with
    | nil =>
        obtain ⟨same, _⟩ := List.cons_prefix_cons.mp earlier
        rw [same]
        exact first
    | cons head before =>
        obtain ⟨same, further⟩ := List.cons_prefix_cons.mp earlier
        rw [same]
        exact rest before later further

theorem Reachable.follow {state : State} (reachable : Reachable state) (moves : List Move) :
    Reachable (state.follow moves) := by
  obtain ⟨delay, gate, earlier, same⟩ := reachable
  refine ⟨delay, gate, earlier ++ moves, ?_⟩
  rw [follow_append, same]

/-! ### Permits one at a time -/

private theorem waiting_grant (state : State) :
    (state.grant.tasks.countP fun task => task.stage.isWaiting) =
      (state.tasks.countP fun task => task.stage.isWaiting) - 1 := by
  rcases grant_cases state with ⟨next, none⟩ | ⟨before, uri, job, guard, notice, after, split, _, next⟩
  · have zero : (state.tasks.countP fun task => task.stage.isWaiting) = 0 :=
      List.countP_eq_zero.mpr fun task member => by rw [none task member]; exact Bool.false_ne_true
    rw [next]
    change (state.tasks.countP fun task => task.stage.isWaiting) = _
    rw [zero]
  · rw [next, split]
    simp [Stage.isWaiting, List.countP_append]

private theorem repeat_grant_of_unclaimed {state : State} (count : Nat)
    (unclaimed : (state.tasks.countP fun task => task.stage.isWaiting) = 0) :
    Nat.repeat grant count state = { state with permits := state.permits + count } := by
  induction count with
  | zero => rfl
  | succ count ih =>
      change grant (Nat.repeat grant count state) = _
      rw [ih]
      rcases grant_cases { state with permits := state.permits + count } with
        ⟨next, _⟩ | ⟨before, uri, job, guard, notice, after, split, _, _⟩
      · rw [next]
        rfl
      · exact absurd rfl (List.countP_eq_zero.mp unclaimed _ (mem_split_self split))

private theorem waiting_repeat_grant (count : Nat) (state : State) :
    ((Nat.repeat grant count state).tasks.countP fun task => task.stage.isWaiting) =
      (state.tasks.countP fun task => task.stage.isWaiting) - count := by
  induction count with
  | zero => rfl
  | succ count ih =>
      change ((grant (Nat.repeat grant count state)).tasks.countP _) = _
      rw [waiting_grant, ih]
      omega

private theorem repeat_add {change : State → State} (first second : Nat) (state : State) :
    Nat.repeat change (first + second) state =
      Nat.repeat change first (Nat.repeat change second state) := by
  induction first with
  | zero => rw [Nat.zero_add]; rfl
  | succ first ih =>
      rw [Nat.succ_add]
      change change (Nat.repeat change (first + second) state) = _
      rw [ih]
      rfl

/-- Adding permits is adding one after the other. -/
theorem release_eq_repeat (count : Nat) (state : State) :
    state.release count = Nat.repeat grant count state := by
  unfold release
  rcases Nat.le_total count (state.tasks.countP fun task => task.stage.isWaiting) with few | many
  · simp only [Nat.min_eq_left few, Nat.sub_self, Nat.add_zero]
  · simp only [Nat.min_eq_right many]
    have unclaimed := waiting_repeat_grant
      (state.tasks.countP fun task => task.stage.isWaiting) state
    rw [Nat.sub_self] at unclaimed
    rw [← repeat_grant_of_unclaimed _ unclaimed, ← repeat_add, Nat.sub_add_cancel many]

theorem waiting_release (count : Nat) (state : State) :
    ((state.release count).tasks.countP fun task => task.stage.isWaiting) =
      (state.tasks.countP fun task => task.stage.isWaiting) - count := by
  rw [release_eq_repeat]
  exact waiting_repeat_grant count state

/-! ### What every move preserves -/

theorem shutdown_invariant {holds : State → Prop}
    (cancelled : ∀ (state : State) (uri : Uri), holds state → holds (state.cancel uri))
    {state : State} (start : holds state) : holds state.shutdown := by
  have folded : ∀ (entries : List (Uri × Nat)) (current : State), holds current →
      holds (entries.foldl (fun state entry => state.cancel entry.1) current) := by
    intro entries
    induction entries with
    | nil => exact fun _ reached => reached
    | cons entry entries ih => exact fun _ reached => ih _ (cancelled _ entry.1 reached)
  exact folded state.pending state start

theorem release_invariant {holds : State → Prop}
    (granted : ∀ state : State, holds state → holds state.grant)
    {state : State} (start : holds state) (count : Nat) : holds (state.release count) := by
  rw [release_eq_repeat]
  induction count with
  | zero => exact start
  | succ count ih => exact granted _ ih

/-- A property that no call takes away that may be made, nor time that passes. -/
structure Unbroken (made : Command → Prop) (holds : State → Prop) : Prop where
  setting : ∀ {state : State} (store : Store) (delay : UInt64) (now : Nat), state.now ≤ now →
    holds state → holds { state with store := store, delay := delay, now := now }
  schedule : ∀ {state : State} (uri : Uri), made (.schedule uri) → holds state →
    holds (state.schedule uri)
  retire : ∀ {state : State} (uri : Uri), made (.retire uri) → holds state →
    holds (state.retire uri)
  cancel : ∀ {state : State} (uri : Uri), made .shutdown → holds state → holds (state.cancel uri)
  grant : ∀ {state : State}, holds state → holds state.grant

theorem Unbroken.move {made : Command → Prop} {holds : State → Prop}
    (unbroken : Unbroken made holds) {state : State} (start : holds state) (move : Move)
    (allowed : ∀ command, move.command? = some command → made command)
    (turn : ∀ next, move = .turn → state.step? = some next → holds next) :
    holds (state.move move) := by
  have stored (store : Store) : holds { state with store := store } :=
    unbroken.setting store state.delay state.now (Nat.le_refl _) start
  cases move with
  | turn =>
      change holds (state.step?.getD state)
      cases stepped : state.step? with
      | none => exact start
      | some next => exact turn next rfl stepped
  | pass time => exact unbroken.setting state.store state.delay _ (Nat.le_max_left _ _) start
  | call command instant =>
      have permitted := allowed command rfl
      cases command with
      | openDocument document => exact stored _
      | changeDocument document => exact stored _
      | closeDocument uri => exact stored _
      | schedule uri => exact unbroken.schedule uri permitted start
      | retire uri => exact unbroken.retire uri permitted start
      | isPending uri => exact start
      | setDelay delay =>
          exact unbroken.setting state.store delay.milliseconds state.now (Nat.le_refl _) start
      | advance duration => cases instant
      | release count =>
          refine release_invariant ?_ start count
          exact fun _ => unbroken.grant
      | shutdown =>
          refine shutdown_invariant ?_ start
          exact fun _ uri => unbroken.cancel uri permitted
      | idle => exact start

theorem Unbroken.follow {made : Command → Prop} {holds : State → Prop}
    (unbroken : Unbroken made holds)
    (turn : ∀ {state next : State}, state.step? = some next → holds state → holds next)
    {state : State} (start : holds state) (moves : List Move)
    (allowed : ∀ move ∈ moves, ∀ command, move.command? = some command → made command) :
    holds (state.follow moves) := by
  induction moves generalizing state with
  | nil => exact start
  | cons move moves ih =>
      have kept := unbroken.move start move (allowed move List.mem_cons_self)
        fun _ _ stepped => turn stepped start
      exact ih kept fun later member => allowed later (List.mem_cons_of_mem move member)

/-- A property that neither a call nor a turn takes away. -/
structure Preserved (holds : State → Prop) : Prop extends Unbroken (fun _ => True) holds where
  turn : ∀ {state next : State}, state.step? = some next → holds state → holds next

theorem Preserved.reachable {holds : State → Prop} (preserved : Preserved holds)
    (start : ∀ delay gate, holds (.initial delay gate)) {state : State}
    (reachable : Reachable state) : holds state := by
  obtain ⟨delay, gate, moves, same⟩ := reachable
  rw [same]
  exact preserved.toUnbroken.follow preserved.turn (start delay gate) moves fun _ _ _ _ => trivial

/-! ### What a turn leaves alone -/

/-- Two states with the same documents, clock, delay, gate and counters. -/
structure SameSetting (state next : State) : Prop where
  store : next.store = state.store
  now : next.now = state.now
  delay : next.delay = state.delay
  nextTicket : next.nextTicket = state.nextTicket
  nextCall : next.nextCall = state.nextCall
  gate : next.gate = state.gate

theorem SameSetting.trans {first second third : State} (left : SameSetting first second)
    (right : SameSetting second third) : SameSetting first third :=
  ⟨right.store.trans left.store, right.now.trans left.now, right.delay.trans left.delay,
    right.nextTicket.trans left.nextTicket, right.nextCall.trans left.nextCall,
    right.gate.trans left.gate⟩

theorem sameSetting_handOver (guard : Nat) (state : State) :
    SameSetting state (state.handOver guard) := by
  rw [handOver_eq]
  exact ⟨rfl, rfl, rfl, rfl, rfl, rfl⟩

theorem sameSetting_cancel (uri : Uri) (state : State) : SameSetting state (state.cancel uri) := by
  rw [cancel_eq]
  exact ⟨rfl, rfl, rfl, rfl, rfl, rfl⟩

theorem sameSetting_drop (remover : Task) (state : State) :
    SameSetting state (state.drop remover) := by
  rw [drop_eq]
  exact ⟨rfl, rfl, rfl, rfl, rfl, rfl⟩

theorem sameSetting_deliver (task : Task) (guard : Nat) (notice : Notice) (state : State) :
    SameSetting state (state.deliver task guard notice) := by
  rw [deliver_eq, handOver_eq]
  exact ⟨rfl, rfl, rfl, rfl, rfl, rfl⟩

theorem Admits.sameSetting {task : Task} {base entry : State} {guard : Nat}
    (admits : Admits task base guard entry) : SameSetting base entry := by
  cases admits with
  | handed entering => exact ⟨rfl, rfl, rfl, rfl, rfl, rfl⟩
  | asks due entry timed asked free =>
      rcases guardFor_cases asked with ⟨_, same⟩ | ⟨_, _, same⟩
      · rw [same]
        exact ⟨rfl, rfl, rfl, rfl, rfl, rfl⟩
      · rw [same]
        exact ⟨rfl, rfl, rfl, rfl, rfl, rfl⟩

theorem Prepares.sameSetting {task : Task} {entry ready : State} {notice : Notice}
    (prepares : Prepares task entry ready notice) : SameSetting entry ready := by
  cases prepares with
  | validation ticket document job listed present => exact ⟨rfl, rfl, rfl, rfl, rfl, rfl⟩
  | retirement call job => exact sameSetting_cancel task.uri entry

theorem Turn.sameSetting {task : Task} {base next : State} (turn : Turn task base next) :
    SameSetting base next := by
  cases turn with
  | queues due guard entry timed asked held =>
      rcases guardFor_cases asked with ⟨_, same⟩ | ⟨_, _, same⟩
      · rw [same]
        exact ⟨rfl, rfl, rfl, rfl, rfl, rfl⟩
      · rw [same]
        exact ⟨rfl, rfl, rfl, rfl, rfl, rfl⟩
  | lapses guard entry admits clears unlisted =>
      exact admits.sameSetting.trans (sameSetting_handOver guard entry)
  | skips guard ticket entry admits job listed closed =>
      have kept := sameSetting_handOver guard (entry.forgetTimer task.uri)
      exact admits.sameSetting.trans
        ⟨kept.store, kept.now, kept.delay, kept.nextTicket, kept.nextCall, kept.gate⟩
  | waits guard notice entry ready admits prepares gated spent =>
      have kept := admits.sameSetting.trans prepares.sameSetting
      exact ⟨kept.store, kept.now, kept.delay, kept.nextTicket, kept.nextCall, kept.gate⟩
  | passes guard left notice entry ready admits prepares paid =>
      have kept := sameSetting_deliver task guard notice { ready with permits := left }
      exact (admits.sameSetting.trans prepares.sameSetting).trans
        ⟨kept.store, kept.now, kept.delay, kept.nextTicket, kept.nextCall, kept.gate⟩
  | leaves guard notice permitted => exact sameSetting_deliver task guard notice base
  | drops ready => exact sameSetting_drop task base

theorem sameSetting_step? {state next : State} (stepped : state.step? = some next) :
    SameSetting state next := by
  obtain ⟨before, task, after, _, _, _, turn⟩ := step?_turn stepped
  have kept := turn.sameSetting
  exact ⟨kept.store, kept.now, kept.delay, kept.nextTicket, kept.nextCall, kept.gate⟩

theorem sameSetting_grant (state : State) : SameSetting state state.grant := by
  rcases grant_cases state with ⟨next, _⟩ | ⟨before, uri, job, guard, notice, after, _, _, next⟩
  · rw [next]
    exact ⟨rfl, rfl, rfl, rfl, rfl, rfl⟩
  · rw [next]
    exact ⟨rfl, rfl, rfl, rfl, rfl, rfl⟩

theorem sameSetting_shutdown (state : State) : SameSetting state state.shutdown :=
  shutdown_invariant (fun _ uri kept => kept.trans (sameSetting_cancel uri _))
    (⟨rfl, rfl, rfl, rfl, rfl, rfl⟩ : SameSetting state state)

theorem sameSetting_release (count : Nat) (state : State) :
    SameSetting state (state.release count) :=
  release_invariant (fun _ kept => kept.trans (sameSetting_grant _))
    (⟨rfl, rfl, rfl, rfl, rfl, rfl⟩ : SameSetting state state) count

/-- Scheduling aborts the validation that is outside and adds another. -/
theorem schedule_eq (uri : Uri) (state : State) :
    state.schedule uri =
      State.push ⟨uri, .validation state.nextTicket, .timed state.due⟩
        { state.cancel uri with
          nextTicket := state.nextTicket + 1
          pending := (uri, state.nextTicket) :: (state.cancel uri).pending } := by
  have kept := sameSetting_cancel uri state
  unfold schedule due
  simp only [kept.now, kept.delay, kept.nextTicket]
  rfl

/-! ### Settling -/

private def effort (tasks : List Task) : Nat :=
  tasks.foldr (fun task count => task.steps + count) 0

private theorem effort_append (first second : List Task) :
    effort (first ++ second) = effort first + effort second := by
  induction first with
  | nil => exact (Nat.zero_add _).symm
  | cons task tasks ih =>
      change task.steps + effort (tasks ++ second) = task.steps + effort tasks + _
      rw [ih, Nat.add_assoc]

private theorem effort_cons (task : Task) (tasks : List Task) :
    effort (task :: tasks) = task.steps + effort tasks :=
  rfl

private theorem effort_handOver (guard : Nat) (state : State) :
    effort (state.handOver guard).tasks ≤ effort state.tasks := by
  rcases handOver_cases guard state with ⟨same, _⟩ | ⟨before, uri, job, after, split, next⟩
  · exact Nat.le_of_eq (by rw [same])
  · rw [next, split]
    -- a task that waits for a guard has at least one turn more to go than one that was handed it
    have more : 2 ≤ Task.steps ⟨uri, job, .queued guard⟩ := by
      change 2 ≤ if job.isLive then 3 else 2
      split
      · exact Nat.le_succ 2
      · exact Nat.le_refl 2
    simp only [effort_append, effort_cons]
    change effort before + effort after + (1 + 0) ≤ _
    omega

private theorem effort_vacate (stage : Stage) (state : State) :
    effort (state.vacate stage).tasks ≤ effort state.tasks := by
  unfold vacate
  cases stage.guard? with
  | none => exact Nat.le_refl _
  | some guard => exact effort_handOver guard state

/-- What the task that is to drop a validation adds, the validation has less. -/
private theorem effort_aborts {ticket : Nat} {tasks next : List Task}
    (aborts : Aborts ticket tasks next) : effort next ≤ effort tasks := by
  cases aborts with
  | absent absent => exact Nat.le_refl _
  | asleep before after uri due split =>
      rw [split]
      simp only [effort_append, effort_cons]
      omega
  | queued before after uri guard split =>
      rw [split]
      simp only [effort_append, effort_cons]
      change effort before + (2 + effort after) + (1 + 0) ≤ effort before + (3 + effort after)
      omega
  | called before after uri stage awake unqueued split =>
      have same : Task.steps ⟨uri, .aborted ticket, stage⟩ =
          Task.steps ⟨uri, .validation ticket, stage⟩ := by
        cases stage with
        | queued guard => exact absurd rfl (unqueued guard)
        | _ => rfl
      rw [split]
      simp only [effort_append, effort_cons, same, Nat.le_refl]

private theorem effort_cancel (uri : Uri) (state : State) :
    effort (state.cancel uri).tasks ≤ effort state.tasks := by
  cases listed : state.pending.lookup uri with
  | none =>
      exact Nat.le_of_eq (by rw [cancel_of_unlisted listed])
  | some ticket =>
      obtain ⟨tasks, next, aborts⟩ := cancel_cases listed
      rw [next]
      exact effort_aborts aborts

private theorem effort_drop (remover : Task) (state : State) :
    effort (state.drop remover).tasks ≤ effort state.tasks := by
  rcases drop_cases remover state with ⟨same, _⟩ | ⟨before, ticket, stage, after, split, next⟩
  · exact Nat.le_of_eq (by rw [same])
  · rw [next, split]
    have vacated := effort_vacate stage { state with tasks := before ++ after }
    simp only [effort_append, effort_cons] at vacated ⊢
    omega

private theorem effort_deliver (task : Task) (guard : Nat) (notice : Notice) (state : State) :
    effort (state.deliver task guard notice).tasks ≤ effort state.tasks := by
  rw [deliver_eq]
  exact effort_handOver guard _

private theorem Admits.effort_eq {task : Task} {base entry : State} {guard : Nat}
    (admits : Admits task base guard entry) : effort entry.tasks = effort base.tasks := by
  cases admits with
  | handed entering => rfl
  | asks due entry timed asked free =>
      rcases guardFor_cases asked with ⟨_, same⟩ | ⟨_, _, same⟩
      · rw [same]
      · rw [same]

private theorem Prepares.effort_le {task : Task} {entry ready : State} {notice : Notice}
    (prepares : Prepares task entry ready notice) : effort ready.tasks ≤ effort entry.tasks := by
  cases prepares with
  | validation ticket document job listed present => exact Nat.le_refl _
  | retirement call job => exact effort_cancel task.uri entry

private theorem Turn.effort_lt {task : Task} {base next : State} {now : Nat}
    (turn : Turn task base next) (runnable : task.stage.isRunnable now = true) :
    effort next.tasks < effort base.tasks + task.steps := by
  have positive : 0 < task.steps := by
    unfold Task.steps
    cases stage : task.stage with
    | timed due => exact Nat.succ_pos 3
    | entering guard => exact Nat.succ_pos 0
    | permitted guard notice => exact Nat.succ_pos 0
    | ready => exact Nat.succ_pos 0
    | queued guard =>
        rw [stage] at runnable
        cases runnable
    | waiting guard notice =>
        rw [stage] at runnable
        cases runnable
  cases turn with
  | queues due guard entry timed asked held =>
      have same : effort entry.tasks = effort base.tasks := by
        rcases guardFor_cases asked with ⟨_, same⟩ | ⟨_, _, same⟩
        · rw [same]
        · rw [same]
      change effort (entry.tasks ++ [_]) < _
      have less : Task.steps { task with stage := .queued guard } ≤ 3 := by
        change (if task.job.isLive then 3 else 2) ≤ 3
        split
        · exact Nat.le_refl 3
        · exact Nat.le_succ 2
      have most : task.steps = 4 := by
        unfold Task.steps
        rw [timed]
      rw [effort_append, same, most]
      change effort base.tasks + (Task.steps _ + 0) < effort base.tasks + 4
      omega
  | lapses guard entry admits clears unlisted =>
      have handed := effort_handOver guard entry
      have same := admits.effort_eq
      omega
  | skips guard ticket entry admits job listed closed =>
      have handed := effort_handOver guard (entry.forgetTimer task.uri)
      have same := admits.effort_eq
      change effort _ ≤ effort entry.tasks at handed
      omega
  | waits guard notice entry ready admits prepares gated spent =>
      have same := admits.effort_eq
      have prepared := prepares.effort_le
      change effort (ready.tasks ++ [_]) < _
      rw [effort_append]
      change effort ready.tasks + (0 + 0) < _
      omega
  | passes guard left notice entry ready admits prepares paid =>
      have same := admits.effort_eq
      have prepared := prepares.effort_le
      have delivered := effort_deliver task guard notice { ready with permits := left }
      change effort _ ≤ effort ready.tasks at delivered
      omega
  | leaves guard notice permitted =>
      have delivered := effort_deliver task guard notice base
      omega
  | drops ready =>
      have dropped := effort_drop task base
      omega

theorem steps_lt_of_step? {state next : State} (stepped : state.step? = some next) :
    next.steps < state.steps := by
  obtain ⟨before, task, after, split, runnable, _earlier, turn⟩ := step?_turn stepped
  have less := turn.effort_lt runnable
  change effort next.tasks < effort state.tasks
  rw [split]
  simp only [effort_append, effort_cons] at less ⊢
  omega

theorem run_settles {limit : Nat} {state : State} (enough : state.steps ≤ limit) :
    (state.run limit).step? = none := by
  induction limit generalizing state with
  | zero =>
      cases stepped : state.step? with
      | none => exact stepped
      | some next =>
          have less := steps_lt_of_step? stepped
          omega
  | succ limit ih =>
      unfold run
      cases stepped : state.step? with
      | none => exact stepped
      | some next =>
          have less := steps_lt_of_step? stepped
          exact ih (by omega)

/-- Once settled, no task can go on. -/
theorem settle_settles (state : State) : state.settle.step? = none :=
  run_settles (Nat.le_refl state.steps)

/-! ### Sequences of calls are runs -/

theorem run_of_settled {state : State} (settled : state.step? = none) (limit : Nat) :
    state.run limit = state := by
  cases limit with
  | zero => rfl
  | succ limit =>
      unfold run
      rw [settled]

private theorem run_eq_run {state : State} {first second : Nat}
    (enough : state.steps ≤ first)
    (enoughToo : state.steps ≤ second) : state.run first = state.run second := by
  induction first generalizing state second with
  | zero =>
      cases stepped : state.step? with
      | none => rw [run_of_settled stepped, run_of_settled stepped]
      | some next =>
          have less := steps_lt_of_step? stepped
          omega
  | succ first ih =>
      cases stepped : state.step? with
      | none => rw [run_of_settled stepped, run_of_settled stepped]
      | some next =>
          have less := steps_lt_of_step? stepped
          obtain ⟨second, rfl⟩ := Nat.exists_eq_add_of_lt (Nat.lt_of_lt_of_le less enoughToo)
          unfold run
          rw [stepped]
          exact ih (by omega) (by omega)

theorem settle_of_settled {state : State} (settled : state.step? = none) : state.settle = state :=
  run_of_settled settled state.steps

/-- Settling starts with a turn, if there is one. -/
theorem settle_eq_settle {state next : State} (stepped : state.step? = some next) :
    state.settle = next.settle := by
  have less := steps_lt_of_step? stepped
  calc state.settle
      _ = state.run (state.steps + 1) := run_eq_run (Nat.le_refl _) (Nat.le_succ _)
      _ = next.run state.steps := by
        rw [run]
        rw [stepped]
      _ = next.settle := run_eq_run (Nat.le_of_lt less) (Nat.le_refl _)

/-- What every turn leaves is there once all is settled. -/
theorem settle_invariant {state : State} {holds : State → Prop}
    (turn : ∀ {state next : State}, state.step? = some next → holds state → holds next)
    (start : holds state) : holds state.settle := by
  have followed : ∀ limit (current : State), holds current → holds (current.run limit) := by
    intro limit
    induction limit with
    | zero => exact fun _ reached => reached
    | succ limit ih =>
        intro current reached
        unfold run
        cases stepped : current.step? with
        | none => exact reached
        | some later => exact ih later (turn stepped reached)
  exact followed state.steps state start

theorem move_turn {state next : State} (stepped : state.step? = some next) :
    state.move .turn = next := by
  change state.step?.getD state = next
  rw [stepped]
  rfl

theorem move_turn_of_settled {state : State} (settled : state.step? = none) :
    state.move .turn = state := by
  change state.step?.getD state = state
  rw [settled]
  rfl

theorem step?_eq_move {state : State} (unsettled : state.step?.isSome = true) :
    state.step? = some (state.move .turn) := by
  obtain ⟨next, stepped⟩ := Option.isSome_iff_exists.mp unsettled
  rw [move_turn stepped]
  exact stepped

theorem run_eq_follow (limit : Nat) (state : State) :
    state.run limit = state.follow (List.replicate limit .turn) := by
  induction limit generalizing state with
  | zero => rfl
  | succ limit ih =>
      unfold run
      rw [List.replicate_succ, follow_cons]
      cases stepped : state.step? with
      | none =>
          rw [move_turn_of_settled stepped, ← ih, run_of_settled stepped]
      | some next =>
          rw [move_turn stepped]
          exact ih next

/-- Moves that lead from one state to another and make just these calls. -/
def Leads (state : State) (calls : List Command) (next : State) : Prop :=
  ∃ moves, state.follow moves = next ∧ moves.filterMap Move.command? = calls

theorem Leads.trans {first second third : State} {calls more : List Command}
    (left : Leads first calls second) (right : Leads second more third) :
    Leads first (calls ++ more) third := by
  obtain ⟨moves, reached, made⟩ := left
  obtain ⟨others, reachedToo, madeToo⟩ := right
  refine ⟨moves ++ others, ?_, ?_⟩
  · rw [follow_append, reached, reachedToo]
  · rw [List.filterMap_append, made, madeToo]

theorem leads_settle (state : State) : Leads state [] state.settle := by
  refine ⟨List.replicate state.steps .turn, (run_eq_follow state.steps state).symm, ?_⟩
  refine List.filterMap_eq_nil_iff.mpr ?_
  intro move member
  rw [List.eq_of_mem_replicate member]
  rfl

theorem leads_pass (time : Nat) (state : State) :
    Leads state [] { state with now := max state.now time } :=
  ⟨[.pass time], rfl, rfl⟩

theorem leads_passTo (state : State) (time : Nat) : Leads state [] (state.passTo time) :=
  (leads_pass time state).trans (leads_settle _)

theorem now_run (limit : Nat) (state : State) : (state.run limit).now = state.now := by
  induction limit generalizing state with
  | zero => rfl
  | succ limit ih =>
      unfold run
      cases stepped : state.step? with
      | none => rfl
      | some next => exact (ih next).trans (sameSetting_step? stepped).now

theorem leads_passAll (times : List Nat) (state : State) :
    Leads state [] (times.foldl passTo state) := by
  induction times generalizing state with
  | nil => exact ⟨[], rfl, rfl⟩
  | cons time times ih => exact (leads_passTo state time).trans (ih (state.passTo time))

theorem now_passAll_le {target : Nat} (times : List Nat) (state : State)
    (early : ∀ time ∈ times, time < target) (before : state.now ≤ target) :
    (times.foldl passTo state).now ≤ target := by
  induction times generalizing state with
  | nil => exact before
  | cons time times ih =>
      have passed : (state.passTo time).now = max state.now time := now_run _ _
      have soon := early time List.mem_cons_self
      exact ih (state.passTo time)
        (fun other member => early other (List.mem_cons_of_mem time member)) (by omega)

theorem lt_of_mem_dueBefore {target time : Nat} {state : State}
    (member : time ∈ state.dueBefore target) : time < target := by
  unfold dueBefore at member
  obtain ⟨task, _present, due⟩ := List.mem_filterMap.mp (List.mem_mergeSort.mp member)
  cases stage : task.stage with
  | timed limit =>
      rw [stage] at due
      by_cases early : limit < target
      · simp only [if_pos early, Option.some.injEq] at due
        omega
      · simp only [if_neg early] at due
        cases due
  | queued guard =>
      rw [stage] at due
      cases due
  | entering guard =>
      rw [stage] at due
      cases due
  | waiting guard notice =>
      rw [stage] at due
      cases due
  | permitted guard notice =>
      rw [stage] at due
      cases due
  | ready =>
      rw [stage] at due
      cases due

/-- The clock does not go past the target on the way. -/
theorem now_dueBefore_le (duration : Nat) (state : State) :
    ((state.dueBefore (state.now + duration)).foldl passTo state.settle).now ≤
      state.now + duration := by
  have settled : state.settle.now = state.now := now_run _ _
  exact now_passAll_le _ _ (fun time member => lt_of_mem_dueBefore member) (by omega)

/-- Time that passes is a run without calls. -/
theorem leads_advance (duration : Nat) (state : State) :
    Leads state [] (state.advance duration) := by
  unfold advance
  by_cases still : duration = 0
  · rw [if_pos still]
    exact ⟨[], rfl, rfl⟩
  · rw [if_neg still]
    have passed := leads_passAll (state.dueBefore (state.now + duration)) state.settle
    have arrived := leads_pass (state.now + duration)
      ((state.dueBefore (state.now + duration)).foldl passTo state.settle)
    rw [Nat.max_eq_right (now_dueBefore_le duration state)] at arrived
    exact (leads_settle state).trans (passed.trans arrived)

/-- A call that settles or does not is a run that makes this call, or no call if it lets time
pass. -/
theorem leads_apply (settles : Bool) (command : Command) (state : State) :
    Leads state ([command].filter Command.isInstant) (state.apply settles command).2 := by
  have performed :
      Leads state ([command].filter Command.isInstant) (state.perform command).2 := by
    cases instant : command.isInstant with
    | true =>
        rw [List.filter_cons_of_pos instant]
        exact ⟨[.call command instant], rfl, rfl⟩
    | false =>
        rw [List.filter_cons_of_neg (by rw [instant]; exact Bool.false_ne_true)]
        cases command with
        | advance duration => exact leads_advance duration state
        | _ => cases instant
  cases settles with
  | false => exact performed
  | true =>
      have settled := performed.trans (leads_settle (state.perform command).2)
      rw [List.append_nil] at settled
      exact settled

/-- Every sequence of calls is a run that makes these calls in this order. -/
theorem leads_applyAll (steps : List (Bool × Command)) (state : State) :
    Leads state ((steps.map Prod.snd).filter Command.isInstant) (state.applyAll steps) := by
  induction steps generalizing state with
  | nil => exact ⟨[], rfl, rfl⟩
  | cons step steps ih =>
      have first := leads_apply step.1 step.2 state
      have whole := first.trans (ih (state.apply step.1 step.2).2)
      rw [← List.filter_append] at whole
      exact whole

theorem reachable_applyAll (delay : UInt64) (gate : Option Uri) (steps : List (Bool × Command)) :
    Reachable ((State.initial delay gate).applyAll steps) := by
  obtain ⟨moves, reached, _made⟩ := leads_applyAll steps (State.initial delay gate)
  exact ⟨delay, gate, moves, reached.symm⟩

end State

end TemplateServer.Validation
