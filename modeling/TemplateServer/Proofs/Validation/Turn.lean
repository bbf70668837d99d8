import TemplateServer.Validation.Command

/-!
What one turn of a task can do. A task is always taken from the first place where it fits, so the
list of tasks splits into what stands before it and what stands behind it; the turn of a task is
told as one of a few cases, and every invariant is derived from these.
-/

namespace TemplateServer.Validation

/-- The guard at which a task at this stage stands, whether it waits there or holds it. -/
def Stage.place? : Stage → Option Nat
  | .timed _ => none
  | .queued guard => some guard
  | .entering guard => some guard
  | .waiting guard _ => some guard
  | .permitted guard _ => some guard
  | .ready => none

/-- Whether a task at this stage has gone past the guard and has yet to publish. A task that was
handed the guard and has not had its turn since is still outside. -/
def Stage.isInside : Stage → Bool
  | .timed _ => false
  | .queued _ => false
  | .entering _ => false
  | .waiting _ _ => true
  | .permitted _ _ => true
  | .ready => false

/-! ### Taking a task from the list -/

theorem find?_split {fits : Task → Bool} {tasks : List Task} {task : Task}
    (found : tasks.find? fits = some task) :
    fits task = true ∧ ∃ before after, tasks = before ++ task :: after ∧
      tasks.eraseP fits = before ++ after ∧ ∀ other ∈ before, fits other = false := by
  obtain ⟨fitting, before, after, split, earlier⟩ := List.find?_eq_some_iff_append.mp found
  have unfit : ∀ other ∈ before, ¬fits other = true := by
    intro other member fitsOther
    have refused := earlier other member
    rw [fitsOther] at refused
    cases refused
  refine ⟨fitting, before, after, split, ?_, ?_⟩
  · rw [split, List.eraseP_append_right _ unfit, List.eraseP_cons_of_pos fitting]
  · intro other member
    exact Bool.eq_false_iff.mpr (unfit other member)

theorem mem_split {before after tasks : List Task} {task other : Task}
    (split : tasks = before ++ task :: after) (member : other ∈ before ++ after) :
    other ∈ tasks := by
  rw [split]
  exact List.perm_middle.mem_iff.mpr (List.mem_cons_of_mem task member)

theorem mem_split_self {before after tasks : List Task} {task : Task}
    (split : tasks = before ++ task :: after) : task ∈ tasks := by
  rw [split]
  exact List.mem_append_right before List.mem_cons_self

namespace State

/-- The state in which a task stands before all others. While a task has its turn it is in none of
the places where a turn could find it, and this is where proofs keep it. -/
def holding (task : Task) (state : State) : State :=
  { state with tasks := task :: state.tasks }

/-! ### Handing a guard over -/

theorem handOver_cases (guard : Nat) (state : State) :
    (state.handOver guard = state ∧ ∀ task ∈ state.tasks, task.stage ≠ .queued guard) ∨
    ∃ before uri job after, state.tasks = before ++ ⟨uri, job, .queued guard⟩ :: after ∧
      state.handOver guard =
        { state with tasks := before ++ after ++ [⟨uri, job, .entering guard⟩] } := by
  unfold handOver
  cases found : state.tasks.find? fun task => task.stage.isQueuedOn guard with
  | none =>
      left
      refine ⟨rfl, ?_⟩
      intro task member queued
      have unfit := List.find?_eq_none.mp found task member
      rw [queued] at unfit
      exact unfit (beq_self_eq_true guard)
  | some task =>
      right
      obtain ⟨fitting, before, after, split, erased, _earlier⟩ := find?_split found
      obtain ⟨uri, job, stage⟩ := task
      cases stage with
      | queued other =>
          have same : other = guard := eq_of_beq fitting
          subst same
          exact ⟨before, uri, job, after, split, by simp only [erased]⟩
      | timed due => cases fitting
      | entering other => cases fitting
      | waiting other notice => cases fitting
      | permitted other notice => cases fitting
      | ready => cases fitting

theorem handOver_of_unqueued {guard : Nat} {state : State}
    (unqueued : ∀ task ∈ state.tasks, task.stage ≠ .queued guard) :
    state.handOver guard = state := by
  rcases handOver_cases guard state with ⟨same, _unqueued⟩ | ⟨before, uri, job, after, split, _next⟩
  · exact same
  · exact absurd rfl (unqueued _ (mem_split_self split))

theorem handOver_eq (guard : Nat) (state : State) :
    state.handOver guard = { state with tasks := (state.handOver guard).tasks } := by
  rcases handOver_cases guard state with ⟨same, _⟩ | ⟨before, uri, job, after, _split, next⟩
  · rw [same]
  · rw [next]

def vacate (stage : Stage) (state : State) : State :=
  match stage.guard? with
  | some guard => state.handOver guard
  | none => state

theorem vacate_eq (stage : Stage) (state : State) :
    state.vacate stage = { state with tasks := (state.vacate stage).tasks } := by
  unfold vacate
  cases stage.guard? with
  | none => rfl
  | some guard => exact handOver_eq guard state

/-! ### Aborting a validation -/

theorem markAborted_split {ticket : Nat} {before after : List Task} {uri : Uri} {stage : Stage}
    (absent : ∀ task ∈ before, task.job ≠ .validation ticket) :
    markAborted ticket (before ++ ⟨uri, .validation ticket, stage⟩ :: after) =
      before ++ ⟨uri, .aborted ticket, stage⟩ :: after := by
  induction before with
  | nil =>
      change markAborted ticket (_ :: after) = _ :: after
      unfold markAborted
      rw [if_pos rfl]
  | cons task before ih =>
      rw [List.cons_append, List.cons_append]
      unfold markAborted
      rw [if_neg (absent task List.mem_cons_self),
        ih fun other member => absent other (List.mem_cons_of_mem task member)]

/-- What becomes of the tasks when the validation with a ticket is aborted. -/
inductive Aborts (ticket : Nat) (tasks : List Task) : List Task → Prop where
  | absent (absent : ∀ task ∈ tasks, task.job ≠ .validation ticket) : Aborts ticket tasks tasks
  | asleep (before after : List Task) (uri : Uri) (due : Nat)
      (split : tasks = before ++ ⟨uri, .validation ticket, .timed due⟩ :: after) :
      Aborts ticket tasks (before ++ after)
  | queued (before after : List Task) (uri : Uri) (guard : Nat)
      (split : tasks = before ++ ⟨uri, .validation ticket, .queued guard⟩ :: after) :
      Aborts ticket tasks
        (before ++ ⟨uri, .aborted ticket, .queued guard⟩ :: after
          ++ [⟨uri, .removal ticket, .ready⟩])
  | called (before after : List Task) (uri : Uri) (stage : Stage)
      (awake : ∀ due, stage ≠ .timed due) (unqueued : ∀ guard, stage ≠ .queued guard)
      (split : tasks = before ++ ⟨uri, .validation ticket, stage⟩ :: after) :
      Aborts ticket tasks (before ++ ⟨uri, .aborted ticket, stage⟩ :: after)

/-- Whatever takes the place of the validation is no job that is still to be done. -/
theorem Aborts.parts {ticket : Nat} {tasks next : List Task} (aborts : Aborts ticket tasks next) :
    ((∀ task ∈ tasks, task.job ≠ .validation ticket) ∧ next = tasks) ∨
    ∃ before uri stage after left removers,
      tasks = before ++ ⟨uri, .validation ticket, stage⟩ :: after ∧
      next = before ++ left ++ after ++ removers ∧
      ∀ task ∈ left ++ removers,
        (task = ⟨uri, .aborted ticket, stage⟩ ∧ ∀ due, stage ≠ .timed due) ∨
          task = ⟨uri, .removal ticket, .ready⟩ := by
  cases aborts with
  | absent absent => exact Or.inl ⟨absent, rfl⟩
  | asleep before after uri due split =>
      exact Or.inr ⟨before, uri, .timed due, after, [], [], split, by simp, nofun⟩
  | queued before after uri guard split =>
      refine Or.inr ⟨before, uri, .queued guard, after, [⟨uri, .aborted ticket, .queued guard⟩],
        [⟨uri, .removal ticket, .ready⟩], split, by simp, ?_⟩
      intro task member
      rcases List.mem_cons.mp member with marked | last
      · exact Or.inl ⟨marked, nofun⟩
      · exact Or.inr (List.mem_singleton.mp last)
  | called before after uri stage awake unqueued split =>
      refine Or.inr ⟨before, uri, stage, after, [⟨uri, .aborted ticket, stage⟩], [], split,
        by simp, ?_⟩
      intro task member
      exact Or.inl ⟨List.mem_singleton.mp member, awake⟩

theorem abort_cases (ticket : Nat) (state : State) :
    ∃ tasks, state.abort ticket = { state with tasks := tasks } ∧
      Aborts ticket state.tasks tasks := by
  unfold abort
  cases found : state.tasks.find? fun task => task.job == .validation ticket with
  | none =>
      refine ⟨state.tasks, rfl, .absent ?_⟩
      intro task member same
      exact List.find?_eq_none.mp found task member (beq_iff_eq.mpr same)
  | some task =>
      obtain ⟨fitting, before, after, split, erased, earlier⟩ := find?_split found
      obtain ⟨uri, job, stage⟩ := task
      have same : job = .validation ticket := eq_of_beq fitting
      subst same
      have marked : markAborted ticket state.tasks =
          before ++ ⟨uri, .aborted ticket, stage⟩ :: after := by
        rw [split]
        refine markAborted_split ?_
        intro other member
        exact ne_of_beq_false (earlier other member)
      cases stage with
      | timed due => exact ⟨_, rfl, by rw [erased]; exact .asleep before after uri due split⟩
      | queued guard => exact ⟨_, rfl, by rw [marked]; exact .queued before after uri guard split⟩
      | entering guard =>
          exact ⟨_, rfl, by rw [marked]; exact .called before after uri _ nofun nofun split⟩
      | waiting guard notice =>
          exact ⟨_, rfl, by rw [marked]; exact .called before after uri _ nofun nofun split⟩
      | permitted guard notice =>
          exact ⟨_, rfl, by rw [marked]; exact .called before after uri _ nofun nofun split⟩
      | ready =>
          exact ⟨_, rfl, by rw [marked]; exact .called before after uri _ nofun nofun split⟩

theorem cancel_of_unlisted {uri : Uri} {state : State}
    (unlisted : state.pending.lookup uri = none) : state.cancel uri = state := by
  unfold cancel
  rw [unlisted]

theorem cancel_of_listed {uri : Uri} {state : State} {ticket : Nat}
    (listed : state.pending.lookup uri = some ticket) :
    state.cancel uri = (state.forgetTimer uri).abort ticket := by
  unfold cancel
  rw [listed]

theorem cancel_cases {uri : Uri} {state : State} {ticket : Nat}
    (listed : state.pending.lookup uri = some ticket) :
    ∃ tasks, state.cancel uri = { state.forgetTimer uri with tasks := tasks } ∧
      Aborts ticket state.tasks tasks := by
  rw [cancel_of_listed listed]
  exact abort_cases ticket (state.forgetTimer uri)

private theorem filter_of_unlisted {uri : Uri} {pending : List (Uri × Nat)}
    (unlisted : pending.lookup uri = none) :
    (pending.filter fun entry => entry.1 ≠ uri) = pending := by
  refine List.filter_eq_self.mpr ?_
  intro entry member
  have different := List.lookup_eq_none_iff.mp unlisted entry member
  exact decide_eq_true fun same => by simp [same] at different

theorem cancel_eq (uri : Uri) (state : State) :
    state.cancel uri = { state.forgetTimer uri with tasks := (state.cancel uri).tasks } := by
  cases listed : state.pending.lookup uri with
  | none =>
      rw [cancel_of_unlisted listed]
      unfold forgetTimer
      rw [filter_of_unlisted listed]
  | some ticket =>
      obtain ⟨tasks, next, _aborts⟩ := cancel_cases listed
      rw [next]

/-- A retirement in hand is not the validation that is aborted, so it makes no difference to the
other tasks whether it stands among them. -/
theorem cancel_holding {uri : Uri} {task : Task} (state : State)
    (retires : task.job.isRetirement = true) :
    (state.holding task).cancel uri = (state.cancel uri).holding task := by
  have different : ∀ ticket, task.job ≠ .validation ticket := by
    intro ticket same
    rw [same] at retires
    cases retires
  cases listed : state.pending.lookup uri with
  | none =>
      rw [cancel_of_unlisted listed]
      exact cancel_of_unlisted listed
  | some ticket =>
      have listedToo : (state.holding task).pending.lookup uri = some ticket := listed
      have unfit : (task.job == .validation ticket) = false :=
        beq_false_of_ne (different ticket)
      rw [cancel_of_listed listed, cancel_of_listed listedToo]
      simp only [abort, holding, forgetTimer, List.find?_cons, unfit, List.eraseP_cons, markAborted,
        if_neg (different ticket)]
      cases state.tasks.find? fun task => task.job == .validation ticket with
      | none => rfl
      | some ended =>
          obtain ⟨owner, job, stage⟩ := ended
          cases stage with
          | timed due => rfl
          | queued guard => rfl
          | entering guard => rfl
          | waiting guard notice => rfl
          | permitted guard notice => rfl
          | ready => rfl

/-! ### Dropping an aborted validation -/

theorem Task.drops_iff {remover task : Task} :
    remover.drops task = true ↔
      ∃ ticket, remover.job = .removal ticket ∧ task.uri = remover.uri ∧
        task.job = .aborted ticket := by
  unfold Task.drops
  cases remover.job with
  | validation ticket => simp
  | retirement call => simp
  | aborted ticket => simp
  | removal ticket => simp

theorem drop_cases (remover : Task) (state : State) :
    (state.drop remover = state ∧ ∀ task ∈ state.tasks, remover.drops task = false) ∨
    ∃ before ticket stage after,
      state.tasks = before ++ ⟨remover.uri, .aborted ticket, stage⟩ :: after ∧
      state.drop remover = State.vacate stage { state with tasks := before ++ after } := by
  unfold drop
  cases found : state.tasks.find? remover.drops with
  | none =>
      left
      refine ⟨rfl, ?_⟩
      intro task member
      exact Bool.eq_false_iff.mpr (List.find?_eq_none.mp found task member)
  | some task =>
      right
      obtain ⟨fitting, before, after, split, erased, _earlier⟩ := find?_split found
      obtain ⟨uri, job, stage⟩ := task
      obtain ⟨ticket, _, owned, ended⟩ := Task.drops_iff.mp fitting
      cases owned
      cases ended
      refine ⟨before, ticket, stage, after, split, ?_⟩
      rw [erased]
      rfl

theorem drop_eq (remover : Task) (state : State) :
    state.drop remover = { state with tasks := (state.drop remover).tasks } := by
  rcases drop_cases remover state with ⟨same, _⟩ | ⟨before, ticket, stage, after, _split, next⟩
  · rw [same]
  · rw [next, vacate_eq]

/-! ### Granting a permit -/

theorem grant_cases (state : State) :
    (state.grant = { state with permits := state.permits + 1 } ∧
      ∀ task ∈ state.tasks, task.stage.isWaiting = false) ∨
    ∃ before uri job guard notice after,
      state.tasks = before ++ ⟨uri, job, .waiting guard notice⟩ :: after ∧
      (∀ other ∈ before, other.stage.isWaiting = false) ∧
      state.grant =
        { state with tasks := before ++ after ++ [⟨uri, job, .permitted guard notice⟩] } := by
  unfold grant
  cases found : state.tasks.find? fun task => task.stage.isWaiting with
  | none =>
      left
      refine ⟨rfl, ?_⟩
      intro task member
      exact Bool.eq_false_iff.mpr (List.find?_eq_none.mp found task member)
  | some task =>
      right
      obtain ⟨fitting, before, after, split, erased, earlier⟩ := find?_split found
      obtain ⟨uri, job, stage⟩ := task
      cases stage with
      | waiting guard notice =>
          exact ⟨before, uri, job, guard, notice, after, split, earlier, by simp only [erased]⟩
      | timed due => cases fitting
      | queued guard => cases fitting
      | entering guard => cases fitting
      | permitted guard notice => cases fitting
      | ready => cases fitting

/-! ### The turn of a task -/

theorem deliver_eq (task : Task) (guard : Nat) (notice : Notice) (state : State) :
    state.deliver task guard notice =
      State.handOver guard
        { state with
          published := state.published ++ [⟨state.now, task.uri, notice⟩]
          guards :=
            if task.job.isRetirement then state.guards.filter fun entry => entry.1 ≠ task.uri
            else state.guards } := by
  unfold deliver
  cases task.job with
  | validation ticket => rfl
  | retirement call => rfl
  | aborted ticket => rfl
  | removal ticket => rfl

theorem guardFor_cases {uri : Uri} {base entry : State} {guard : Nat}
    (asked : base.guardFor uri = (guard, entry)) :
    (base.guards.lookup uri = some guard ∧ entry = base) ∨
    (base.guards.lookup uri = none ∧ guard = base.nextGuard ∧
      entry = { base with
        guards := (uri, guard) :: base.guards
        nextGuard := guard + 1 }) := by
  unfold guardFor at asked
  cases listed : base.guards.lookup uri with
  | some known =>
      rw [listed] at asked
      cases asked
      exact Or.inl ⟨rfl, rfl⟩
  | none =>
      rw [listed] at asked
      cases asked
      exact Or.inr ⟨rfl, rfl, rfl⟩

theorem listed_of_asked {uri : Uri} {base entry : State} {guard : Nat}
    (asked : base.guardFor uri = (guard, entry)) : entry.guards.lookup uri = some guard := by
  rcases guardFor_cases asked with ⟨known, same⟩ | ⟨_, _, same⟩
  · rw [same]
    exact known
  · rw [same]
    exact List.lookup_cons_self

/-- How a task comes to hold a guard: it asks and finds it free, or it was handed it before. -/
inductive Admits (task : Task) (base : State) (guard : Nat) : State → Prop where
  | asks (due : Nat) (entry : State) (timed : task.stage = .timed due)
      (asked : base.guardFor task.uri = (guard, entry)) (free : entry.isHeld guard = false) :
      Admits task base guard entry
  | handed (entering : task.stage = .entering guard) : Admits task base guard base

/-- What a task does about timers once it holds the guard, and the notice it then has to publish. -/
inductive Prepares (task : Task) (entry : State) : State → Notice → Prop where
  | validation (ticket : Nat) (document : Document) (job : task.job = .validation ticket)
      (listed : entry.pending.lookup task.uri = some ticket)
      (present : entry.store.find? task.uri = some document) :
      Prepares task entry (entry.forgetTimer task.uri) (.about document)
  | retirement (call : Nat) (job : task.job = .retirement call) :
      Prepares task entry (entry.cancel task.uri) .clear

/-- What the turn of a task does that was taken out of the list. -/
inductive Turn (task : Task) (base : State) : State → Prop where
  | queues (due guard : Nat) (entry : State) (timed : task.stage = .timed due)
      (asked : base.guardFor task.uri = (guard, entry)) (held : entry.isHeld guard = true) :
      Turn task base (entry.push { task with stage := .queued guard })
  | lapses (guard : Nat) (entry : State) (admits : Admits task base guard entry)
      (clears : task.job.isRetirement = false)
      (unlisted : ∀ ticket, task.job = .validation ticket →
        entry.pending.lookup task.uri ≠ some ticket) :
      Turn task base (entry.handOver guard)
  | skips (guard ticket : Nat) (entry : State) (admits : Admits task base guard entry)
      (job : task.job = .validation ticket)
      (listed : entry.pending.lookup task.uri = some ticket)
      (closed : entry.store.find? task.uri = none) :
      Turn task base ((entry.forgetTimer task.uri).handOver guard)
  | waits (guard : Nat) (notice : Notice) (entry ready : State)
      (admits : Admits task base guard entry) (prepares : Prepares task entry ready notice)
      (gated : ready.gate = some task.uri) (spent : ready.permits = 0) :
      Turn task base (ready.push { task with stage := .waiting guard notice })
  | passes (guard left : Nat) (notice : Notice) (entry ready : State)
      (admits : Admits task base guard entry) (prepares : Prepares task entry ready notice)
      (paid : ready.gate = some task.uri ∧ ready.permits = left + 1 ∨
        ready.gate ≠ some task.uri ∧ ready.permits = left) :
      Turn task base (State.deliver task guard notice { ready with permits := left })
  | leaves (guard : Nat) (notice : Notice) (permitted : task.stage = .permitted guard notice) :
      Turn task base (base.deliver task guard notice)
  | drops (ready : task.stage = .ready) : Turn task base (base.drop task)

theorem Admits.ne_ready {task : Task} {base entry : State} {guard : Nat}
    (admits : Admits task base guard entry) : task.stage ≠ .ready := by
  intro ready
  cases admits with
  | asks due entry timed asked free =>
      rw [ready] at timed
      cases timed
  | handed entering =>
      rw [ready] at entering
      cases entering

theorem Turn.eq_drop {task : Task} {base next : State} (turn : Turn task base next)
    (ready : task.stage = .ready) : next = base.drop task := by
  cases turn with
  | drops _ => rfl
  | lapses guard entry admits clears unlisted => exact absurd ready admits.ne_ready
  | skips guard ticket entry admits job listed closed => exact absurd ready admits.ne_ready
  | waits guard notice entry prepared admits prepares gated spent =>
      exact absurd ready admits.ne_ready
  | passes guard left notice entry prepared admits prepares paid =>
      exact absurd ready admits.ne_ready
  | queues due guard entry timed asked held =>
      rw [ready] at timed
      cases timed
  | leaves guard notice permitted =>
      rw [ready] at permitted
      cases permitted

private theorem publish_turn {task : Task} {base entry ready : State} {guard : Nat}
    {notice : Notice} (admits : Admits task base guard entry)
    (prepares : Prepares task entry ready notice) :
    Turn task base (ready.publish task guard notice) := by
  unfold publish
  by_cases gated : ready.gate = some task.uri
  · rw [if_pos gated]
    cases spent : ready.permits with
    | zero => exact .waits guard notice entry ready admits prepares gated spent
    | succ left =>
        exact .passes guard left notice entry ready admits prepares (Or.inl ⟨gated, spent⟩)
  · rw [if_neg gated]
    exact .passes guard ready.permits notice entry ready admits prepares (Or.inr ⟨gated, rfl⟩)

private theorem enter_turn {task : Task} {base entry : State} {guard : Nat}
    (admits : Admits task base guard entry) : Turn task base (entry.enter task guard) := by
  unfold enter
  cases job : task.job with
  | validation ticket =>
      by_cases listed : entry.pending.lookup task.uri = some ticket
      · simp only [if_pos listed]
        cases present : entry.store.find? task.uri with
        | none => exact .skips guard ticket entry admits job listed present
        | some document =>
            exact publish_turn admits (.validation ticket document job listed present)
      · simp only [if_neg listed]
        refine .lapses guard entry admits (by rw [job]; rfl) ?_
        intro other same
        rw [job] at same
        cases same
        exact listed
  | retirement call => exact publish_turn admits (.retirement call job)
  | aborted ticket =>
      exact .lapses guard entry admits (by rw [job]; rfl) (by rw [job]; exact nofun)
  | removal ticket =>
      exact .lapses guard entry admits (by rw [job]; rfl) (by rw [job]; exact nofun)

private theorem approach_turn {task : Task} {base : State} {due : Nat}
    (timed : task.stage = .timed due) : Turn task base (base.approach task) := by
  unfold approach
  cases asked : base.guardFor task.uri with
  | mk guard entry =>
      cases held : entry.isHeld guard with
      | true =>
          simp only [held, if_true]
          exact .queues due guard entry timed asked held
      | false =>
          simp only [held]
          exact enter_turn (.asks due entry timed asked held)

theorem resume_turn {task : Task} {now : Nat} (base : State)
    (runnable : task.stage.isRunnable now = true) : Turn task base (base.resume task) := by
  unfold resume
  cases stage : task.stage with
  | timed due => exact approach_turn stage
  | entering guard => exact enter_turn (.handed stage)
  | permitted guard notice => exact .leaves guard notice stage
  | ready => exact .drops stage
  | queued guard =>
      rw [stage] at runnable
      cases runnable
  | waiting guard notice =>
      rw [stage] at runnable
      cases runnable

/-- The first task that can go on has its turn, and a turn is one of the cases above. -/
theorem step?_turn {state next : State} (stepped : state.step? = some next) :
    ∃ before task after, state.tasks = before ++ task :: after ∧
      task.stage.isRunnable state.now = true ∧
      (∀ other ∈ before, other.stage.isRunnable state.now = false) ∧
      Turn task { state with tasks := before ++ after } next := by
  unfold step? at stepped
  cases found : state.tasks.find? fun task => task.stage.isRunnable state.now with
  | none =>
      rw [found] at stepped
      cases stepped
  | some task =>
      rw [found] at stepped
      obtain ⟨runnable, before, after, split, erased, earlier⟩ := find?_split found
      simp only [erased, Option.some.injEq] at stepped
      refine ⟨before, task, after, split, runnable, earlier, ?_⟩
      rw [← stepped]
      exact resume_turn _ runnable

theorem step?_eq_none_iff {state : State} :
    state.step? = none ↔ ∀ task ∈ state.tasks, task.stage.isRunnable state.now = false := by
  unfold step?
  cases found : state.tasks.find? fun task => task.stage.isRunnable state.now with
  | none =>
      have idle := List.find?_eq_none.mp found
      refine ⟨fun _ task member => Bool.eq_false_iff.mpr (idle task member), fun _ => rfl⟩
  | some task =>
      have member := List.mem_of_find?_eq_some found
      have runnable := List.find?_some found
      constructor
      · intro stuck
        cases stuck
      · intro idle
        rw [idle task member] at runnable
        cases runnable

/-- In a settled state the turn is that of the task that is added. -/
theorem step?_push_of_settled {state : State} {task : Task} (settled : state.step? = none)
    (runnable : task.stage.isRunnable state.now = true) :
    (state.push task).step? = some (state.resume task) := by
  have idle : ∀ other ∈ state.tasks, ¬other.stage.isRunnable state.now = true := by
    intro other member
    exact Bool.eq_false_iff.mp (step?_eq_none_iff.mp settled other member)
  have found : ((state.push task).tasks.find? fun other =>
      other.stage.isRunnable (state.push task).now) = some task := by
    change ((state.tasks ++ [task]).find? fun other => other.stage.isRunnable state.now) = _
    rw [List.find?_append, List.find?_eq_none.mpr idle, List.find?_cons, runnable]
    rfl
  have erased : ((state.push task).tasks.eraseP fun other =>
      other.stage.isRunnable (state.push task).now) = state.tasks := by
    change ((state.tasks ++ [task]).eraseP fun other => other.stage.isRunnable state.now) = _
    rw [List.eraseP_append_right _ idle, List.eraseP_cons, runnable, cond_true, List.append_nil]
  unfold step?
  rw [found, erased]
  rfl

/-! ### The tasks after a turn -/

theorem mem_of_handOver {guard : Nat} {state : State} {other : Task}
    (member : other ∈ (state.handOver guard).tasks) :
    other ∈ state.tasks ∨ other.stage = .entering guard := by
  rcases handOver_cases guard state with ⟨same, _⟩ | ⟨before, uri, job, after, split, next⟩
  · rw [same] at member
    exact Or.inl member
  · rw [next] at member
    rcases List.mem_append.mp member with rest | last
    · exact Or.inl (mem_split split rest)
    · right
      rw [List.mem_singleton.mp last]

theorem mem_of_vacate {stage : Stage} {state : State} {other : Task}
    (member : other ∈ (state.vacate stage).tasks) :
    other ∈ state.tasks ∨ ∃ guard, stage.guard? = some guard ∧ other.stage = .entering guard := by
  unfold vacate at member
  cases holds : stage.guard? with
  | none =>
      rw [holds] at member
      exact Or.inl member
  | some guard =>
      rw [holds] at member
      rcases mem_of_handOver member with old | entering
      · exact Or.inl old
      · exact Or.inr ⟨guard, rfl, entering⟩

/-- A task that is there after a validation was aborted: one that was there before, what is left
of the validation, or the task that is to drop it. -/
inductive Remnant (tasks : List Task) : Task → Prop where
  | kept {task : Task} (member : task ∈ tasks) : Remnant tasks task
  | marked {uri : Uri} {ticket : Nat} {stage : Stage} (awake : ∀ due, stage ≠ .timed due)
      (member : ⟨uri, .validation ticket, stage⟩ ∈ tasks) :
      Remnant tasks ⟨uri, .aborted ticket, stage⟩
  | removal {uri : Uri} {ticket : Nat} {stage : Stage}
      (member : ⟨uri, .validation ticket, stage⟩ ∈ tasks) :
      Remnant tasks ⟨uri, .removal ticket, .ready⟩

/-- A task that sleeps was there before, and is not aborted. -/
theorem Remnant.mem_of_timed {tasks : List Task} {task : Task} {due : Nat}
    (remnant : Remnant tasks task) (timed : task.stage = .timed due) : task ∈ tasks := by
  cases remnant with
  | kept member => exact member
  | marked awake member => exact absurd timed (awake due)
  | removal member => cases timed

/-- Aborting moves no task on. -/
theorem Remnant.stage {tasks : List Task} {task : Task} (remnant : Remnant tasks task) :
    task.stage = .ready ∨
      ∃ earlier ∈ tasks, earlier.uri = task.uri ∧ earlier.stage = task.stage := by
  cases remnant with
  | kept member => exact Or.inr ⟨_, member, rfl, rfl⟩
  | marked awake member => exact Or.inr ⟨_, member, rfl, rfl⟩
  | removal member => exact Or.inl rfl

theorem mem_of_aborts {ticket : Nat} {tasks next : List Task} {other : Task}
    (aborts : Aborts ticket tasks next) (member : other ∈ next) : Remnant tasks other := by
  -- the marked task stands where the validation stood
  have placed {before after : List Task} {uri : Uri} {stage : Stage}
      (awake : ∀ due, stage ≠ .timed due)
      (split : tasks = before ++ ⟨uri, .validation ticket, stage⟩ :: after)
      (here : other ∈ before ++ ⟨uri, .aborted ticket, stage⟩ :: after) : Remnant tasks other := by
    rcases List.mem_cons.mp (List.perm_middle.mem_iff.mp here) with same | rest
    · rw [same]
      exact .marked awake (mem_split_self split)
    · exact .kept (mem_split split rest)
  cases aborts with
  | absent absent => exact .kept member
  | asleep before after uri due split => exact .kept (mem_split split member)
  | queued before after uri guard split =>
      rcases List.mem_append.mp member with here | last
      · refine placed ?_ split here
        exact nofun
      · rw [List.mem_singleton.mp last]
        exact .removal (mem_split_self split)
  | called before after uri stage awake unqueued split => exact placed awake split member

theorem mem_of_cancel {uri : Uri} {state : State} {other : Task}
    (member : other ∈ (state.cancel uri).tasks) : Remnant state.tasks other := by
  cases listed : state.pending.lookup uri with
  | none =>
      rw [cancel_of_unlisted listed] at member
      exact .kept member
  | some ticket =>
      obtain ⟨tasks, next, aborts⟩ := cancel_cases listed
      rw [next] at member
      exact mem_of_aborts aborts member

theorem mem_of_drop {remover other : Task} {state : State}
    (member : other ∈ (state.drop remover).tasks) :
    other ∈ state.tasks ∨ ∃ guard, other.stage = .entering guard := by
  rcases drop_cases remover state with ⟨same, _⟩ | ⟨before, ticket, stage, after, split, next⟩
  · rw [same] at member
    exact Or.inl member
  · rw [next] at member
    rcases mem_of_vacate member with old | ⟨guard, _, entering⟩
    · exact Or.inl (mem_split split old)
    · exact Or.inr ⟨guard, entering⟩

theorem Prepares.live {task : Task} {entry ready : State} {notice : Notice}
    (prepares : Prepares task entry ready notice) : task.job.isLive = true := by
  cases prepares with
  | validation ticket document job listed present =>
      rw [job]
      rfl
  | retirement call job =>
      rw [job]
      rfl

theorem Prepares.mem_tasks {task other : Task} {entry ready : State} {notice : Notice}
    (prepares : Prepares task entry ready notice) (member : other ∈ ready.tasks) :
    Remnant entry.tasks other := by
  cases prepares with
  | validation ticket document job listed present => exact .kept member
  | retirement call job => exact mem_of_cancel member

theorem guardFor_tasks {uri : Uri} {base entry : State} {guard : Nat}
    (asked : base.guardFor uri = (guard, entry)) : entry.tasks = base.tasks := by
  rcases guardFor_cases asked with ⟨_, same⟩ | ⟨_, _, same⟩
  · rw [same]
  · rw [same]

theorem Admits.tasks_eq {task : Task} {base entry : State} {guard : Nat}
    (admits : Admits task base guard entry) : entry.tasks = base.tasks := by
  cases admits with
  | asks due entry timed asked free => exact guardFor_tasks asked
  | handed entering => rfl

/-- After a turn there are tasks that were there before, or are left of such, tasks that were handed
a guard, and the task whose turn it was if it waits, be it for a guard or for a permit. -/
theorem Turn.mem_tasks {task other : Task} {base next : State} (turn : Turn task base next)
    (member : other ∈ next.tasks) :
    Remnant base.tasks other ∨ (∃ guard, other.stage = .entering guard) ∨
      (∃ guard, other = { task with stage := .queued guard }) ∨
      ∃ guard notice, other = { task with stage := .waiting guard notice } ∧
        next.gate = some task.uri ∧ next.permits = 0 := by
  have handed {state : State} {guard : Nat} (here : other ∈ (state.handOver guard).tasks)
      (old : other ∈ state.tasks → Remnant base.tasks other) :
      Remnant base.tasks other ∨ ∃ guard, other.stage = .entering guard := by
    rcases mem_of_handOver here with before | entering
    · exact Or.inl (old before)
    · exact Or.inr ⟨guard, entering⟩
  have moved (known : Remnant base.tasks other ∨ ∃ guard, other.stage = .entering guard) :
      Remnant base.tasks other ∨ (∃ guard, other.stage = .entering guard) ∨
        (∃ guard, other = { task with stage := .queued guard }) ∨
        ∃ guard notice, other = { task with stage := .waiting guard notice } ∧
          next.gate = some task.uri ∧ next.permits = 0 := by
    rcases known with old | entering
    · exact Or.inl old
    · exact Or.inr (Or.inl entering)
  cases turn with
  | queues due guard entry timed asked taken =>
      rcases List.mem_append.mp member with old | last
      · left
        rw [← guardFor_tasks asked]
        exact .kept old
      · exact Or.inr (Or.inr (Or.inl ⟨guard, List.mem_singleton.mp last⟩))
  | lapses guard entry admits clears unlisted =>
      exact moved (handed member fun old => .kept (by rw [← admits.tasks_eq]; exact old))
  | skips guard ticket entry admits job listed closed =>
      exact moved (handed member fun old => .kept (by rw [← admits.tasks_eq]; exact old))
  | waits guard notice entry ready admits prepares gated spent =>
      rcases List.mem_append.mp member with old | last
      · have known := prepares.mem_tasks old
        rw [admits.tasks_eq] at known
        exact Or.inl known
      · right; right; right
        exact ⟨guard, notice, List.mem_singleton.mp last, gated, spent⟩
  | passes guard left notice entry ready admits prepares paid =>
      rw [deliver_eq] at member
      refine moved (handed member ?_)
      intro old
      have known := prepares.mem_tasks old
      rw [admits.tasks_eq] at known
      exact known
  | leaves guard notice permitted =>
      rw [deliver_eq] at member
      exact moved (handed member .kept)
  | drops ready =>
      rcases mem_of_drop member with old | entering
      · exact Or.inl (.kept old)
      · exact Or.inr (Or.inl entering)

theorem Admits.permits_eq {task : Task} {base entry : State} {guard : Nat}
    (admits : Admits task base guard entry) : entry.permits = base.permits := by
  cases admits with
  | asks due entry timed asked free =>
      rcases guardFor_cases asked with ⟨_, same⟩ | ⟨_, _, same⟩
      · rw [same]
      · rw [same]
  | handed entering => rfl

theorem Prepares.permits_eq {task : Task} {entry ready : State} {notice : Notice}
    (prepares : Prepares task entry ready notice) : ready.permits = entry.permits := by
  cases prepares with
  | validation ticket document job listed present => rfl
  | retirement call job => rw [cancel_eq]; rfl

theorem Turn.permits_le {task : Task} {base next : State} (turn : Turn task base next) :
    next.permits ≤ base.permits := by
  cases turn with
  | queues due guard entry timed asked taken =>
      rcases guardFor_cases asked with ⟨_, same⟩ | ⟨_, _, same⟩
      · exact Nat.le_of_eq (by rw [same]; rfl)
      · exact Nat.le_of_eq (by rw [same]; rfl)
  | lapses guard entry admits clears unlisted =>
      have same := admits.permits_eq
      rw [handOver_eq]
      exact Nat.le_of_eq same
  | skips guard ticket entry admits job listed closed =>
      have same := admits.permits_eq
      rw [handOver_eq]
      exact Nat.le_of_eq same
  | waits guard notice entry ready admits prepares gated spent =>
      exact Nat.le_of_eq (prepares.permits_eq.trans admits.permits_eq)
  | passes guard left notice entry ready admits prepares paid =>
      have before := prepares.permits_eq.trans admits.permits_eq
      rw [deliver_eq, handOver_eq]
      change left ≤ base.permits
      rcases paid with ⟨_, taken⟩ | ⟨_, free⟩
      · omega
      · omega
  | leaves guard notice permitted =>
      exact Nat.le_of_eq (by rw [deliver_eq, handOver_eq])
  | drops ready => exact Nat.le_of_eq (by rw [drop_eq])

end State

end TemplateServer.Validation
