import TemplateServer.Proofs.Validation.Guard

/-!
Exclusion. A guard has one holder at most, but a document can have several guards: when it was
cleared its guard is dropped, and tasks may still stand at it. Main statement: a document has at
most one task that holds a guard as long as none of its tasks stands at a dropped guard, and in a
settled state a dropped guard is all it takes for another task to get in beside the first.
-/

namespace TemplateServer.Validation

namespace State

def holders (uri : Uri) (state : State) : List Task :=
  state.tasks.filter fun task => task.uri = uri ∧ task.stage.guard?.isSome

theorem mem_holders {uri : Uri} {task : Task} {state : State} :
    task ∈ state.holders uri ↔
      task ∈ state.tasks ∧ task.uri = uri ∧ task.stage.guard?.isSome = true := by
  unfold holders
  rw [List.mem_filter, decide_eq_true_iff]

/-- Whether a task of the document waits at a guard or holds it. -/
def StandsAt (uri : Uri) (guard : Nat) (state : State) : Prop :=
  ∃ task ∈ state.tasks, task.uri = uri ∧ task.stage.place? = some guard

/-- Whether all tasks of the document that stand at a guard stand at the one that the next task
will ask for. -/
def Gathered (uri : Uri) (state : State) : Prop :=
  ∀ guard, state.StandsAt uri guard → state.guards.lookup uri = some guard

theorem gathered_iff {uri : Uri} {state : State} :
    state.Gathered uri ↔ ∀ task ∈ state.tasks, task.uri = uri →
      task.stage.place? = none ∨ task.stage.place? = state.guards.lookup uri := by
  constructor
  · intro gathered task member owned
    cases placed : task.stage.place? with
    | none => exact Or.inl rfl
    | some guard => exact Or.inr (gathered guard ⟨task, member, owned, placed⟩).symm
  · rintro alike guard ⟨task, member, owned, placed⟩
    rcases alike task member owned with nowhere | here
    · rw [nowhere] at placed
      cases placed
    · rw [← here]
      exact placed

instance (uri : Uri) (state : State) : Decidable (state.Gathered uri) :=
  decidable_of_iff _ gathered_iff.symm

/-! ### Where tasks stand -/

/-- Tasks of the later state stand only where tasks of the same document stood before, and have
nothing to do that was not to be done before. -/
structure Remains (state next : State) : Prop where
  standsAt : ∀ {uri : Uri} {place : Nat}, next.StandsAt uri place → state.StandsAt uri place
  jobs : ∀ task ∈ next.tasks, task.job.isLive = true → task.job ∈ state.tasks.map Task.job

theorem Remains.of_remnant {state next : State}
    (remnant : ∀ task ∈ next.tasks, Remnant state.tasks task) : Remains state next where
  standsAt := by
    rintro uri place ⟨task, member, owned, placed⟩
    rcases (remnant task member).stage with ready | ⟨earlier, known, ownedToo, same⟩
    · rw [ready] at placed
      cases placed
    · exact ⟨earlier, known, ownedToo.trans owned, by rw [same]; exact placed⟩
  jobs := by
    intro task member live
    cases remnant task member with
    | kept known => exact List.mem_map_of_mem known
    | marked awake known => cases live
    | removal known => cases live

theorem Remains.of_subset {state next : State} (subset : ∀ task ∈ next.tasks, task ∈ state.tasks) :
    Remains state next :=
  .of_remnant fun task member => .kept (subset task member)

theorem Remains.trans {first second third : State} (left : Remains first second)
    (right : Remains second third) : Remains first third where
  standsAt := fun stands => left.standsAt (right.standsAt stands)
  jobs := by
    intro task member live
    obtain ⟨middle, present, job⟩ := List.mem_map.mp (right.jobs task member live)
    rw [← job]
    exact left.jobs middle present (by rw [job]; exact live)

theorem Remains.of_tasks_eq {state next : State} (same : next.tasks = state.tasks) :
    Remains state next := by
  refine Remains.of_subset ?_
  rw [same]
  exact fun _ member => member

/-- A task may move on at its guard. -/
theorem remains_of_split {state : State} {before after : List Task} {uri : Uri} {job : Job}
    {stage later : Stage} (split : state.tasks = before ++ ⟨uri, job, stage⟩ :: after)
    (same : later.place? = stage.place?) :
    Remains state { state with tasks := before ++ after ++ [⟨uri, job, later⟩] } where
  standsAt := by
    rintro owner place ⟨task, member, owned, placed⟩
    rcases List.mem_append.mp member with rest | last
    · exact ⟨task, mem_split split rest, owned, placed⟩
    · rw [List.mem_singleton.mp last] at owned placed
      exact ⟨_, mem_split_self split, owned, same.symm.trans placed⟩
  jobs := by
    intro task member _live
    rcases List.mem_append.mp member with rest | last
    · exact List.mem_map_of_mem (mem_split split rest)
    · rw [List.mem_singleton.mp last]
      exact List.mem_map.mpr ⟨_, mem_split_self split, rfl⟩

theorem remains_handOver (guard : Nat) (state : State) : Remains state (state.handOver guard) := by
  rcases handOver_cases guard state with ⟨same, _⟩ | ⟨before, owner, job, after, split, next⟩
  · rw [same]
    exact Remains.of_subset fun _ member => member
  · rw [next]
    exact remains_of_split split rfl

theorem remains_vacate (stage : Stage) (state : State) : Remains state (state.vacate stage) := by
  unfold vacate
  cases stage.guard? with
  | none => exact Remains.of_subset fun _ member => member
  | some guard => exact remains_handOver guard state

theorem remains_cancel (uri : Uri) (state : State) : Remains state (state.cancel uri) :=
  .of_remnant fun _ => mem_of_cancel

theorem remains_drop (remover : Task) (state : State) : Remains state (state.drop remover) := by
  rcases drop_cases remover state with ⟨same, _⟩ | ⟨before, ticket, stage, after, split, next⟩
  · rw [same]
    exact Remains.of_subset fun _ member => member
  · rw [next]
    refine Remains.trans (Remains.of_subset ?_) (remains_vacate stage _)
    exact fun task member => mem_split split member

theorem remains_grant (state : State) : Remains state state.grant := by
  rcases grant_cases state with
    ⟨next, _⟩ | ⟨before, uri, job, guard, notice, after, split, _, next⟩
  · rw [next]
    exact Remains.of_subset fun _ member => member
  · rw [next]
    exact remains_of_split split rfl

theorem remains_deliver (task : Task) (guard : Nat) (notice : Notice) (state : State) :
    Remains state (state.deliver task guard notice) := by
  rw [deliver_eq]
  refine Remains.trans ?_ (remains_handOver guard _)
  exact Remains.of_tasks_eq rfl

theorem Prepares.remains {task : Task} {entry ready : State} {notice : Notice}
    (prepares : Prepares task entry ready notice) : Remains entry ready :=
  .of_remnant fun _ => prepares.mem_tasks

theorem StandsAt.of_push {uri : Uri} {place : Nat} {task : Task} {state : State}
    (stands : (state.push task).StandsAt uri place) :
    state.StandsAt uri place ∨ (task.uri = uri ∧ task.stage.place? = some place) := by
  obtain ⟨other, member, owned, placed⟩ := stands
  rcases List.mem_append.mp member with here | last
  · exact Or.inl ⟨other, here, owned, placed⟩
  · rw [List.mem_singleton.mp last] at owned placed
    exact Or.inr ⟨owned, placed⟩

theorem guards_cancel (uri : Uri) (state : State) : (state.cancel uri).guards = state.guards := by
  rw [cancel_eq]
  rfl

theorem guards_handOver (guard : Nat) (state : State) :
    (state.handOver guard).guards = state.guards := by
  rw [handOver_eq]

theorem guards_drop (remover : Task) (state : State) :
    (state.drop remover).guards = state.guards := by
  rw [drop_eq]

theorem guards_grant (state : State) : state.grant.guards = state.guards := by
  rcases grant_cases state with ⟨next, _⟩ | ⟨before, owner, job, guard, notice, after, _, _, next⟩
  · rw [next]
  · rw [next]

/-- Where a task stands, the guard is held: by this task, or by one that it waits for. -/
theorem Guarded.held_of_standsAt {uri : Uri} {place : Nat} {state : State}
    (guarded : Guarded state) (stands : state.StandsAt uri place) : place ∈ state.held := by
  obtain ⟨task, member, _owned, placed⟩ := stands
  cases stage : task.stage with
  | timed due =>
      rw [stage] at placed
      cases placed
  | queued guard =>
      rw [stage] at placed
      exact guarded.attended task member place (by rw [stage, Option.some.inj placed])
  | entering guard => exact mem_held.mpr ⟨task, member, by rw [stage] at placed ⊢; exact placed⟩
  | waiting guard notice =>
      exact mem_held.mpr ⟨task, member, by rw [stage] at placed ⊢; exact placed⟩
  | permitted guard notice =>
      exact mem_held.mpr ⟨task, member, by rw [stage] at placed ⊢; exact placed⟩
  | ready =>
      rw [stage] at placed
      cases placed

/-- Where all tasks of a document stand at its guard and that is free, none stands anywhere. -/
theorem Guarded.not_standsAt {uri : Uri} {state : State} (guarded : Guarded state)
    (gathered : state.Gathered uri)
    (free : ∀ guard, state.guards.lookup uri = some guard → guard ∉ state.held) (place : Nat) :
    ¬state.StandsAt uri place := by
  intro stands
  exact free place (gathered place stands) (guarded.held_of_standsAt stands)

/-- Tasks of a document that hold a guard hold the same one, so there is one at most. -/
theorem Guarded.holders_le_one {uri : Uri} {state : State} (guarded : Guarded state)
    (gathered : state.Gathered uri) : (state.holders uri).length ≤ 1 := by
  have shared : ∀ task ∈ state.holders uri, task.stage.guard? = state.guards.lookup uri := by
    intro task present
    obtain ⟨member, owned, some⟩ := mem_holders.mp present
    obtain ⟨guard, holds⟩ := Option.isSome_iff_exists.mp some
    have stands : state.StandsAt uri guard :=
      ⟨task, member, owned, Stage.place?_of_guard? holds⟩
    rw [holds]
    exact (gathered guard stands).symm
  have distinct : ((state.holders uri).filterMap fun task => task.stage.guard?).Nodup :=
    (List.filter_sublist.filterMap _).nodup guarded.exclusive
  match among : state.holders uri with
  | [] => exact Nat.zero_le 1
  | [_] => exact Nat.le_refl 1
  | first :: second :: rest =>
      exfalso
      rw [among] at shared distinct
      have left := shared first List.mem_cons_self
      have right := shared second (List.mem_cons_of_mem _ List.mem_cons_self)
      have here : first ∈ state.holders uri := by
        rw [among]
        exact List.mem_cons_self
      obtain ⟨guard, holds⟩ := Option.isSome_iff_exists.mp (mem_holders.mp here).2.2
      rw [holds] at left
      rw [← left] at right
      simp only [List.filterMap_cons, holds, right] at distinct
      exact (List.nodup_cons.mp distinct).1 List.mem_cons_self

/-! ### A retirement that begins in a settled state -/

/-- In a settled state no task that holds a guard is outside, so none that holds a guard is
aborted. -/
theorem Timers.filter_cancel_of_settled {state : State} {fits : Task → Bool}
    (timers : Timers state) (uri : Uri) (settled : state.step? = none)
    (holding : ∀ task, task.stage.guard? = none → fits task = false) :
    (state.cancel uri).tasks.filter fits = state.tasks.filter fits := by
  cases listed : state.pending.lookup uri with
  | none => rw [cancel_of_unlisted listed]
  | some ticket =>
      obtain ⟨before, stage, after, left, removers, split, outside, next, ended⟩ :=
        timers.cancel_split listed
      have idle := step?_eq_none_iff.mp settled _ (mem_split_self split)
      have free : stage.guard? = none := by
        cases stage with
        | timed due => rfl
        | queued guard => rfl
        | entering guard => cases idle
        | waiting guard notice => cases outside
        | permitted guard notice => cases outside
        | ready => rfl
      have unfit : ∀ task ∈ left ++ removers, fits task = false := by
        intro task member
        rcases ended task member with ⟨marked, _⟩ | removes
        · exact holding task (by rw [marked]; exact free)
        · exact holding task (by rw [removes]; rfl)
      have gone : ∀ {tasks : List Task}, (∀ task ∈ tasks, task ∈ left ++ removers) →
          tasks.filter fits = [] := by
        intro tasks among
        refine List.filter_eq_nil_iff.mpr ?_
        exact fun task member => Bool.eq_false_iff.mp (unfit task (among task member))
      have taken := holding ⟨uri, .validation ticket, stage⟩ free
      rw [next, split]
      simp only [List.filter_append, gone fun task => List.mem_append_left removers,
        gone fun task => List.mem_append_right left, List.append_nil,
        List.filter_cons_of_neg (Bool.eq_false_iff.mp taken)]

/-- Whether all that is left to do is to drop what was aborted. -/
def Quiet (state : State) : Prop :=
  ∀ task ∈ state.tasks, task.stage.isRunnable state.now = true → task.stage = .ready

theorem quiet_of_stages {state next : State} (settled : state.step? = none)
    (same : next.now = state.now)
    (stages : ∀ task ∈ next.tasks, task.stage = .ready ∨
      task.stage.isRunnable state.now = false ∨
      ∃ earlier ∈ state.tasks, earlier.stage = task.stage) : next.Quiet := by
  intro task member runnable
  rw [same] at runnable
  rcases stages task member with ready | idle | ⟨earlier, known, stage⟩
  · exact ready
  · rw [idle] at runnable
    cases runnable
  · rw [← stage, step?_eq_none_iff.mp settled earlier known] at runnable
    cases runnable

/-- Holders are not among the tasks without a guard. -/
theorem holder_unfit (uri : Uri) (task : Task) (free : task.stage.guard? = none) :
    decide (task.uri = uri ∧ task.stage.guard?.isSome = true) = false := by
  rw [free]
  simp

theorem holders_push_of_free {uri : Uri} {task : Task} (state : State)
    (free : task.stage.guard? = none) : (state.push task).holders uri = state.holders uri := by
  unfold holders push
  rw [List.filter_append, List.filter_cons_of_neg
    (by rw [holder_unfit uri task free]; exact Bool.false_ne_true)]
  exact List.append_nil _

theorem holders_of_split {uri : Uri} {task : Task} {before after : List Task} {state : State}
    (split : state.tasks = before ++ task :: after) (free : task.stage.guard? = none) :
    State.holders uri { state with tasks := before ++ after } = state.holders uri := by
  unfold holders
  rw [split, List.filter_append, List.filter_append, List.filter_cons_of_neg
    (by rw [holder_unfit uri task free]; exact Bool.false_ne_true)]

/-- Where all that is left to do is to drop what was aborted, this touches no task that holds a
guard: an aborted task that was handed a guard would have a turn of its own. -/
theorem Quiet.turn {uri : Uri} {state next : State} (quiet : state.Quiet) (timers : Timers state)
    (stepped : state.step? = some next) :
    next.Quiet ∧ next.holders uri = state.holders uri := by
  obtain ⟨before, task, after, split, runnable, _, turn⟩ := step?_turn stepped
  have ready := quiet task (mem_split_self split) runnable
  have rest : ∀ other ∈ before ++ after, other.stage.isRunnable state.now = true →
      other.stage = .ready := fun other member => quiet other (mem_split split member)
  have gone : State.holders uri { state with tasks := before ++ after } = state.holders uri :=
    holders_of_split split (by rw [ready]; rfl)
  rw [turn.eq_drop ready, ← gone]
  rcases drop_cases task { state with tasks := before ++ after } with
    ⟨same, _⟩ | ⟨first, ticket, stage, second, splitToo, found⟩
  · rw [same]
    exact ⟨rest, rfl⟩
  · have member : ⟨task.uri, .aborted ticket, stage⟩ ∈ before ++ after := mem_split_self splitToo
    have fits := timers.fits _ (mem_split split member)
    have free : stage.guard? = none := by
      cases stage with
      | timed due => rfl
      | queued guard => rfl
      | entering guard => cases rest _ member rfl
      | waiting guard notice => cases fits
      | permitted guard notice => cases fits
      | ready => rfl
    have erased : State.drop task { state with tasks := before ++ after } =
        { state with tasks := first ++ second } := by
      rw [found]
      unfold vacate
      rw [free]
    rw [erased]
    exact ⟨fun other here => rest other (mem_split splitToo here), holders_of_split splitToo free⟩

theorem Quiet.holders_settle {state : State} (quiet : state.Quiet) (timers : Timers state)
    (uri : Uri) : state.settle.holders uri = state.holders uri := by
  have kept := @settle_invariant state
    (fun later => Timers later ∧ later.Quiet ∧ later.holders uri = state.holders uri)
    (by
      rintro current next stepped ⟨known, still, same⟩
      obtain ⟨stillNext, sameNext⟩ := still.turn known stepped
      exact ⟨preserved_timers.turn stepped known, stillNext, sameNext.trans same⟩)
    ⟨timers, quiet, rfl⟩
  exact kept.2.2

theorem holders_push_of_holder {uri : Uri} {job : Job} {stage : Stage} (state : State)
    (holds : stage.guard?.isSome = true) :
    (state.push ⟨uri, job, stage⟩).holders uri = state.holders uri ++ [⟨uri, job, stage⟩] := by
  unfold holders push
  rw [List.filter_append, List.filter_cons_of_pos (by simpa using holds)]
  rfl

/-- A guard that was asked for and is free is the guard of the document, or there was none. -/
theorem free_of_asked {uri : Uri} {base entry : State} {guard : Nat}
    (asked : base.guardFor uri = (guard, entry)) (free : entry.isHeld guard = false) :
    guard ∉ base.held ∧ ∀ other, base.guards.lookup uri = some other → other ∉ base.held := by
  have unheld : guard ∉ base.held := by
    intro member
    have taken : entry.isHeld guard = true := by
      refine isHeld_iff.mpr ?_
      unfold held
      rw [guardFor_tasks asked]
      exact member
    rw [free] at taken
    cases taken
  refine ⟨unheld, ?_⟩
  intro other listed
  rcases guardFor_cases asked with ⟨known, _⟩ | ⟨unlisted, _, _⟩
  · rw [known] at listed
    cases listed
    exact unheld
  · rw [unlisted] at listed
    cases listed

/-- A guard that was asked for and is held is the guard of the document. -/
theorem Guarded.held_of_asked {uri : Uri} {base entry : State} {guard : Nat}
    (guarded : Guarded base) (asked : base.guardFor uri = (guard, entry))
    (taken : entry.isHeld guard = true) :
    base.guards.lookup uri = some guard ∧ guard ∈ base.held := by
  have member : guard ∈ base.held := by
    have present := isHeld_iff.mp taken
    unfold held at present ⊢
    rw [guardFor_tasks asked] at present
    exact present
  rcases guardFor_cases asked with ⟨known, _⟩ | ⟨_, fresh, _⟩
  · exact ⟨known, member⟩
  · obtain ⟨task, present, holds⟩ := mem_held.mp member
    obtain ⟨owner, _, placed⟩ := guarded.owned
    have below := (placed task present guard (Stage.place?_of_guard? holds)).1
    omega

/-- In a settled state a retirement that is ready has aborted no task that holds a guard. -/
theorem Prepares.filter_of_settled {uri : Uri} {call due guard : Nat} {base entry ready : State}
    {notice : Notice} {fits : Task → Bool} (timers : Timers base) (settled : base.step? = none)
    (admits : Admits ⟨uri, .retirement call, .timed due⟩ base guard entry)
    (prepares : Prepares ⟨uri, .retirement call, .timed due⟩ entry ready notice)
    (holding : ∀ task, task.stage.guard? = none → fits task = false) :
    ready.tasks.filter fits = base.tasks.filter fits ∧
      guard ∉ base.held ∧
      ∀ other, base.guards.lookup uri = some other → other ∉ base.held := by
  cases admits with
  | handed entering => cases entering
  | asks due entry timed asked free =>
      have known : Timers entry ∧ entry.step? = none := by
        rw [step?_eq_none_iff] at settled ⊢
        rcases guardFor_cases asked with ⟨_, same⟩ | ⟨_, _, same⟩
        · rw [same]
          exact ⟨timers, settled⟩
        · rw [same]
          exact ⟨⟨timers.jobs, timers.fits, timers.issued, timers.listed, timers.keys⟩, settled⟩
      cases prepares with
      | validation ticket document job listed present => cases job
      | retirement call job =>
          have same := Timers.filter_cancel_of_settled known.1 uri known.2 holding
          rw [guardFor_tasks asked] at same
          exact ⟨same, free_of_asked asked free⟩

/-- A task that is ready has at most added tasks that wait for nothing but their turn. -/
theorem Prepares.stages {task : Task} {base entry ready : State} {guard : Nat} {notice : Notice}
    (admits : Admits task base guard entry) (prepares : Prepares task entry ready notice) :
    ∀ other ∈ ready.tasks, other.stage = .ready ∨
      ∃ earlier ∈ base.tasks, earlier.stage = other.stage := by
  intro other member
  have remnant := prepares.mem_tasks member
  rw [admits.tasks_eq] at remnant
  rcases remnant.stage with ready | ⟨earlier, known, _, same⟩
  · exact Or.inl ready
  · exact Or.inr ⟨earlier, known, same⟩

/-- A retirement whose turn comes in a settled state queues if the guard of its document is held.
If not, it holds the guard from then on if it needs a permit and there is none; otherwise it
ends. Then at most what it has aborted is left to be dropped. -/
theorem Turn.holders_retirement {uri : Uri} {call due : Nat} {base next : State}
    (timers : Timers base) (guarded : Guarded base) (settled : base.step? = none)
    (turn : Turn ⟨uri, .retirement call, .timed due⟩ base next) :
    next.Quiet ∧
    ((∃ guard, base.guards.lookup uri = some guard ∧ guard ∈ base.held ∧
        (next.holders uri).length = (base.holders uri).length) ∨
      ((∀ guard, base.guards.lookup uri = some guard → guard ∉ base.held) ∧
        ((next.holders uri).length = (base.holders uri).length + 1 ∨
          ¬(base.gate = some uri ∧ base.permits = 0) ∧
            (next.holders uri).length = (base.holders uri).length))) := by
  have kept := turn.sameSetting
  cases turn with
  | queues due guard entry timed asked taken =>
      have tasks := guardFor_tasks asked
      obtain ⟨listed, member⟩ := guarded.held_of_asked asked taken
      constructor
      · refine quiet_of_stages settled kept.now ?_
        intro other present
        rcases List.mem_append.mp present with here | last
        · rw [tasks] at here
          exact Or.inr (Or.inr ⟨other, here, rfl⟩)
        · rw [List.mem_singleton.mp last]
          exact Or.inr (Or.inl rfl)
      · refine Or.inl ⟨guard, listed, member, ?_⟩
        rw [holders_push_of_free entry rfl]
        unfold holders
        rw [tasks]
  | lapses guard entry admits clears unlisted => cases clears
  | skips guard ticket entry admits job listed closed => cases job
  | waits guard notice entry ready admits prepares gated spent =>
      obtain ⟨same, unheld, free⟩ :=
        Prepares.filter_of_settled timers settled admits prepares (holder_unfit uri)
      constructor
      · refine quiet_of_stages settled kept.now ?_
        intro other present
        rcases List.mem_append.mp present with here | last
        · exact (prepares.stages admits other here).imp_right Or.inr
        · rw [List.mem_singleton.mp last]
          exact Or.inr (Or.inl rfl)
      · refine Or.inr ⟨free, Or.inl ?_⟩
        rw [holders_push_of_holder ready rfl, List.length_append]
        unfold holders
        rw [same]
        rfl
  | passes guard left notice entry ready admits prepares paid =>
      obtain ⟨same, unheld, free⟩ :=
        Prepares.filter_of_settled timers settled admits prepares (holder_unfit uri)
      have unqueued : ∀ task ∈ ready.tasks, task.stage ≠ .queued guard := by
        intro task present queued
        rcases prepares.stages admits task present with spent | ⟨earlier, known, stage⟩
        · rw [queued] at spent
          cases spent
        · exact unheld (guarded.attended earlier known guard (stage.trans queued))
      have unspent : ¬(base.gate = some uri ∧ base.permits = 0) := by
        rintro ⟨gated, spent⟩
        have permits := prepares.permits_eq.trans admits.permits_eq
        have gate := prepares.sameSetting.gate.trans admits.sameSetting.gate
        rcases paid with ⟨_, taken⟩ | ⟨ungated, _⟩
        · omega
        · exact ungated (gate.trans gated)
      have tasks : (State.deliver ⟨uri, .retirement call, .timed due⟩ guard notice
          { ready with permits := left }).tasks = ready.tasks := by
        rw [deliver_eq, handOver_of_unqueued]
        exact unqueued
      constructor
      · refine quiet_of_stages settled kept.now ?_
        intro other present
        rw [tasks] at present
        exact (prepares.stages admits other present).imp_right Or.inr
      · refine Or.inr ⟨free, Or.inr ⟨unspent, ?_⟩⟩
        unfold holders
        rw [tasks, same]
  | leaves guard notice permitted => cases permitted
  | drops ready => cases ready

/-- What a retirement that begins in a settled state does to the tasks that hold guards. -/
theorem Reachable.holders_retire {state : State} (reachable : Reachable state) (uri : Uri)
    (settled : state.step? = none) :
    (∃ guard, state.guards.lookup uri = some guard ∧ guard ∈ state.held ∧
      ((state.apply true (.retire uri)).2.holders uri).length = (state.holders uri).length) ∨
    ((∀ guard, state.guards.lookup uri = some guard → guard ∉ state.held) ∧
      (((state.apply true (.retire uri)).2.holders uri).length =
          (state.holders uri).length + 1 ∨
        ¬(state.gate = some uri ∧ state.permits = 0) ∧
          ((state.apply true (.retire uri)).2.holders uri).length =
            (state.holders uri).length)) := by
  have guarded : Guarded { state with nextCall := state.nextCall + 1 } := by
    have known := reachable.guarded
    exact ⟨known.exclusive, known.attended, known.owned⟩
  have idle : State.step? { state with nextCall := state.nextCall + 1 } = none := by
    have waiting := step?_eq_none_iff.mp settled
    exact step?_eq_none_iff.mpr waiting
  have due : (state.retirement uri).stage.isRunnable state.now = true :=
    decide_eq_true (Nat.le_refl state.now)
  have stepped : (state.retire uri).step? = some (state.retireNow uri) :=
    step?_push_of_settled idle due
  have turn := resume_turn { state with nextCall := state.nextCall + 1 } due
  obtain ⟨quiet, holders⟩ :=
    Turn.holders_retirement reachable.timers.count guarded idle turn
  have timers := preserved_timers.turn stepped (reachable.timers.retire uri)
  have same : (state.apply true (.retire uri)).2.holders uri = (state.retireNow uri).holders uri :=
    calc (state.retire uri).settle.holders uri
      _ = (state.retireNow uri).settle.holders uri := by rw [settle_eq_settle stepped]
      _ = (state.retireNow uri).holders uri := quiet.holders_settle timers uri
  rw [same]
  exact holders

/-! ### How a guard with tasks is dropped -/

theorem Gathered.listed {uri : Uri} {state next : State} (gathered : state.Gathered uri)
    (remains : Remains state next)
    (kept : ∀ guard, state.guards.lookup uri = some guard →
      next.guards.lookup uri = some guard) : next.Gathered uri := by
  intro guard stands
  exact kept guard (gathered guard (remains.standsAt stands))

theorem Gathered.remains {uri : Uri} {state next : State} (gathered : state.Gathered uri)
    (remains : Remains state next) (same : next.guards = state.guards) : next.Gathered uri := by
  apply gathered.listed remains
  rw [same]
  exact fun _ listed => listed

theorem Gathered.rest {uri : Uri} {task : Task} {base : State}
    (gathered : (base.holding task).Gathered uri) : base.Gathered uri :=
  gathered.remains (Remains.of_subset fun _ member => List.mem_cons_of_mem task member) rfl

theorem Gathered.pull {uri : Uri} {state : State} {task : Task} {before after : List Task}
    (gathered : state.Gathered uri) (split : state.tasks = before ++ task :: after) :
    State.Gathered uri (State.holding task { state with tasks := before ++ after }) := by
  refine gathered.remains (Remains.of_subset ?_) rfl
  intro other member
  rcases List.mem_cons.mp member with here | there
  · rw [here]
    exact mem_split_self split
  · exact mem_split split there

theorem Gathered.push {uri : Uri} {task : Task} {state : State} (gathered : state.Gathered uri)
    (here : task.uri = uri → ∀ guard, task.stage.place? = some guard →
      state.guards.lookup uri = some guard) : (state.push task).Gathered uri := by
  intro guard stands
  rcases stands.of_push with old | ⟨owned, placed⟩
  · exact gathered guard old
  · exact here owned guard placed

/-- Asking for a guard replaces none that is listed. -/
theorem lookup_guardFor {uri other : Uri} {base entry : State} {guard known : Nat}
    (asked : base.guardFor uri = (guard, entry)) (listed : base.guards.lookup other = some known) :
    entry.guards.lookup other = some known := by
  rcases guardFor_cases asked with ⟨_, same⟩ | ⟨unlisted, _, same⟩
  · rw [same]
    exact listed
  · rw [same]
    have different : (other == uri) = false := by
      refine beq_false_of_ne ?_
      intro equal
      rw [equal, unlisted] at listed
      cases listed
    change List.lookup other ((uri, guard) :: base.guards) = _
    rw [List.lookup_cons, different]
    exact listed

theorem guards_deliver (task : Task) (guard : Nat) (notice : Notice) (state : State) :
    (state.deliver task guard notice).guards =
      if task.job.isRetirement then state.guards.filter fun entry => entry.1 ≠ task.uri
      else state.guards := by
  rw [deliver_eq, guards_handOver]

theorem Prepares.guards_eq {task : Task} {entry ready : State} {notice : Notice}
    (prepares : Prepares task entry ready notice) : ready.guards = entry.guards := by
  cases prepares with
  | validation ticket document job listed present => rfl
  | retirement call job => exact guards_cancel task.uri entry

theorem lookup_filter_of_ne {entries : List (Uri × Nat)} {uri other : Uri} (different : other ≠ uri) :
    (entries.filter fun entry => entry.1 ≠ uri).lookup other = entries.lookup other := by
  induction entries with
  | nil => rfl
  | cons entry entries ih =>
      by_cases same : entry.1 = uri
      · have unequal : (other == entry.1) = false := by
          refine beq_false_of_ne ?_
          rw [same]
          exact different
        rw [List.filter_cons_of_neg (by simpa using same), ih, List.lookup_cons, unequal]
      · rw [List.filter_cons_of_pos (by simpa using same), List.lookup_cons, List.lookup_cons, ih]

/-- A task that gets the guard keeps a document together, and its own gets the guard it has. -/
theorem Admits.gathered {uri : Uri} {task : Task} {base entry : State} {guard : Nat}
    (admits : Admits task base guard entry) (gathered : (base.holding task).Gathered uri) :
    entry.Gathered uri ∧ (task.uri = uri → entry.guards.lookup uri = some guard) := by
  cases admits with
  | asks due entry timed asked free =>
      have past := Remains.of_tasks_eq (guardFor_tasks asked)
      refine ⟨gathered.rest.listed past fun _ => lookup_guardFor asked, ?_⟩
      intro owned
      rw [← owned]
      exact listed_of_asked asked
  | handed entering =>
      refine ⟨gathered.rest, ?_⟩
      intro owned
      exact gathered guard ⟨task, List.mem_cons_self, owned, by rw [entering]; rfl⟩

/-- What is published keeps a document together, unless it ends a retirement of the document. -/
theorem Gathered.deliver {uri : Uri} {task : Task} {state : State} (gathered : state.Gathered uri)
    (guard : Nat) (notice : Notice) (lasts : ¬(task.uri = uri ∧ task.job.isRetirement = true)) :
    (state.deliver task guard notice).Gathered uri := by
  have remains := remains_deliver task guard notice state
  by_cases owned : task.uri = uri
  · apply gathered.remains remains
    rw [guards_deliver, if_neg fun retires => lasts ⟨owned, retires⟩]
  · apply gathered.listed remains
    intro known listed
    rw [guards_deliver]
    split
    · rw [lookup_filter_of_ne (Ne.symm owned)]
      exact listed
    · exact listed

/-- A turn leaves the tasks of a document together unless a retirement of the document ends. -/
theorem Turn.gathered {uri : Uri} {task : Task} {base next : State} (turn : Turn task base next)
    (gathered : (base.holding task).Gathered uri) :
    next.Gathered uri ∨ (task.uri = uri ∧ task.job.isRetirement = true ∧ Remains base next) := by
  have rest := gathered.rest
  have delivered {state : State} (together : state.Gathered uri) (past : Remains base state)
      (guard : Nat) (notice : Notice) :
      (state.deliver task guard notice).Gathered uri ∨
        (task.uri = uri ∧ task.job.isRetirement = true ∧
          Remains base (state.deliver task guard notice)) := by
    by_cases ends : task.uri = uri ∧ task.job.isRetirement = true
    · exact Or.inr ⟨ends.1, ends.2, past.trans (remains_deliver task guard notice state)⟩
    · exact Or.inl (together.deliver guard notice ends)
  cases turn with
  | queues due guard entry timed asked taken =>
      left
      have past := Remains.of_tasks_eq (guardFor_tasks asked)
      apply (rest.listed past fun _ => lookup_guardFor asked).push
      intro owned place placed
      cases placed
      rw [← owned]
      exact listed_of_asked asked
  | lapses guard entry admits clears unlisted =>
      left
      exact (admits.gathered gathered).1.remains (remains_handOver guard entry) (guards_handOver guard entry)
  | skips guard ticket entry admits job listed closed =>
      left
      have forgot : Remains entry (entry.forgetTimer task.uri) := .of_tasks_eq rfl
      exact (admits.gathered gathered).1.remains (forgot.trans (remains_handOver guard _))
        (guards_handOver guard (entry.forgetTimer task.uri))
  | waits guard notice entry ready admits prepares gated spent =>
      left
      obtain ⟨entered, listed⟩ := admits.gathered gathered
      have prepared := entered.remains prepares.remains prepares.guards_eq
      apply prepared.push
      intro owned place placed
      cases placed
      rw [prepares.guards_eq]
      exact listed owned
  | passes guard left notice entry ready admits prepares paid =>
      have paidFor : Remains entry { ready with permits := left } :=
        prepares.remains.trans (.of_tasks_eq rfl)
      have prepared : State.Gathered uri { ready with permits := left } :=
        (admits.gathered gathered).1.remains paidFor prepares.guards_eq
      have past := Remains.of_tasks_eq admits.tasks_eq
      exact delivered prepared (past.trans paidFor) guard notice
  | leaves guard notice permitted =>
      exact delivered rest (Remains.of_subset fun _ member => member) guard notice
  | drops ready => exact Or.inl (rest.remains (remains_drop task base) (guards_drop task base))

theorem unbroken_gathered (made : Command → Prop) (uri : Uri) : Unbroken made (Gathered uri) where
  setting _ _ _ _ gathered := gathered
  schedule other _ gathered := by
    have cancelled := gathered.remains (remains_cancel other _) (guards_cancel other _)
    rw [schedule_eq]
    refine Gathered.push ?_ ?_
    · exact cancelled
    · intro _ guard placed
      cases placed
  retire other _ gathered := by
    refine Gathered.push ?_ ?_
    · exact gathered
    · intro _ guard placed
      cases placed
  cancel other _ gathered :=
    gathered.remains (remains_cancel other _) (guards_cancel other _)
  grant {state} gathered := gathered.remains (remains_grant state) (guards_grant state)

/-- If a move leaves a task at a dropped guard, it was a turn in which a retirement ended. -/
theorem Reachable.dropped {uri : Uri} {state : State} (reachable : Reachable state) (move : Move)
    (gathered : state.Gathered uri) (dropped : ¬(state.move move).Gathered uri) :
    ∃ call stage, ⟨uri, .retirement call, stage⟩ ∈ state.tasks ∧
      .retirement call ∉ (state.move move).tasks.map Task.job := by
  refine Classical.byContradiction fun unended => ?_
  refine dropped ((unbroken_gathered (fun _ => True) uri).move gathered move
    (fun _ _ => trivial) ?_)
  intro next isTurn stepped
  obtain ⟨before, task, after, split, _runnable, _earlier, turn⟩ := step?_turn stepped
  rcases turn.gathered (gathered.pull split) with kept | ⟨owned, retires, remains⟩
  · exact kept
  · obtain ⟨owner, job, stage⟩ := task
    cases owned
    cases job with
    | validation ticket => cases retires
    | aborted ticket => cases retires
    | removal ticket => cases retires
    | retirement call =>
        refine absurd ⟨call, stage, mem_split_self split, ?_⟩ unended
        rw [isTurn, move_turn stepped]
        intro member
        obtain ⟨other, present, same⟩ := List.mem_map.mp member
        have known := remains.jobs other present (by rw [same]; rfl)
        rw [same] at known
        exact (reachable.timers.pull split).unused rfl known

/-! ### One holder for each document -/

theorem one_lt_length {tasks : List Task} {first second : Task} (here : first ∈ tasks)
    (there : second ∈ tasks) (different : first ≠ second) : 1 < tasks.length := by
  match tasks with
  | [] => cases here
  | [only] =>
      refine absurd ?_ different
      rw [List.mem_singleton.mp here, List.mem_singleton.mp there]
  | _ :: _ :: rest => exact Nat.succ_lt_succ (Nat.succ_pos rest.length)

/-- Where a task of a document stands, a task of this document holds the guard. -/
theorem Guarded.holder_of_standsAt {uri : Uri} {place : Nat} {state : State}
    (guarded : Guarded state) (stands : state.StandsAt uri place) :
    ∃ task ∈ state.holders uri, task.stage.guard? = some place := by
  obtain ⟨holder, present, holds⟩ := mem_held.mp (guarded.held_of_standsAt stands)
  obtain ⟨task, member, owned, placed⟩ := stands
  obtain ⟨owner, _, standing⟩ := guarded.owned
  have here := (standing task member place placed).2
  have there := (standing holder present place (Stage.place?_of_guard? holds)).2
  refine ⟨holder, mem_holders.mpr ⟨present, ?_, by rw [holds]; rfl⟩, holds⟩
  rw [← there, here, owned]

/-- If the guard of a document is held, a task of this document holds it. -/
theorem Guarded.holder_of_listed {uri : Uri} {guard : Nat} {state : State}
    (guarded : Guarded state) (listed : state.guards.lookup uri = some guard)
    (taken : guard ∈ state.held) : ∃ task ∈ state.holders uri, task.stage.guard? = some guard := by
  obtain ⟨holder, present, holds⟩ := mem_held.mp taken
  obtain ⟨owner, registered, standing⟩ := guarded.owned
  have here := (registered _ (mem_of_lookup_eq_some listed)).2
  have there := (standing holder present guard (Stage.place?_of_guard? holds)).2
  refine ⟨holder, mem_holders.mpr ⟨present, ?_, by rw [holds]; rfl⟩, holds⟩
  rw [← there, here]

/-- In a settled state, whoever holds a guard waits for a permit. -/
theorem isWaiting_of_settled {state : State} {task : Task} (settled : state.step? = none)
    (member : task ∈ state.tasks) (holds : task.stage.guard?.isSome = true) :
    task.stage.isWaiting = true := by
  have idle := step?_eq_none_iff.mp settled task member
  cases stage : task.stage with
  | timed due =>
      rw [stage] at holds
      cases holds
  | queued guard =>
      rw [stage] at holds
      cases holds
  | entering guard =>
      rw [stage] at idle
      cases idle
  | waiting guard notice => rfl
  | permitted guard notice =>
      rw [stage] at idle
      cases idle
  | ready =>
      rw [stage] at holds
      cases holds

/-- If a task stands at a dropped guard and all is settled, a retirement that begins now gets in
beside the task that holds this guard. -/
theorem Reachable.gathered_of_retire {uri : Uri} {state : State} (reachable : Reachable state)
    (settled : state.step? = none)
    (few : ((state.apply true (.retire uri)).2.holders uri).length ≤ 1) : state.Gathered uri := by
  have guarded := reachable.guarded
  intro place stands
  refine Decidable.byContradiction fun dropped => ?_
  obtain ⟨holder, among, holds⟩ := guarded.holder_of_standsAt stands
  obtain ⟨member, owned, some⟩ := mem_holders.mp among
  have waiting := isWaiting_of_settled settled member some
  have gated : state.gate = Option.some uri := by
    rw [← owned]
    refine reachable.metered.gated holder member ?_
    cases stage : holder.stage with
    | waiting guard notice => rfl
    | _ =>
        rw [stage] at waiting
        cases waiting
  have occupied : 0 < (state.holders uri).length := List.length_pos_of_mem among
  rcases reachable.holders_retire uri settled with
    ⟨guard, listed, taken, same⟩ | ⟨_, more | ⟨unspent, _⟩⟩
  · obtain ⟨other, amongToo, holdsToo⟩ := guarded.holder_of_listed listed taken
    have different : other ≠ holder := by
      rintro rfl
      rw [holds] at holdsToo
      exact dropped (listed.trans holdsToo.symm)
    have two := one_lt_length amongToo among different
    omega
  · omega
  · exact unspent ⟨gated, reachable.metered.spent holder member waiting⟩

/-- In every state there can be, at most one task of a document holds a guard as long as no task of
the document stands at a dropped guard. In a settled state this is also necessary: if there is such
a task, a retirement that begins gets in beside the task that holds the dropped guard. And there
comes to be such a task only when a retirement of the document ends. -/
theorem one_holder_while_gathered {state : State} (reachable : Reachable state) (uri : Uri) :
    (state.Gathered uri → (state.holders uri).length ≤ 1) ∧
    (state.step? = none →
      (state.Gathered uri ↔ ((state.apply true (.retire uri)).2.holders uri).length ≤ 1)) ∧
    ∀ move, state.Gathered uri → ¬(state.move move).Gathered uri →
      ∃ call stage, ⟨uri, .retirement call, stage⟩ ∈ state.tasks ∧
        .retirement call ∉ (state.move move).tasks.map Task.job := by
  have guarded := reachable.guarded
  refine ⟨guarded.holders_le_one, ?_, fun move => reachable.dropped move⟩
  intro settled
  refine ⟨?_, reachable.gathered_of_retire settled⟩
  intro gathered
  have few := guarded.holders_le_one gathered
  rcases reachable.holders_retire uri settled with
    ⟨guard, _, _, same⟩ | ⟨free, more | ⟨_, same⟩⟩
  · omega
  · have nobody : state.holders uri = [] := by
      refine List.eq_nil_iff_forall_not_mem.mpr ?_
      intro task among
      obtain ⟨member, owned, some⟩ := mem_holders.mp among
      obtain ⟨place, holds⟩ := Option.isSome_iff_exists.mp some
      exact guarded.not_standsAt gathered free place
        ⟨task, member, owned, Stage.place?_of_guard? holds⟩
    rw [nobody] at more
    exact Nat.le_of_eq more
  · omega

/-- A document stays together while it is validated, and no more once it was cleared while another
retirement waits for the guard. -/
theorem gathered_until_dropped :
    let uri : Uri := ⟨"file:///a.lg"⟩
    let state := (State.initial 0 (some uri)).applyAll [(true, .openDocument ⟨uri, 1, "# A"⟩)]
    (state.applyAll [(true, .schedule uri)]).Gathered uri ∧
    ¬(state.applyAll [(true, .retire uri), (true, .retire uri), (true, .release 1)]).Gathered
      uri := by
  constructor
  · have reachable := reachable_applyAll 0 (some ⟨"file:///a.lg"⟩)
      [(true, .openDocument ⟨⟨"file:///a.lg"⟩, 1, "# A"⟩), (true, .schedule ⟨"file:///a.lg"⟩)]
    have exact := (one_holder_while_gathered reachable ⟨"file:///a.lg"⟩).2.1 (by decide)
    exact exact.mpr (by decide)
  · have reachable := reachable_applyAll 0 (some ⟨"file:///a.lg"⟩)
      [(true, .openDocument ⟨⟨"file:///a.lg"⟩, 1, "# A"⟩), (true, .retire ⟨"file:///a.lg"⟩),
        (true, .retire ⟨"file:///a.lg"⟩), (true, .release 1)]
    have exact := (one_holder_while_gathered reachable ⟨"file:///a.lg"⟩).2.1 (by decide)
    intro gathered
    exact absurd (exact.mp gathered) (by decide)

/-- The second of two retirements holds the guard that the first has dropped, and the validation
that begins then holds another. -/
theorem two_holders_after_drop :
    let uri : Uri := ⟨"file:///a.lg"⟩
    let state := (State.initial 0 (some uri)).applyAll
      [(true, .openDocument ⟨uri, 1, "# A\n- $\x7bnope()\x7d"⟩), (true, .retire uri),
        (true, .retire uri), (true, .release 1), (true, .schedule uri)]
    (state.holders uri).map (fun task => (task.job, task.stage.guard?)) =
      [(.retirement 1, some 0), (.validation 0, some 1)] := by
  decide

end State

end TemplateServer.Validation
