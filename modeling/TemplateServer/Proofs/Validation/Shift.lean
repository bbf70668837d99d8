import TemplateServer.Proofs.Validation.Docket

/-!
What a turn does to the docket of a document. Main statement: it leaves the docket as it is, or one
job gets past the guard, joins the line or leaves it; and what all these leave in a docket holds at
the end of every run.
-/

namespace TemplateServer.Validation

/-- What a job that gets past the guard will publish. -/
inductive Tells (document? : Option Document) : Job → Notice → Prop where
  | validation (ticket : Nat) (document : Document) (present : document? = some document) :
      Tells document? (.validation ticket) (.about document)
  | retirement (call : Nat) : Tells document? (.retirement call) .clear

/-- What a turn can do to the docket of a document. If all its tasks are together, a job gets past
the guard only when nobody is inside, and leaves nobody behind. -/
inductive Docket.Shift (document? : Option Document) (together : Prop) (docket : Docket) :
    Docket → Prop where
  | still : Shift document? together docket docket
  | skips (ticket : Nat) (came : docket.outside (.validation ticket)) (closed : document? = none) :
      Shift document? together docket (docket.enter (.validation ticket))
  | joins (job : Job) (notice : Notice) (came : docket.outside job)
      (tells : Tells document? job notice) (alone : together → docket.line = []) :
      Shift document? together docket ((docket.enter job).join (job, notice))
  | passes (job : Job) (notice : Notice) (came : docket.outside job)
      (tells : Tells document? job notice) (alone : together → docket.line = []) :
      Shift document? together docket ((docket.enter job).tell notice)
  | leaves (job : Job) (notice : Notice) (rest : List (Job × Notice))
      (first : docket.granted = (job, notice) :: rest)
      (alone : together → rest ++ docket.awaiting = []) :
      Shift document? together docket (Docket.tell notice { docket with granted := rest })

/-! ### Notices in line -/

/-- Whether the notices in line are what their jobs are to publish: retirements clear the document,
and validations do not. -/
def Docket.Truthful (docket : Docket) : Prop :=
  ∀ item ∈ docket.line, item.1.isRetirement = true ↔ item.2 = .clear

theorem Notice.about_ne_clear (document : Document) : Notice.about document ≠ .clear := by
  intro same
  cases congrArg Notice.version same

theorem Tells.clear_iff {document? : Option Document} {job : Job} {notice : Notice}
    (tells : Tells document? job notice) : job.isRetirement = true ↔ notice = .clear := by
  cases tells with
  | validation ticket document present =>
      constructor
      · intro retires
        cases retires
      · intro same
        exact absurd same (Notice.about_ne_clear document)
  | retirement call => exact ⟨fun _ => rfl, fun _ => rfl⟩

theorem Docket.Shift.truthful {document? : Option Document} {together : Prop}
    {docket next : Docket} (shift : Shift document? together docket next)
    (truthful : docket.Truthful) : next.Truthful := by
  cases shift with
  | still => exact truthful
  | skips ticket came closed => exact truthful
  | passes job notice came tells alone => exact truthful
  | joins job notice came tells alone =>
      intro item member
      rw [Docket.line_join] at member
      rcases List.mem_append.mp member with old | last
      · exact truthful item old
      · rw [List.mem_singleton.mp last]
        exact tells.clear_iff
  | leaves job notice rest first alone =>
      intro item member
      refine truthful item ?_
      rw [Docket.line_of_first first]
      exact List.mem_cons_of_mem _ member

namespace State

variable {uri : Uri} {state : State}

/-! ### What a turn does to a docket -/

variable {task : Task} {base entry ready next : State} {guard : Nat} {notice : Notice}

theorem Admits.docket_eq (admits : Admits task base guard entry) :
    entry.docket uri = base.docket uri := by
  cases admits with
  | asks due entry timed asked free => exact docket_guardFor asked
  | handed entering => rfl

theorem Prepares.docket_of_ne (timers : Timers (entry.holding task))
    (prepares : Prepares task entry ready notice) (other : task.uri ≠ uri) :
    ready.docket uri = entry.docket uri := by
  cases prepares with
  | validation ticket document job listed present => rfl
  | retirement call job =>
      exact docket_cancel_of_ne (timers.remove (Task.timer?_of_retirement job)) other

/-- The turn of a task of another document makes no difference. -/
theorem Turn.docket_of_ne (timers : Timers (base.holding task)) (turn : Turn task base next)
    (other : task.uri ≠ uri) : next.docket uri = base.docket uri := by
  cases turn with
  | queues due guard entry timed asked taken =>
      rw [docket_push_of_ne other, docket_guardFor asked]
  | lapses guard entry admits clears unlisted => rw [docket_handOver, admits.docket_eq]
  | skips guard ticket entry admits job listed closed =>
      rw [docket_handOver]
      exact admits.docket_eq
  | waits guard notice entry ready admits prepares gated spent =>
      have entered := (timers.admitted admits).1
      rw [docket_push_of_ne other, prepares.docket_of_ne entered other, admits.docket_eq]
  | passes guard left notice entry ready admits prepares paid =>
      have entered := (timers.admitted admits).1
      rw [docket_deliver, if_neg other]
      exact (prepares.docket_of_ne entered other).trans admits.docket_eq
  | leaves guard notice permitted => rw [docket_deliver, if_neg other]
  | drops ready =>
      have ended := timers.ended_of_ready ready
      exact docket_drop (timers.remove (Task.timer?_of_ended ended)) task

/-- What is left of an aborted validation is not missed. -/
theorem docket_pull_ended {before after : List Task}
    (split : state.tasks = before ++ task :: after) (ended : task.job.isLive = false)
    (outside : task.stage.isInside = false) :
    State.docket uri { state with tasks := before ++ after } = state.docket uri := by
  unfold docket
  rw [split, Docket.of_split_of_silent before after fun _ => ⟨ended, outside⟩]

/-- Who is outside while a task has its turn that was outside. -/
theorem docket_pull {before after : List Task} (timers : Timers state)
    (split : state.tasks = before ++ task :: after) (live : task.job.isLive = true)
    (outside : task.stage.isInside = false) :
    state.docket task.uri =
        { State.docket task.uri { state with tasks := before ++ after } with
          outside := fun job => task.job = job ∨ Outside task.uri job (before ++ after) } ∧
      ∀ job, Outside task.uri job (before ++ after) → job ≠ task.job := by
  constructor
  · unfold docket
    rw [split, Docket.of_split before after outside]
    simp only [true_and, live, and_true]
  · rintro job there rfl
    exact timers.not_outside_rest split there

/-- While a validation has its turn it is no longer outside. -/
theorem docket_pull_validation {before after : List Task} {ticket : Nat} (timers : Timers state)
    (split : state.tasks = before ++ task :: after) (outside : task.stage.isInside = false)
    (job : task.job = .validation ticket) :
    State.docket task.uri { state with tasks := before ++ after } =
      (state.docket task.uri).enter (.validation ticket) := by
  obtain ⟨whole, distinct⟩ := docket_pull timers split (by rw [job]; rfl) outside
  rw [whole]
  refine Docket.ext ?_ rfl rfl rfl
  funext other
  refine propext ?_
  rw [job] at distinct ⊢
  constructor
  · intro there
    refine ⟨Or.inr there, distinct other there, ?_⟩
    intro retires
    cases retires
  · rintro ⟨here | there, different, _⟩
    · exact absurd here.symm different
    · exact there

/-- Once a job is ready to publish, it has got past the guard. -/
theorem Prepares.docket_eq {before after : List Task} (timers : Timers state)
    (split : state.tasks = before ++ task :: after)
    (admits : Admits task { state with tasks := before ++ after } guard entry)
    (prepares : Prepares task entry ready notice) :
    ready.docket task.uri = (state.docket task.uri).enter task.job := by
  obtain ⟨entered, outside⟩ := (timers.pull split).admitted admits
  have base : entry.docket task.uri =
      State.docket task.uri { state with tasks := before ++ after } := admits.docket_eq
  cases prepares with
  | validation ticket document job listed present =>
      change entry.docket task.uri = _
      rw [base, docket_pull_validation timers split outside job, job]
  | retirement call job =>
      obtain ⟨whole, distinct⟩ := docket_pull timers split (by rw [job]; rfl) outside
      rw [docket_cancel (entered.remove (Task.timer?_of_retirement job)), base, whole]
      refine Docket.ext ?_ rfl rfl rfl
      funext other
      refine propext ?_
      constructor
      · rintro ⟨there, retires⟩
        exact ⟨Or.inr there, distinct other there, fun _ => retires⟩
      · rintro ⟨here | there, different, retires⟩
        · exact absurd here.symm different
        · exact ⟨there, retires (by rw [job]; rfl)⟩

theorem Prepares.tells (prepares : Prepares task entry ready notice) :
    Tells (entry.store.find? task.uri) task.job notice := by
  cases prepares with
  | validation ticket document job listed present =>
      rw [job]
      exact .validation ticket document present
  | retirement call job =>
      rw [job]
      exact .retirement call

theorem guard?_of_inside {stage : Stage} (inside : stage.isInside = true) :
    stage.guard?.isSome = true := by
  cases stage with
  | waiting guard notice => rfl
  | permitted guard notice => rfl
  | _ => cases inside

/-- While a task holds the guard at which all tasks of its document stand, no other is inside. -/
theorem Guarded.line_of_holder (guarded : Guarded (base.holding task))
    (gathered : (base.holding task).Gathered task.uri) (holds : task.stage.guard?.isSome = true) :
    (base.docket task.uri).line = [] := by
  have few := guarded.holders_le_one gathered
  have holders : (base.holding task).holders task.uri = task :: base.holders task.uri :=
    List.filter_cons_of_pos (decide_eq_true ⟨rfl, holds⟩)
  rw [holders, List.length_cons] at few
  have nobody : base.holders task.uri = [] := List.length_eq_zero_iff.mp (by omega)
  refine List.eq_nil_iff_forall_not_mem.mpr ?_
  intro item member
  obtain ⟨stage, present, inside, _⟩ := mem_of_mem_line member
  have among : ⟨task.uri, item.1, stage⟩ ∈ base.holders task.uri :=
    mem_holders.mpr ⟨present, rfl, guard?_of_inside inside⟩
  rw [nobody] at among
  cases among

/-- A task gets past the guard only when nobody is inside, if all tasks of its document stand at
one guard. -/
theorem Admits.alone (guarded : Guarded (base.holding task))
    (gathered : (base.holding task).Gathered task.uri) (admits : Admits task base guard entry) :
    (base.docket task.uri).line = [] := by
  cases admits with
  | handed entering => exact guarded.line_of_holder gathered (by rw [entering]; rfl)
  | asks due entry timed asked free =>
      have removed : Guarded base := guarded.remove (by rw [timed]; rfl)
      refine List.eq_nil_iff_forall_not_mem.mpr ?_
      intro item member
      obtain ⟨stage, present, inside, _⟩ := mem_of_mem_line member
      obtain ⟨place, holds⟩ := Option.isSome_iff_exists.mp (guard?_of_inside inside)
      exact removed.not_standsAt gathered.rest (free_of_asked asked free).2 place
        ⟨_, present, rfl, Stage.place?_of_guard? holds⟩

/-- A task that was handed a permit is the first in line if no task before it can go on. -/
theorem docket_pull_permitted {before after : List Task}
    (split : state.tasks = before ++ task :: after)
    (earlier : ∀ other ∈ before, other.stage.isRunnable state.now = false)
    (permitted : task.stage = .permitted guard notice) :
    state.docket task.uri =
      { State.docket task.uri { state with tasks := before ++ after } with
        granted := (task.job, notice) ::
          (State.docket task.uri { state with tasks := before ++ after }).granted } := by
  have silent : told task.uri Stage.granted? before = [] := by
    refine told_eq_nil ?_
    intro other member
    have idle := earlier other member
    cases stage : other.stage with
    | permitted guard notice =>
        rw [stage] at idle
        cases idle
    | _ => rfl
  obtain ⟨owner, job, stage⟩ := task
  cases permitted
  unfold docket Docket.of
  simp only [split, Docket.mk.injEq, and_true]
  refine ⟨?_, ?_, ?_⟩
  · funext other
    simp [Stage.isInside]
  · rw [told_append, told_append, silent, told_cons_of_told rfl]
    rfl
  · rw [told_append, told_append, told_cons_of_silent fun _ => rfl]

/-- The first task that can go on shifts the docket of its document. -/
theorem Turn.shift {before after : List Task} (timers : Timers state) (guarded : Guarded state)
    (split : state.tasks = before ++ task :: after)
    (earlier : ∀ other ∈ before, other.stage.isRunnable state.now = false)
    (turn : Turn task { state with tasks := before ++ after } next) :
    Docket.Shift (state.store.find? task.uri) (state.Gathered task.uri) (state.docket task.uri)
      (next.docket task.uri) := by
  have pulled := timers.pull split
  have alone {guard : Nat} {entry : State}
      (admits : Admits task { state with tasks := before ++ after } guard entry)
      (live : task.job.isLive = true) :
      state.Gathered task.uri → (state.docket task.uri).line = [] := by
    intro gathered
    rw [(docket_pull timers split live (pulled.admitted admits).2).1]
    exact admits.alone (guarded.pull split) (gathered.pull split)
  have tells {guard : Nat} {notice : Notice} {entry ready : State}
      (admits : Admits task { state with tasks := before ++ after } guard entry)
      (prepares : Prepares task entry ready notice) :
      Tells (state.store.find? task.uri) task.job notice := by
    have told := prepares.tells
    rw [admits.sameSetting.store] at told
    exact told
  cases turn with
  | queues due guard entry timed asked taken =>
      have same : State.docket task.uri (entry.push { task with stage := .queued guard }) =
          state.docket task.uri := by
        have live : task.job.isLive = true := by
          have fits := timers.fits task (mem_split_self split)
          rw [timed] at fits
          exact fits
        rw [docket_push_outside live rfl, docket_guardFor asked, guardFor_tasks asked,
          (docket_pull timers split live (by rw [timed]; rfl)).1]
      rw [same]
      exact .still
  | lapses guard entry admits clears unlisted =>
      obtain ⟨entered, outside⟩ := pulled.admitted admits
      have ended := entered.lapsed outside clears unlisted
      rw [docket_handOver, admits.docket_eq, docket_pull_ended split ended outside]
      exact .still
  | skips guard ticket entry admits job listed closed =>
      have outside := (pulled.admitted admits).2
      have base : (entry.forgetTimer task.uri).docket task.uri = _ := admits.docket_eq
      rw [docket_handOver, base, docket_pull_validation timers split outside job]
      rw [admits.sameSetting.store] at closed
      refine .skips ticket ?_ closed
      rw [← job]
      exact ⟨task, mem_split_self split, rfl, rfl, by rw [job]; rfl, outside⟩
  | waits guard notice entry ready admits prepares gated spent =>
      have outside := (pulled.admitted admits).2
      rw [docket_push_waiting, prepares.docket_eq timers split admits]
      refine .joins task.job notice ?_ (tells admits prepares) (alone admits prepares.live)
      exact ⟨task, mem_split_self split, rfl, rfl, prepares.live, outside⟩
  | passes guard left notice entry ready admits prepares paid =>
      have outside := (pulled.admitted admits).2
      rw [docket_deliver, if_pos rfl]
      change Docket.Shift _ _ _ ((ready.docket task.uri).tell notice)
      rw [prepares.docket_eq timers split admits]
      refine .passes task.job notice ?_ (tells admits prepares) (alone admits prepares.live)
      exact ⟨task, mem_split_self split, rfl, rfl, prepares.live, outside⟩
  | leaves guard notice permitted =>
      rw [docket_deliver, if_pos rfl, docket_pull_permitted split earlier permitted]
      refine .leaves task.job notice _ rfl ?_
      intro gathered
      have holds : task.stage.guard?.isSome = true := by
        rw [permitted]
        rfl
      exact (guarded.pull split).line_of_holder (gathered.pull split) holds
  | drops ready =>
      have ended := pulled.ended_of_ready ready
      rw [docket_drop (pulled.remove (Task.timer?_of_ended ended)),
        docket_pull_ended split ended (by rw [ready]; rfl)]
      exact .still

/-- A turn shifts the docket of every document: that of the task whose turn it is in one of the ways
there are, and all others not at all. -/
theorem shift_of_step? (timers : Timers state) (guarded : Guarded state)
    (stepped : state.step? = some next) (uri : Uri) :
    Docket.Shift (state.store.find? uri) (state.Gathered uri) (state.docket uri)
      (next.docket uri) := by
  obtain ⟨before, task, after, split, _runnable, earlier, turn⟩ := step?_turn stepped
  by_cases owned : task.uri = uri
  · subst owned
    exact turn.shift timers guarded split earlier
  · have same : next.docket uri = state.docket uri := by
      rw [turn.docket_of_ne (timers.pull split) owned]
      unfold docket
      rw [split, Docket.of_split_of_silent before after fun same => absurd same owned]
    rw [same]
    exact .still

/-! ### What holds along a run -/

/-- What calls leave in a docket, and turns at the points of a run, holds at the end of the run if
it does at its start. -/
theorem Reachable.docket_follow {made : Command → Prop} (holds : Docket → Prop)
    (unbroken : Unbroken made fun state => Timers state ∧ holds (state.docket uri))
    (reachable : Reachable state) (moves : List Move)
    (allowed : ∀ move ∈ moves, ∀ command, move.command? = some command → made command)
    (shifts : ∀ before, before ++ [.turn] <+: moves → ∀ docket next,
      docket = (state.follow before).docket uri →
      next = (state.follow (before ++ [.turn])).docket uri →
      Docket.Shift ((state.follow before).store.find? uri) ((state.follow before).Gathered uri)
        docket next → holds docket → holds next)
    (start : holds (state.docket uri)) : holds ((state.follow moves).docket uri) := by
  induction moves generalizing state with
  | nil => exact start
  | cons move moves ih =>
      have kept := unbroken.move ⟨reachable.timers, start⟩ move (allowed move List.mem_cons_self)
        (by
          rintro next rfl stepped
          refine ⟨preserved_timers.turn stepped reachable.timers, ?_⟩
          refine shifts [] ⟨moves, rfl⟩ _ _ rfl ?_
            (shift_of_step? reachable.timers reachable.guarded stepped uri) start
          change _ = (state.move .turn).docket uri
          rw [move_turn stepped])
      refine ih (reachable.follow [move])
        (fun later member => allowed later (List.mem_cons_of_mem move member)) ?_ kept.2
      intro before earlier
      exact shifts (move :: before) (List.cons_prefix_cons.mpr ⟨rfl, earlier⟩)

theorem Reachable.truthful (reachable : Reachable state) (uri : Uri) :
    (state.docket uri).Truthful := by
  have unbroken : Unbroken (fun _ => True) fun state =>
      Timers state ∧ (state.docket uri).Truthful := by
    refine unbroken_docket Docket.Truthful uri ?_ ?_ ?_ ?_
    · exact fun _ _ _ truthful => truthful
    · exact fun _ _ _ truthful => truthful
    · exact fun _ _ truthful => truthful
    · intro docket first rest awaiting truthful
      unfold Docket.Truthful
      rw [Docket.line_granted awaiting]
      exact truthful
  obtain ⟨delay, gate, moves, same⟩ := reachable
  rw [same]
  have start : Reachable (State.initial delay gate) := ⟨delay, gate, [], rfl⟩
  refine start.docket_follow Docket.Truthful unbroken moves (fun _ _ _ _ => trivial) ?_ ?_
  · intro before _ docket next _ _ shift
    exact shift.truthful
  · intro item member
    cases member

end State

end TemplateServer.Validation
