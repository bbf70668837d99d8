import TemplateServer.Proofs.Validation.Exclusion

/-!
What is under way for one document. Tasks that are inside stand in a line: those that were handed a
permit first, then those that wait for one, and they leave in this order. Main statement: calls for
other documents make no difference to the docket of a document, and its own calls change it in one
of a few ways.
-/

namespace TemplateServer.Validation

def Stage.granted? : Stage → Option Notice
  | .permitted _ notice => some notice
  | _ => none

def Stage.awaited? : Stage → Option Notice
  | .waiting _ notice => some notice
  | _ => none

/-- What is under way for a document, and what was published about it. -/
@[ext]
structure Docket where
  /-- The jobs that have yet to get past the guard. -/
  outside : Job → Prop
  /-- The jobs that were handed a permit, and the notices they will publish. -/
  granted : List (Job × Notice)
  /-- The jobs that wait for a permit. -/
  awaiting : List (Job × Notice)
  notices : List Notice

/-- The jobs that are inside, in the order in which they will leave. -/
def Docket.line (docket : Docket) : List (Job × Notice) :=
  docket.granted ++ docket.awaiting

/-- A job gets past the guard. When it is a retirement, validations do not stay outside. -/
def Docket.enter (job : Job) (docket : Docket) : Docket :=
  { docket with
    outside := fun other =>
      docket.outside other ∧ other ≠ job ∧ (job.isRetirement = true → other.isRetirement = true) }

def Docket.clear (docket : Docket) : Docket :=
  { docket with outside := fun job => docket.outside job ∧ job.isRetirement = true }

def Docket.join (item : Job × Notice) (docket : Docket) : Docket :=
  { docket with awaiting := docket.awaiting ++ [item] }

def Docket.tell (notice : Notice) (docket : Docket) : Docket :=
  { docket with notices := docket.notices ++ [notice] }

/-! ### Dockets of lists of tasks -/

/-- The jobs of a document at a stage with a notice, in the order of the tasks. -/
def told (uri : Uri) (notice? : Stage → Option Notice) (tasks : List Task) : List (Job × Notice) :=
  tasks.filterMap fun task =>
    if task.uri = uri then (notice? task.stage).map (Prod.mk task.job) else none

/-- Whether a job of a document is still to be done and has yet to get past the guard. -/
def Outside (uri : Uri) (job : Job) (tasks : List Task) : Prop :=
  ∃ task ∈ tasks, task.uri = uri ∧ task.job = job ∧ task.job.isLive = true ∧
    task.stage.isInside = false

/-- The docket of a document that these tasks and publications amount to. -/
def Docket.of (uri : Uri) (tasks : List Task) (published : List Publication) : Docket where
  outside := fun job => Outside uri job tasks
  granted := told uri Stage.granted? tasks
  awaiting := told uri Stage.awaited? tasks
  notices := (published.filter fun publication => publication.uri = uri).map Publication.notice

@[simp]
theorem outside_append {uri : Uri} {job : Job} {first second : List Task} :
    Outside uri job (first ++ second) ↔ Outside uri job first ∨ Outside uri job second := by
  unfold Outside
  simp only [List.mem_append, or_and_right, exists_or]

@[simp]
theorem outside_cons {uri : Uri} {job : Job} {task : Task} {tasks : List Task} :
    Outside uri job (task :: tasks) ↔
      (task.uri = uri ∧ task.job = job ∧ task.job.isLive = true ∧ task.stage.isInside = false) ∨
        Outside uri job tasks := by
  unfold Outside
  simp only [List.mem_cons, or_and_right, exists_or, exists_eq_left]

@[simp]
theorem outside_nil {uri : Uri} {job : Job} : ¬Outside uri job [] := by
  rintro ⟨task, member, _⟩
  cases member

theorem not_outside_of_ended {uri : Uri} {job : Job} {tasks : List Task}
    (ended : job.isLive = false) : ¬Outside uri job tasks := by
  rintro ⟨task, _, _, same, live, _⟩
  rw [same, ended] at live
  cases live

@[simp]
theorem told_append {uri : Uri} {notice? : Stage → Option Notice} {first second : List Task} :
    told uri notice? (first ++ second) = told uri notice? first ++ told uri notice? second :=
  List.filterMap_append

@[simp]
theorem told_nil {uri : Uri} {notice? : Stage → Option Notice} : told uri notice? [] = [] :=
  rfl

theorem told_cons_of_silent {uri : Uri} {notice? : Stage → Option Notice} {task : Task}
    {tasks : List Task} (silent : task.uri = uri → notice? task.stage = none) :
    told uri notice? (task :: tasks) = told uri notice? tasks := by
  unfold told
  rw [List.filterMap_cons]
  by_cases owned : task.uri = uri
  · rw [if_pos owned, silent owned]
    rfl
  · rw [if_neg owned]

theorem told_cons_of_told {uri : Uri} {notice? : Stage → Option Notice} {job : Job} {stage : Stage}
    {notice : Notice} {tasks : List Task} (tells : notice? stage = some notice) :
    told uri notice? (⟨uri, job, stage⟩ :: tasks) = (job, notice) :: told uri notice? tasks := by
  unfold told
  rw [List.filterMap_cons, if_pos rfl, tells]
  rfl

theorem mem_told {uri : Uri} {notice? : Stage → Option Notice} {tasks : List Task}
    {entry : Job × Notice} :
    entry ∈ told uri notice? tasks ↔
      ∃ stage, ⟨uri, entry.1, stage⟩ ∈ tasks ∧ notice? stage = some entry.2 := by
  obtain ⟨job, notice⟩ := entry
  unfold told
  rw [List.mem_filterMap]
  constructor
  · rintro ⟨task, member, made⟩
    obtain ⟨owner, known, stage⟩ := task
    split at made
    · rename_i owned
      obtain ⟨found, tells, same⟩ := Option.map_eq_some_iff.mp made
      cases owned
      cases same
      exact ⟨stage, member, tells⟩
    · cases made
  · rintro ⟨stage, member, tells⟩
    exact ⟨_, member, by rw [if_pos rfl, tells]; rfl⟩

theorem told_eq_nil {uri : Uri} {notice? : Stage → Option Notice} {tasks : List Task}
    (silent : ∀ task ∈ tasks, notice? task.stage = none) : told uri notice? tasks = [] := by
  refine List.eq_nil_iff_forall_not_mem.mpr ?_
  intro entry member
  obtain ⟨stage, present, tells⟩ := mem_told.mp member
  rw [silent _ present] at tells
  cases tells

theorem granted?_of_outside {stage : Stage} (outside : stage.isInside = false) :
    stage.granted? = none := by
  cases stage with
  | permitted guard notice => cases outside
  | _ => rfl

theorem awaited?_of_outside {stage : Stage} (outside : stage.isInside = false) :
    stage.awaited? = none := by
  cases stage with
  | waiting guard notice => cases outside
  | _ => rfl

variable {uri : Uri} {published : List Publication}

/-- A task outside makes a difference to what is outside only. -/
theorem Docket.of_split {task : Task} (before after : List Task)
    (outside : task.stage.isInside = false) :
    Docket.of uri (before ++ task :: after) published =
      { Docket.of uri (before ++ after) published with
        outside := fun job =>
          (task.uri = uri ∧ task.job = job ∧ task.job.isLive = true) ∨
            Outside uri job (before ++ after) } := by
  unfold Docket.of
  simp only [Docket.mk.injEq, and_true]
  refine ⟨?_, ?_, ?_⟩
  · funext job
    refine propext ?_
    simp only [outside_append, outside_cons, outside, and_true]
    exact or_left_comm
  · rw [told_append, told_append, told_cons_of_silent fun _ => granted?_of_outside outside]
  · rw [told_append, told_append, told_cons_of_silent fun _ => awaited?_of_outside outside]

/-- Tasks of other documents make no difference, nor does what is left of aborted validations. -/
theorem Docket.of_split_of_silent {task : Task} (before after : List Task)
    (silent : task.uri = uri → task.job.isLive = false ∧ task.stage.isInside = false) :
    Docket.of uri (before ++ task :: after) published =
      Docket.of uri (before ++ after) published := by
  unfold Docket.of
  simp only [Docket.mk.injEq, and_true]
  refine ⟨?_, ?_, ?_⟩
  · funext job
    refine propext ?_
    have absent : ¬(task.uri = uri ∧ task.job = job ∧ task.job.isLive = true ∧
        task.stage.isInside = false) := by
      rintro ⟨owned, _, live, _⟩
      rw [(silent owned).1] at live
      cases live
    simp only [outside_append, outside_cons, absent, false_or]
  · rw [told_append, told_append,
      told_cons_of_silent fun owned => granted?_of_outside (silent owned).2]
  · rw [told_append, told_append,
      told_cons_of_silent fun owned => awaited?_of_outside (silent owned).2]

theorem Docket.of_append_silent {extra : List Task} (before after : List Task)
    (silent : ∀ task ∈ extra, task.uri = uri → task.job.isLive = false ∧
      task.stage.isInside = false) :
    Docket.of uri (before ++ extra ++ after) published =
      Docket.of uri (before ++ after) published := by
  induction extra with
  | nil => rw [List.append_nil]
  | cons task extra ih =>
      obtain ⟨first, rest⟩ := List.forall_mem_cons.mp silent
      rw [List.append_assoc, List.cons_append, of_split_of_silent before _ first,
        ← List.append_assoc]
      exact ih rest

/-- What takes the place of an aborted validation makes no difference. -/
theorem Docket.of_remnants {left removers : List Task} (before after : List Task)
    (silent : ∀ task ∈ left ++ removers, task.uri = uri → task.job.isLive = false ∧
      task.stage.isInside = false) :
    Docket.of uri (before ++ left ++ after ++ removers) published =
      Docket.of uri (before ++ after) published := by
  have last := @of_append_silent uri published removers (before ++ left ++ after) []
    fun task member => silent task (List.mem_append_right left member)
  rw [List.append_nil, List.append_nil] at last
  rw [last]
  exact of_append_silent before after
    fun task member => silent task (List.mem_append_left removers member)

theorem Docket.of_append_waiting (tasks : List Task) (job : Job) (guard : Nat) (notice : Notice) :
    Docket.of uri (tasks ++ [⟨uri, job, .waiting guard notice⟩]) published =
      (Docket.of uri tasks published).join (job, notice) := by
  unfold Docket.join Docket.of
  simp only [Docket.mk.injEq, and_true]
  refine ⟨?_, ?_, ?_⟩
  · funext other
    refine propext ?_
    simp [Stage.isInside]
  · rw [told_append, told_cons_of_silent fun _ => rfl, told_nil, List.append_nil]
  · rw [told_append, told_cons_of_told rfl, told_nil]

theorem Docket.of_published (tasks : List Task) (publication : Publication) :
    Docket.of uri tasks (published ++ [publication]) =
      if publication.uri = uri then (Docket.of uri tasks published).tell publication.notice
      else Docket.of uri tasks published := by
  unfold Docket.tell Docket.of
  by_cases owned : publication.uri = uri
  · simp [owned]
  · simp [owned]

theorem Docket.line_join (item : Job × Notice) (docket : Docket) :
    (docket.join item).line = docket.line ++ [item] :=
  (List.append_assoc docket.granted docket.awaiting [item]).symm

theorem Docket.line_of_first {docket : Docket} {job : Job} {notice : Notice}
    {rest : List (Job × Notice)} (first : docket.granted = (job, notice) :: rest) :
    docket.line = (job, notice) :: (rest ++ docket.awaiting) := by
  unfold Docket.line
  rw [first]
  rfl

theorem Docket.line_granted {docket : Docket} {first : Job × Notice} {rest : List (Job × Notice)}
    (awaiting : docket.awaiting = first :: rest) :
    Docket.line { docket with granted := docket.granted ++ [first], awaiting := rest } =
      docket.line := by
  unfold Docket.line
  rw [awaiting, List.append_assoc]
  rfl

namespace State

def docket (uri : Uri) (state : State) : Docket :=
  .of uri state.tasks state.published

/-! ### What the operations do to a docket -/

variable {state : State}

@[simp]
theorem docket_handOver (guard : Nat) : (state.handOver guard).docket uri = state.docket uri := by
  rcases handOver_cases guard state with ⟨same, _⟩ | ⟨before, owner, job, after, split, next⟩
  · rw [same]
  · unfold docket
    rw [next, split, Docket.of_split before after rfl, Docket.of_split (before ++ after) [] rfl,
      List.append_nil]

@[simp]
theorem docket_vacate (stage : Stage) : (state.vacate stage).docket uri = state.docket uri := by
  unfold vacate
  cases stage.guard? with
  | none => rfl
  | some guard => exact docket_handOver guard

theorem docket_cancel_of_ne {other : Uri} (timers : Timers state) (different : other ≠ uri) :
    (state.cancel other).docket uri = state.docket uri := by
  cases listed : state.pending.lookup other with
  | none => rw [cancel_of_unlisted listed]
  | some ticket =>
      obtain ⟨before, stage, after, left, removers, split, _outside, next, ended⟩ :=
        timers.cancel_split listed
      have foreign : ∀ task ∈ left ++ removers, task.uri ≠ uri := by
        intro task member
        rcases ended task member with ⟨marked, _⟩ | removes
        · rw [marked]
          exact different
        · rw [removes]
          exact different
      rw [next]
      unfold docket
      rw [split, Docket.of_split_of_silent before after fun owned => absurd owned different,
        Docket.of_remnants before after fun task member owned =>
          absurd owned (foreign task member)]
      rfl

theorem Timers.lookup_of_outsider {ticket : Nat} (timers : Timers state)
    (outside : Outside uri (.validation ticket) state.tasks) :
    state.pending.lookup uri = some ticket := by
  obtain ⟨task, member, owned, job, _live, stage⟩ := outside
  rw [← owned]
  exact timers.lookup_of_outside member job stage

/-- No other task has the same job. -/
theorem Timers.not_outside_rest {task : Task} {before after : List Task} (timers : Timers state)
    (split : state.tasks = before ++ task :: after) : ¬Outside uri task.job (before ++ after) := by
  rintro ⟨other, member, _, job, live, _⟩
  rw [job] at live
  exact (timers.pull split).unused live (List.mem_map.mpr ⟨other, member, job⟩)

/-- When a timer is forgotten, the validation that is outside is aborted. -/
theorem docket_cancel (timers : Timers state) (uri : Uri) :
    (state.cancel uri).docket uri = (state.docket uri).clear := by
  cases listed : state.pending.lookup uri with
  | none =>
      rw [cancel_of_unlisted listed]
      refine Docket.ext ?_ rfl rfl rfl
      funext job
      refine propext ⟨?_, And.left⟩
      intro outside
      refine ⟨outside, ?_⟩
      cases job with
      | validation ticket =>
          rw [timers.lookup_of_outsider outside] at listed
          cases listed
      | retirement call => rfl
      | aborted ticket => exact absurd outside (not_outside_of_ended rfl)
      | removal ticket => exact absurd outside (not_outside_of_ended rfl)
  | some ticket =>
      obtain ⟨before, stage, after, left, removers, split, outside, next, ended⟩ :=
        timers.cancel_split listed
      have silent : ∀ task ∈ left ++ removers, task.job.isLive = false ∧
          task.stage.isInside = false := by
        intro task member
        rcases ended task member with ⟨marked, _⟩ | removes
        · rw [marked]
          exact ⟨rfl, outside⟩
        · rw [removes]
          exact ⟨rfl, rfl⟩
      have alone : ∀ other, ¬Outside uri (.validation other) (before ++ after) := by
        intro other there
        have present : Outside uri (.validation other) state.tasks := by
          obtain ⟨task, member, rest⟩ := there
          exact ⟨task, mem_split split member, rest⟩
        rw [timers.lookup_of_outsider present] at listed
        cases listed
        exact timers.not_outside_rest split there
      rw [next]
      unfold docket
      rw [split, Docket.of_split before after outside,
        Docket.of_remnants before after fun task member _ => silent task member]
      refine Docket.ext ?_ rfl rfl rfl
      funext job
      refine propext ?_
      cases job with
      | validation other =>
          simp only [Docket.of, Docket.clear, Job.isRetirement, alone other, Bool.false_eq_true,
            and_false]
      | retirement call => simp [Docket.of, Docket.clear, Job.isRetirement]
      | aborted other =>
          have gone := @not_outside_of_ended uri (.aborted other) (before ++ after) rfl
          simp only [Docket.of, Docket.clear, Job.isRetirement, gone, Bool.false_eq_true, and_false]
      | removal other =>
          have gone := @not_outside_of_ended uri (.removal other) (before ++ after) rfl
          simp only [Docket.of, Docket.clear, Job.isRetirement, gone, Bool.false_eq_true, and_false]

/-- What was aborted does not count as outside, so dropping it makes no difference. -/
theorem docket_drop (timers : Timers state) (remover : Task) :
    (state.drop remover).docket uri = state.docket uri := by
  rcases drop_cases remover state with ⟨same, _⟩ | ⟨before, ticket, stage, after, split, next⟩
  · rw [same]
  · rw [next, docket_vacate]
    unfold docket
    rw [split, Docket.of_split_of_silent before after fun _ =>
      ⟨rfl, outside_of_ended rfl (timers.fits _ (mem_split_self split))⟩]

theorem docket_push_of_ne {owner : Uri} {job : Job} {stage : Stage} (other : owner ≠ uri) :
    (state.push ⟨owner, job, stage⟩).docket uri = state.docket uri := by
  unfold docket push
  rw [Docket.of_split_of_silent state.tasks [] fun owned => absurd owned other, List.append_nil]

theorem docket_push_outside {job : Job} {stage : Stage} (live : job.isLive = true)
    (outside : stage.isInside = false) :
    (state.push ⟨uri, job, stage⟩).docket uri =
      { state.docket uri with
        outside := fun other => job = other ∨ Outside uri other state.tasks } := by
  unfold docket push
  rw [Docket.of_split state.tasks [] outside, List.append_nil]
  simp only [true_and, live, and_true]

theorem docket_push_waiting {job : Job} {guard : Nat} {notice : Notice} :
    (state.push ⟨uri, job, .waiting guard notice⟩).docket uri =
      (state.docket uri).join (job, notice) :=
  Docket.of_append_waiting state.tasks job guard notice

theorem docket_deliver (task : Task) (guard : Nat) (notice : Notice) :
    (state.deliver task guard notice).docket uri =
      if task.uri = uri then (state.docket uri).tell notice else state.docket uri := by
  rw [deliver_eq, docket_handOver]
  exact Docket.of_published state.tasks ⟨state.now, task.uri, notice⟩

theorem docket_guardFor {other : Uri} {entry : State} {guard : Nat}
    (asked : state.guardFor other = (guard, entry)) : entry.docket uri = state.docket uri := by
  rcases guardFor_cases asked with ⟨_, same⟩ | ⟨_, _, same⟩
  · rw [same]
  · rw [same]
    rfl

/-- A permit goes to the first that waits, so the line stays as it is. -/
theorem docket_grant (state : State) (uri : Uri) :
    state.grant.docket uri = state.docket uri ∨
    ∃ first rest, (state.docket uri).awaiting = first :: rest ∧
      state.grant.docket uri =
        { state.docket uri with
          granted := (state.docket uri).granted ++ [first]
          awaiting := rest } := by
  rcases grant_cases state with
    ⟨next, _⟩ | ⟨before, owner, job, guard, notice, after, split, earlier, next⟩
  · left
    rw [next]
    rfl
  · unfold docket
    rw [next, split]
    by_cases owned : owner = uri
    · right
      subst owned
      have silent : told owner Stage.awaited? before = [] := by
        refine told_eq_nil ?_
        intro task member
        have idle := earlier task member
        cases stage : task.stage with
        | waiting guard notice =>
            rw [stage] at idle
            cases idle
        | _ => rfl
      refine ⟨(job, notice), told owner Stage.awaited? after, ?_, ?_⟩
      · change told owner Stage.awaited? (before ++ _ :: after) = _
        rw [told_append, silent, told_cons_of_told rfl]
        rfl
      · unfold Docket.of
        simp only [Docket.mk.injEq, and_true]
        refine ⟨?_, ?_, ?_⟩
        · funext other
          simp [Stage.isInside]
        · simp only [told_append]
          rw [told_cons_of_told rfl, told_cons_of_silent fun _ => rfl]
          rfl
        · simp only [told_append]
          rw [silent, told_cons_of_silent fun _ => rfl]
          simp
    · left
      rw [Docket.of_split_of_silent before after fun same => absurd same owned,
        Docket.of_split_of_silent (before ++ after) [] fun same => absurd same owned, List.append_nil]

/-! ### What calls do to a docket -/

theorem docket_schedule_of_ne {other : Uri} (timers : Timers state) (different : other ≠ uri) :
    (state.schedule other).docket uri = state.docket uri := by
  rw [schedule_eq, docket_push_of_ne different]
  exact docket_cancel_of_ne timers different

/-- Scheduling leaves only retirements outside, and the new validation. -/
theorem docket_schedule (timers : Timers state) (uri : Uri) :
    (state.schedule uri).docket uri =
      { state.docket uri with
        outside := fun job => .validation state.nextTicket = job ∨
          (state.docket uri).outside job ∧ job.isRetirement = true } := by
  rw [schedule_eq, docket_push_outside rfl rfl]
  change { (state.cancel uri).docket uri with
    outside := fun job => Job.validation state.nextTicket = job ∨
      ((state.cancel uri).docket uri).outside job } = _
  rw [docket_cancel timers uri]
  rfl

theorem docket_retire_of_ne {other : Uri} (different : other ≠ uri) :
    (state.retire other).docket uri = state.docket uri :=
  docket_push_of_ne different

theorem docket_retire (uri : Uri) (state : State) :
    (state.retire uri).docket uri =
      { state.docket uri with
        outside := fun job => .retirement state.nextCall = job ∨
          (state.docket uri).outside job } :=
  docket_push_outside rfl rfl

/-- Calls for other documents make no difference to a docket. -/
theorem unbroken_docket {made : Command → Prop} (holds : Docket → Prop) (uri : Uri)
    (scheduled : made (.schedule uri) → ∀ docket ticket, holds docket →
      holds { docket with
        outside := fun job => .validation ticket = job ∨
          docket.outside job ∧ job.isRetirement = true })
    (retired : made (.retire uri) → ∀ docket call, holds docket →
      holds { docket with outside := fun job => .retirement call = job ∨ docket.outside job })
    (cleared : made .shutdown → ∀ docket, holds docket → holds docket.clear)
    (granted : ∀ docket first rest, docket.awaiting = first :: rest → holds docket →
      holds { docket with granted := docket.granted ++ [first], awaiting := rest }) :
    Unbroken made fun state => Timers state ∧ holds (state.docket uri) where
  setting store delay now later kept :=
    ⟨preserved_timers.setting store delay now later kept.1, kept.2⟩
  schedule other allowed kept := by
    refine ⟨kept.1.schedule other, ?_⟩
    by_cases same : other = uri
    · subst same
      rw [docket_schedule kept.1]
      exact scheduled allowed _ _ kept.2
    · rw [docket_schedule_of_ne kept.1 same]
      exact kept.2
  retire {state} other allowed kept := by
    refine ⟨kept.1.retire other, ?_⟩
    by_cases same : other = uri
    · subst same
      rw [docket_retire]
      exact retired allowed _ _ kept.2
    · rw [docket_retire_of_ne same]
      exact kept.2
  cancel other allowed kept := by
    refine ⟨kept.1.cancel other, ?_⟩
    by_cases same : other = uri
    · subst same
      rw [docket_cancel kept.1]
      exact cleared allowed _ kept.2
    · rw [docket_cancel_of_ne kept.1 same]
      exact kept.2
  grant {state} kept := by
    refine ⟨kept.1.grant, ?_⟩
    rcases docket_grant state uri with same | ⟨first, rest, awaiting, next⟩
    · rw [same]
      exact kept.2
    · rw [next]
      exact granted _ first rest awaiting kept.2

/-! ### Who is under way -/

theorem mem_of_mem_line {tasks : List Task} {published : List Publication} {item : Job × Notice}
    (member : item ∈ (Docket.of uri tasks published).line) :
    ∃ stage, ⟨uri, item.1, stage⟩ ∈ tasks ∧ stage.isInside = true ∧
      (stage.granted? = some item.2 ∨ stage.awaited? = some item.2) := by
  rcases List.mem_append.mp member with here | there
  · obtain ⟨stage, present, tells⟩ := mem_told.mp here
    refine ⟨stage, present, ?_, Or.inl tells⟩
    cases stage with
    | permitted guard notice => rfl
    | _ => cases tells
  · obtain ⟨stage, present, tells⟩ := mem_told.mp there
    refine ⟨stage, present, ?_, Or.inr tells⟩
    cases stage with
    | waiting guard notice => rfl
    | _ => cases tells

/-- Whoever is inside is still to publish something. -/
theorem Timers.live_of_mem_line {item : Job × Notice} (timers : Timers state)
    (member : item ∈ (state.docket uri).line) : item.1.isLive = true := by
  obtain ⟨stage, present, inside, _⟩ := mem_of_mem_line member
  exact live_of_inside (timers.fits _ present) inside

def UnderWay (uri : Uri) (job : Job) (state : State) : Prop :=
  ∃ task ∈ state.tasks, task.uri = uri ∧ task.job = job

instance (uri : Uri) (job : Job) (state : State) : Decidable (state.UnderWay uri job) :=
  inferInstanceAs (Decidable (∃ task ∈ state.tasks, task.uri = uri ∧ task.job = job))

/-- A job that is still to be done is outside or in line. -/
theorem underWay_iff {job : Job} (live : job.isLive = true) :
    state.UnderWay uri job ↔
      (state.docket uri).outside job ∨ job ∈ (state.docket uri).line.map Prod.fst := by
  constructor
  · rintro ⟨task, member, owned, same⟩
    obtain ⟨owner, known, stage⟩ := task
    cases owned
    cases same
    have within {notice : Notice} (inLine : (known, notice) ∈ (state.docket owner).line) :
        known ∈ (state.docket owner).line.map Prod.fst :=
      List.mem_map.mpr ⟨(known, notice), inLine, rfl⟩
    cases stage with
    | waiting guard notice =>
        have awaiting : (known, notice) ∈ (state.docket owner).awaiting :=
          mem_told.mpr ⟨_, member, rfl⟩
        exact Or.inr (within (List.mem_append_right _ awaiting))
    | permitted guard notice =>
        have granted : (known, notice) ∈ (state.docket owner).granted :=
          mem_told.mpr ⟨_, member, rfl⟩
        exact Or.inr (within (List.mem_append_left _ granted))
    | _ => exact Or.inl ⟨_, member, rfl, rfl, live, rfl⟩
  · rintro (⟨task, member, owned, same, _, _⟩ | inLine)
    · exact ⟨task, member, owned, same⟩
    · obtain ⟨item, member, same⟩ := List.mem_map.mp inLine
      obtain ⟨stage, present, _⟩ := mem_of_mem_line member
      exact ⟨_, present, rfl, same⟩

end State

end TemplateServer.Validation
