import TemplateServer.Proofs.Validation.Timer

/-!
Validation without permits. Where no notice needs a permit, a task publishes in the turn in which it
asks for its guard. So no task is ever seen at a guard, and documents have nothing to do with each
other: the desk of a document holds the jobs that are still to be done, with the times when they go
on, and what was published. Main statements: a turn does one job of one desk, and calls do to a desk
what they say.
-/

namespace TemplateServer.Validation

def Stage.due? : Stage → Option Nat
  | .timed due => some due
  | _ => none

/-- What is still to be done for a document, and what was published about it. -/
@[ext]
structure Desk where
  jobs : List (Job × Nat)
  log : List Publication

def Desk.clear (desk : Desk) : Desk :=
  { desk with jobs := desk.jobs.filter fun item => item.1.isRetirement }

def Desk.tell (time : Nat) (uri : Uri) (notice : Notice) (desk : Desk) : Desk :=
  { desk with log := desk.log ++ [⟨time, uri, notice⟩] }

inductive Desk.Turn (uri : Uri) (document? : Option Document) (now : Nat) (desk : Desk) :
    Desk → Prop where
  | still : Turn uri document? now desk desk
  | skips (ticket due : Nat) (before after : List (Job × Nat))
      (split : desk.jobs = before ++ (.validation ticket, due) :: after) (ripe : due ≤ now)
      (closed : document? = none) :
      Turn uri document? now desk { desk with jobs := before ++ after }
  | validates (ticket due : Nat) (document : Document) (before after : List (Job × Nat))
      (split : desk.jobs = before ++ (.validation ticket, due) :: after) (ripe : due ≤ now)
      (present : document? = some document) :
      Turn uri document? now desk
        (Desk.tell now uri (.about document) { desk with jobs := before ++ after })
  | clears (call due : Nat) (before after : List (Job × Nat))
      (split : desk.jobs = before ++ (.retirement call, due) :: after) (ripe : due ≤ now) :
      Turn uri document? now desk
        (Desk.tell now uri .clear (Desk.clear { desk with jobs := before ++ after }))

/-! ### Jobs among tasks -/

def jobsOf (uri : Uri) (tasks : List Task) : List (Job × Nat) :=
  tasks.filterMap fun task =>
    if task.uri = uri then task.stage.due?.map (Prod.mk task.job) else none

def Task.validates (uri : Uri) (task : Task) : Bool :=
  task.uri = uri && !task.job.isRetirement

@[simp]
theorem jobsOf_nil (uri : Uri) : jobsOf uri [] = [] :=
  rfl

@[simp]
theorem jobsOf_append (uri : Uri) (first second : List Task) :
    jobsOf uri (first ++ second) = jobsOf uri first ++ jobsOf uri second :=
  List.filterMap_append

@[simp]
theorem jobsOf_cons_self (uri : Uri) (job : Job) (due : Nat) (tasks : List Task) :
    jobsOf uri (⟨uri, job, .timed due⟩ :: tasks) = (job, due) :: jobsOf uri tasks := by
  simp [jobsOf, Stage.due?]

theorem jobsOf_cons_of_ne {uri : Uri} {task : Task} (other : task.uri ≠ uri) (tasks : List Task) :
    jobsOf uri (task :: tasks) = jobsOf uri tasks := by
  simp [jobsOf, other]

theorem mem_jobsOf {uri : Uri} {tasks : List Task} {job : Job} {due : Nat} :
    (job, due) ∈ jobsOf uri tasks ↔ ⟨uri, job, .timed due⟩ ∈ tasks := by
  induction tasks with
  | nil => simp
  | cons task tasks ih =>
      obtain ⟨owner, known, stage⟩ := task
      by_cases owned : owner = uri
      · subst owned
        cases stage <;> simp_all [jobsOf, Stage.due?]
      · rw [jobsOf_cons_of_ne owned, ih]
        simp [Ne.symm owned]

/-- Dropping the validations of a document leaves the retirements on its desk, and other desks
alone. -/
theorem jobsOf_filter (uri other : Uri) (tasks : List Task) :
    jobsOf uri (tasks.filter fun task => !task.validates other) =
      if other = uri then (jobsOf uri tasks).filter fun item => item.1.isRetirement
      else jobsOf uri tasks := by
  induction tasks with
  | nil => simp
  | cons task tasks ih =>
      obtain ⟨owner, job, stage⟩ := task
      by_cases owned : owner = uri
      · subst owned
        by_cases same : other = owner
        · subst same
          cases stage <;> cases retires : job.isRetirement <;>
            simp_all [jobsOf, Task.validates, Stage.due?]
        · have kept : Task.validates other ⟨owner, job, stage⟩ = false := by
            simp [Task.validates, Ne.symm same]
          rw [if_neg same] at ih ⊢
          rw [List.filter_cons_of_pos (by rw [kept]; rfl)]
          simp only [jobsOf, List.filterMap_cons] at ih ⊢
          rw [ih]
      · rw [jobsOf_cons_of_ne owned, ← ih, List.filter_cons]
        split
        · exact jobsOf_cons_of_ne owned _
        · rfl

namespace State

def desk (uri : Uri) (state : State) : Desk where
  jobs := jobsOf uri state.tasks
  log := state.published.filter fun item => item.uri = uri

/-- Whether notices need no permit, and no task has come to a guard. -/
structure Untied (state : State) : Prop where
  timers : Timers state
  ungated : state.gate = none
  timed : ∀ task ∈ state.tasks, ∃ due, task.stage = .timed due

variable {state next : State} {uri : Uri}

theorem log_append (uri : Uri) (published : List Publication) (time : Nat) (owner : Uri)
    (notice : Notice) :
    ((published ++ [Publication.mk time owner notice]).filter fun item => item.uri = uri) =
      (published.filter fun item => item.uri = uri) ++
        if owner = uri then [⟨time, uri, notice⟩] else [] := by
  rw [List.filter_append]
  by_cases same : owner = uri
  · simp [same]
  · simp [same]

/-! ### Aborting a validation -/

theorem Untied.listed (untied : Untied state) {task : Task} (member : task ∈ state.tasks)
    (valid : task.validates uri = true) :
    ∃ ticket, task.job = .validation ticket ∧ state.pending.lookup uri = some ticket := by
  obtain ⟨due, timed⟩ := untied.timed task member
  obtain ⟨owned, job⟩ : task.uri = uri ∧ task.job.isRetirement = false := by
    simpa [Task.validates] using valid
  -- a sleeping task is still to do something
  have live : task.job.isLive = true := by
    have fits := untied.timers.fits task member
    rw [timed] at fits
    exact fits
  cases same : task.job with
  | aborted ticket =>
      rw [same] at live
      cases live
  | removal ticket =>
      rw [same] at live
      cases live
  | retirement call =>
      rw [same] at job
      cases job
  | validation ticket =>
      refine ⟨ticket, rfl, ?_⟩
      rw [← owned]
      exact untied.timers.lookup_of_outside member same (by rw [timed]; rfl)

theorem Untied.tasks_cancel (untied : Untied state) (uri : Uri) :
    (state.cancel uri).tasks = state.tasks.filter fun task => !task.validates uri := by
  cases listed : state.pending.lookup uri with
  | none =>
      rw [cancel_of_unlisted listed]
      symm
      apply List.filter_eq_self.mpr
      intro task member
      cases valid : task.validates uri with
      | false => rfl
      | true =>
          obtain ⟨ticket, _, found⟩ := untied.listed member valid
          rw [listed] at found
          cases found
  | some ticket =>
      obtain ⟨tasks, cancelled, aborts⟩ := cancel_cases listed
      obtain ⟨known, present, _⟩ := untied.timers.exists_of_lookup listed
      cases aborts with
      | absent absent => exact absurd rfl (absent _ present)
      | queued before after owner guard split =>
          obtain ⟨due, timed⟩ := untied.timed _ (mem_split_self split)
          cases timed
      | called before after owner stage awake unqueued split =>
          obtain ⟨due, timed⟩ := untied.timed _ (mem_split_self split)
          exact absurd timed (awake due)
      | asleep before after owner due split =>
          cases untied.timers.unique (mem_split_self split) present rfl rfl
          -- another validation of the document would have the same ticket
          have others : (before ++ after).filter (fun task => !task.validates uri) =
              before ++ after := by
            apply List.filter_eq_self.mpr
            intro other member
            cases valid : other.validates uri with
            | false => rfl
            | true =>
                obtain ⟨number, job, found⟩ := untied.listed (mem_split split member) valid
                have same : ticket = number := Option.some.inj (listed.symm.trans found)
                refine absurd ?_ ((untied.timers.pull split).unused rfl)
                exact List.mem_map.mpr ⟨other, member, by rw [job, same]⟩
          rw [cancelled]
          change before ++ after = _
          rw [split, List.filter_append, List.filter_cons_of_neg (by
            simp [Task.validates, Job.isRetirement]), ← List.filter_append, others]

theorem Untied.cancel (untied : Untied state) (uri : Uri) : Untied (state.cancel uri) := by
  refine ⟨untied.timers.cancel uri, ?_, ?_⟩
  · rw [(sameSetting_cancel uri state).gate]
    exact untied.ungated
  · intro task member
    rw [untied.tasks_cancel] at member
    exact untied.timed task (List.mem_filter.mp member).1

theorem Untied.desk_cancel (untied : Untied state) (uri other : Uri) :
    (state.cancel other).desk uri =
      if other = uri then (state.desk uri).clear else state.desk uri := by
  have published : (state.cancel other).published = state.published := by
    rw [cancel_eq]
    rfl
  unfold desk
  rw [untied.tasks_cancel, published, jobsOf_filter]
  split
  · rfl
  · rfl

/-! ### Turns -/

theorem Admits.published_eq {task : Task} {base entry : State} {guard : Nat}
    (admits : Admits task base guard entry) : entry.published = base.published := by
  cases admits with
  | handed entering => rfl
  | asks due entry timed asked free =>
      rcases guardFor_cases asked with ⟨_, same⟩ | ⟨_, _, same⟩
      · rw [same]
      · rw [same]

theorem isHeld_of_timed {guard : Nat}
    (timed : ∀ task ∈ state.tasks, ∃ due, task.stage = .timed due) :
    state.isHeld guard = false := by
  apply List.any_eq_false.mpr
  intro task member
  obtain ⟨due, stage⟩ := timed task member
  simp [stage, Stage.guard?]

theorem handOver_of_timed (guard : Nat)
    (timed : ∀ task ∈ state.tasks, ∃ due, task.stage = .timed due) :
    state.handOver guard = state := by
  apply handOver_of_unqueued
  intro task member queued
  obtain ⟨due, stage⟩ := timed task member
  rw [stage] at queued
  cases queued

/-- What a job that is done in one turn leaves behind: it has published what it is for, and a
retirement has aborted the validation of its document. -/
def Serves (uri : Uri) (job : Job) (base next : State) : Prop :=
  (∃ ticket, job = .validation ticket ∧ next.tasks = base.tasks ∧
    ((base.store.find? uri = none ∧ next.published = base.published) ∨
      ∃ document, base.store.find? uri = some document ∧
        next.published = base.published ++ [⟨base.now, uri, .about document⟩])) ∨
  (∃ call, job = .retirement call ∧
    next.tasks = (base.tasks.filter fun task => !task.validates uri) ∧
    next.published = base.published ++ [⟨base.now, uri, .clear⟩])

/-- Where nobody is at a guard, a task does its job in one turn. -/
theorem Turn.serves {job : Job} {due : Nat} {base : State}
    (turn : Turn ⟨uri, job, .timed due⟩ base next)
    (untied : Untied (base.holding ⟨uri, job, .timed due⟩)) : Serves uri job base next := by
  have timed : ∀ task ∈ base.tasks, ∃ due, task.stage = .timed due :=
    fun task member => untied.timed task (List.mem_cons_of_mem _ member)
  cases turn with
  | queues limit guard entry stage asked held =>
      rw [isHeld_of_timed (by rw [guardFor_tasks asked]; exact timed)] at held
      cases held
  | lapses guard entry admits clears unlisted =>
      obtain ⟨entered, outside⟩ := untied.timers.admitted admits
      have ended := entered.lapsed outside clears unlisted
      have live : job.isLive = true := untied.timers.fits _ List.mem_cons_self
      rw [live] at ended
      cases ended
  | skips guard ticket entry admits same listed closed =>
      left
      have tasks := admits.tasks_eq
      refine ⟨ticket, same, ?_, Or.inl ⟨?_, ?_⟩⟩
      · rw [handOver_of_timed guard (by rw [← tasks] at timed; exact timed)]
        exact tasks
      · rw [← admits.sameSetting.store]
        exact closed
      · rw [handOver_eq]
        exact admits.published_eq
  | waits guard notice entry ready admits prepares gated spent =>
      rw [(admits.sameSetting.trans prepares.sameSetting).gate] at gated
      rw [show base.gate = none from untied.ungated] at gated
      cases gated
  | leaves guard notice permitted => cases permitted
  | drops ready => cases ready
  | passes guard left notice entry ready admits prepares paid =>
      have tasks := admits.tasks_eq
      have setting := admits.sameSetting
      rw [deliver_eq]
      cases prepares with
      | validation ticket document same listed present =>
          left
          refine ⟨ticket, same, ?_, Or.inr ⟨document, ?_, ?_⟩⟩
          · rw [handOver_of_timed guard (by rw [← tasks] at timed; exact timed)]
            exact tasks
          · rw [← setting.store]
            exact present
          · rw [handOver_eq]
            change entry.published ++ [⟨entry.now, uri, _⟩] = _
            rw [admits.published_eq, setting.now]
      | retirement call same =>
          right
          cases same
          have entered := (untied.timers.admitted admits).1
          have free : Untied entry := by
            refine ⟨entered.remove rfl, setting.gate.trans untied.ungated, ?_⟩
            rw [tasks]
            exact timed
          have cancelled := sameSetting_cancel uri entry
          refine ⟨call, rfl, ?_, ?_⟩
          · rw [handOver_of_timed]
            · change (entry.cancel uri).tasks = _
              rw [free.tasks_cancel, tasks]
            · exact (free.cancel uri).timed
          · rw [handOver_eq]
            change (entry.cancel uri).published ++ [⟨(entry.cancel uri).now, uri, _⟩] = _
            rw [cancelled.now, setting.now, cancel_eq]
            change entry.published ++ _ = _
            rw [admits.published_eq]

theorem Turn.of_untied {job : Job} {due : Nat} {base : State}
    (turn : Turn ⟨uri, job, .timed due⟩ base next)
    (untied : Untied (base.holding ⟨uri, job, .timed due⟩)) :
    Untied next ∧ Serves uri job base next := by
  have timed : ∀ task ∈ base.tasks, ∃ due, task.stage = .timed due :=
    fun task member => untied.timed task (List.mem_cons_of_mem _ member)
  have served := turn.serves untied
  refine ⟨⟨untied.timers.turn turn, turn.sameSetting.gate.trans untied.ungated, ?_⟩, served⟩
  intro task member
  rcases served with ⟨_, _, tasks, _⟩ | ⟨_, _, tasks, _⟩
  · rw [tasks] at member
    exact timed task member
  · rw [tasks] at member
    exact timed task (List.mem_filter.mp member).1

theorem Untied.pull {before after : List Task} {task : Task} (untied : Untied state)
    (split : state.tasks = before ++ task :: after) :
    Untied (State.holding task { state with tasks := before ++ after }) := by
  refine ⟨untied.timers.pull split, untied.ungated, ?_⟩
  intro other member
  rcases List.mem_cons.mp member with here | there
  · rw [here]
    exact untied.timed task (mem_split_self split)
  · exact untied.timed other (mem_split split there)

/-- A turn does one job of one desk. -/
theorem Untied.turn (untied : Untied state) (stepped : state.step? = some next) (uri : Uri) :
    Untied next ∧
      Desk.Turn uri (state.store.find? uri) state.now (state.desk uri) (next.desk uri) := by
  obtain ⟨before, ⟨owner, job, stage⟩, after, split, runnable, _earlier, turn⟩ :=
    step?_turn stepped
  obtain ⟨due, timed⟩ := untied.timed _ (mem_split_self split)
  change stage = _ at timed
  subst timed
  have ripe : due ≤ state.now := of_decide_eq_true runnable
  obtain ⟨free, done⟩ := turn.of_untied (untied.pull split)
  refine ⟨free, ?_⟩
  have whole : state.desk uri =
      ⟨jobsOf uri (before ++ ⟨owner, job, .timed due⟩ :: after),
        state.published.filter fun item => item.uri = uri⟩ := by
    unfold desk
    rw [split]
  by_cases owned : owner = uri
  · subst owned
    have listed : (state.desk owner).jobs =
        jobsOf owner before ++ (job, due) :: jobsOf owner after := by
      rw [whole, jobsOf_append, jobsOf_cons_self]
    rcases done with ⟨ticket, rfl, tasks, closed | ⟨document, present, published⟩⟩ |
        ⟨call, rfl, tasks, published⟩
    · have same : next.desk owner =
          { state.desk owner with jobs := jobsOf owner before ++ jobsOf owner after } := by
        unfold desk
        rw [tasks, closed.2, jobsOf_append]
      rw [same]
      exact .skips ticket due _ _ listed ripe closed.1
    · have same : next.desk owner = Desk.tell state.now owner (.about document)
          { state.desk owner with jobs := jobsOf owner before ++ jobsOf owner after } := by
        unfold desk Desk.tell
        rw [tasks, published, jobsOf_append, log_append, if_pos rfl]
      rw [same]
      exact .validates ticket due document _ _ listed ripe present
    · have same : next.desk owner = Desk.tell state.now owner .clear (Desk.clear
          { state.desk owner with jobs := jobsOf owner before ++ jobsOf owner after }) := by
        unfold desk Desk.tell Desk.clear
        rw [tasks, published, jobsOf_filter, if_pos rfl, jobsOf_append, log_append, if_pos rfl]
      rw [same]
      exact .clears call due _ _ listed ripe
  · have same : next.desk uri = state.desk uri := by
      rw [whole]
      unfold desk
      rw [jobsOf_append, jobsOf_cons_of_ne owned, ← jobsOf_append]
      rcases done with ⟨ticket, _, tasks, closed | ⟨document, _, published⟩⟩ |
          ⟨call, _, tasks, published⟩
      · rw [tasks, closed.2]
      · rw [tasks, published, log_append, if_neg owned, List.append_nil]
      · rw [tasks, published, log_append, if_neg owned, List.append_nil, jobsOf_filter,
          if_neg owned]
    rw [same]
    exact .still

/-! ### Calls -/

theorem desk_push (owner : Uri) (job : Job) (due : Nat) (state : State) (uri : Uri) :
    (state.push ⟨owner, job, .timed due⟩).desk uri =
      if owner = uri then
        { state.desk uri with jobs := (state.desk uri).jobs ++ [(job, due)] }
      else state.desk uri := by
  unfold desk push
  rw [jobsOf_append]
  by_cases owned : owner = uri
  · subst owned
    rw [if_pos rfl, jobsOf_cons_self]
    rfl
  · rw [if_neg owned, jobsOf_cons_of_ne owned, jobsOf_nil, List.append_nil]

theorem Untied.schedule (untied : Untied state) (owner : Uri) : Untied (state.schedule owner) := by
  refine ⟨untied.timers.schedule owner, ?_, ?_⟩
  · rw [schedule_eq]
    exact (sameSetting_cancel owner state).gate.trans untied.ungated
  · intro task member
    rw [schedule_eq] at member
    rcases List.mem_append.mp member with old | last
    · exact (untied.cancel owner).timed task old
    · rw [List.mem_singleton.mp last]
      exact ⟨_, rfl⟩

/-- Scheduling aborts the validation on the desk and puts a new one there. -/
theorem Untied.desk_schedule (untied : Untied state) (owner uri : Uri) :
    (state.schedule owner).desk uri =
      if owner = uri then
        { (state.desk uri).clear with
          jobs := (state.desk uri).clear.jobs ++ [(.validation state.nextTicket, state.due)] }
      else state.desk uri := by
  have cancelled := untied.desk_cancel uri owner
  rw [schedule_eq, desk_push]
  by_cases owned : owner = uri
  · rw [if_pos owned] at cancelled ⊢
    rw [if_pos owned, ← cancelled]
    rfl
  · rw [if_neg owned] at cancelled ⊢
    rw [if_neg owned, ← cancelled]
    rfl

theorem Untied.retire (untied : Untied state) (owner : Uri) : Untied (state.retire owner) := by
  refine ⟨untied.timers.retire owner, untied.ungated, ?_⟩
  intro task member
  rcases List.mem_append.mp member with old | last
  · exact untied.timed task old
  · rw [List.mem_singleton.mp last]
    exact ⟨_, rfl⟩

theorem desk_retire (owner : Uri) (state : State) (uri : Uri) :
    (state.retire owner).desk uri =
      if owner = uri then
        { state.desk uri with
          jobs := (state.desk uri).jobs ++ [(.retirement state.nextCall, state.now)] }
      else state.desk uri :=
  desk_push owner (.retirement state.nextCall) state.now _ uri

/-- A document that is cleared at once has an empty desk, but for other retirements. -/
theorem Untied.retireNow (untied : Untied state) (owner uri : Uri) :
    Untied (state.retireNow owner) ∧
      (state.retireNow owner).desk uri =
        if owner = uri then (state.desk uri).clear.tell state.now uri .clear
        else state.desk uri := by
  have started : Untied
      (State.holding (state.retirement owner) { state with nextCall := state.nextCall + 1 }) := by
    have pushed := untied.timers.retire owner
    refine ⟨pushed.permuted (List.perm_append_singleton _ _), untied.ungated, ?_⟩
    intro task member
    rcases List.mem_cons.mp member with here | there
    · rw [here]
      exact ⟨_, rfl⟩
    · exact untied.timed task there
  have runnable : (state.retirement owner).stage.isRunnable state.now = true :=
    decide_eq_true (Nat.le_refl state.now)
  obtain ⟨free, done⟩ := (resume_turn _ runnable).of_untied started
  refine ⟨free, ?_⟩
  rcases done with ⟨ticket, job, _⟩ | ⟨call, _, tasks, published⟩
  · cases job
  · change (State.resume (state.retirement owner) _).desk uri = _
    unfold desk Desk.tell Desk.clear
    rw [tasks, published, log_append, jobsOf_filter]
    by_cases owned : owner = uri
    · simp only [if_pos owned]
    · simp only [if_neg owned, List.append_nil]

private theorem pending_foldl_cancel (entries : List (Uri × Nat)) (state : State) :
    (entries.foldl (fun state entry => state.cancel entry.1) state).pending =
      state.pending.filter fun entry => entry.1 ∉ entries.map Prod.fst := by
  induction entries generalizing state with
  | nil => simp
  | cons entry entries ih =>
      have first : (state.cancel entry.1).pending =
          state.pending.filter fun other => other.1 ≠ entry.1 := by
        rw [cancel_eq]
        rfl
      rw [List.foldl_cons, ih, first, List.filter_filter]
      apply List.filter_congr
      intro other _
      rw [Bool.eq_iff_iff]
      simp [and_comm]

theorem pending_shutdown (state : State) : state.shutdown.pending = [] := by
  unfold shutdown
  rw [pending_foldl_cancel]
  apply List.filter_eq_nil_iff.mpr
  intro entry member
  simp only [decide_eq_true_eq, not_not]
  exact List.mem_map.mpr ⟨entry, member, rfl⟩

/-- Where no timer counts, only retirements are on a desk. -/
theorem Untied.clear_of_idle (untied : Untied state) (idle : state.isPending uri = false) :
    (state.desk uri).clear = state.desk uri := by
  apply Desk.ext
  · apply List.filter_eq_self.mpr
    rintro ⟨job, due⟩ member
    cases job with
    | retirement call => rfl
    | validation ticket =>
        have found := untied.timers.lookup_of_outside (mem_jobsOf.mp member) rfl rfl
        unfold isPending at idle
        rw [show state.pending.lookup uri = some ticket from found] at idle
        cases idle
    | aborted ticket => cases untied.timers.fits _ (mem_jobsOf.mp member)
    | removal ticket => cases untied.timers.fits _ (mem_jobsOf.mp member)
  · rfl

theorem Untied.shutdown (untied : Untied state) (uri : Uri) :
    Untied state.shutdown ∧ state.shutdown.desk uri = (state.desk uri).clear := by
  have both : Untied state.shutdown ∧
      (state.shutdown.desk uri).clear = (state.desk uri).clear := by
    refine @shutdown_invariant
      (fun later => Untied later ∧ (later.desk uri).clear = (state.desk uri).clear) ?_ state
      ⟨untied, rfl⟩
    rintro later other ⟨free, same⟩
    refine ⟨free.cancel other, ?_⟩
    rw [free.desk_cancel]
    split
    · rw [← same]
      unfold Desk.clear
      simp
    · exact same
  refine ⟨both.1, ?_⟩
  rw [← both.2]
  symm
  apply both.1.clear_of_idle
  unfold isPending
  rw [pending_shutdown]
  rfl

/-! ### Settling -/

theorem Untied.setting (untied : Untied state) (store : Store) (delay : UInt64) (now : Nat) :
    Untied { state with store := store, delay := delay, now := now } :=
  ⟨⟨untied.timers.jobs, untied.timers.fits, untied.timers.issued, untied.timers.listed,
    untied.timers.keys⟩, untied.ungated, untied.timed⟩

theorem sameSetting_settle (state : State) : SameSetting state state.settle :=
  @settle_invariant state (SameSetting state)
    (fun stepped kept => kept.trans (sameSetting_step? stepped)) ⟨rfl, rfl, rfl, rfl, rfl, rfl⟩

/-- What every turn leaves on a desk is there once all is settled, and nothing is due then. -/
theorem Untied.settle_desk (untied : Untied state) {holds : Desk → Prop}
    (turn : ∀ {desk later : Desk},
      Desk.Turn uri (state.store.find? uri) state.now desk later → holds desk → holds later)
    (start : holds (state.desk uri)) :
    Untied state.settle ∧ holds (state.settle.desk uri) ∧
      ∀ item ∈ (state.settle.desk uri).jobs, state.now < item.2 := by
  have kept : SameSetting state state.settle ∧ Untied state.settle ∧
      holds (state.settle.desk uri) := by
    apply @settle_invariant state fun later =>
      SameSetting state later ∧ Untied later ∧ holds (later.desk uri)
    · rintro current next stepped ⟨same, free, held⟩
      obtain ⟨freeNext, done⟩ := free.turn stepped uri
      rw [same.store, same.now] at done
      exact ⟨same.trans (sameSetting_step? stepped), freeNext, turn done held⟩
    · exact ⟨⟨rfl, rfl, rfl, rfl, rfl, rfl⟩, untied, start⟩
  refine ⟨kept.2.1, kept.2.2, ?_⟩
  rintro ⟨job, due⟩ member
  have idle := step?_eq_none_iff.mp (settle_settles state) _ (mem_jobsOf.mp member)
  have late := of_decide_eq_false idle
  rw [kept.1.now] at late
  exact Nat.lt_of_not_le late

/-- As long as nothing on a desk is due, settling does not touch it. -/
theorem Untied.settle_of_later (untied : Untied state)
    (later : ∀ item ∈ (state.desk uri).jobs, state.now < item.2) :
    Untied state.settle ∧ state.settle.desk uri = state.desk uri := by
  have unripe {job : Job} {due : Nat} {before after : List (Job × Nat)}
      (split : (state.desk uri).jobs = before ++ (job, due) :: after) : ¬due ≤ state.now := by
    have late := later (job, due) (by rw [split]; simp)
    exact Nat.not_le_of_lt late
  obtain ⟨free, same, _⟩ := @Untied.settle_desk state uri untied
    (fun desk => desk = state.desk uri) (by
      rintro desk next turn rfl
      cases turn with
      | still => rfl
      | skips ticket due before after split ripe closed => exact absurd ripe (unripe split)
      | validates ticket due document before after split ripe present =>
          exact absurd ripe (unripe split)
      | clears call due before after split ripe => exact absurd ripe (unripe split)) rfl
  exact ⟨free, same⟩

end State

end TemplateServer.Validation
