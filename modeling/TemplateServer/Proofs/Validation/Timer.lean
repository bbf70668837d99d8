import Mathlib.Data.List.Nodup
import TemplateServer.Proofs.Validation.Run

/-!
Timers. The entries that count are at any time the entries of the validations that are still
outside, each of these has one, and no document has two. Main statement: this holds in every state
there can be, so a validation that gets past the guard always finds its own ticket.
-/

namespace TemplateServer.Validation

/-- The entry that counts as long as this task is outside. -/
def Task.timer? (task : Task) : Option (Uri × Nat) :=
  match task.job with
  | .validation ticket => if task.stage.isInside then none else some (task.uri, ticket)
  | _ => none

def Job.ticket? : Job → Option Nat
  | .validation ticket => some ticket
  | _ => none

/-- Whether a task with such a job comes to a stage: an aborted validation neither sleeps nor
publishes, and tasks wait for nothing but their turn only to drop one. -/
def Job.allows (job : Job) : Stage → Bool
  | .timed _ => job.isLive
  | .queued _ => true
  | .entering _ => true
  | .waiting _ _ => job.isLive
  | .permitted _ _ => job.isLive
  | .ready => !job.isLive

theorem Job.ticket?_eq_some_iff {job : Job} {ticket : Nat} :
    job.ticket? = some ticket ↔ job = .validation ticket := by
  cases job with
  | validation other => simp [ticket?]
  | retirement call => simp [ticket?]
  | aborted other => simp [ticket?]
  | removal other => simp [ticket?]

theorem Job.isLive_of_isRetirement {job : Job} (retires : job.isRetirement = true) :
    job.isLive = true := by
  cases job with
  | retirement call => rfl
  | validation ticket => cases retires
  | aborted ticket => cases retires
  | removal ticket => cases retires

theorem live_of_inside {job : Job} {stage : Stage} (fits : job.allows stage = true)
    (inside : stage.isInside = true) : job.isLive = true := by
  cases stage with
  | waiting guard notice => exact fits
  | permitted guard notice => exact fits
  | _ => cases inside

theorem outside_of_ended {job : Job} {stage : Stage} (ended : job.isLive = false)
    (fits : job.allows stage = true) : stage.isInside = false := by
  cases inside : stage.isInside with
  | false => rfl
  | true =>
      rw [live_of_inside fits inside] at ended
      cases ended

theorem Task.timer?_eq_some_iff {task : Task} {uri : Uri} {ticket : Nat} :
    task.timer? = some (uri, ticket) ↔
      task.uri = uri ∧ task.job = .validation ticket ∧ task.stage.isInside = false := by
  unfold timer?
  cases task.job with
  | validation other =>
      cases task.stage.isInside with
      | true => simp
      | false => simp
  | retirement call => simp
  | aborted other => simp
  | removal other => simp

theorem Task.timer?_of_inside {task : Task} (inside : task.stage.isInside = true) :
    task.timer? = none := by
  unfold timer?
  rw [inside]
  cases task.job with
  | validation ticket => rfl
  | _ => rfl

theorem Task.timer?_of_retirement {task : Task} {call : Nat} (job : task.job = .retirement call) :
    task.timer? = none := by
  unfold timer?
  rw [job]

theorem Task.timer?_of_ended {task : Task} (ended : task.job.isLive = false) :
    task.timer? = none := by
  unfold timer?
  cases job : task.job with
  | validation ticket =>
      rw [job] at ended
      cases ended
  | _ => rfl

def Command.isSchedule : Command → Bool
  | .schedule _ => true
  | _ => false

namespace State

def HasIssued (state : State) : Job → Prop
  | .validation ticket => ticket < state.nextTicket
  | .retirement call => call < state.nextCall
  | .aborted ticket => ticket < state.nextTicket
  | .removal ticket => ticket < state.nextTicket

/-- The entries that count are those of the validations that are outside, one for each document;
and no two tasks that are to do something have the same number. -/
structure Timers (state : State) : Prop where
  jobs : ((state.tasks.filter fun task => task.job.isLive).map Task.job).Nodup
  fits : ∀ task ∈ state.tasks, task.job.allows task.stage = true
  issued : ∀ task ∈ state.tasks, state.HasIssued task.job
  listed : state.pending.Perm (state.tasks.filterMap Task.timer?)
  keys : (state.pending.map Prod.fst).Nodup

theorem lookup_eq_some_of_mem {entries : List (Uri × Nat)} {uri : Uri} {number : Nat}
    (keys : (entries.map Prod.fst).Nodup) (member : (uri, number) ∈ entries) :
    entries.lookup uri = some number := by
  induction entries with
  | nil => cases member
  | cons head tail ih =>
      obtain ⟨key, value⟩ := head
      obtain ⟨absent, distinct⟩ := List.nodup_cons.mp keys
      rcases List.mem_cons.mp member with same | later
      · cases same
        exact List.lookup_cons_self
      · have different : (uri == key) = false := by
          refine beq_false_of_ne ?_
          intro same
          subst same
          exact absent (List.mem_map.mpr ⟨(uri, number), later, rfl⟩)
        rw [List.lookup_cons, different]
        exact ih distinct later

theorem mem_of_lookup_eq_some {entries : List (Uri × Nat)} {uri : Uri} {number : Nat}
    (found : entries.lookup uri = some number) : (uri, number) ∈ entries := by
  obtain ⟨before, after, split, _⟩ := List.lookup_eq_some_iff.mp found
  rw [split]
  exact List.mem_append_right before List.mem_cons_self

/-- Forgetting the one entry of a document leaves the others. -/
theorem filter_perm_of_cons {entries rest : List (Uri × Nat)} {uri : Uri} {number : Nat}
    (same : entries.Perm ((uri, number) :: rest)) (keys : (entries.map Prod.fst).Nodup) :
    (entries.filter fun entry => entry.1 ≠ uri).Perm rest := by
  have others : ∀ entry ∈ rest, entry.1 ≠ uri := by
    intro entry member equal
    have distinct := (same.map Prod.fst).nodup_iff.mp keys
    exact (List.nodup_cons.mp distinct).1 (List.mem_map.mpr ⟨entry, member, equal⟩)
  have kept : (rest.filter fun entry => entry.1 ≠ uri) = rest :=
    List.filter_eq_self.mpr fun entry member => decide_eq_true (others entry member)
  have filtered := same.filter fun entry => decide (entry.1 ≠ uri)
  rw [List.filter_cons_of_neg (by simp), kept] at filtered
  exact filtered

namespace Timers

variable {state : State} {task : Task}

theorem permuted {tasks : List Task} (timers : Timers state) (same : state.tasks.Perm tasks) :
    Timers { state with tasks := tasks } where
  jobs := ((same.filter _).map Task.job).nodup_iff.mp timers.jobs
  fits := fun task member => timers.fits task (same.mem_iff.mpr member)
  issued := fun task member => timers.issued task (same.mem_iff.mpr member)
  listed := timers.listed.trans (same.filterMap Task.timer?)
  keys := timers.keys

theorem pull {before after : List Task} (timers : Timers state)
    (split : state.tasks = before ++ task :: after) :
    Timers (State.holding task { state with tasks := before ++ after }) := by
  refine timers.permuted ?_
  rw [split]
  exact List.perm_middle

theorem push (timers : Timers (state.holding task)) : Timers (state.push task) :=
  timers.permuted (List.perm_append_singleton task state.tasks).symm

theorem restage (timers : Timers (state.holding task)) (stage : Stage)
    (same : stage.isInside = task.stage.isInside) (fits : task.job.allows stage = true) :
    Timers (state.holding { task with stage := stage }) := by
  have timer : Task.timer? { task with stage := stage } = task.timer? := by
    unfold Task.timer?
    rw [same]
  refine ⟨?_, ?_, ?_, ?_, timers.keys⟩
  · have jobs := timers.jobs
    simp only [holding, List.filter_cons, apply_ite (List.map Task.job), List.map_cons] at jobs ⊢
    exact jobs
  · intro other member
    rcases List.mem_cons.mp member with here | there
    · rw [here]
      exact fits
    · exact timers.fits other (List.mem_cons_of_mem task there)
  · intro other member
    rcases List.mem_cons.mp member with here | there
    · rw [here]
      exact timers.issued task List.mem_cons_self
    · exact timers.issued other (List.mem_cons_of_mem task there)
  · have listed := timers.listed
    simp only [holding, List.filterMap_cons] at listed ⊢
    rw [timer]
    exact listed

/-- A task without an entry may begin. -/
theorem add (timers : Timers state)
    (unused : task.job.isLive = true → task.job ∉ state.tasks.map Task.job)
    (fits : task.job.allows task.stage = true) (issued : state.HasIssued task.job)
    (untimed : task.timer? = none) : Timers (state.holding task) where
  jobs := by
    simp only [holding, List.filter_cons]
    split
    · rename_i live
      refine List.nodup_cons.mpr ⟨?_, timers.jobs⟩
      intro member
      exact unused live ((List.filter_sublist.map Task.job).subset member)
    · exact timers.jobs
  fits := List.forall_mem_cons.mpr ⟨fits, timers.fits⟩
  issued := List.forall_mem_cons.mpr ⟨issued, timers.issued⟩
  listed := by
    simp only [holding, List.filterMap_cons, untimed]
    exact timers.listed
  keys := timers.keys

/-- What is left of aborted validations may stand anywhere. -/
theorem addEnded {extra : List Task} (timers : Timers state)
    (ended : ∀ task ∈ extra, task.job.isLive = false ∧ task.job.allows task.stage = true ∧
      state.HasIssued task.job) :
    Timers { state with tasks := extra ++ state.tasks } := by
  induction extra with
  | nil => exact timers
  | cons task extra ih =>
      obtain ⟨⟨dead, fits, issued⟩, others⟩ := List.forall_mem_cons.mp ended
      refine (ih others).add ?_ fits issued (Task.timer?_of_ended dead)
      intro live
      rw [live] at dead
      cases dead

private theorem jobs_tail (timers : Timers (state.holding task)) :
    ((state.tasks.filter fun task => task.job.isLive).map Task.job).Nodup :=
  (((List.sublist_cons_self task state.tasks).filter _).map Task.job).nodup timers.jobs

/-- The job of a task in hand is no other task's, unless there is nothing to do about it. -/
theorem unused (timers : Timers (state.holding task)) (live : task.job.isLive = true) :
    task.job ∉ state.tasks.map Task.job := by
  have jobs := timers.jobs
  simp only [holding, List.filter_cons, live, if_true, List.map_cons] at jobs
  intro member
  obtain ⟨other, present, same⟩ := List.mem_map.mp member
  refine (List.nodup_cons.mp jobs).1 (List.mem_map.mpr ⟨other, ?_, same⟩)
  exact List.mem_filter.mpr ⟨present, by rw [same]; exact live⟩

/-- A task without an entry may end. -/
theorem remove (timers : Timers (state.holding task)) (untimed : task.timer? = none) :
    Timers state where
  jobs := timers.jobs_tail
  fits := (List.forall_mem_cons.mp timers.fits).2
  issued := (List.forall_mem_cons.mp timers.issued).2
  listed := by
    have listed := timers.listed
    simp only [holding, List.filterMap_cons, untimed] at listed
    exact listed
  keys := timers.keys

/-- The entry of a validation goes when the validation ends. -/
theorem expire {ticket : Nat} (timers : Timers (state.holding task))
    (timed : task.timer? = some (task.uri, ticket)) : Timers (state.forgetTimer task.uri) where
  jobs := timers.jobs_tail
  fits := (List.forall_mem_cons.mp timers.fits).2
  issued := (List.forall_mem_cons.mp timers.issued).2
  listed := by
    have listed := timers.listed
    simp only [holding, List.filterMap_cons, timed] at listed
    exact filter_perm_of_cons listed timers.keys
  keys := (List.filter_sublist.map Prod.fst).nodup timers.keys

theorem unique {other : Task} (timers : Timers state) (here : task ∈ state.tasks)
    (there : other ∈ state.tasks) (live : task.job.isLive = true)
    (same : task.job = other.job) : task = other :=
  List.inj_on_of_nodup_map timers.jobs (List.mem_filter.mpr ⟨here, live⟩)
    (List.mem_filter.mpr ⟨there, by rw [← same]; exact live⟩) same

theorem lookup_of_outside {ticket : Nat} (timers : Timers state) (member : task ∈ state.tasks)
    (job : task.job = .validation ticket) (outside : task.stage.isInside = false) :
    state.pending.lookup task.uri = some ticket := by
  have timed : task.timer? = some (task.uri, ticket) :=
    Task.timer?_eq_some_iff.mpr ⟨rfl, job, outside⟩
  have present : (task.uri, ticket) ∈ state.pending :=
    timers.listed.mem_iff.mpr (List.mem_filterMap.mpr ⟨task, member, timed⟩)
  exact lookup_eq_some_of_mem timers.keys present

theorem exists_of_lookup {uri : Uri} {ticket : Nat} (timers : Timers state)
    (found : state.pending.lookup uri = some ticket) :
    ∃ stage, ⟨uri, .validation ticket, stage⟩ ∈ state.tasks ∧ stage.isInside = false := by
  have present := timers.listed.mem_iff.mp (mem_of_lookup_eq_some found)
  obtain ⟨task, member, timed⟩ := List.mem_filterMap.mp present
  obtain ⟨owner, job, outside⟩ := Task.timer?_eq_some_iff.mp timed
  obtain ⟨_, _, stage⟩ := task
  cases owner
  cases job
  exact ⟨stage, member, outside⟩

theorem handOver (timers : Timers state) (guard : Nat) : Timers (state.handOver guard) := by
  rcases handOver_cases guard state with ⟨same, _⟩ | ⟨before, uri, job, after, split, next⟩
  · rw [same]
    exact timers
  · rw [next]
    exact ((timers.pull split).restage (.entering guard) rfl rfl).push

theorem vacate (timers : Timers state) (stage : Stage) : Timers (state.vacate stage) := by
  unfold State.vacate
  cases stage.guard? with
  | none => exact timers
  | some guard => exact timers.handOver guard

/-- Of a document that has an entry, it is the outside validation that is aborted. -/
theorem cancel_split {uri : Uri} {ticket : Nat} (timers : Timers state)
    (listed : state.pending.lookup uri = some ticket) :
    ∃ before stage after left removers,
      state.tasks = before ++ ⟨uri, .validation ticket, stage⟩ :: after ∧
      stage.isInside = false ∧
      state.cancel uri =
        { state.forgetTimer uri with tasks := before ++ left ++ after ++ removers } ∧
      ∀ task ∈ left ++ removers,
        (task = ⟨uri, .aborted ticket, stage⟩ ∧ ∀ due, stage ≠ .timed due) ∨
          task = ⟨uri, .removal ticket, .ready⟩ := by
  obtain ⟨known, member, outside⟩ := timers.exists_of_lookup listed
  obtain ⟨tasks, next, aborts⟩ := cancel_cases listed
  rcases aborts.parts with
    ⟨absent, _⟩ | ⟨before, owner, stage, after, left, removers, split, rest, ended⟩
  · exact absurd rfl (absent _ member)
  · have same := timers.unique (mem_split_self split) member rfl rfl
    cases same
    rw [rest] at next
    exact ⟨before, known, after, left, removers, split, outside, next, ended⟩

theorem ended_of_split {uri : Uri} {ticket : Nat} {stage : Stage} (timers : Timers state)
    (member : ⟨uri, .validation ticket, stage⟩ ∈ state.tasks) (outside : stage.isInside = false)
    {task : Task}
    (ended : (task = ⟨uri, .aborted ticket, stage⟩ ∧ ∀ due, stage ≠ .timed due) ∨
      task = ⟨uri, .removal ticket, .ready⟩) :
    task.job.isLive = false ∧ task.job.allows task.stage = true ∧ state.HasIssued task.job := by
  have issued : ticket < state.nextTicket := timers.issued _ member
  rcases ended with ⟨marked, awake⟩ | removes
  · have fits := timers.fits _ member
    rw [marked]
    refine ⟨rfl, ?_, issued⟩
    cases stage with
    | queued guard => rfl
    | entering guard => rfl
    | timed due => exact absurd rfl (awake due)
    | waiting guard notice => cases outside
    | permitted guard notice => cases outside
    | ready => cases fits
  · rw [removes]
    exact ⟨rfl, rfl, issued⟩

theorem cancel (timers : Timers state) (uri : Uri) : Timers (state.cancel uri) := by
  cases listed : state.pending.lookup uri with
  | none =>
      rw [cancel_of_unlisted listed]
      exact timers
  | some ticket =>
      obtain ⟨before, stage, after, left, removers, split, outside, next, ended⟩ :=
        timers.cancel_split listed
      have timed : Task.timer? ⟨uri, .validation ticket, stage⟩ = some (uri, ticket) :=
        Task.timer?_eq_some_iff.mpr ⟨rfl, rfl, outside⟩
      have taken : Timers (State.forgetTimer uri { state with tasks := before ++ after }) :=
        (timers.pull split).expire timed
      have added := taken.addEnded fun task member =>
        timers.ended_of_split (mem_split_self split) outside (ended task member)
      rw [next]
      refine added.permuted (List.perm_iff_count.mpr ?_)
      intro task
      simp only [forgetTimer, List.count_append]
      omega

/-- A task that is admitted and has no timer that counts is none that is still to do something. -/
theorem lapsed (timers : Timers (state.holding task)) (outside : task.stage.isInside = false)
    (clears : task.job.isRetirement = false)
    (unlisted : ∀ ticket, task.job = .validation ticket →
      state.pending.lookup task.uri ≠ some ticket) : task.job.isLive = false := by
  cases job : task.job with
  | validation ticket =>
      exact absurd (timers.lookup_of_outside List.mem_cons_self job outside) (unlisted ticket job)
  | retirement call =>
      rw [job] at clears
      cases clears
  | aborted ticket => rfl
  | removal ticket => rfl

/-- Only what is there to drop something waits for nothing but its turn. -/
theorem ended_of_ready (timers : Timers (state.holding task)) (ready : task.stage = .ready) :
    task.job.isLive = false := by
  have fits := timers.fits task List.mem_cons_self
  rw [ready] at fits
  simpa [Job.allows] using fits

theorem drop (timers : Timers state) (remover : Task) : Timers (state.drop remover) := by
  rcases drop_cases remover state with ⟨same, _⟩ | ⟨before, ticket, stage, after, split, next⟩
  · rw [same]
    exact timers
  · rw [next]
    exact ((timers.pull split).remove (Task.timer?_of_ended rfl)).vacate stage

theorem deliver (timers : Timers state) (guard : Nat) (notice : Notice) :
    Timers (state.deliver task guard notice) := by
  rw [deliver_eq]
  refine Timers.handOver ?_ guard
  exact ⟨timers.jobs, timers.fits, timers.issued, timers.listed, timers.keys⟩

/-! ### Turns -/

theorem asked {entry : State} {guard : Nat} (timers : Timers (state.holding task))
    (found : state.guardFor task.uri = (guard, entry)) : Timers (entry.holding task) := by
  rcases guardFor_cases found with ⟨_, same⟩ | ⟨_, _, same⟩
  · rw [same]
    exact timers
  · rw [same]
    exact ⟨timers.jobs, timers.fits, timers.issued, timers.listed, timers.keys⟩

theorem admitted {entry : State} {guard : Nat} (timers : Timers (state.holding task))
    (admits : Admits task state guard entry) :
    Timers (entry.holding task) ∧ task.stage.isInside = false := by
  cases admits with
  | handed entering => exact ⟨timers, by rw [entering]; rfl⟩
  | asks due entry timed found free => exact ⟨timers.asked found, by rw [timed]; rfl⟩

/-- A task that is ready to publish has no entry any more. -/
theorem prepared {ready : State} {notice : Notice} {stage : Stage}
    (timers : Timers (state.holding task)) (outside : task.stage.isInside = false)
    (prepares : Prepares task state ready notice) (inside : stage.isInside = true) :
    Timers (ready.holding { task with stage := stage }) := by
  have issued := timers.issued task List.mem_cons_self
  have allowed (live : task.job.isLive = true) : task.job.allows stage = true := by
    cases stage with
    | waiting guard notice => exact live
    | permitted guard notice => exact live
    | timed due => cases inside
    | queued guard => cases inside
    | entering guard => cases inside
    | ready => cases inside
  cases prepares with
  | validation ticket document job listed present =>
      have live : task.job.isLive = true := by
        rw [job]
        rfl
      have timed : task.timer? = some (task.uri, ticket) :=
        Task.timer?_eq_some_iff.mpr ⟨rfl, job, outside⟩
      exact (timers.expire timed).add timers.unused (allowed live) issued
        (Task.timer?_of_inside inside)
  | retirement call job =>
      have retires : task.job.isRetirement = true := by
        rw [job]
        rfl
      have cancelled := timers.cancel task.uri
      rw [cancel_holding state retires] at cancelled
      exact (cancelled.remove (Task.timer?_of_retirement job)).add cancelled.unused
        (allowed (Job.isLive_of_isRetirement retires))
        (cancelled.issued task List.mem_cons_self) (Task.timer?_of_retirement job)

theorem turn {next : State} (timers : Timers (state.holding task))
    (turn : Turn task state next) : Timers next := by
  cases turn with
  | queues due guard entry timed found held =>
      exact ((timers.asked found).restage (.queued guard) (by rw [timed]; rfl) rfl).push
  | lapses guard entry admits clears unlisted =>
      obtain ⟨entered, outside⟩ := timers.admitted admits
      have ended := entered.lapsed outside clears unlisted
      exact (entered.remove (Task.timer?_of_ended ended)).handOver guard
  | skips guard ticket entry admits job listed closed =>
      obtain ⟨entered, outside⟩ := timers.admitted admits
      have timed : task.timer? = some (task.uri, ticket) :=
        Task.timer?_eq_some_iff.mpr ⟨rfl, job, outside⟩
      exact (entered.expire timed).handOver guard
  | waits guard notice entry ready admits prepares gated spent =>
      obtain ⟨entered, outside⟩ := timers.admitted admits
      exact (entered.prepared outside prepares rfl).push
  | passes guard left notice entry ready admits prepares paid =>
      obtain ⟨entered, outside⟩ := timers.admitted admits
      have prepared : Timers (ready.holding { task with stage := .permitted guard notice }) :=
        entered.prepared outside prepares rfl
      have removed : Timers ready := prepared.remove (Task.timer?_of_inside rfl)
      refine Timers.deliver ?_ guard notice
      exact ⟨removed.jobs, removed.fits, removed.issued, removed.listed, removed.keys⟩
  | leaves guard notice permitted =>
      have untimed : task.timer? = none := Task.timer?_of_inside (by rw [permitted]; rfl)
      exact (timers.remove untimed).deliver guard notice
  | drops ready =>
      exact (timers.remove (Task.timer?_of_ended (timers.ended_of_ready ready))).drop task

/-! ### Calls -/

theorem job_fresh {job : Job} (timers : Timers state) (unissued : ¬state.HasIssued job) :
    job ∉ state.tasks.map Task.job := by
  intro member
  obtain ⟨task, present, same⟩ := List.mem_map.mp member
  rw [← same] at unissued
  exact unissued (timers.issued task present)

theorem schedule (timers : Timers state) (uri : Uri) : Timers (state.schedule uri) := by
  have cancelled := timers.cancel uri
  have unlisted : uri ∉ (state.cancel uri).pending.map Prod.fst := by
    rw [cancel_eq]
    intro member
    obtain ⟨entry, present, same⟩ := List.mem_map.mp member
    exact of_decide_eq_true (List.mem_filter.mp present).2 same
  have unused : Job.validation state.nextTicket ∉ (state.cancel uri).tasks.map Task.job := by
    refine cancelled.job_fresh ?_
    change ¬state.nextTicket < (state.cancel uri).nextTicket
    rw [(sameSetting_cancel uri state).nextTicket]
    exact Nat.lt_irrefl _
  rw [schedule_eq]
  refine push ⟨?_, ?_, ?_, ?_, ?_⟩
  · refine List.nodup_cons.mpr ⟨?_, cancelled.jobs⟩
    exact fun member => unused ((List.filter_sublist.map Task.job).subset member)
  · exact List.forall_mem_cons.mpr ⟨rfl, cancelled.fits⟩
  · refine List.forall_mem_cons.mpr ⟨Nat.lt_succ_self _, ?_⟩
    intro task member
    have issued := cancelled.issued task member
    have next : (state.cancel uri).nextTicket ≤ state.nextTicket + 1 := by
      rw [(sameSetting_cancel uri state).nextTicket]
      exact Nat.le_succ _
    cases job : task.job with
    | retirement call =>
        rw [job] at issued
        exact issued
    | _ =>
        rw [job] at issued
        exact Nat.lt_of_lt_of_le issued next
  · exact cancelled.listed.cons (uri, state.nextTicket)
  · exact List.nodup_cons.mpr ⟨unlisted, cancelled.keys⟩

/-- A number may be given out and not be used. -/
theorem count (timers : Timers state) : Timers { state with nextCall := state.nextCall + 1 } := by
  refine ⟨timers.jobs, timers.fits, ?_, timers.listed, timers.keys⟩
  intro task member
  have issued := timers.issued task member
  cases job : task.job with
  | retirement call =>
      rw [job] at issued
      exact Nat.lt_succ_of_lt issued
  | _ =>
      rw [job] at issued
      exact issued

theorem retire (timers : Timers state) (uri : Uri) : Timers (state.retire uri) := by
  have unused : Job.retirement state.nextCall ∉ state.tasks.map Task.job :=
    timers.job_fresh (Nat.lt_irrefl _)
  have begun : Timers
      (State.holding (state.retirement uri) { state with nextCall := state.nextCall + 1 }) :=
    timers.count.add (fun _ => unused) rfl (Nat.lt_succ_self _) rfl
  exact begun.push

theorem grant (timers : Timers state) : Timers state.grant := by
  rcases grant_cases state with
    ⟨next, _⟩ | ⟨before, uri, job, guard, notice, after, split, _, next⟩
  · rw [next]
    exact ⟨timers.jobs, timers.fits, timers.issued, timers.listed, timers.keys⟩
  · rw [next]
    have pulled := timers.pull split
    exact (pulled.restage (.permitted guard notice) rfl (pulled.fits _ List.mem_cons_self)).push

end Timers

theorem timers_initial (delay : UInt64) (gate : Option Uri) : Timers (.initial delay gate) :=
  ⟨List.nodup_nil, fun _ member => (nomatch member), fun _ member => (nomatch member),
    List.Perm.nil, List.nodup_nil⟩

theorem preserved_timers : Preserved Timers where
  setting _ _ _ _ timers :=
    ⟨timers.jobs, timers.fits, timers.issued, timers.listed, timers.keys⟩
  schedule uri _ timers := timers.schedule uri
  retire uri _ timers := timers.retire uri
  cancel uri _ timers := timers.cancel uri
  grant timers := timers.grant
  turn stepped timers := by
    obtain ⟨before, task, after, split, _runnable, _earlier, turn⟩ := step?_turn stepped
    exact (timers.pull split).turn turn

theorem Reachable.timers {state : State} (reachable : Reachable state) : Timers state :=
  preserved_timers.reachable timers_initial reachable

/-! ### One timer for each document -/

theorem Timers.pending_once {state : State} (timers : Timers state) (uri : Uri) :
    (state.pending.filter fun entry => entry.1 = uri).length ≤ 1 := by
  have once := List.nodup_iff_count_le_one.mp timers.keys uri
  rw [List.count_eq_countP, List.countP_map] at once
  rw [← List.countP_eq_length_filter]
  refine Nat.le_trans (Nat.le_of_eq (List.countP_congr ?_)) once
  intro entry _present
  simp

theorem Timers.owner_once {state : State} (timers : Timers state) {uri : Uri} {ticket : Nat}
    (present : (uri, ticket) ∈ state.pending) :
    (state.tasks.countP fun task => task.uri = uri ∧ task.job = .validation ticket ∧
      task.stage.isInside = false) = 1 := by
  have distinct : state.pending.Nodup := timers.keys.of_map Prod.fst
  have once : state.pending.count (uri, ticket) = 1 := List.count_eq_one_of_mem distinct present
  rw [timers.listed.count_eq, List.count_filterMap] at once
  rw [← once]
  refine List.countP_congr ?_
  intro task _member
  rw [beq_iff_eq, Task.timer?_eq_some_iff, decide_eq_true_iff]

theorem Timers.tickets_nodup {state : State} (timers : Timers state) :
    (state.tasks.filterMap fun task => task.job.ticket?).Nodup := by
  have mapped : (state.tasks.filterMap fun task => task.job.ticket?) =
      ((state.tasks.filter fun task => task.job.isLive).map Task.job).filterMap Job.ticket? := by
    rw [List.filterMap_map, List.filterMap_filter]
    refine List.filterMap_congr ?_
    intro task _member
    obtain ⟨uri, job, stage⟩ := task
    cases job with
    | validation ticket => rfl
    | _ => rfl
  rw [mapped]
  refine timers.jobs.filterMap ?_
  intro first second ticket left right
  rw [Job.ticket?_eq_some_iff.mp left, Job.ticket?_eq_some_iff.mp right]

theorem Timers.ticket_lt {state : State} (timers : Timers state) {ticket : Nat}
    (member : ticket ∈ state.tasks.filterMap fun task => task.job.ticket?) :
    ticket < state.nextTicket := by
  obtain ⟨task, present, numbered⟩ := List.mem_filterMap.mp member
  have issued := timers.issued task present
  rw [Job.ticket?_eq_some_iff.mp numbered] at issued
  exact issued

private theorem nextTicket_move (state : State) (move : Move) :
    (state.move move).nextTicket =
      state.nextTicket + (move.command?.toList.countP Command.isSchedule) := by
  cases move with
  | turn =>
      change (state.step?.getD state).nextTicket = state.nextTicket
      cases stepped : state.step? with
      | none => rfl
      | some next => exact (sameSetting_step? stepped).nextTicket
  | pass time => rfl
  | call command instant =>
      cases command with
      | schedule uri =>
          change (state.schedule uri).nextTicket = state.nextTicket + 1
          rw [schedule_eq]
          rfl
      | release count => exact (sameSetting_release count state).nextTicket
      | shutdown => exact (sameSetting_shutdown state).nextTicket
      | advance duration => cases instant
      | _ => rfl

theorem Leads.nextTicket {state next : State} {calls : List Command}
    (leads : Leads state calls next) :
    next.nextTicket = state.nextTicket + calls.countP Command.isSchedule := by
  obtain ⟨moves, reached, made⟩ := leads
  rw [← reached, ← made]
  clear reached made
  induction moves generalizing state with
  | nil => rfl
  | cons move moves ih =>
      rw [follow_cons, ih, nextTicket_move, Nat.add_assoc]
      cases called : move.command? with
      | none => simp [called]
      | some command => simp [called, List.countP_cons, Nat.add_comm]

/-- In every state that calls lead to, whether they settle or not, a document has at most one
entry that counts; an entry belongs to just one validation, which is of this document, has this
ticket and is still outside; every validation that is outside has such an entry, so it finds its
own ticket when it gets past the guard; and tickets are never given out twice. -/
theorem one_timer_each {delay : UInt64} {gate : Option Uri} {calls : List Command} {state : State}
    (leads : Leads (.initial delay gate) calls state) :
    (∀ uri, (state.pending.filter fun entry => entry.1 = uri).length ≤ 1) ∧
    (∀ uri ticket, (uri, ticket) ∈ state.pending →
      (state.tasks.countP fun task => task.uri = uri ∧ task.job = .validation ticket ∧
        task.stage.isInside = false) = 1) ∧
    (∀ task ∈ state.tasks, ∀ ticket, task.job = .validation ticket →
      task.stage.isInside = false → state.pending.lookup task.uri = some ticket) ∧
    (state.tasks.filterMap fun task => task.job.ticket?).Nodup ∧
    (∀ ticket ∈ state.tasks.filterMap fun task => task.job.ticket?, ticket < state.nextTicket) ∧
    state.nextTicket = calls.countP Command.isSchedule := by
  have counted := leads.nextTicket
  obtain ⟨moves, reached, _made⟩ := leads
  have timers : Timers state := Reachable.timers ⟨delay, gate, moves, reached.symm⟩
  refine ⟨timers.pending_once, ?_, ?_, timers.tickets_nodup, ?_, ?_⟩
  · intro uri ticket present
    exact timers.owner_once present
  · intro task member ticket job outside
    exact timers.lookup_of_outside member job outside
  · intro ticket member
    exact timers.ticket_lt member
  · rw [counted]
    exact Nat.zero_add _

/-- Of two timers that were started one after the other for a document, the second counts. -/
theorem one_timer_of_two :
    let uri : Uri := ⟨"file:///a.lg"⟩
    let state := (State.initial 100 (some uri)).applyAll
      [(true, .openDocument ⟨uri, 1, "# A"⟩), (true, .schedule uri), (true, .schedule uri)]
    state.pending = [(uri, 1)] ∧ state.nextTicket = 2 ∧
      (state.tasks.countP fun task => task.uri = uri ∧ task.job = .validation 1 ∧
        task.stage.isInside = false) = 1 := by
  have leads := leads_applyAll
    [(true, .openDocument ⟨⟨"file:///a.lg"⟩, 1, "# A"⟩), (true, .schedule ⟨"file:///a.lg"⟩),
      (true, .schedule ⟨"file:///a.lg"⟩)] (State.initial 100 (some ⟨"file:///a.lg"⟩))
  obtain ⟨_, owned, _, _, _, counted⟩ := one_timer_each leads
  exact ⟨by decide, counted, owned _ 1 (by decide)⟩

end State

end TemplateServer.Validation
