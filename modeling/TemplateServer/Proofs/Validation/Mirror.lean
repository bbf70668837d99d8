import Mathlib.Logic.Equiv.Basic
import TemplateServer.Proofs.Validation.Share

/-!
A document alone. Tickets, calls and guards get their numbers from counters that all documents
share, so a run in which one document is alone gives other numbers to the same things. Main
statement: a state that holds the share of a document under other numbers, and nothing else, has
the same turns as the whole state has for this document.
-/

namespace TemplateServer.Validation

/-! ### Numbers -/

/-- Other numbers for tickets, calls and guards. -/
structure Numbering where
  ticket : Equiv.Perm Nat
  call : Equiv.Perm Nat
  guard : Equiv.Perm Nat

namespace Numbering

/-- The same numbers, except that `old` becomes `new`. -/
def redirect (numbers : Equiv.Perm Nat) (old new : Nat) : Equiv.Perm Nat :=
  numbers.trans (Equiv.swap (numbers old) new)

theorem redirect_self (numbers : Equiv.Perm Nat) (old new : Nat) :
    redirect numbers old new old = new :=
  Equiv.swap_apply_left (numbers old) new

theorem redirect_of_ne {numbers : Equiv.Perm Nat} {old new number : Nat} (other : number ≠ old)
    (free : numbers number ≠ new) : redirect numbers old new number = numbers number :=
  Equiv.swap_apply_of_ne_of_ne (fun same => other (numbers.injective same)) free

def setTicket (old new : Nat) (numbers : Numbering) : Numbering :=
  { numbers with ticket := redirect numbers.ticket old new }

def setCall (old new : Nat) (numbers : Numbering) : Numbering :=
  { numbers with call := redirect numbers.call old new }

def setGuard (old new : Nat) (numbers : Numbering) : Numbering :=
  { numbers with guard := redirect numbers.guard old new }

end Numbering

def Job.renumber (numbers : Numbering) : Job → Job
  | .validation ticket => .validation (numbers.ticket ticket)
  | .retirement call => .retirement (numbers.call call)
  | .aborted ticket => .aborted (numbers.ticket ticket)
  | .removal ticket => .removal (numbers.ticket ticket)

def Stage.renumber (numbers : Numbering) : Stage → Stage
  | .timed due => .timed due
  | .queued guard => .queued (numbers.guard guard)
  | .entering guard => .entering (numbers.guard guard)
  | .waiting guard notice => .waiting (numbers.guard guard) notice
  | .permitted guard notice => .permitted (numbers.guard guard) notice
  | .ready => .ready

def Task.renumber (numbers : Numbering) (task : Task) : Task :=
  ⟨task.uri, task.job.renumber numbers, task.stage.renumber numbers⟩

variable {numbers : Numbering}

@[simp]
theorem Job.isRetirement_renumber (job : Job) :
    (job.renumber numbers).isRetirement = job.isRetirement := by
  cases job with
  | _ => rfl

@[simp]
theorem Job.renumber_beq (job : Job) (ticket : Nat) :
    (job.renumber numbers == .validation (numbers.ticket ticket)) = (job == .validation ticket) := by
  cases job with
  | validation other => simp [renumber]
  | retirement call => simp [renumber]
  | aborted other => simp [renumber]
  | removal other => simp [renumber]

@[simp]
theorem Task.drops_renumber (remover task : Task) :
    (remover.renumber numbers).drops (task.renumber numbers) = remover.drops task := by
  obtain ⟨owner, job, stage⟩ := remover
  cases job with
  | removal ticket =>
      have alike : (task.job.renumber numbers == .aborted (numbers.ticket ticket)) =
          (task.job == .aborted ticket) := by
        cases task.job with
        | validation other => simp [Job.renumber]
        | retirement call => simp [Job.renumber]
        | aborted other => simp [Job.renumber]
        | removal other => simp [Job.renumber]
      change (task.uri == owner && (task.job.renumber numbers == _)) = _
      rw [alike]
      rfl
  | _ => rfl

@[simp]
theorem Stage.guard?_renumber (stage : Stage) :
    (stage.renumber numbers).guard? = stage.guard?.map numbers.guard := by
  cases stage with
  | timed due => rfl
  | queued guard => rfl
  | entering guard => rfl
  | waiting guard notice => rfl
  | permitted guard notice => rfl
  | ready => rfl

@[simp]
theorem Stage.place?_renumber (stage : Stage) :
    (stage.renumber numbers).place? = stage.place?.map numbers.guard := by
  cases stage with
  | timed due => rfl
  | queued guard => rfl
  | entering guard => rfl
  | waiting guard notice => rfl
  | permitted guard notice => rfl
  | ready => rfl

@[simp]
theorem Stage.isQueuedOn_renumber (guard : Nat) (stage : Stage) :
    (stage.renumber numbers).isQueuedOn (numbers.guard guard) = stage.isQueuedOn guard := by
  cases stage with
  | timed due => rfl
  | queued other => simp [renumber, isQueuedOn]
  | entering other => rfl
  | waiting other notice => rfl
  | permitted other notice => rfl
  | ready => rfl

@[simp]
theorem Stage.isWaiting_renumber (stage : Stage) :
    (stage.renumber numbers).isWaiting = stage.isWaiting := by
  cases stage with
  | timed due => rfl
  | queued guard => rfl
  | entering guard => rfl
  | waiting guard notice => rfl
  | permitted guard notice => rfl
  | ready => rfl

@[simp]
theorem Stage.isRunnable_renumber (now : Nat) (stage : Stage) :
    (stage.renumber numbers).isRunnable now = stage.isRunnable now := by
  cases stage with
  | timed due => rfl
  | queued guard => rfl
  | entering guard => rfl
  | waiting guard notice => rfl
  | permitted guard notice => rfl
  | ready => rfl

/-- A new number for a guard that the task does not stand at is nothing to the task. -/
theorem Task.renumber_setGuard {old new : Nat} {task : Task}
    (apart : ∀ guard, task.stage.place? = some guard → guard ≠ old ∧ numbers.guard guard ≠ new) :
    task.renumber (numbers.setGuard old new) = task.renumber numbers := by
  have kept (guard : Nat) (stands : task.stage.place? = some guard) :
      (numbers.setGuard old new).guard guard = numbers.guard guard :=
    Numbering.redirect_of_ne (apart guard stands).1 (apart guard stands).2
  have stage : task.stage.renumber (numbers.setGuard old new) = task.stage.renumber numbers := by
    cases place : task.stage with
    | timed due => rfl
    | queued guard => exact congrArg Stage.queued (kept guard (by rw [place]; rfl))
    | entering guard => exact congrArg Stage.entering (kept guard (by rw [place]; rfl))
    | waiting guard notice =>
        exact congrArg (Stage.waiting · notice) (kept guard (by rw [place]; rfl))
    | permitted guard notice =>
        exact congrArg (Stage.permitted · notice) (kept guard (by rw [place]; rfl))
    | ready => rfl
  exact congrArg (Task.mk task.uri (task.job.renumber numbers)) stage

/-- The number of a ticket that is given out next is nothing to the tasks there are. -/
theorem Task.renumber_setTicket {state own : State} {task : Task}
    (issued : state.HasIssued task.job) (ownIssued : own.HasIssued (task.job.renumber numbers)) :
    task.renumber (numbers.setTicket state.nextTicket own.nextTicket) = task.renumber numbers := by
  have kept {ticket : Nat} (below : ticket < state.nextTicket)
      (ownBelow : numbers.ticket ticket < own.nextTicket) :
      (numbers.setTicket state.nextTicket own.nextTicket).ticket ticket = numbers.ticket ticket :=
    Numbering.redirect_of_ne (Nat.ne_of_lt below) (Nat.ne_of_lt ownBelow)
  obtain ⟨owner, job, stage⟩ := task
  refine congrArg (Task.mk owner · (stage.renumber numbers)) ?_
  cases job with
  | retirement call => rfl
  | validation ticket => exact congrArg Job.validation (kept issued ownIssued)
  | aborted ticket => exact congrArg Job.aborted (kept issued ownIssued)
  | removal ticket => exact congrArg Job.removal (kept issued ownIssued)

theorem Task.renumber_setCall {state own : State} {task : Task}
    (issued : state.HasIssued task.job) (ownIssued : own.HasIssued (task.job.renumber numbers)) :
    task.renumber (numbers.setCall state.nextCall own.nextCall) = task.renumber numbers := by
  obtain ⟨owner, job, stage⟩ := task
  refine congrArg (Task.mk owner · (stage.renumber numbers)) ?_
  cases job with
  | retirement call =>
      exact congrArg Job.retirement
        (Numbering.redirect_of_ne (Nat.ne_of_lt issued) (Nat.ne_of_lt ownIssued))
  | _ => rfl

/-! ### The tasks of a document under other numbers -/

def reflect (uri : Uri) (numbers : Numbering) (tasks : List Task) : List Task :=
  (tasks.filter fun task => task.uri = uri).map (Task.renumber numbers)

variable {uri : Uri} {task : Task} {tasks : List Task}

@[simp]
theorem reflect_nil (uri : Uri) (numbers : Numbering) : reflect uri numbers [] = [] :=
  rfl

@[simp]
theorem reflect_append (uri : Uri) (numbers : Numbering) (first second : List Task) :
    reflect uri numbers (first ++ second) =
      reflect uri numbers first ++ reflect uri numbers second := by
  unfold reflect
  rw [List.filter_append, List.map_append]

theorem reflect_cons_of_eq (owned : task.uri = uri) (tasks : List Task) :
    reflect uri numbers (task :: tasks) = task.renumber numbers :: reflect uri numbers tasks := by
  unfold reflect
  rw [List.filter_cons_of_pos (by simpa using owned), List.map_cons]

theorem reflect_cons_of_ne (foreign : task.uri ≠ uri) (tasks : List Task) :
    reflect uri numbers (task :: tasks) = reflect uri numbers tasks := by
  unfold reflect
  rw [List.filter_cons_of_neg (by simpa using foreign)]

theorem mem_reflect {image : Task} :
    image ∈ reflect uri numbers tasks ↔
      ∃ task ∈ tasks, task.uri = uri ∧ task.renumber numbers = image := by
  unfold reflect
  simp only [List.mem_map, List.mem_filter, decide_eq_true_eq, and_assoc]

theorem reflect_congr {others : Numbering}
    (same : ∀ task ∈ tasks, task.uri = uri → task.renumber others = task.renumber numbers) :
    reflect uri others tasks = reflect uri numbers tasks := by
  apply List.map_congr_left
  intro task member
  obtain ⟨present, owned⟩ := List.mem_filter.mp member
  exact same task present (of_decide_eq_true owned)

/-- Where all tasks that fit are the document's, the first of them is found under other numbers
too. -/
theorem find?_reflect {fits image : Task → Bool}
    (same : ∀ task : Task, image (task.renumber numbers) = fits task)
    (owned : ∀ task ∈ tasks, fits task = true → task.uri = uri) :
    (reflect uri numbers tasks).find? image = (tasks.find? fits).map (Task.renumber numbers) := by
  induction tasks with
  | nil => rfl
  | cons task tasks ih =>
      have rest := ih fun other member => owned other (List.mem_cons_of_mem task member)
      cases fitting : fits task with
      | true =>
          rw [reflect_cons_of_eq (owned task List.mem_cons_self fitting), List.find?_cons,
            List.find?_cons, same, fitting]
          rfl
      | false =>
          rw [List.find?_cons, fitting, ← rest]
          by_cases mine : task.uri = uri
          · rw [reflect_cons_of_eq mine, List.find?_cons, same, fitting]
          · rw [reflect_cons_of_ne mine]

theorem eraseP_reflect {fits image : Task → Bool}
    (same : ∀ task : Task, image (task.renumber numbers) = fits task)
    (owned : ∀ task ∈ tasks, fits task = true → task.uri = uri) :
    (reflect uri numbers tasks).eraseP image = reflect uri numbers (tasks.eraseP fits) := by
  induction tasks with
  | nil => rfl
  | cons task tasks ih =>
      have rest := ih fun other member => owned other (List.mem_cons_of_mem task member)
      cases fitting : fits task with
      | true =>
          rw [reflect_cons_of_eq (owned task List.mem_cons_self fitting), List.eraseP_cons,
            List.eraseP_cons, same, fitting]
          rfl
      | false =>
          rw [List.eraseP_cons, fitting, cond_false]
          by_cases mine : task.uri = uri
          · rw [reflect_cons_of_eq mine, reflect_cons_of_eq mine, List.eraseP_cons, same, fitting,
              cond_false, rest]
          · rw [reflect_cons_of_ne mine, reflect_cons_of_ne mine, rest]

theorem markAborted_reflect {ticket : Nat}
    (owned : ∀ task ∈ tasks, task.job = .validation ticket → task.uri = uri) :
    markAborted (numbers.ticket ticket) (reflect uri numbers tasks) =
      reflect uri numbers (markAborted ticket tasks) := by
  induction tasks with
  | nil => rfl
  | cons task tasks ih =>
      have rest := ih fun other member => owned other (List.mem_cons_of_mem task member)
      have alike : task.job.renumber numbers = .validation (numbers.ticket ticket) ↔
          task.job = .validation ticket := by
        rw [← beq_iff_eq, Job.renumber_beq, beq_iff_eq]
      have ownJob : (task.renumber numbers).job = task.job.renumber numbers := rfl
      by_cases fitting : task.job = .validation ticket
      · have mine := owned task List.mem_cons_self fitting
        rw [reflect_cons_of_eq mine]
        unfold markAborted
        rw [if_pos fitting, if_pos (ownJob.trans (alike.mpr fitting))]
        exact (@reflect_cons_of_eq numbers uri { task with job := .aborted ticket } mine tasks).symm
      · by_cases mine : task.uri = uri
        · rw [reflect_cons_of_eq mine]
          unfold markAborted
          rw [if_neg fitting, if_neg fun same => fitting (alike.mp (ownJob.symm.trans same)),
            reflect_cons_of_eq mine, rest]
        · rw [reflect_cons_of_ne mine, rest]
          conv => rhs; unfold markAborted
          rw [if_neg fitting, reflect_cons_of_ne mine]

namespace State

/-- Whether a state holds the share that another has of a document, under other numbers, and
nothing else. -/
structure Mirrors (uri : Uri) (numbers : Numbering) (state own : State) : Prop where
  document : own.store.find? uri = state.store.find? uri
  now : own.now = state.now
  delay : own.delay = state.delay
  timer : own.pending.lookup uri = (state.pending.lookup uri).map numbers.ticket
  place : own.guards.lookup uri = (state.guards.lookup uri).map numbers.guard
  tasks : own.tasks = reflect uri numbers state.tasks
  gate : own.gate = some uri ↔ state.gate = some uri
  permits : state.gate = some uri → own.permits = state.permits
  log : (own.published.filter fun item => item.uri = uri) =
    state.published.filter fun item => item.uri = uri

theorem lookup_filter_self (uri : Uri) (entries : List (Uri × Nat)) :
    (entries.filter fun entry => entry.1 ≠ uri).lookup uri = none := by
  apply List.lookup_eq_none_iff.mpr
  intro entry member
  have other : entry.1 ≠ uri := of_decide_eq_true (List.mem_filter.mp member).2
  exact bne_iff_ne.mpr (Ne.symm other)

namespace Mirrors

variable {state own : State} {guard : Nat}

/-- What is done for other documents is not seen in the mirror. -/
theorem of_share {next : State} (mirrors : Mirrors uri numbers state own)
    (same : next.share uri = state.share uri) : Mirrors uri numbers next own := by
  have timer : next.pending.lookup uri = state.pending.lookup uri := congrArg Share.timer? same
  have place : next.guards.lookup uri = state.guards.lookup uri := congrArg Share.guard? same
  have tasks : (next.tasks.filter fun task => task.uri = uri) =
      state.tasks.filter fun task => task.uri = uri := congrArg Share.tasks same
  have permits : (if next.gate = some uri then some next.permits else none) =
      if state.gate = some uri then some state.permits else none := congrArg Share.permits? same
  have gate : next.gate = some uri ↔ state.gate = some uri := by
    have both := congrArg (fun count? => count?.isSome = true) permits
    simp only [Option.isSome_ite] at both
    exact iff_of_eq both
  refine ⟨mirrors.document.trans (congrArg Share.document? same).symm,
    mirrors.now.trans (congrArg Share.now same).symm,
    mirrors.delay.trans (congrArg Share.delay same).symm, by rw [timer]; exact mirrors.timer,
    by rw [place]; exact mirrors.place, ?_, mirrors.gate.trans gate.symm, ?_,
    mirrors.log.trans (congrArg Share.log same).symm⟩
  · rw [mirrors.tasks]
    unfold reflect
    rw [tasks]
  · intro gated
    have needed := gate.mp gated
    rw [if_pos gated, if_pos needed] at permits
    rw [mirrors.permits needed]
    exact (Option.some.inj permits).symm

/-! ### What the document's own tasks do -/

theorem setTasks (mirrors : Mirrors uri numbers state own) (tasks : List Task) :
    Mirrors uri numbers { state with tasks := tasks }
      { own with tasks := reflect uri numbers tasks } :=
  { mirrors with tasks := rfl }

theorem push (mirrors : Mirrors uri numbers state own) (task : Task) (owned : task.uri = uri) :
    Mirrors uri numbers (state.push task) (own.push (task.renumber numbers)) := by
  have pushed := mirrors.setTasks (state.tasks ++ [task])
  rw [reflect_append, reflect_cons_of_eq owned, reflect_nil, ← mirrors.tasks] at pushed
  exact pushed

theorem forgetTimer (mirrors : Mirrors uri numbers state own) :
    Mirrors uri numbers (state.forgetTimer uri) (own.forgetTimer uri) := by
  refine { mirrors with timer := ?_ }
  exact (lookup_filter_self uri own.pending).trans
    (congrArg (Option.map numbers.ticket) (lookup_filter_self uri state.pending)).symm

theorem handOver (mirrors : Mirrors uri numbers state own)
    (serves : ∀ task ∈ state.tasks, task.stage = .queued guard → task.uri = uri) :
    Mirrors uri numbers (state.handOver guard) (own.handOver (numbers.guard guard)) := by
  have owned : ∀ task ∈ state.tasks, task.stage.isQueuedOn guard = true → task.uri = uri := by
    intro task member queued
    cases stage : task.stage with
    | queued other =>
        rw [stage] at queued
        exact serves task member (by rw [stage, eq_of_beq queued])
    | timed due => rw [stage] at queued; cases queued
    | entering other => rw [stage] at queued; cases queued
    | waiting other notice => rw [stage] at queued; cases queued
    | permitted other notice => rw [stage] at queued; cases queued
    | ready => rw [stage] at queued; cases queued
  have alike : ∀ task : Task, (task.renumber numbers).stage.isQueuedOn (numbers.guard guard) =
      task.stage.isQueuedOn guard := fun task => Stage.isQueuedOn_renumber guard task.stage
  unfold State.handOver
  rw [mirrors.tasks, find?_reflect alike owned, eraseP_reflect alike owned]
  cases found : state.tasks.find? fun task => task.stage.isQueuedOn guard with
  | none => exact mirrors
  | some task =>
      have mine := owned task (List.mem_of_find?_eq_some found) (find?_split found).1
      have left := mirrors.setTasks (
        state.tasks.eraseP fun task => task.stage.isQueuedOn guard)
      exact left.push { task with stage := .entering guard } mine

theorem cancel (mirrors : Mirrors uri numbers state own) (timers : Timers state) :
    Mirrors uri numbers (state.cancel uri) (own.cancel uri) := by
  unfold State.cancel
  rw [mirrors.timer]
  cases listed : state.pending.lookup uri with
  | none => exact mirrors
  | some ticket =>
      have made : ∀ task ∈ state.tasks, task.job = .validation ticket → task.uri = uri := by
        intro task member same
        obtain ⟨stage, present, _⟩ := timers.exists_of_lookup listed
        rw [timers.unique member present (by rw [same]; rfl) same]
      have owned : ∀ task ∈ state.tasks, (task.job == .validation ticket) = true →
          task.uri = uri := fun task member same => made task member (eq_of_beq same)
      have alike : ∀ task : Task, ((task.renumber numbers).job ==
          .validation (numbers.ticket ticket)) = (task.job == .validation ticket) :=
        fun task => Job.renumber_beq task.job ticket
      have forgot := mirrors.forgetTimer
      have tasks : (own.forgetTimer uri).tasks = reflect uri numbers state.tasks := mirrors.tasks
      change Mirrors uri numbers ((state.forgetTimer uri).abort ticket)
        ((own.forgetTimer uri).abort (numbers.ticket ticket))
      unfold State.abort
      rw [tasks, find?_reflect alike owned, eraseP_reflect alike owned, markAborted_reflect made]
      have kept : (state.forgetTimer uri).tasks = state.tasks := rfl
      rw [kept]
      cases found : state.tasks.find? fun task => task.job == .validation ticket with
      | none => exact forgot
      | some task =>
          have mine := owned task (List.mem_of_find?_eq_some found) (find?_split found).1
          have marked := forgot.setTasks (markAborted ticket state.tasks)
          obtain ⟨owner, job, stage⟩ := task
          cases stage with
          | timed due =>
              exact forgot.setTasks
                (state.tasks.eraseP fun task => task.job == .validation ticket)
          | queued guard => exact marked.push ⟨owner, .removal ticket, .ready⟩ mine
          | entering guard => exact marked
          | waiting guard notice => exact marked
          | permitted guard notice => exact marked
          | ready => exact marked

theorem drop (mirrors : Mirrors uri numbers state own) {remover : Task}
    (owned : remover.uri = uri) (unshared : Unshared state) :
    Mirrors uri numbers (state.drop remover) (own.drop (remover.renumber numbers)) := by
  subst owned
  have fits : ∀ task ∈ state.tasks, remover.drops task = true → task.uri = remover.uri := by
    intro task _member dropped
    obtain ⟨_, _, mine, _⟩ := Task.drops_iff.mp dropped
    exact mine
  have alike : ∀ task : Task, (remover.renumber numbers).drops (task.renumber numbers) =
      remover.drops task := Task.drops_renumber remover
  unfold State.drop
  rw [mirrors.tasks, find?_reflect alike fits, eraseP_reflect alike fits]
  cases found : state.tasks.find? remover.drops with
  | none => exact mirrors
  | some task =>
      obtain ⟨fitting, before, after, split, erased, _⟩ := find?_split found
      have mine := fits task (List.mem_of_find?_eq_some found) fitting
      have left := mirrors.setTasks (state.tasks.eraseP remover.drops)
      have moved : (Task.renumber numbers task).stage.guard? =
          task.stage.guard?.map numbers.guard := Stage.guard?_renumber task.stage
      simp only [Option.map_some]
      rw [moved]
      cases holds : task.stage.guard? with
      | none => exact left
      | some held =>
          apply left.handOver
          intro other member queued
          rw [erased] at member
          rw [(unshared.pull split).serves (Stage.place?_of_guard? holds) other member queued]
          exact mine

theorem deliver (mirrors : Mirrors uri numbers state own) (owned : task.uri = uri)
    (serves : ∀ other ∈ state.tasks, other.stage = .queued guard → other.uri = uri)
    (notice : Notice) :
    Mirrors uri numbers (state.deliver task guard notice)
      (own.deliver (task.renumber numbers) (numbers.guard guard) notice) := by
  subst owned
  rw [deliver_eq, deliver_eq]
  refine handOver ?_ serves
  refine { mirrors with place := ?_, log := ?_ }
  · have retires : (task.renumber numbers).job.isRetirement = task.job.isRetirement :=
      Job.isRetirement_renumber task.job
    rw [retires]
    cases task.job.isRetirement with
    | true =>
        exact (lookup_filter_self task.uri own.guards).trans
          (congrArg (Option.map numbers.guard) (lookup_filter_self task.uri state.guards)).symm
    | false => exact mirrors.place
  · rw [List.filter_append, List.filter_append, mirrors.log, mirrors.now]
    rfl

theorem publish (mirrors : Mirrors uri numbers state own) (owned : task.uri = uri)
    (serves : ∀ other ∈ state.tasks, other.stage = .queued guard → other.uri = uri)
    (notice : Notice) :
    Mirrors uri numbers (state.publish task guard notice)
      (own.publish (task.renumber numbers) (numbers.guard guard) notice) := by
  subst owned
  have same : (task.renumber numbers).uri = task.uri := rfl
  unfold State.publish
  rw [same]
  by_cases gated : state.gate = some task.uri
  · rw [if_pos gated, if_pos (mirrors.gate.mpr gated), mirrors.permits gated]
    cases state.permits with
    | zero => exact mirrors.push { task with stage := .waiting guard notice } rfl
    | succ left =>
        have paid : Mirrors task.uri numbers { state with permits := left }
            { own with permits := left } := { mirrors with permits := fun _ => rfl }
        exact paid.deliver rfl serves notice
  · rw [if_neg gated, if_neg fun needed => gated (mirrors.gate.mp needed)]
    exact mirrors.deliver rfl serves notice

theorem enter (mirrors : Mirrors uri numbers state own) (owned : task.uri = uri)
    (timers : Timers (state.holding task))
    (guarded : Guarded (state.holding { task with stage := .entering guard })) :
    Mirrors uri numbers (state.enter task guard)
      (own.enter (task.renumber numbers) (numbers.guard guard)) := by
  subst owned
  have serves := @Unshared.serves _ _ guard guarded.unshared rfl
  have same : (task.renumber numbers).uri = task.uri := rfl
  unfold State.enter
  rw [same]
  cases job : task.job with
  | validation ticket =>
      have made : (task.renumber numbers).job = .validation (numbers.ticket ticket) := by
        change task.job.renumber numbers = _
        rw [job]
        rfl
      have listed : own.pending.lookup task.uri = some (numbers.ticket ticket) ↔
          state.pending.lookup task.uri = some ticket := by
        rw [mirrors.timer, Option.map_eq_some_iff]
        constructor
        · intro found
          obtain ⟨other, present, equal⟩ := found
          rw [present, numbers.ticket.injective equal]
        · intro found
          exact ⟨ticket, found, rfl⟩
      rw [made]
      simp only [listed, mirrors.document]
      split
      · split
        · exact mirrors.forgetTimer.handOver serves
        · exact mirrors.forgetTimer.publish rfl serves _
      · exact mirrors.handOver serves
  | retirement call =>
      have made : (task.renumber numbers).job = .retirement (numbers.call call) := by
        change task.job.renumber numbers = _
        rw [job]
        rfl
      have ready := @Unshared.serves _ _ guard (guarded.prepared (.retirement call job)).unshared rfl
      have unlisted : Timers state := timers.remove (Task.timer?_of_retirement job)
      rw [made]
      exact (mirrors.cancel unlisted).publish rfl ready .clear
  | aborted ticket =>
      have made : (task.renumber numbers).job = .aborted (numbers.ticket ticket) := by
        change task.job.renumber numbers = _
        rw [job]
        rfl
      rw [made]
      exact mirrors.handOver serves
  | removal ticket =>
      have made : (task.renumber numbers).job = .removal (numbers.ticket ticket) := by
        change task.job.renumber numbers = _
        rw [job]
        rfl
      rw [made]
      exact mirrors.handOver serves

/-! ### Asking for a guard -/

/-- The number of a guard that stands in the mirror may not be used for another. -/
theorem setGuard (mirrors : Mirrors uri numbers state own) (guarded : Guarded state)
    (alone : Guarded own) :
    reflect uri (numbers.setGuard state.nextGuard own.nextGuard) state.tasks =
      reflect uri numbers state.tasks := by
  obtain ⟨owner, _, placed⟩ := guarded.owned
  obtain ⟨ownOwner, _, ownPlaced⟩ := alone.owned
  apply reflect_congr
  intro task member mine
  apply Task.renumber_setGuard
  intro guard stands
  have known : task.renumber numbers ∈ own.tasks := by
    rw [mirrors.tasks]
    exact mem_reflect.mpr ⟨task, member, mine, rfl⟩
  have standsToo : (task.renumber numbers).stage.place? = some (numbers.guard guard) := by
    change (task.stage.renumber numbers).place? = _
    rw [Stage.place?_renumber, stands]
    rfl
  have below := (placed task member guard stands).1
  have ownBelow := (ownPlaced _ known _ standsToo).1
  exact ⟨by omega, by omega⟩

theorem guardFor {entry ownEntry : State} {ownGuard : Nat} (mirrors : Mirrors uri numbers state own)
    (guarded : Guarded state) (alone : Guarded own) (asked : state.guardFor uri = (guard, entry))
    (ownAsked : own.guardFor uri = (ownGuard, ownEntry)) :
    ∃ others : Numbering, others.ticket = numbers.ticket ∧ others.call = numbers.call ∧
      others.guard guard = ownGuard ∧ Mirrors uri others entry ownEntry := by
  have place := mirrors.place
  rcases guardFor_cases asked with ⟨listed, same⟩ | ⟨unlisted, fresh, same⟩
  · rw [listed] at place
    rcases guardFor_cases ownAsked with ⟨ownListed, ownSame⟩ | ⟨ownUnlisted, _, _⟩
    · rw [ownListed] at place
      rw [same, ownSame]
      exact ⟨numbers, rfl, rfl, (Option.some.inj place).symm, mirrors⟩
    · rw [ownUnlisted] at place
      cases place
  · rw [unlisted] at place
    rcases guardFor_cases ownAsked with ⟨ownListed, _⟩ | ⟨_, ownFresh, ownSame⟩
    · rw [ownListed] at place
      cases place
    · have given : Numbering.redirect numbers.guard guard ownGuard guard = ownGuard :=
        Numbering.redirect_self numbers.guard guard ownGuard
      have kept := mirrors.setGuard guarded alone
      rw [← fresh, ← ownFresh] at kept
      rw [same, ownSame]
      refine ⟨numbers.setGuard guard ownGuard, rfl, rfl, given, ?_⟩
      refine { mirrors with place := ?_, tasks := mirrors.tasks.trans kept.symm }
      rw [List.lookup_cons_self, List.lookup_cons_self, Option.map_some]
      exact congrArg some given.symm

theorem isHeld (mirrors : Mirrors uri numbers state own)
    (serves : ∀ task ∈ state.tasks, task.stage.guard? = some guard → task.uri = uri) :
    own.isHeld (numbers.guard guard) = state.isHeld guard := by
  unfold State.isHeld
  rw [mirrors.tasks, Bool.eq_iff_iff, List.any_eq_true, List.any_eq_true]
  constructor
  · intro held
    obtain ⟨image, member, holds⟩ := held
    obtain ⟨task, present, _, same⟩ := mem_reflect.mp member
    rw [← same] at holds
    change ((task.stage.renumber numbers).guard? == some (numbers.guard guard)) = true at holds
    rw [Stage.guard?_renumber, beq_iff_eq, Option.map_eq_some_iff] at holds
    obtain ⟨other, holdsToo, equal⟩ := holds
    rw [numbers.guard.injective equal] at holdsToo
    exact ⟨task, present, beq_iff_eq.mpr holdsToo⟩
  · intro held
    obtain ⟨task, present, holds⟩ := held
    have mine := serves task present (eq_of_beq holds)
    refine ⟨task.renumber numbers, mem_reflect.mpr ⟨task, present, mine, rfl⟩, ?_⟩
    change ((task.stage.renumber numbers).guard? == some (numbers.guard guard)) = true
    rw [Stage.guard?_renumber, eq_of_beq holds]
    exact beq_self_eq_true _

theorem approach {due : Nat} (mirrors : Mirrors uri numbers state own) (owned : task.uri = uri)
    (timed : task.stage = .timed due) (timers : Timers (state.holding task))
    (guarded : Guarded (state.holding task)) (alone : Guarded own) :
    ∃ others, Mirrors uri others (state.approach task) (own.approach (task.renumber numbers)) := by
  subst owned
  have free : Guarded state := guarded.remove (by rw [timed]; rfl)
  have same : (task.renumber numbers).uri = task.uri := rfl
  unfold State.approach
  rw [same]
  cases asked : state.guardFor task.uri with
  | mk guard entry =>
    cases ownAsked : own.guardFor task.uri with
    | mk ownGuard ownEntry =>
        obtain ⟨others, tickets, calls, given, entered⟩ :=
          mirrors.guardFor free alone asked ownAsked
        have image : task.renumber numbers = task.renumber others := by
          have job : task.job.renumber numbers = task.job.renumber others := by
            unfold Job.renumber
            rw [tickets, calls]
          unfold Task.renumber
          rw [timed, job]
          rfl
        have listed := listed_of_asked asked
        have serves : ∀ other ∈ entry.tasks, other.stage.guard? = some guard →
            other.uri = task.uri := by
          obtain ⟨owner, registered, placed⟩ := (free.asked asked).owned
          intro other member holds
          rw [← (placed other member guard (Stage.place?_of_guard? holds)).2]
          exact (registered _ (mem_of_lookup_eq_some listed)).2
        have held := entered.isHeld serves
        rw [given] at held
        rw [image]
        refine ⟨others, ?_⟩
        simp only [held]
        cases taken : entry.isHeld guard with
        | true =>
            rw [if_pos rfl, if_pos rfl, ← given]
            exact entered.push { task with stage := .queued guard } rfl
        | false =>
            rw [if_neg Bool.false_ne_true, if_neg Bool.false_ne_true, ← given]
            have admits : Admits task state guard entry := .asks due entry timed asked taken
            exact entered.enter rfl (timers.admitted admits).1 (guarded.admitted admits)

/-! ### Turns -/

theorem resume (mirrors : Mirrors uri numbers state own) (owned : task.uri = uri)
    (runnable : task.stage.isRunnable state.now = true) (timers : Timers (state.holding task))
    (guarded : Guarded (state.holding task))
    (alone : Guarded (own.holding (task.renumber numbers))) :
    ∃ others, Mirrors uri others (state.resume task) (own.resume (task.renumber numbers)) := by
  have same : (task.renumber numbers).stage = task.stage.renumber numbers := rfl
  unfold State.resume
  rw [same]
  cases stage : task.stage with
  | timed due =>
      have free : (task.renumber numbers).stage.guard? = none := by
        change (task.stage.renumber numbers).guard? = none
        rw [stage]
        rfl
      exact mirrors.approach owned stage timers guarded (alone.remove free)
  | entering guard =>
      have holds : task.stage.guard? = some guard := by
        rw [stage]
        rfl
      exact ⟨numbers, mirrors.enter owned timers (guarded.restage (.entering guard) holds rfl)⟩
  | permitted guard notice =>
      have holds : task.stage.guard? = some guard := by
        rw [stage]
        rfl
      have serves := guarded.unshared.serves (Stage.place?_of_guard? holds)
      rw [owned] at serves
      exact ⟨numbers, mirrors.deliver owned serves notice⟩
  | ready => exact ⟨numbers, mirrors.drop owned guarded.unshared.rest⟩
  | queued guard =>
      rw [stage] at runnable
      cases runnable
  | waiting guard notice =>
      rw [stage] at runnable
      cases runnable

end Mirrors

end State

end TemplateServer.Validation
