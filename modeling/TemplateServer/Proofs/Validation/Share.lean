import TemplateServer.Proofs.Document.Store
import TemplateServer.Proofs.Validation.Exclusion

/-!
The share that a document has in the state: its text, its timer and guard, its tasks in their order,
the permits if it needs any, and what was published about it. Main statement: a turn of a task of
another document leaves the share as it is, and so do calls about other documents.
-/

namespace TemplateServer.Validation

/-- What a state holds for one document. -/
@[ext]
structure Share where
  document? : Option Document
  now : Nat
  delay : UInt64
  timer? : Option Nat
  guard? : Option Nat
  tasks : List Task
  permits? : Option Nat
  log : List Publication

namespace State

/-- The share of a document. Permits are part of it only if the document needs them. -/
def share (uri : Uri) (state : State) : Share where
  document? := state.store.find? uri
  now := state.now
  delay := state.delay
  timer? := state.pending.lookup uri
  guard? := state.guards.lookup uri
  tasks := state.tasks.filter fun task => task.uri = uri
  permits? := if state.gate = some uri then some state.permits else none
  log := state.published.filter fun item => item.uri = uri

variable {uri : Uri} {state : State} {task : Task}

/-! ### Steps of other documents -/

theorem share_tasks {tasks : List Task}
    (same : (tasks.filter fun task => task.uri = uri) =
      state.tasks.filter fun task => task.uri = uri) :
    State.share uri { state with tasks := tasks } = state.share uri :=
  Share.ext rfl rfl rfl rfl rfl same rfl rfl

theorem share_split {before after : List Task} (split : state.tasks = before ++ task :: after)
    (foreign : task.uri ≠ uri) :
    State.share uri { state with tasks := before ++ after } = state.share uri := by
  apply share_tasks
  rw [split, List.filter_append, List.filter_append, List.filter_cons_of_neg (by simpa using foreign)]

theorem share_push {owner : Uri} {job : Job} {stage : Stage} (state : State)
    (foreign : owner ≠ uri) : (state.push ⟨owner, job, stage⟩).share uri = state.share uri := by
  apply share_tasks
  rw [List.filter_append, List.filter_cons_of_neg (by simpa using foreign), List.filter_nil,
    List.append_nil]

theorem share_forgetTimer {other : Uri} (state : State) (foreign : other ≠ uri) :
    (state.forgetTimer other).share uri = state.share uri :=
  Share.ext rfl rfl rfl (lookup_filter_of_ne (Ne.symm foreign)) rfl rfl rfl rfl

theorem share_handOver {guard : Nat}
    (foreign : ∀ task ∈ state.tasks, task.stage = .queued guard → task.uri ≠ uri) :
    (state.handOver guard).share uri = state.share uri := by
  rcases handOver_cases guard state with ⟨same, _⟩ | ⟨before, owner, job, after, split, next⟩
  · rw [same]
  · have other : owner ≠ uri := foreign _ (mem_split_self split) rfl
    have left : State.share uri { state with tasks := before ++ after } = state.share uri :=
      share_split split other
    rw [next, ← left]
    exact share_push { state with tasks := before ++ after } other

/-- Whether no guard has tasks of two documents standing at it. -/
def Unshared (state : State) : Prop :=
  ∀ first ∈ state.tasks, ∀ second ∈ state.tasks, ∀ guard,
    first.stage.place? = some guard → second.stage.place? = some guard → second.uri = first.uri

theorem Guarded.unshared (guarded : Guarded state) : Unshared state := by
  obtain ⟨owner, _, placed⟩ := guarded.owned
  intro first here second there guard stands standsToo
  rw [← (placed first here guard stands).2]
  exact (placed second there guard standsToo).2.symm

theorem Unshared.rest (unshared : Unshared (state.holding task)) : Unshared state :=
  fun first here second there =>
    unshared first (List.mem_cons_of_mem task here) second (List.mem_cons_of_mem task there)

theorem Unshared.pull {before after : List Task} (unshared : Unshared state)
    (split : state.tasks = before ++ task :: after) :
    Unshared (State.holding task { state with tasks := before ++ after }) := by
  have known : ∀ other ∈ task :: (before ++ after), other ∈ state.tasks := by
    intro other member
    rw [split]
    exact List.perm_middle.mem_iff.mpr member
  exact fun first here second there => unshared first (known first here) second (known second there)

theorem Unshared.serves {guard : Nat} (unshared : Unshared (state.holding task))
    (stands : task.stage.place? = some guard) :
    ∀ other ∈ state.tasks, other.stage = .queued guard → other.uri = task.uri := by
  intro other member queued
  exact unshared task List.mem_cons_self other (List.mem_cons_of_mem task member) guard stands
    (by rw [queued]; rfl)

theorem Unshared.share_handOver {guard : Nat} (unshared : Unshared (state.holding task))
    (holds : task.stage.guard? = some guard) (foreign : task.uri ≠ uri) :
    (state.handOver guard).share uri = state.share uri := by
  apply State.share_handOver
  intro other member queued
  rw [unshared.serves (Stage.place?_of_guard? holds) other member queued]
  exact foreign

theorem share_cancel {other : Uri} (timers : Timers state) (foreign : other ≠ uri) :
    (state.cancel other).share uri = state.share uri := by
  cases listed : state.pending.lookup other with
  | none => rw [cancel_of_unlisted listed]
  | some ticket =>
      obtain ⟨before, stage, after, left, removers, split, _outside, next, ended⟩ :=
        timers.cancel_split listed
      have gone : ∀ {tasks : List Task}, (∀ task ∈ tasks, task ∈ left ++ removers) →
          (tasks.filter fun task => task.uri = uri) = [] := by
        intro tasks among
        refine List.filter_eq_nil_iff.mpr ?_
        intro task member
        rcases ended task (among task member) with ⟨marked, _⟩ | removes
        · simpa [marked] using foreign
        · simpa [removes] using foreign
      rw [next, ← share_forgetTimer state foreign]
      apply share_tasks
      change _ = state.tasks.filter fun task => task.uri = uri
      rw [split]
      simp only [List.filter_append, gone fun task => List.mem_append_left removers,
        gone fun task => List.mem_append_right left, List.append_nil]
      rw [List.filter_cons_of_neg (by simpa using foreign)]

theorem share_drop {remover : Task} (unshared : Unshared state) (foreign : remover.uri ≠ uri) :
    (state.drop remover).share uri = state.share uri := by
  rcases drop_cases remover state with ⟨same, _⟩ | ⟨before, ticket, stage, after, split, next⟩
  · rw [same]
  · have left : State.share uri { state with tasks := before ++ after } = state.share uri :=
      share_split split foreign
    have pulled := unshared.pull split
    rw [next, ← left]
    unfold State.vacate
    cases holds : stage.guard? with
    | none => rfl
    | some guard => exact pulled.share_handOver holds foreign

/-! ### The turn of another document -/

theorem share_guardFor {other : Uri} {entry : State} {guard : Nat}
    (asked : state.guardFor other = (guard, entry)) (foreign : other ≠ uri) :
    entry.share uri = state.share uri := by
  rcases guardFor_cases asked with ⟨_, same⟩ | ⟨_, _, same⟩
  · rw [same]
  · rw [same]
    have different : (uri == other) = false := beq_false_of_ne (Ne.symm foreign)
    exact Share.ext rfl rfl rfl rfl (by rw [share, List.lookup_cons, different]; rfl) rfl rfl rfl

theorem share_deliver {guard : Nat} (unshared : Unshared (state.holding task))
    (holds : task.stage.guard? = some guard) (notice : Notice) (foreign : task.uri ≠ uri) :
    (state.deliver task guard notice).share uri = state.share uri := by
  rw [deliver_eq]
  refine Eq.trans (@Unshared.share_handOver uri _ task _ unshared holds foreign) ?_
  refine Share.ext rfl rfl rfl rfl ?_ rfl rfl ?_
  · change List.lookup uri (if task.job.isRetirement then _ else _) = state.guards.lookup uri
    split
    · exact lookup_filter_of_ne (Ne.symm foreign)
    · rfl
  · change (state.published ++ [_]).filter _ = _
    rw [List.filter_append, List.filter_cons_of_neg (by simpa using foreign), List.filter_nil,
      List.append_nil]
    rfl

theorem Admits.share_eq {base entry : State} {guard : Nat} (admits : Admits task base guard entry)
    (foreign : task.uri ≠ uri) : entry.share uri = base.share uri := by
  cases admits with
  | asks due entry timed asked free => exact share_guardFor asked foreign
  | handed entering => rfl

theorem Prepares.share_eq {ready : State} {notice : Notice}
    (prepares : Prepares task state ready notice) (timers : Timers (state.holding task))
    (foreign : task.uri ≠ uri) : ready.share uri = state.share uri := by
  cases prepares with
  | validation ticket document job listed present => exact share_forgetTimer state foreign
  | retirement call job =>
      exact share_cancel (timers.remove (Task.timer?_of_retirement job)) foreign

/-- The turn of a task leaves the shares of all other documents as they are. -/
theorem Turn.share_eq {base next : State} (turn : Turn task base next)
    (timers : Timers (base.holding task)) (guarded : Guarded (base.holding task))
    (foreign : task.uri ≠ uri) : next.share uri = base.share uri := by
  have entered {entry : State} {guard : Nat} (admits : Admits task base guard entry) :
      Unshared (entry.holding { task with stage := .entering guard }) :=
    (guarded.admitted admits).unshared
  cases turn with
  | queues due guard entry timed asked held =>
      exact (share_push entry foreign).trans (share_guardFor asked foreign)
  | lapses guard entry admits clears unlisted =>
      exact ((entered admits).share_handOver rfl foreign).trans (admits.share_eq foreign)
  | skips guard ticket entry admits job listed closed =>
      have stands := entered admits
      have handed : ((entry.forgetTimer task.uri).handOver guard).share uri =
          (entry.forgetTimer task.uri).share uri :=
        @Unshared.share_handOver uri (entry.forgetTimer task.uri) _ guard stands rfl foreign
      exact (handed.trans (share_forgetTimer entry foreign)).trans (admits.share_eq foreign)
  | waits guard notice entry ready admits prepares gated spent =>
      have prepared := prepares.share_eq (timers.admitted admits).1 foreign
      exact ((share_push ready foreign).trans prepared).trans (admits.share_eq foreign)
  | passes guard left notice entry ready admits prepares paid =>
      have prepared := prepares.share_eq (timers.admitted admits).1 foreign
      have stands := ((guarded.admitted admits).prepared prepares).unshared
      have spent : State.share uri { ready with permits := left } = ready.share uri := by
        refine Share.ext rfl rfl rfl rfl rfl rfl ?_ rfl
        change (if ready.gate = some uri then some left else none) =
          if ready.gate = some uri then some ready.permits else none
        split
        · rename_i needed
          rcases paid with ⟨gated, _⟩ | ⟨_, kept⟩
          · exact absurd (Option.some.inj (gated.symm.trans needed)) foreign
          · rw [kept]
        · rfl
      have delivered := @share_deliver uri { ready with permits := left }
        { task with stage := .entering guard } guard stands rfl notice foreign
      exact ((delivered.trans spent).trans prepared).trans (admits.share_eq foreign)
  | leaves guard notice permitted =>
      exact share_deliver guarded.unshared (by rw [permitted]; rfl) notice foreign
  | drops ready => exact share_drop guarded.unshared.rest foreign

/-! ### Calls about other documents -/

theorem share_store {store : Store} (state : State) (kept : store.find? uri = state.store.find? uri) :
    State.share uri { state with store := store } = state.share uri :=
  Share.ext kept rfl rfl rfl rfl rfl rfl rfl

theorem share_schedule {other : Uri} (timers : Timers state) (foreign : other ≠ uri) : (state.schedule other).share uri = state.share uri := by
  have different : (uri == other) = false := beq_false_of_ne (Ne.symm foreign)
  rw [schedule_eq, share_push _ foreign, ← share_cancel timers foreign]
  refine Share.ext rfl rfl rfl ?_ rfl rfl rfl rfl
  change List.lookup uri ((other, state.nextTicket) :: _) = _
  rw [List.lookup_cons, different]
  rfl

theorem share_retire {other : Uri} (state : State) (foreign : other ≠ uri) :
    (state.retire other).share uri = state.share uri :=
  share_push { state with nextCall := state.nextCall + 1 } foreign

/-- Permits are nothing to a document that needs none. -/
theorem share_grant (metered : Metered state) (ungated : state.gate ≠ some uri) :
    state.grant.share uri = state.share uri := by
  rcases grant_cases state with ⟨next, _⟩ | ⟨before, owner, job, guard, notice, after, split, _, next⟩
  · rw [next]
    refine Share.ext rfl rfl rfl rfl rfl rfl ?_ rfl
    exact (if_neg ungated).trans (if_neg ungated).symm
  · have foreign : owner ≠ uri := by
      intro owned
      apply ungated
      rw [metered.gated _ (mem_split_self split) rfl, ← owned]
    have left : State.share uri { state with tasks := before ++ after } = state.share uri :=
      share_split split foreign
    rw [next, ← left]
    exact share_push { state with tasks := before ++ after } foreign

end State

end TemplateServer.Validation
