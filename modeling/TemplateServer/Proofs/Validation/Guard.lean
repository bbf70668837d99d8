import Mathlib.Data.List.Nodup
import TemplateServer.Proofs.Validation.Timer

/-!
Guards and permits. Main statements, for every state there can be: a guard never has two holders,
tasks queue for it only while it is held, and it serves one document only; and a task waits for a
permit only if there is none.
-/

namespace TemplateServer.Validation

theorem Stage.place?_of_guard? {stage : Stage} {guard : Nat} (holds : stage.guard? = some guard) :
    stage.place? = some guard := by
  cases stage with
  | timed due => cases holds
  | queued other => cases holds
  | entering other => exact holds
  | waiting other notice => exact holds
  | permitted other notice => exact holds
  | ready => cases holds

namespace State

def held (state : State) : List Nat :=
  state.tasks.filterMap fun task => task.stage.guard?

theorem mem_held {state : State} {guard : Nat} :
    guard ∈ state.held ↔ ∃ task ∈ state.tasks, task.stage.guard? = some guard :=
  List.mem_filterMap

theorem isHeld_iff {state : State} {guard : Nat} :
    state.isHeld guard = true ↔ guard ∈ state.held := by
  unfold isHeld
  rw [mem_held, List.any_eq_true]
  simp only [beq_iff_eq]

/-- Every guard has one holder at most, tasks queue only where there is a holder, and a guard is
asked for on behalf of one document only. -/
structure Guarded (state : State) : Prop where
  exclusive : state.held.Nodup
  attended : ∀ task ∈ state.tasks, ∀ guard, task.stage = .queued guard → guard ∈ state.held
  owned : ∃ owner : Nat → Uri,
    (∀ entry ∈ state.guards, entry.2 < state.nextGuard ∧ owner entry.2 = entry.1) ∧
    ∀ task ∈ state.tasks, ∀ guard, task.stage.place? = some guard →
      guard < state.nextGuard ∧ owner guard = task.uri

namespace Guarded

variable {state : State} {task : Task}

theorem permuted {tasks : List Task} (guarded : Guarded state) (same : state.tasks.Perm tasks) :
    Guarded { state with tasks := tasks } := by
  have holders : state.held.Perm (State.held { state with tasks := tasks }) :=
    same.filterMap _
  obtain ⟨owner, listed, placed⟩ := guarded.owned
  refine ⟨holders.nodup_iff.mp guarded.exclusive, ?_, owner, listed, ?_⟩
  · intro other member guard queued
    exact holders.mem_iff.mp (guarded.attended other (same.mem_iff.mpr member) guard queued)
  · intro other member guard place
    exact placed other (same.mem_iff.mpr member) guard place

theorem pull {before after : List Task} (guarded : Guarded state)
    (split : state.tasks = before ++ task :: after) :
    Guarded (State.holding task { state with tasks := before ++ after }) := by
  refine guarded.permuted ?_
  rw [split]
  exact List.perm_middle

theorem push (guarded : Guarded (state.holding task)) : Guarded (state.push task) :=
  guarded.permuted (List.perm_append_singleton task state.tasks).symm

/-- A task that stays at its guard may change in all else. -/
theorem restage {guard : Nat} (guarded : Guarded (state.holding task)) (stage : Stage)
    (before : task.stage.guard? = some guard) (after : stage.guard? = some guard) :
    Guarded (state.holding { task with stage := stage }) := by
  have holders : State.held (state.holding { task with stage := stage }) =
      State.held (state.holding task) := by
    simp only [held, holding, List.filterMap_cons, before, after]
  obtain ⟨owner, listed, placed⟩ := guarded.owned
  refine ⟨by rw [holders]; exact guarded.exclusive, ?_, owner, listed, ?_⟩
  · intro other member place queued
    rw [holders]
    rcases List.mem_cons.mp member with here | there
    · rw [here] at queued
      change stage = _ at queued
      rw [queued] at after
      cases after
    · exact guarded.attended other (List.mem_cons_of_mem task there) place queued
  · intro other member place stands
    rcases List.mem_cons.mp member with here | there
    · rw [here] at stands ⊢
      change stage.place? = _ at stands
      rw [Stage.place?_of_guard? after] at stands
      cases stands
      exact placed task List.mem_cons_self guard (Stage.place?_of_guard? before)
    · exact placed other (List.mem_cons_of_mem task there) place stands

/-- What a task is to do makes no difference to the guards. -/
theorem mark {before after : List Task} {uri : Uri} {job : Job} {stage : Stage}
    (guarded : Guarded state) (split : state.tasks = before ++ ⟨uri, job, stage⟩ :: after)
    (other : Job) : Guarded { state with tasks := before ++ ⟨uri, other, stage⟩ :: after } := by
  obtain ⟨exclusive, attended, owner, listed, placed⟩ := guarded.pull split
  have turned : Guarded
      (State.holding ⟨uri, other, stage⟩ { state with tasks := before ++ after }) := by
    refine ⟨exclusive, ?_, owner, listed, ?_⟩
    · exact List.forall_mem_cons.mpr (List.forall_mem_cons.mp attended)
    · exact List.forall_mem_cons.mpr (List.forall_mem_cons.mp placed)
  exact turned.permuted List.perm_middle.symm

/-- A task that holds no guard may end. -/
theorem remove (guarded : Guarded (state.holding task)) (free : task.stage.guard? = none) :
    Guarded state := by
  have holders : State.held (state.holding task) = state.held := by
    simp only [held, holding, List.filterMap_cons, free]
  obtain ⟨owner, listed, placed⟩ := guarded.owned
  have exclusive := guarded.exclusive
  rw [holders] at exclusive
  refine ⟨exclusive, ?_, owner, listed, ?_⟩
  · intro other member guard queued
    rw [← holders]
    exact guarded.attended other (List.mem_cons_of_mem task member) guard queued
  · intro other member
    exact placed other (List.mem_cons_of_mem task member)

/-- A task may come to stand at the guard of its document: as the holder if there is none, and in
the queue if there is one. -/
theorem add (guarded : Guarded state)
    (listed : ∀ guard, task.stage.place? = some guard →
      state.guards.lookup task.uri = some guard)
    (alone : ∀ guard, task.stage.guard? = some guard → guard ∉ state.held)
    (attended : ∀ guard, task.stage = .queued guard → guard ∈ state.held) :
    Guarded (state.holding task) := by
  have grown : ∀ guard ∈ state.held, guard ∈ State.held (state.holding task) := by
    intro guard member
    obtain ⟨holder, present, holds⟩ := mem_held.mp member
    exact mem_held.mpr ⟨holder, List.mem_cons_of_mem task present, holds⟩
  obtain ⟨owner, registered, placed⟩ := guarded.owned
  refine ⟨?_, ?_, owner, registered, ?_⟩
  · cases holds : task.stage.guard? with
    | none =>
        simp only [held, holding, List.filterMap_cons, holds]
        exact guarded.exclusive
    | some guard =>
        simp only [held, holding, List.filterMap_cons, holds]
        exact List.nodup_cons.mpr ⟨alone guard holds, guarded.exclusive⟩
  · intro other member guard queued
    rcases List.mem_cons.mp member with here | there
    · rw [here] at queued
      exact grown guard (attended guard queued)
    · exact grown guard (guarded.attended other there guard queued)
  · intro other member guard stands
    rcases List.mem_cons.mp member with here | there
    · rw [here] at stands ⊢
      exact registered _ (mem_of_lookup_eq_some (listed guard stands))
    · exact placed other there guard stands

/-- When the holder of a guard ends, the guard is handed over, and all is well again. -/
theorem release {guard : Nat} (guarded : Guarded (state.holding task))
    (holds : task.stage.guard? = some guard) : Guarded (state.handOver guard) := by
  have holders : State.held (state.holding task) = guard :: state.held := by
    simp only [held, holding, List.filterMap_cons, holds]
  have exclusive := guarded.exclusive
  rw [holders] at exclusive
  obtain ⟨free, distinct⟩ := List.nodup_cons.mp exclusive
  obtain ⟨owner, listed, placed⟩ := guarded.owned
  rcases handOver_cases guard state with
    ⟨same, unqueued⟩ | ⟨before, uri, job, after, split, next⟩
  · rw [same]
    refine ⟨distinct, ?_, owner, listed, ?_⟩
    · intro other member place queued
      have attended := guarded.attended other (List.mem_cons_of_mem task member) place queued
      rw [holders] at attended
      rcases List.mem_cons.mp attended with here | there
      · rw [here] at queued
        exact absurd queued (unqueued other member)
      · exact there
    · intro other member
      exact placed other (List.mem_cons_of_mem task member)
  · have rest : (before ++ after).filterMap (fun task => task.stage.guard?) = state.held := by
      simp only [held, split, List.filterMap_append, List.filterMap_cons, Stage.guard?]
    have entered : Guarded (State.holding ⟨uri, job, .entering guard⟩
        { state with tasks := before ++ after }) := by
      have heldNext : State.held (State.holding ⟨uri, job, .entering guard⟩
          { state with tasks := before ++ after }) = guard :: state.held := by
        rw [← rest]
        simp only [held, holding, List.filterMap_cons, Stage.guard?]
      refine ⟨by rw [heldNext]; exact exclusive, ?_, owner, listed, ?_⟩
      · intro other member place queued
        rw [heldNext, ← holders]
        rcases List.mem_cons.mp member with here | there
        · rw [here] at queued
          cases queued
        · have present := List.mem_cons_of_mem task (mem_split split there)
          exact guarded.attended other present place queued
      · intro other member place stands
        rcases List.mem_cons.mp member with here | there
        · rw [here] at stands ⊢
          exact placed _ (List.mem_cons_of_mem task (mem_split_self split)) place stands
        · exact placed other (List.mem_cons_of_mem task (mem_split split there)) place stands
    rw [next]
    exact entered.push

theorem vacate (guarded : Guarded (state.holding task)) :
    Guarded (state.vacate task.stage) := by
  unfold State.vacate
  cases holds : task.stage.guard? with
  | none => exact guarded.remove holds
  | some guard => exact guarded.release holds

theorem cancel (guarded : Guarded state) (uri : Uri) : Guarded (state.cancel uri) := by
  cases listed : state.pending.lookup uri with
  | none =>
      rw [cancel_of_unlisted listed]
      exact guarded
  | some ticket =>
      have forgot : Guarded (state.forgetTimer uri) :=
        ⟨guarded.exclusive, guarded.attended, guarded.owned⟩
      obtain ⟨tasks, next, aborts⟩ := cancel_cases listed
      rw [next]
      cases aborts with
      | absent absent => exact forgot
      | asleep before after owner due split => exact (forgot.pull split).remove rfl
      | queued before after owner guard split =>
          refine push ((forgot.mark split (.aborted ticket)).add ?_ ?_ ?_)
          · exact nofun
          · exact nofun
          · exact nofun
      | called before after owner stage awake unqueued split =>
          exact forgot.mark split (.aborted ticket)

theorem drop (guarded : Guarded state) (remover : Task) : Guarded (state.drop remover) := by
  rcases drop_cases remover state with ⟨same, _⟩ | ⟨before, ticket, stage, after, split, next⟩
  · rw [same]
    exact guarded
  · rw [next]
    exact (guarded.pull split).vacate

theorem deliver {guard : Nat} (guarded : Guarded (state.holding task))
    (holds : task.stage.guard? = some guard) (notice : Notice) :
    Guarded (state.deliver task guard notice) := by
  rw [deliver_eq]
  refine Guarded.release ?_ holds
  obtain ⟨owner, listed, placed⟩ := guarded.owned
  refine ⟨guarded.exclusive, guarded.attended, owner, ?_, placed⟩
  intro entry member
  refine listed entry ?_
  change entry ∈ (if task.job.isRetirement then _ else _) at member
  split at member
  · exact (List.mem_filter.mp member).1
  · exact member

/-! ### Turns -/

/-- Asking for a guard, which is made if there is none, disturbs nobody. -/
theorem asked {entry : State} {uri : Uri} {guard : Nat} (guarded : Guarded state)
    (found : state.guardFor uri = (guard, entry)) : Guarded entry := by
  rcases guardFor_cases found with ⟨_, same⟩ | ⟨_, fresh, same⟩
  · rw [same]
    exact guarded
  · obtain ⟨owner, listed, placed⟩ := guarded.owned
    rw [same]
    refine ⟨guarded.exclusive, guarded.attended, fun other => if other = guard then uri
      else owner other, ?_, ?_⟩
    · intro entry member
      rcases List.mem_cons.mp member with here | there
      · rw [here]
        exact ⟨Nat.lt_succ_self guard, if_pos rfl⟩
      · obtain ⟨below, owned⟩ := listed entry there
        have different : entry.2 ≠ guard := by omega
        refine ⟨?_, ?_⟩
        · change entry.2 < guard + 1
          omega
        · exact (if_neg different).trans owned
    · intro other member place stands
      obtain ⟨below, owned⟩ := placed other member place stands
      have different : place ≠ guard := by omega
      refine ⟨?_, ?_⟩
      · change place < guard + 1
        omega
      · exact (if_neg different).trans owned

theorem admitted {entry : State} {guard : Nat} (guarded : Guarded (state.holding task))
    (admits : Admits task state guard entry) :
    Guarded (entry.holding { task with stage := .entering guard }) := by
  cases admits with
  | handed entering =>
      have holds : task.stage.guard? = some guard := by
        rw [entering]
        rfl
      exact guarded.restage (.entering guard) holds rfl
  | asks due entry timed found free =>
      have removed : Guarded state := guarded.remove (by rw [timed]; rfl)
      refine (removed.asked found).add ?_ ?_ ?_
      · intro other stands
        cases stands
        exact listed_of_asked found
      · intro other holds member
        cases holds
        rw [isHeld_iff.mpr member] at free
        cases free
      · intro other queued
        cases queued

theorem prepared {ready : State} {notice : Notice} {guard : Nat}
    (guarded : Guarded (state.holding { task with stage := .entering guard }))
    (prepares : Prepares task state ready notice) :
    Guarded (ready.holding { task with stage := .entering guard }) := by
  cases prepares with
  | validation ticket document job listed present =>
      exact ⟨guarded.exclusive, guarded.attended, guarded.owned⟩
  | retirement call job =>
      have cancelled := guarded.cancel task.uri
      have retires : task.job.isRetirement = true := by
        rw [job]
        rfl
      have apart : (state.holding { task with stage := .entering guard }).cancel task.uri =
          (state.cancel task.uri).holding { task with stage := .entering guard } :=
        cancel_holding state retires
      rw [apart] at cancelled
      exact cancelled

theorem turn {next : State} (guarded : Guarded (state.holding task))
    (turn : Turn task state next) : Guarded next := by
  cases turn with
  | queues due guard entry timed found taken =>
      have removed : Guarded state := guarded.remove (by rw [timed]; rfl)
      refine push ((removed.asked found).add ?_ ?_ ?_)
      · intro other stands
        cases stands
        exact listed_of_asked found
      · intro other holds
        cases holds
      · intro other queued
        cases queued
        exact isHeld_iff.mp taken
  | lapses guard entry admits clears unlisted =>
      exact (guarded.admitted admits).release rfl
  | skips guard ticket entry admits job listed closed =>
      have entered := guarded.admitted admits
      have forgot : Guarded (State.holding { task with stage := .entering guard }
          (entry.forgetTimer task.uri)) :=
        ⟨entered.exclusive, entered.attended, entered.owned⟩
      exact forgot.release rfl
  | waits guard notice entry ready admits prepares gated spent =>
      have entered := (guarded.admitted admits).prepared prepares
      exact (entered.restage (.waiting guard notice) rfl rfl).push
  | passes guard left notice entry ready admits prepares paid =>
      have entered := (guarded.admitted admits).prepared prepares
      have paidFor : Guarded (State.holding { task with stage := .entering guard }
          { ready with permits := left }) :=
        ⟨entered.exclusive, entered.attended, entered.owned⟩
      exact paidFor.deliver rfl notice
  | leaves guard notice permitted => exact guarded.deliver (by rw [permitted]; rfl) notice
  | drops ready =>
      have removed : Guarded state := guarded.remove (by rw [ready]; rfl)
      exact removed.drop task

/-! ### Calls -/

theorem addTimed {uri : Uri} {job : Job} {due : Nat} (guarded : Guarded state) :
    Guarded (state.holding ⟨uri, job, .timed due⟩) := by
  refine guarded.add ?_ ?_ ?_
  · intro guard stands
    cases stands
  · intro guard holds
    cases holds
  · intro guard queued
    cases queued

theorem schedule (guarded : Guarded state) (uri : Uri) : Guarded (state.schedule uri) := by
  have cancelled := guarded.cancel uri
  rw [schedule_eq]
  refine push (addTimed ?_)
  exact ⟨cancelled.exclusive, cancelled.attended, cancelled.owned⟩

theorem retire (guarded : Guarded state) (uri : Uri) : Guarded (state.retire uri) := by
  refine push (addTimed ?_)
  exact ⟨guarded.exclusive, guarded.attended, guarded.owned⟩

theorem grant (guarded : Guarded state) : Guarded state.grant := by
  rcases grant_cases state with
    ⟨next, _⟩ | ⟨before, uri, job, guard, notice, after, split, _, next⟩
  · rw [next]
    exact ⟨guarded.exclusive, guarded.attended, guarded.owned⟩
  · rw [next]
    exact ((guarded.pull split).restage (.permitted guard notice) rfl rfl).push

end Guarded

theorem guarded_initial (delay : UInt64) (gate : Option Uri) : Guarded (.initial delay gate) := by
  refine ⟨List.nodup_nil, ?_, fun _ => ⟨""⟩, ?_, ?_⟩
  · intro task member
    cases member
  · intro entry member
    cases member
  · intro task member
    cases member

theorem preserved_guarded : Preserved Guarded where
  setting _ _ _ _ guarded := ⟨guarded.exclusive, guarded.attended, guarded.owned⟩
  schedule uri _ guarded := guarded.schedule uri
  retire uri _ guarded := guarded.retire uri
  cancel uri _ guarded := guarded.cancel uri
  grant guarded := guarded.grant
  turn stepped guarded := by
    obtain ⟨before, task, after, split, _runnable, _earlier, turn⟩ := step?_turn stepped
    exact (guarded.pull split).turn turn

theorem Reachable.guarded {state : State} (reachable : Reachable state) : Guarded state :=
  preserved_guarded.reachable guarded_initial reachable

/-! ### Permits -/

/-- Only tasks of the gated document are inside, and they wait for a permit only if there is
none. -/
structure Metered (state : State) : Prop where
  gated : ∀ task ∈ state.tasks, task.stage.isInside = true → state.gate = some task.uri
  spent : ∀ task ∈ state.tasks, task.stage.isWaiting = true → state.permits = 0

private theorem Metered.remnant {state : State} {task : Task} (metered : Metered state)
    (remnant : Remnant state.tasks task) :
    (task.stage.isInside = true → state.gate = some task.uri) ∧
      (task.stage.isWaiting = true → state.permits = 0) := by
  cases remnant with
  | kept member => exact ⟨metered.gated task member, metered.spent task member⟩
  | marked awake member =>
      have gated := metered.gated _ member
      have spent := metered.spent _ member
      exact ⟨gated, spent⟩
  | removal member => exact ⟨nofun, nofun⟩

theorem Metered.turn {state next : State} (metered : Metered state)
    (stepped : state.step? = some next) : Metered next := by
  have kept := sameSetting_step? stepped
  obtain ⟨before, task, after, split, _runnable, _earlier, turn⟩ := step?_turn stepped
  have fewer : next.permits ≤ state.permits := turn.permits_le
  have rest : Metered { state with tasks := before ++ after } :=
    ⟨fun other member => metered.gated other (mem_split split member),
      fun other member => metered.spent other (mem_split split member)⟩
  constructor
  · intro other member inside
    rcases turn.mem_tasks member with
      here | ⟨guard, entering⟩ | ⟨guard, queued⟩ | ⟨guard, notice, waits, gated, _⟩
    · rw [kept.gate]
      exact (rest.remnant here).1 inside
    · rw [entering] at inside
      cases inside
    · rw [queued] at inside
      cases inside
    · rw [waits]
      exact gated
  · intro other member waiting
    rcases turn.mem_tasks member with
      here | ⟨guard, entering⟩ | ⟨guard, queued⟩ | ⟨guard, notice, _, _, spent⟩
    · have none : state.permits = 0 := (rest.remnant here).2 waiting
      omega
    · rw [entering] at waiting
      cases waiting
    · rw [queued] at waiting
      cases waiting
    · exact spent

theorem Metered.cancel {state : State} (metered : Metered state) (uri : Uri) :
    Metered (state.cancel uri) := by
  have gate := (sameSetting_cancel uri state).gate
  have permits : (state.cancel uri).permits = state.permits := by
    rw [cancel_eq]
    rfl
  constructor
  · intro task member inside
    rw [gate]
    exact (metered.remnant (mem_of_cancel member)).1 inside
  · intro task member waiting
    rw [permits]
    exact (metered.remnant (mem_of_cancel member)).2 waiting

theorem Metered.push {state : State} {uri : Uri} {job : Job} {due : Nat}
    (metered : Metered state) : Metered (state.push ⟨uri, job, .timed due⟩) := by
  constructor
  · intro task member inside
    rcases List.mem_append.mp member with here | last
    · exact metered.gated task here inside
    · rw [List.mem_singleton.mp last] at inside
      cases inside
  · intro task member waiting
    rcases List.mem_append.mp member with here | last
    · exact metered.spent task here waiting
    · rw [List.mem_singleton.mp last] at waiting
      cases waiting

theorem Metered.grant {state : State} (metered : Metered state) : Metered state.grant := by
  rcases grant_cases state with
    ⟨next, unclaimed⟩ | ⟨before, uri, job, guard, notice, after, split, _, next⟩
  · rw [next]
    refine ⟨metered.gated, ?_⟩
    intro task member waiting
    rw [unclaimed task member] at waiting
    cases waiting
  · rw [next]
    have gated := metered.gated _ (mem_split_self split) rfl
    constructor
    · intro task member inside
      rcases List.mem_append.mp member with here | last
      · exact metered.gated task (mem_split split here) inside
      · rw [List.mem_singleton.mp last]
        exact gated
    · intro task member waiting
      rcases List.mem_append.mp member with here | last
      · exact metered.spent task (mem_split split here) waiting
      · rw [List.mem_singleton.mp last] at waiting
        cases waiting

theorem preserved_metered : Preserved Metered where
  setting _ _ _ _ metered := ⟨metered.gated, metered.spent⟩
  schedule uri _ metered := by
    have cancelled := metered.cancel uri
    rw [schedule_eq]
    refine Metered.push ?_
    exact ⟨cancelled.gated, cancelled.spent⟩
  retire uri _ metered := by
    refine Metered.push ?_
    exact ⟨metered.gated, metered.spent⟩
  cancel uri _ metered := metered.cancel uri
  grant metered := metered.grant
  turn stepped metered := metered.turn stepped

theorem Reachable.metered {state : State} (reachable : Reachable state) : Metered state :=
  preserved_metered.reachable
    (fun _ _ => ⟨fun _ member => (nomatch member), fun _ member => (nomatch member)⟩) reachable

end State

end TemplateServer.Validation
