import TemplateServer.Proofs.Validation.Desk
import TemplateServer.Proofs.Validation.Outcome

/-!
Runs that wait until all is settled. A permit that is added, and time that passes, let tasks go on
that could not. If this happens only where no other task can go on, those that were handed a permit
always come before the rest. Main statement: then nobody publishes ahead of those in line, and all
calls that settle make such a run.
-/

namespace TemplateServer.Validation

/-- Whether a move lets tasks go on that could not: by permits, or by time. -/
def Move.frees : Move → Bool
  | .call (.release _) _ => true
  | .call _ _ => false
  | .turn => false
  | .pass _ => true

/-- Whether those that were handed a permit come before all others that can go on. -/
def Polite (now : Nat) (tasks : List Task) : Prop :=
  tasks.Pairwise fun first second => second.stage.granted?.isSome = true →
    first.stage.isRunnable now = true → first.stage.granted?.isSome = true

variable {now : Nat} {tasks : List Task}

theorem Polite.append {task : Task} (polite : Polite now tasks)
    (ungranted : task.stage.granted? = none) : Polite now (tasks ++ [task]) := by
  refine List.pairwise_append.mpr ⟨polite, List.pairwise_singleton _ _, ?_⟩
  intro first _ second last granted
  rw [List.mem_singleton.mp last, ungranted] at granted
  cases granted

theorem Polite.remove {before after : List Task} {task : Task} (polite : Polite now tasks)
    (split : tasks = before ++ task :: after) : Polite now (before ++ after) := by
  rw [split] at polite
  exact polite.sublist ((List.sublist_cons_self task after).append_left before)

/-- What a task is to do makes no difference to the order. -/
theorem Polite.mark {before after : List Task} {uri : Uri} {job : Job} {stage : Stage}
    (polite : Polite now tasks) (split : tasks = before ++ ⟨uri, job, stage⟩ :: after)
    (other : Job) : Polite now (before ++ ⟨uri, other, stage⟩ :: after) := by
  rw [split] at polite
  unfold Polite at polite ⊢
  simp only [List.pairwise_append, List.pairwise_cons, List.mem_cons, forall_eq_or_imp]
    at polite ⊢
  exact polite

theorem polite_of_granted (granted : ∀ task ∈ tasks, task.stage.isRunnable now = true →
    task.stage.granted?.isSome = true) : Polite now tasks := by
  refine List.pairwise_of_forall_mem_list ?_
  intro first member second _ _ runnable
  exact granted first member runnable

theorem isRunnable_of_granted? {stage : Stage} (granted : stage.granted?.isSome = true) (now : Nat) :
    stage.isRunnable now = true := by
  cases stage with
  | permitted guard notice => rfl
  | _ => cases granted

/-- If the first task that can go on was not handed a permit, nobody was. -/
theorem Polite.ungranted {before after : List Task} {task : Task} (polite : Polite now tasks)
    (split : tasks = before ++ task :: after) (runnable : task.stage.isRunnable now = true)
    (earlier : ∀ other ∈ before, other.stage.isRunnable now = false)
    (ungranted : task.stage.granted? = none) :
    ∀ other ∈ tasks, other.stage.granted? = none := by
  intro other member
  cases granted : other.stage.granted? with
  | none => rfl
  | some notice =>
      have handed : other.stage.granted?.isSome = true := by rw [granted]; rfl
      rw [split] at member polite
      rcases List.mem_append.mp member with sooner | later
      · have idle := earlier other sooner
        rw [isRunnable_of_granted? handed] at idle
        cases idle
      · rcases List.mem_cons.mp later with here | there
        · rw [here, ungranted] at granted
          cases granted
        · have ordered := (List.pairwise_cons.mp (List.pairwise_append.mp polite).2.1).1 other there
          have also := ordered handed runnable
          rw [ungranted] at also
          cases also

namespace State

variable {state next : State} {uri : Uri}

theorem polite_handOver (guard : Nat) (polite : Polite now state.tasks) :
    Polite now (state.handOver guard).tasks := by
  rcases handOver_cases guard state with ⟨same, _⟩ | ⟨before, owner, job, after, split, next⟩
  · rw [same]
    exact polite
  · rw [next]
    exact (polite.remove split).append rfl

theorem polite_vacate (stage : Stage) (polite : Polite now state.tasks) :
    Polite now (state.vacate stage).tasks := by
  unfold vacate
  cases stage.guard? with
  | none => exact polite
  | some guard => exact polite_handOver guard polite

theorem polite_cancel (uri : Uri) (polite : Polite now state.tasks) :
    Polite now (state.cancel uri).tasks := by
  cases listed : state.pending.lookup uri with
  | none =>
      rw [cancel_of_unlisted listed]
      exact polite
  | some ticket =>
      obtain ⟨tasks, next, aborts⟩ := cancel_cases listed
      rw [next]
      cases aborts with
      | absent absent => exact polite
      | asleep before after owner due split => exact polite.remove split
      | queued before after owner guard split =>
          exact (polite.mark split (.aborted ticket)).append rfl
      | called before after owner stage awake unqueued split =>
          exact polite.mark split (.aborted ticket)

theorem polite_drop (remover : Task) (polite : Polite now state.tasks) :
    Polite now (state.drop remover).tasks := by
  rcases drop_cases remover state with ⟨same, _⟩ | ⟨before, ticket, stage, after, split, next⟩
  · rw [same]
    exact polite
  · rw [next]
    exact polite_vacate stage (polite.remove split)

/-- A turn hands no permits, and whoever it moves on comes last. -/
theorem Turn.polite {task : Task} {base : State} (turn : Turn task base next)
    (polite : Polite now base.tasks) : Polite now next.tasks := by
  have admitted {guard : Nat} {entry : State} (admits : Admits task base guard entry) :
      Polite now entry.tasks := by
    rw [admits.tasks_eq]
    exact polite
  have prepared {guard : Nat} {notice : Notice} {entry ready : State}
      (admits : Admits task base guard entry) (prepares : Prepares task entry ready notice) :
      Polite now ready.tasks := by
    cases prepares with
    | validation ticket document job listed present =>
        have entered := admitted admits
        exact entered
    | retirement call job => exact polite_cancel task.uri (admitted admits)
  cases turn with
  | queues due guard entry timed asked held =>
      have entered : Polite now entry.tasks := by
        rw [guardFor_tasks asked]
        exact polite
      exact entered.append rfl
  | lapses guard entry admits clears unlisted => exact polite_handOver guard (admitted admits)
  | skips guard ticket entry admits job listed closed =>
      have entered := admitted admits
      exact polite_handOver guard entered
  | waits guard notice entry ready admits prepares gated spent =>
      exact (prepared admits prepares).append rfl
  | passes guard left notice entry ready admits prepares paid =>
      have ready := prepared admits prepares
      rw [deliver_eq]
      exact polite_handOver guard ready
  | leaves guard notice permitted =>
      rw [deliver_eq]
      exact polite_handOver guard polite
  | drops ready => exact polite_drop task polite

theorem polite_turn (stepped : state.step? = some next) (polite : Polite state.now state.tasks) :
    Polite next.now next.tasks := by
  obtain ⟨before, task, after, split, _, _, turn⟩ := step?_turn stepped
  rw [(sameSetting_step? stepped).now]
  exact turn.polite (polite.remove split)

theorem Admits.granted?_eq {task : Task} {base entry : State} {guard : Nat}
    (admits : Admits task base guard entry) : task.stage.granted? = none := by
  cases admits with
  | asks due entry timed asked free =>
      rw [timed]
      rfl
  | handed entering =>
      rw [entering]
      rfl

theorem Prepares.published_eq {task : Task} {entry ready : State} {notice : Notice}
    (prepares : Prepares task entry ready notice) : ready.published = entry.published := by
  cases prepares with
  | validation ticket document job listed present => rfl
  | retirement call job =>
      rw [cancel_eq]
      rfl

/-- In a turn of polite tasks, whoever publishes with a permit of his own finds nobody in line. -/
theorem Reachable.orderly_turn (reachable : Reachable state) (stepped : state.step? = some next)
    (polite : Polite state.now state.tasks) (uri : Uri) :
    ¬(state.docket uri).Overtakes (next.docket uri) := by
  rintro ⟨occupied, same, told⟩
  obtain ⟨before, task, after, split, runnable, earlier, turn⟩ := step?_turn stepped
  have quiet (published : next.published = state.published) : False := by
    apply told
    unfold docket Docket.of
    rw [published]
  by_cases owned : task.uri = uri
  · cases turn with
    | queues due guard entry timed asked held =>
        apply quiet
        rcases guardFor_cases asked with ⟨_, kept⟩ | ⟨_, _, kept⟩
        · rw [kept]
          rfl
        · rw [kept]
          rfl
    | drops ready =>
        apply quiet
        rw [drop_eq]
    | lapses guard entry admits clears unlisted =>
        apply quiet
        rw [handOver_eq]
        exact admits.published_eq
    | skips guard ticket entry admits job listed closed =>
        apply quiet
        rw [handOver_eq]
        exact admits.published_eq
    | waits guard notice entry ready admits prepares gated spent =>
        exact quiet (prepares.published_eq.trans admits.published_eq)
    | passes guard left notice entry ready admits prepares paid =>
        -- somebody is in line, and waits for a permit: so there are none
        obtain ⟨item, member⟩ := List.exists_mem_of_ne_nil _ occupied
        obtain ⟨stage, present, inside, tells⟩ := mem_of_mem_line member
        have metered := reachable.metered
        have gated : state.gate = some uri := metered.gated _ present inside
        have ungranted := polite.ungranted split runnable earlier admits.granted?_eq _ present
        have awaits : stage.isWaiting = true := by
          cases stage with
          | permitted guard notice => cases ungranted
          | waiting guard notice => rfl
          | _ => cases inside
        have spent : state.permits = 0 := metered.spent _ present awaits
        have held := prepares.permits_eq.trans admits.permits_eq
        have setting := (admits.sameSetting.trans prepares.sameSetting).gate
        change ready.permits = state.permits at held
        change ready.gate = state.gate at setting
        rcases paid with ⟨_, taken⟩ | ⟨free, _⟩
        · omega
        · exact free (by rw [setting, gated, owned])
    | leaves guard notice permitted =>
        subst owned
        have line := docket_pull_permitted split earlier permitted
        rw [docket_deliver, if_pos rfl, line] at same
        have shorter := congrArg List.length same
        simp [Docket.tell, Docket.line] at shorter
  · apply told
    rw [turn.docket_of_ne (reachable.timers.pull split) owned]
    unfold docket
    rw [split, Docket.of_split_of_silent before after fun same => absurd same owned]

/-! ### Patient runs -/

/-- Whether permits are added and time passes only where no task can go on, all along a run. -/
def Patient (state : State) (moves : List Move) : Prop :=
  ∀ before move, before ++ [move] <+: moves → move.frees = true →
    (state.follow before).step? = none

theorem polite_of_settled (settled : state.step? = none) (later : Nat) :
    Polite later state.tasks := by
  have idle := step?_eq_none_iff.mp settled
  refine List.pairwise_of_forall_mem_list ?_
  intro first _ second member granted
  have stuck := idle second member
  rw [isRunnable_of_granted? granted] at stuck
  cases stuck

theorem polite_release (settled : state.step? = none) (count : Nat) :
    Polite state.now (state.release count).tasks := by
  have kept := @release_invariant (fun later => later.now = state.now ∧
    ∀ task ∈ later.tasks, task.stage.isRunnable state.now = true →
      task.stage.granted?.isSome = true) (by
    rintro later ⟨now, granted⟩
    refine ⟨(sameSetting_grant later).now.trans now, ?_⟩
    intro task member runnable
    rcases grant_cases later with
      ⟨next, _⟩ | ⟨before, owner, job, guard, notice, after, split, _, next⟩
    · rw [next] at member
      exact granted task member runnable
    · rw [next] at member
      rcases List.mem_append.mp member with old | last
      · exact granted task (mem_split split old) runnable
      · rw [List.mem_singleton.mp last]
        rfl) state ⟨rfl, by
    intro task member runnable
    rw [step?_eq_none_iff.mp settled task member] at runnable
    cases runnable⟩ count
  exact polite_of_granted kept.2

theorem polite_move {move : Move} (polite : Polite state.now state.tasks)
    (waits : move.frees = true → state.step? = none) :
    Polite (state.move move).now (state.move move).tasks := by
  cases move with
  | turn =>
      cases stepped : state.step? with
      | none =>
          rw [move_turn_of_settled stepped]
          exact polite
      | some next =>
          rw [move_turn stepped]
          exact polite_turn stepped polite
  | pass time => exact polite_of_settled (waits rfl) _
  | call command instant =>
      cases command with
      | schedule uri =>
          have cancelled := polite_cancel uri polite
          change Polite (state.schedule uri).now (state.schedule uri).tasks
          rw [schedule_eq]
          change Polite (state.cancel uri).now _
          rw [(sameSetting_cancel uri state).now]
          exact cancelled.append rfl
      | retire uri => exact polite.append rfl
      | shutdown =>
          have kept := @shutdown_invariant (fun later => later.now = state.now ∧
            Polite state.now later.tasks) (by
              rintro later uri ⟨now, polite⟩
              exact ⟨(sameSetting_cancel uri later).now.trans now, polite_cancel uri polite⟩)
            state ⟨rfl, polite⟩
          change Polite state.shutdown.now state.shutdown.tasks
          rw [kept.1]
          exact kept.2
      | release count =>
          change Polite (state.release count).now _
          rw [(sameSetting_release count state).now]
          exact polite_release (waits rfl) count
      | advance duration => cases instant
      | setDelay delay =>
          have kept : ∀ count : UInt64, Polite (State.now { state with delay := count })
              (State.tasks { state with delay := count }) := fun _ => polite
          exact kept delay.milliseconds
      | _ => exact polite

theorem patient_nil (state : State) : state.Patient [] :=
  forall_moves_nil

theorem patient_cons {move : Move} {moves : List Move} :
    state.Patient (move :: moves) ↔
      (move.frees = true → state.step? = none) ∧ (state.move move).Patient moves :=
  forall_moves_cons

/-- In a patient run nobody publishes ahead of those in line. -/
theorem Patient.orderly {moves : List Move} (patient : state.Patient moves)
    (reachable : Reachable state) (polite : Polite state.now state.tasks) :
    state.Orderly uri moves := by
  refine @orderly_of_invariant uri state moves (fun state moves =>
    Polite state.now state.tasks ∧ state.Patient moves) ?_ reachable ⟨polite, patient⟩
  rintro state move moves reachable ⟨polite, patient⟩
  obtain ⟨waits, rest⟩ := patient_cons.mp patient
  refine ⟨⟨polite_move polite waits, rest⟩, ?_⟩
  by_cases isTurn : move = .turn
  · subst isTurn
    cases stepped : state.step? with
    | none =>
        rw [move_turn_of_settled stepped]
        exact fun overtakes => overtakes.2.2 rfl
    | some next =>
        rw [move_turn stepped]
        exact reachable.orderly_turn stepped polite uri
  · intro overtakes
    exact overtakes.2.2 (docket_move_of_call reachable.timers isTurn).2

/-! ### Calls that settle make patient runs -/

theorem Patient.append {first second : List Move} (early : state.Patient first)
    (late : (state.follow first).Patient second) : state.Patient (first ++ second) := by
  induction first generalizing state with
  | nil => exact late
  | cons move moves ih =>
      obtain ⟨waits, rest⟩ := patient_cons.mp early
      exact patient_cons.mpr ⟨waits, ih rest late⟩

/-- Patient moves that lead from one state to another and make just these calls. -/
def LeadsPatiently (state : State) (calls : List Command) (next : State) : Prop :=
  ∃ moves, state.follow moves = next ∧ moves.filterMap Move.command? = calls ∧ state.Patient moves

theorem LeadsPatiently.trans {first second third : State} {calls more : List Command}
    (left : LeadsPatiently first calls second) (right : LeadsPatiently second more third) :
    LeadsPatiently first (calls ++ more) third := by
  obtain ⟨moves, rfl, made, patient⟩ := left
  obtain ⟨others, rfl, madeToo, patientToo⟩ := right
  refine ⟨moves ++ others, follow_append _ _ _, ?_, patient.append patientToo⟩
  rw [List.filterMap_append, made, madeToo]

theorem leadsPatiently_settle (state : State) : LeadsPatiently state [] state.settle := by
  have turns : ∀ limit (current : State), LeadsPatiently current [] (current.run limit) := by
    intro limit
    induction limit with
    | zero => exact fun current => ⟨[], rfl, rfl, patient_nil current⟩
    | succ limit ih =>
        intro current
        unfold run
        cases stepped : current.step? with
        | none => exact ⟨[], rfl, rfl, patient_nil current⟩
        | some later =>
            have kept : Move.frees .turn = true → current.step? = none := by
              intro frees
              cases frees
            have turn : LeadsPatiently current [] later :=
              ⟨[.turn], move_turn stepped, rfl, patient_cons.mpr ⟨kept, patient_nil _⟩⟩
            exact turn.trans (ih later)
  exact turns state.steps state

theorem leadsPatiently_pass (settled : state.step? = none) (time : Nat) :
    LeadsPatiently state [] { state with now := max state.now time } :=
  ⟨[.pass time], rfl, rfl, patient_cons.mpr ⟨fun _ => settled, patient_nil _⟩⟩

theorem leadsPatiently_advance (duration : Nat) (state : State) :
    LeadsPatiently state [] (state.advance duration) := by
  have passed : ∀ (times : List Nat) (current : State), current.step? = none →
      LeadsPatiently current [] (times.foldl passTo current) ∧
        (times.foldl passTo current).step? = none := by
    intro times
    induction times with
    | nil => exact fun current settled => ⟨⟨[], rfl, rfl, patient_nil current⟩, settled⟩
    | cons time times ih =>
        intro current settled
        obtain ⟨rest, done⟩ := ih (current.passTo time) (settle_settles _)
        have first := (leadsPatiently_pass settled time).trans (leadsPatiently_settle _)
        exact ⟨first.trans rest, done⟩
  by_cases still : duration = 0
  · have same : state.advance duration = state := if_pos still
    rw [same]
    exact ⟨[], rfl, rfl, patient_nil state⟩
  · obtain ⟨rest, done⟩ := passed (state.dueBefore (state.now + duration)) state.settle
      (settle_settles state)
    have arrived := leadsPatiently_pass done (state.now + duration)
    rw [Nat.max_eq_right (now_dueBefore_le duration state)] at arrived
    unfold advance
    rw [if_neg still]
    exact (leadsPatiently_settle state).trans (rest.trans arrived)

theorem leadsPatiently_apply (call : Command) (settled : state.step? = none) :
    LeadsPatiently state ([call].filter Command.isInstant) (state.apply true call).2 := by
  have performed :
      LeadsPatiently state ([call].filter Command.isInstant) (state.perform call).2 := by
    cases instant : call.isInstant with
    | true =>
        rw [List.filter_cons_of_pos instant]
        exact ⟨[.call call instant], rfl, rfl, patient_cons.mpr ⟨fun _ => settled, patient_nil _⟩⟩
    | false =>
        rw [List.filter_cons_of_neg (by rw [instant]; exact Bool.false_ne_true)]
        cases call with
        | advance duration => exact leadsPatiently_advance duration state
        | _ => cases instant
  have done := performed.trans (leadsPatiently_settle (state.perform call).2)
  rw [List.append_nil] at done
  exact done

/-- Calls that settle are a patient run that makes these calls in this order. -/
theorem leadsPatiently_applyAll (calls : List Command) (settled : state.step? = none) :
    LeadsPatiently state (calls.filter Command.isInstant)
      (state.applyAll (calls.map (Prod.mk true))) := by
  induction calls generalizing state with
  | nil => exact ⟨[], rfl, rfl, patient_nil state⟩
  | cons call calls ih =>
      have first := leadsPatiently_apply call settled
      have whole := first.trans (@ih (state.apply true call).2 (settle_settles _))
      rw [← List.filter_append] at whole
      exact whole

end State

end TemplateServer.Validation
