import Mathlib.Data.List.Sort
import TemplateServer.Proofs.Validation.Debounce
import TemplateServer.Proofs.Validation.Mirror

/-!
Documents do not interfere. A run is compared with the one in which all calls about other documents
are left out: after every call the second mirrors the first, since the turns of other tasks are not
seen and those of the document's own tasks are the same on both sides. Main statement: what is
published about a document, its timer, its text and the answers to its calls are the same in both
runs.
-/

namespace TemplateServer.Validation

def Command.subject? : Command → Option Uri
  | .openDocument document => some document.uri
  | .changeDocument document => some document.uri
  | .closeDocument uri => some uri
  | .schedule uri => some uri
  | .retire uri => some uri
  | .isPending uri => some uri
  | .setDelay _ => none
  | .advance _ => none
  | .release _ => none
  | .shutdown => none
  | .idle => none

/-- The call if it is not about another document, and no call otherwise. -/
def Command.only (uri : Uri) (command : Command) : Command :=
  match command.subject? with
  | some other => if other = uri then command else .idle
  | none => command

/-- The same calls without those about other documents; settling stays where it was. -/
def onlyAbout (uri : Uri) (steps : List (Bool × Command)) : List (Bool × Command) :=
  steps.map fun step => (step.1, step.2.only uri)

namespace State

variable {uri : Uri} {numbers : Numbering} {state own : State}

/-! ### Settling -/

theorem Leads.reachable {calls : List Command} {next : State} (leads : Leads state calls next)
    (reachable : Reachable state) : Reachable next := by
  obtain ⟨moves, reached, _⟩ := leads
  rw [← reached]
  exact reachable.follow moves

theorem leads_step? {next : State} (stepped : state.step? = some next) : Leads state [] next :=
  ⟨[.turn], move_turn stepped, rfl⟩

/-- A turn of the whole state is a turn in the mirror, or is not seen there. -/
theorem Mirrors.turn {next : State} (mirrors : Mirrors uri numbers state own)
    (reachable : Reachable state) (alone : Reachable own) (stepped : state.step? = some next) :
    ∃ others ownNext, (ownNext = own ∨ own.step? = some ownNext) ∧
      Mirrors uri others next ownNext := by
  unfold step? at stepped
  cases found : state.tasks.find? fun task => task.stage.isRunnable state.now with
  | none =>
      rw [found] at stepped
      cases stepped
  | some task =>
      obtain ⟨runnable, before, after, split, erased, earlier⟩ := find?_split found
      have timers := reachable.timers.pull split
      have guarded := reachable.guarded.pull split
      rw [found] at stepped
      simp only [erased, Option.some.injEq] at stepped
      rw [← stepped]
      by_cases mine : task.uri = uri
      · have whole : own.tasks = reflect uri numbers before ++
            task.renumber numbers :: reflect uri numbers after := by
          rw [mirrors.tasks, split, reflect_append, reflect_cons_of_eq mine]
        have idle : ∀ image ∈ reflect uri numbers before,
            ¬image.stage.isRunnable own.now = true := by
          intro image member
          obtain ⟨other, present, _, same⟩ := mem_reflect.mp member
          rw [← same, mirrors.now]
          change ¬(other.stage.renumber numbers).isRunnable state.now = true
          rw [Stage.isRunnable_renumber, earlier other present]
          exact Bool.false_ne_true
        have ready : (task.renumber numbers).stage.isRunnable own.now = true := by
          rw [mirrors.now]
          exact (Stage.isRunnable_renumber state.now task.stage).trans runnable
        have ownFound : (own.tasks.find? fun task => task.stage.isRunnable own.now) =
            some (task.renumber numbers) := by
          rw [whole, List.find?_append, List.find?_eq_none.mpr idle, List.find?_cons, ready]
          rfl
        have ownErased : (own.tasks.eraseP fun task => task.stage.isRunnable own.now) =
            reflect uri numbers (before ++ after) := by
          rw [whole, List.eraseP_append_right _ idle, List.eraseP_cons, ready, cond_true,
            reflect_append]
        have pulled := mirrors.setTasks (before ++ after)
        have guardedToo := alone.guarded.pull whole
        rw [← reflect_append] at guardedToo
        obtain ⟨others, resumed⟩ := pulled.resume mine runnable timers guarded guardedToo
        refine ⟨others, _, Or.inr ?_, resumed⟩
        unfold step?
        rw [ownFound, ownErased]
      · have turn := resume_turn { state with tasks := before ++ after } runnable
        have same := turn.share_eq timers guarded mine
        exact ⟨numbers, own, Or.inl rfl, mirrors.of_share (same.trans (share_split split mine))⟩

theorem Mirrors.settled (mirrors : Mirrors uri numbers state own) (settled : state.step? = none) :
    own.step? = none := by
  have idle := step?_eq_none_iff.mp settled
  apply step?_eq_none_iff.mpr
  intro image member
  rw [mirrors.tasks] at member
  obtain ⟨task, present, _, same⟩ := mem_reflect.mp member
  rw [← same, mirrors.now]
  exact (Stage.isRunnable_renumber state.now task.stage).trans (idle task present)

theorem Mirrors.settle (mirrors : Mirrors uri numbers state own) (reachable : Reachable state)
    (alone : Reachable own) : ∃ others, Mirrors uri others state.settle own.settle := by
  induction bound : state.steps using Nat.strong_induction_on generalizing state own numbers with
  | h bound ih =>
      cases stepped : state.step? with
      | none =>
          rw [settle_of_settled stepped, settle_of_settled (mirrors.settled stepped)]
          exact ⟨numbers, mirrors⟩
      | some next =>
          obtain ⟨others, ownNext, taken, turned⟩ := mirrors.turn reachable alone stepped
          have less := steps_lt_of_step? stepped
          rw [bound] at less
          have onward := (leads_step? stepped).reachable reachable
          rw [settle_eq_settle stepped]
          rcases taken with same | ownStepped
          · rw [same] at turned
            exact ih next.steps less turned onward alone rfl
          · rw [settle_eq_settle ownStepped]
            exact ih next.steps less turned onward ((leads_step? ownStepped).reachable alone) rfl

/-! ### Time that passes -/

theorem Mirrors.pass (mirrors : Mirrors uri numbers state own) (time : Nat) :
    Mirrors uri numbers { state with now := max state.now time }
      { own with now := max own.now time } :=
  { mirrors with now := by rw [mirrors.now] }

theorem Mirrors.passAll (times : List Nat) (mirrors : Mirrors uri numbers state own)
    (reachable : Reachable state) (alone : Reachable own) :
    ∃ others, Mirrors uri others (times.foldl State.passTo state) (times.foldl State.passTo own) := by
  induction times generalizing state own numbers with
  | nil => exact ⟨numbers, mirrors⟩
  | cons time times ih =>
      obtain ⟨others, passed⟩ := (mirrors.pass time).settle
        ((leads_pass time state).reachable reachable) ((leads_pass time own).reachable alone)
      exact ih passed ((leads_passTo state time).reachable reachable)
        ((leads_passTo own time).reachable alone)

/-- Whether the timers that run out before a time do so at some of these times. -/
def RingsAt (times : List Nat) (target : Nat) (state : State) : Prop :=
  ∀ task ∈ state.tasks, ∀ due, task.stage = .timed due → due < target → due ∈ times

theorem RingsAt.settle {times : List Nat} {target : Nat} (rings : RingsAt times target state) :
    RingsAt times target state.settle := by
  apply settle_invariant _ rings
  intro current next stepped held task member due timed early
  obtain ⟨before, mover, after, split, _, _, turn⟩ := step?_turn stepped
  rcases turn.mem_tasks member with
    old | ⟨guard, entering⟩ | ⟨guard, queued⟩ | ⟨guard, notice, waiting, _, _⟩
  · exact held task (mem_split split (old.mem_of_timed timed)) due timed early
  · rw [entering] at timed
    cases timed
  · rw [queued] at timed
    cases timed
  · rw [waiting] at timed
    cases timed

theorem due_of_settled {task : Task} {due : Nat} (settled : state.step? = none)
    (member : task ∈ state.tasks) (timed : task.stage = .timed due) : state.now < due := by
  have idle := step?_eq_none_iff.mp settled task member
  rw [timed] at idle
  exact Nat.lt_of_not_le (of_decide_eq_false idle)

/-- Nothing happens at a time when nothing is due. -/
theorem passTo_of_early (settled : state.step? = none) (time : Nat)
    (early : ∀ task ∈ state.tasks, ∀ due, task.stage = .timed due → time < due) :
    state.passTo time = { state with now := max state.now time } := by
  apply settle_of_settled
  have idle := step?_eq_none_iff.mp settled
  apply step?_eq_none_iff.mpr
  intro task member
  have unready := idle task member
  cases stage : task.stage with
  | timed due =>
      have later := early task member due stage
      have notYet := due_of_settled settled member stage
      exact decide_eq_false (by change ¬due ≤ max state.now time; omega)
  | queued guard => rfl
  | entering guard =>
      rw [stage] at unready
      cases unready
  | waiting guard notice => rfl
  | permitted guard notice =>
      rw [stage] at unready
      cases unready
  | ready =>
      rw [stage] at unready
      cases unready

theorem now_passTo (state : State) (time : Nat) : (state.passTo time).now = max state.now time :=
  now_run _ _

/-- It makes no difference to stop on the way to the first time when something is due. -/
theorem passTo_passTo {time later : Nat} (settled : state.step? = none) (onward : time ≤ later)
    (first : ∀ task ∈ state.tasks, ∀ due, task.stage = .timed due → later ≤ due) :
    (state.passTo time).passTo later = state.passTo later := by
  rcases Nat.lt_or_eq_of_le onward with before | same
  · have stopped := passTo_of_early settled time fun task member due timed =>
      Nat.lt_of_lt_of_le before (first task member due timed)
    rw [stopped]
    unfold passTo
    congr 2
    change max (max state.now time) later = max state.now later
    omega
  · rw [same]
    have passed := now_passTo state later
    conv =>
      lhs
      rw [passTo, passed, Nat.max_eq_left (Nat.le_max_right _ _), ← passed]
    exact settle_of_settled (settle_settles _)

def setNow (time : Nat) (state : State) : State :=
  { state with now := time }

/-- Stops at which nothing is due may be left out. -/
theorem passAll_of_sublist {times stops : List Nat} {target : Nat} (some : stops.Sublist times)
    (sorted : times.Pairwise (· ≤ ·)) (early : ∀ time ∈ times, time < target)
    (settled : state.step? = none) (rings : RingsAt stops target state) :
    (times.foldl passTo state).setNow target = (stops.foldl passTo state).setNow target := by
  induction some generalizing state with
  | slnil => rfl
  | @cons stops times time some ih =>
      obtain ⟨least, rest⟩ := List.pairwise_cons.mp sorted
      have soon := early time List.mem_cons_self
      have passed : RingsAt stops target (state.passTo time) :=
        @RingsAt.settle { state with now := max state.now time } _ _ rings
      have onward := @ih (state.passTo time) rest
        (fun other member => early other (List.mem_cons_of_mem time member)) (settle_settles _) passed
      rw [List.foldl_cons, onward]
      cases stops with
      | nil =>
          have still := passTo_of_early settled time (by
            intro task member due timed
            apply Nat.lt_of_not_le
            intro before
            cases rings task member due timed (by omega))
          rw [still]
          rfl
      | cons stop stops =>
          have later := least stop (some.subset List.mem_cons_self)
          have first : ∀ task ∈ state.tasks, ∀ due, task.stage = .timed due → stop ≤ due := by
            intro task member due timed
            have bound := early stop (List.mem_cons_of_mem time (some.subset List.mem_cons_self))
            by_cases before : due < target
            · rcases List.mem_cons.mp (rings task member due timed before) with here | there
              · exact Nat.le_of_eq here.symm
              · exact (List.pairwise_cons.mp (rest.sublist some)).1 due there
            · omega
          rw [List.foldl_cons, passTo_passTo settled later first]
          rfl
  | @cons_cons stops times time some ih =>
      obtain ⟨_, rest⟩ := List.pairwise_cons.mp sorted
      apply ih rest (fun other member => early other (List.mem_cons_of_mem time member))
        (settle_settles _)
      intro task member due timed before
      have passed : RingsAt (time :: stops) target (state.passTo time) :=
        @RingsAt.settle { state with now := max state.now time } _ _ rings
      have late := due_of_settled (settle_settles _) member timed
      have reached : (state.passTo time).now = max state.now time := now_passTo state time
      change (state.passTo time).now < due at late
      rcases List.mem_cons.mp (passed task member due timed before) with here | there
      · omega
      · exact there

theorem Mirrors.dueBefore_sublist (mirrors : Mirrors uri numbers state own) (target : Nat) :
    (own.dueBefore target).Sublist (state.dueBefore target) := by
  have subset : (own.dueBefore target).Subperm (state.dueBefore target) := by
    unfold dueBefore
    refine (List.mergeSort_perm _ _).subperm.trans
      (List.Subperm.trans ?_ (List.mergeSort_perm _ _).symm.subperm)
    rw [mirrors.tasks]
    unfold reflect
    rw [List.filterMap_map]
    refine List.Subperm.trans (List.Perm.of_eq (List.filterMap_congr ?_)).subperm
      (List.filter_sublist.filterMap _).subperm
    intro task _
    obtain ⟨owner, job, stage⟩ := task
    cases stage with
    | timed due => rfl
    | queued guard => rfl
    | entering guard => rfl
    | waiting guard notice => rfl
    | permitted guard notice => rfl
    | ready => rfl
  exact List.sublist_of_subperm_of_pairwise subset (sorted_dueBefore target own)
    (sorted_dueBefore target state)

theorem Mirrors.advance (mirrors : Mirrors uri numbers state own) (reachable : Reachable state)
    (alone : Reachable own) (duration : Nat) :
    ∃ others, Mirrors uri others (state.advance duration) (own.advance duration) := by
  unfold State.advance
  by_cases still : duration = 0
  · rw [if_pos still, if_pos still]
    exact ⟨numbers, mirrors⟩
  · obtain ⟨others, settled⟩ := mirrors.settle reachable alone
    obtain ⟨last, passed⟩ := settled.passAll (state.dueBefore (state.now + duration))
      ((leads_settle state).reachable reachable) ((leads_settle own).reachable alone)
    have rings : RingsAt (own.dueBefore (state.now + duration)) (state.now + duration)
        own.settle :=
      RingsAt.settle fun task member due timed early => mem_dueBefore member timed early
    have fewer := @passAll_of_sublist own.settle _ _ _
      (mirrors.dueBefore_sublist (state.now + duration)) (sorted_dueBefore _ state) (fun time => lt_of_mem_dueBefore) (settle_settles own) rings
    rw [if_neg still, if_neg still, mirrors.now]
    change ∃ others, Mirrors uri others _ (State.setNow (state.now + duration)
      ((own.dueBefore (state.now + duration)).foldl State.passTo own.settle))
    rw [← fewer]
    exact ⟨last, { passed with now := rfl }⟩

/-! ### Calls about the document -/

theorem Mirrors.schedule (mirrors : Mirrors uri numbers state own) (reachable : Reachable state)
    (alone : Reachable own) :
    Mirrors uri (numbers.setTicket state.nextTicket own.nextTicket) (state.schedule uri)
      (own.schedule uri) := by
  have cancelled := mirrors.cancel reachable.timers
  have issued := (reachable.timers.cancel uri).issued
  have ownIssued := (alone.timers.cancel uri).issued
  have given := Numbering.redirect_self numbers.ticket state.nextTicket own.nextTicket
  have kept : reflect uri (numbers.setTicket state.nextTicket own.nextTicket)
      (state.cancel uri).tasks = reflect uri numbers (state.cancel uri).tasks := by
    apply reflect_congr
    intro task member mine
    have known : task.renumber numbers ∈ (own.cancel uri).tasks := by
      rw [cancelled.tasks]
      exact mem_reflect.mpr ⟨task, member, mine, rfl⟩
    have apart := Task.renumber_setTicket (issued task member) (ownIssued _ known)
    rw [(sameSetting_cancel uri state).nextTicket, (sameSetting_cancel uri own).nextTicket] at apart
    exact apart
  have due : own.due = state.due := by
    unfold State.due
    rw [mirrors.now, mirrors.delay]
  rw [schedule_eq, schedule_eq, due]
  have begun : Mirrors uri (numbers.setTicket state.nextTicket own.nextTicket)
      { state.cancel uri with
        nextTicket := state.nextTicket + 1
        pending := (uri, state.nextTicket) :: (state.cancel uri).pending }
      { own.cancel uri with
        nextTicket := own.nextTicket + 1
        pending := (uri, own.nextTicket) :: (own.cancel uri).pending } := by
    refine { cancelled with timer := ?_, tasks := cancelled.tasks.trans kept.symm }
    rw [List.lookup_cons_self, List.lookup_cons_self, Option.map_some]
    exact congrArg some given.symm
  have pushed := begun.push ⟨uri, .validation state.nextTicket, .timed state.due⟩ rfl
  change Mirrors uri _ _ (State.push
    ⟨uri, .validation (Numbering.redirect numbers.ticket state.nextTicket own.nextTicket
      state.nextTicket), .timed state.due⟩ _) at pushed
  rw [given] at pushed
  exact pushed

theorem Mirrors.retire (mirrors : Mirrors uri numbers state own) (reachable : Reachable state)
    (alone : Reachable own) :
    Mirrors uri (numbers.setCall state.nextCall own.nextCall) (state.retire uri)
      (own.retire uri) := by
  have given := Numbering.redirect_self numbers.call state.nextCall own.nextCall
  have kept : reflect uri (numbers.setCall state.nextCall own.nextCall) state.tasks =
      reflect uri numbers state.tasks := by
    apply reflect_congr
    intro task member mine
    have known : task.renumber numbers ∈ own.tasks := by
      rw [mirrors.tasks]
      exact mem_reflect.mpr ⟨task, member, mine, rfl⟩
    exact Task.renumber_setCall (reachable.timers.issued task member)
      (alone.timers.issued _ known)
  have begun : Mirrors uri (numbers.setCall state.nextCall own.nextCall)
      { state with nextCall := state.nextCall + 1 } { own with nextCall := own.nextCall + 1 } :=
    { mirrors with tasks := mirrors.tasks.trans kept.symm }
  have pushed := begun.push (state.retirement uri) rfl
  change Mirrors uri _ _ (State.push
    ⟨uri, .retirement (Numbering.redirect numbers.call state.nextCall own.nextCall
      state.nextCall), .timed state.now⟩ _) at pushed
  have called : own.retirement uri = ⟨uri, .retirement own.nextCall, .timed state.now⟩ := by
    unfold State.retirement
    rw [mirrors.now]
  rw [given, ← called] at pushed
  exact pushed

/-! ### Calls about all documents -/

theorem Mirrors.grant (mirrors : Mirrors uri numbers state own) (metered : Metered state) :
    Mirrors uri numbers state.grant own.grant := by
  have alike : ∀ task : Task, (task.renumber numbers).stage.isWaiting = task.stage.isWaiting :=
    fun task => Stage.isWaiting_renumber task.stage
  by_cases gated : state.gate = some uri
  · have owned : ∀ task ∈ state.tasks, task.stage.isWaiting = true → task.uri = uri := by
      intro task member waiting
      have inside : task.stage.isInside = true := by
        cases stage : task.stage with
        | waiting guard notice => rfl
        | permitted guard notice => rfl
        | timed due => rw [stage] at waiting; cases waiting
        | queued guard => rw [stage] at waiting; cases waiting
        | entering guard => rw [stage] at waiting; cases waiting
        | ready => rw [stage] at waiting; cases waiting
      exact Option.some.inj ((metered.gated task member inside).symm.trans gated)
    unfold State.grant
    rw [mirrors.tasks, find?_reflect alike owned, eraseP_reflect alike owned]
    cases found : state.tasks.find? fun task => task.stage.isWaiting with
    | none =>
        exact { mirrors with
          tasks := rfl, permits := fun _ => congrArg (· + 1) (mirrors.permits gated) }
    | some task =>
        have fitting := (find?_split found).1
        have mine := owned task (List.mem_of_find?_eq_some found) fitting
        obtain ⟨owner, job, stage⟩ := task
        cases stage with
        | waiting guard notice =>
            have left := mirrors.setTasks (
              state.tasks.eraseP fun task => task.stage.isWaiting)
            exact left.push ⟨owner, job, .permitted guard notice⟩ mine
        | timed due => cases fitting
        | queued guard => cases fitting
        | entering guard => cases fitting
        | permitted guard notice => cases fitting
        | ready => cases fitting
  · have unseen := mirrors.of_share (share_grant metered gated)
    have kept := (sameSetting_grant state).gate
    rcases grant_cases own with ⟨next, _⟩ | ⟨before, owner, job, guard, notice, after, split, _, _⟩
    · rw [next]
      refine { unseen with permits := fun needed => absurd ?_ gated }
      rw [← kept]
      exact needed
    · have member : ⟨owner, job, .waiting guard notice⟩ ∈ reflect uri numbers state.tasks := by
        rw [← mirrors.tasks]
        exact mem_split_self split
      obtain ⟨task, present, mine, same⟩ := mem_reflect.mp member
      have waiting : task.stage.isInside = true := by
        obtain ⟨_, _, stage⟩ := task
        cases stage with
        | waiting guard notice => rfl
        | permitted guard notice => rfl
        | timed due => cases same
        | queued guard => cases same
        | entering guard => cases same
        | ready => cases same
      rw [← mine] at gated
      exact absurd (metered.gated task present waiting) gated

theorem Mirrors.release (mirrors : Mirrors uri numbers state own) (metered : Metered state)
    (count : Nat) : Mirrors uri numbers (state.release count) (own.release count) := by
  rw [release_eq_repeat, release_eq_repeat]
  have both : Mirrors uri numbers (Nat.repeat State.grant count state)
      (Nat.repeat State.grant count own) ∧ Metered (Nat.repeat State.grant count state) := by
    induction count with
    | zero => exact ⟨mirrors, metered⟩
    | succ count ih => exact ⟨ih.1.grant ih.2, ih.2.grant⟩
  exact both.1

theorem cancel_cancel (uri : Uri) (state : State) :
    (state.cancel uri).cancel uri = state.cancel uri := by
  apply cancel_of_unlisted
  rw [cancel_eq]
  exact lookup_filter_self uri state.pending

theorem Mirrors.cancelAll (entries : List (Uri × Nat)) (mirrors : Mirrors uri numbers state own)
    (timers : Timers state) :
    Mirrors uri numbers (entries.foldl (fun state entry => state.cancel entry.1) state)
      (if uri ∈ entries.map Prod.fst then own.cancel uri else own) := by
  induction entries generalizing state own with
  | nil => exact mirrors
  | cons entry entries ih =>
      have rest := fun (mirror : State) (seen : Mirrors uri numbers (state.cancel entry.1) mirror) =>
        ih seen (timers.cancel entry.1)
      rw [List.foldl_cons, List.map_cons]
      by_cases mine : entry.1 = uri
      · subst mine
        have both := rest _ (mirrors.cancel timers)
        rw [cancel_cancel, ite_self] at both
        rw [if_pos List.mem_cons_self]
        exact both
      · have unseen := mirrors.of_share (share_cancel timers mine)
        have absent : (uri ∈ entry.1 :: entries.map Prod.fst) ↔ uri ∈ entries.map Prod.fst :=
          List.mem_cons.trans (or_iff_right (Ne.symm mine))
        simp only [absent]
        exact rest own unseen

/-- Alone in a state, a document has the only timer. -/
theorem Mirrors.shutdown_eq (mirrors : Mirrors uri numbers state own) (timers : Timers own) :
    own.shutdown = own.cancel uri := by
  have keyed : ∀ entry ∈ own.pending, entry.1 = uri := by
    intro entry member
    obtain ⟨task, present, timed⟩ := List.mem_filterMap.mp (timers.listed.mem_iff.mp member)
    have owner := (Task.timer?_eq_some_iff.mp timed).1
    rw [mirrors.tasks] at present
    obtain ⟨origin, _, mine, same⟩ := mem_reflect.mp present
    rw [← owner, ← same]
    exact mine
  have keys := timers.keys
  unfold shutdown
  cases entries : own.pending with
  | nil =>
      symm
      apply cancel_of_unlisted
      rw [entries]
      rfl
  | cons entry others =>
      rw [entries] at keyed keys
      have first := keyed entry List.mem_cons_self
      cases others with
      | nil =>
          rw [← first]
          rfl
      | cons other others =>
          have second := keyed other (List.mem_cons_of_mem entry List.mem_cons_self)
          have distinct := (List.nodup_cons.mp keys).1
          rw [first, ← second] at distinct
          exact absurd List.mem_cons_self distinct

theorem Mirrors.shutdown (mirrors : Mirrors uri numbers state own) (reachable : Reachable state)
    (alone : Reachable own) : Mirrors uri numbers state.shutdown own.shutdown := by
  have ended := mirrors.cancelAll state.pending reachable.timers
  rw [mirrors.shutdown_eq alone.timers]
  by_cases listed : uri ∈ state.pending.map Prod.fst
  · rw [if_pos listed] at ended
    exact ended
  · rw [if_neg listed] at ended
    have unlisted : own.pending.lookup uri = none := by
      rw [mirrors.timer]
      cases found : state.pending.lookup uri with
      | none => rfl
      | some ticket =>
          exact absurd (List.mem_map.mpr ⟨_, mem_of_lookup_eq_some found, rfl⟩) listed
    rw [cancel_of_unlisted unlisted]
    exact ended

/-! ### Runs -/

theorem share_perform {command : Command} {other : Uri} (timers : Timers state)
    (subject : command.subject? = some other) (foreign : other ≠ uri) :
    (state.perform command).2.share uri = state.share uri := by
  cases command with
  | openDocument document =>
      cases subject
      have kept : (state.store.insertNew document).2.find? uri = state.store.find? uri := by
        rw [Store.find?_insertNew, if_neg foreign]
      exact share_store state kept
  | changeDocument document =>
      cases subject
      have kept : (state.store.change document).2.find? uri = state.store.find? uri := by
        rw [Store.find?_change, if_neg fun both => foreign both.1]
      exact share_store state kept
  | closeDocument closed =>
      cases subject
      have kept : (state.store.erase other).2.find? uri = state.store.find? uri := by
        rw [Store.find?_erase, if_neg foreign]
      exact share_store state kept
  | schedule scheduled =>
      cases subject
      exact share_schedule timers foreign
  | retire retired =>
      cases subject
      exact share_retire state foreign
  | isPending asked => rfl
  | setDelay delay => cases subject
  | advance duration => cases subject
  | release count => cases subject
  | shutdown => cases subject
  | idle => cases subject

/-- A call about the document, or about all, does the same on both sides. -/
theorem Mirrors.perform {command : Command} (mirrors : Mirrors uri numbers state own)
    (reachable : Reachable state) (alone : Reachable own)
    (subject : ∀ other, command.subject? = some other → other = uri) :
    ∃ others, Mirrors uri others (state.perform command).2 (own.perform command).2 := by
  have document := mirrors.document
  cases command with
  | openDocument opened =>
      refine ⟨numbers, { mirrors with document := ?_ }⟩
      change (own.store.insertNew opened).2.find? uri = (state.store.insertNew opened).2.find? uri
      rw [Store.find?_insertNew, Store.find?_insertNew, document]
  | changeDocument changed =>
      have mine : changed.uri = uri := subject changed.uri rfl
      have same : (own.store.change changed).1 = (state.store.change changed).1 :=
        Store.change_congr (by rw [mine]; exact document)
      refine ⟨numbers, { mirrors with document := ?_ }⟩
      change (own.store.change changed).2.find? uri = (state.store.change changed).2.find? uri
      rw [Store.find?_change, Store.find?_change, same, document]
  | closeDocument closed =>
      refine ⟨numbers, { mirrors with document := ?_ }⟩
      change (own.store.erase closed).2.find? uri = (state.store.erase closed).2.find? uri
      rw [Store.find?_erase, Store.find?_erase, document]
  | schedule scheduled =>
      obtain rfl : scheduled = uri := subject scheduled rfl
      exact ⟨_, mirrors.schedule reachable alone⟩
  | retire retired =>
      obtain rfl : retired = uri := subject retired rfl
      exact ⟨_, mirrors.retire reachable alone⟩
  | isPending asked => exact ⟨numbers, mirrors⟩
  | setDelay delay =>
      -- for any delay at all: what the delay comes to is never looked into
      have changed : ∀ count : UInt64,
          Mirrors uri numbers { state with delay := count } { own with delay := count } :=
        fun _ => { mirrors with delay := rfl }
      exact ⟨numbers, changed delay.milliseconds⟩
  | advance duration => exact mirrors.advance reachable alone duration
  | release count => exact ⟨numbers, mirrors.release reachable.metered count⟩
  | shutdown => exact ⟨numbers, mirrors.shutdown reachable alone⟩
  | idle => exact ⟨numbers, mirrors⟩

theorem Mirrors.apply (mirrors : Mirrors uri numbers state own) (reachable : Reachable state)
    (alone : Reachable own) (settles : Bool) (command : Command) :
    ∃ others, Mirrors uri others (state.apply settles command).2
      (own.apply settles (command.only uri)).2 := by
  have performed : ∃ others, Mirrors uri others (state.perform command).2
      (own.perform (command.only uri)).2 := by
    unfold Command.only
    cases subject : command.subject? with
    | none => exact mirrors.perform reachable alone (by rw [subject]; exact fun _ => nofun)
    | some other =>
        by_cases mine : other = uri
        · simp only [if_pos mine]
          apply mirrors.perform reachable alone
          intro about same
          rw [subject] at same
          rw [← Option.some.inj same]
          exact mine
        · simp only [if_neg mine]
          have same := share_perform reachable.timers subject mine
          exact ⟨numbers, mirrors.of_share same⟩
  cases settles with
  | false => exact performed
  | true =>
      obtain ⟨others, mirrored⟩ := performed
      exact mirrored.settle ((leads_apply false command state).reachable reachable)
        ((leads_apply false (command.only uri) own).reachable alone)

theorem Mirrors.applyAll (steps : List (Bool × Command)) (mirrors : Mirrors uri numbers state own)
    (reachable : Reachable state) (alone : Reachable own) :
    ∃ others, Mirrors uri others (state.applyAll steps) (own.applyAll (onlyAbout uri steps)) := by
  induction steps generalizing state own numbers with
  | nil => exact ⟨numbers, mirrors⟩
  | cons step steps ih =>
      obtain ⟨others, applied⟩ := mirrors.apply reachable alone step.1 step.2
      exact ih applied ((leads_apply step.1 step.2 state).reachable reachable)
        ((leads_apply step.1 (step.2.only uri) own).reachable alone)

theorem mirrors_initial (delay : UInt64) (gate : Option Uri) (uri : Uri) :
    Mirrors uri ⟨Equiv.refl Nat, Equiv.refl Nat, Equiv.refl Nat⟩ (.initial delay gate)
      (.initial delay gate) :=
  ⟨rfl, rfl, rfl, rfl, rfl, rfl, Iff.rfl, fun _ => rfl, rfl⟩

theorem reachable_initial (delay : UInt64) (gate : Option Uri) :
    Reachable (.initial delay gate) :=
  ⟨delay, gate, [], rfl⟩

theorem Mirrors.isPending_eq (mirrors : Mirrors uri numbers state own) :
    own.isPending uri = state.isPending uri := by
  unfold isPending
  rw [mirrors.timer, Option.isSome_map]

/-- A call about the document is answered alike. -/
theorem Mirrors.reply_eq {command : Command} (mirrors : Mirrors uri numbers state own)
    (subject : command.subject? = some uri) (settles : Bool) :
    (own.apply settles command).1 = (state.apply settles command).1 := by
  have document := mirrors.document
  change (own.perform command).1 = (state.perform command).1
  cases command with
  | openDocument opened =>
      have mine : opened.uri = uri := Option.some.inj subject
      exact congrArg Reply.flag (Store.insertNew_congr (by rw [mine]; exact document))
  | changeDocument changed =>
      have mine : changed.uri = uri := Option.some.inj subject
      exact congrArg Reply.outcome (Store.change_congr (by rw [mine]; exact document))
  | closeDocument closed =>
      obtain rfl : closed = uri := Option.some.inj subject
      exact congrArg Reply.document document
  | schedule scheduled => rfl
  | retire retired => rfl
  | isPending asked =>
      obtain rfl : asked = uri := Option.some.inj subject
      exact congrArg Reply.flag mirrors.isPending_eq
  | setDelay delay => cases subject
  | advance duration => cases subject
  | release count => cases subject
  | shutdown => cases subject
  | idle => cases subject

/-- Leave all calls about other documents out of a run, but keep what settles: after any number of
calls, what was published about the document, whether it has a timer, and its text are the same as
in the whole run, and so is the answer to any call about the document that is made next. -/
theorem document_undisturbed (delay : UInt64) (gate : Option Uri) (steps : List (Bool × Command))
    (uri : Uri) (count : Nat) :
    let whole := (State.initial delay gate).applyAll (steps.take count)
    let alone := (State.initial delay gate).applyAll ((onlyAbout uri steps).take count)
    (alone.published.filter fun item => item.uri = uri) =
        (whole.published.filter fun item => item.uri = uri) ∧
      alone.isPending uri = whole.isPending uri ∧
      alone.store.find? uri = whole.store.find? uri ∧
      ∀ settles command, command.subject? = some uri →
        (alone.apply settles command).1 = (whole.apply settles command).1 := by
  obtain ⟨numbers, mirrors⟩ := (mirrors_initial delay gate uri).applyAll (steps.take count)
    (reachable_initial delay gate) (reachable_initial delay gate)
  have cut : onlyAbout uri (steps.take count) = (onlyAbout uri steps).take count := List.map_take
  rw [cut] at mirrors
  refine ⟨mirrors.log, mirrors.isPending_eq, mirrors.document, ?_⟩
  intro settles command subject
  exact mirrors.reply_eq subject settles

end State

end TemplateServer.Validation
