import Mathlib.Data.List.Infix
import TemplateServer.Proofs.Validation.Clearing

/-!
What is published in the end about a document that has come to rest. As long as no job publishes
ahead of those in line, notices come out in the order in which jobs got past the guard. Main
statement: the validation that was scheduled last is then the last to publish if and only if no
retirement was outside when it was scheduled; and no job publishes ahead of others if all tasks of
the document stood at one guard besides.
-/

namespace TemplateServer.Validation

def Stage.isHeldUp : Stage → Bool
  | .queued _ => true
  | .waiting _ _ => true
  | _ => false

namespace Docket

/-- What was published, and what will be once all in line have left. -/
def record (docket : Docket) : List Notice :=
  docket.notices ++ docket.line.map Prod.snd

/-- Whether a notice was published ahead of those in line. -/
def Overtakes (docket next : Docket) : Prop :=
  docket.line ≠ [] ∧ next.line = docket.line ∧ next.notices ≠ docket.notices

instance (docket next : Docket) : Decidable (docket.Overtakes next) :=
  inferInstanceAs (Decidable (docket.line ≠ [] ∧ next.line = docket.line ∧
    next.notices ≠ docket.notices))

/-- Whether a retirement is outside, or only retirements are and the last one clears the document. -/
def WillClear (docket : Docket) : Prop :=
  (∃ call, docket.outside (.retirement call)) ∨
    docket.Clearing ∧ docket.record.getLast? = some .clear

/-- Whether only validations are outside, and the last to publish has this notice if there are
none. -/
def WillTell (notice : Notice) (docket : Docket) : Prop :=
  (∀ call, ¬docket.outside (.retirement call)) ∧
    ((∃ job, docket.outside job) ∨ docket.record.getLast? = some notice)

variable {document? : Option Document} {document : Document} {together : Prop}
  {docket next : Docket}

theorem record_enter (job : Job) (docket : Docket) : (docket.enter job).record = docket.record :=
  rfl

theorem record_join (job : Job) (notice : Notice) (docket : Docket) :
    (docket.join (job, notice)).record = docket.record ++ [notice] := by
  unfold record
  rw [line_join, List.map_append, ← List.append_assoc]
  rfl

theorem record_tell {notice : Notice} (empty : docket.line = []) :
    (docket.tell notice).record = docket.record ++ [notice] := by
  have same : (docket.tell notice).line = [] := empty
  unfold record
  rw [same, empty]
  simp [tell]

theorem record_granted {first : Job × Notice} {rest : List (Job × Notice)}
    (awaiting : docket.awaiting = first :: rest) :
    Docket.record { docket with granted := docket.granted ++ [first], awaiting := rest } =
      docket.record := by
  unfold record
  rw [line_granted awaiting]

theorem record_leave {job : Job} {notice : Notice} {rest : List (Job × Notice)}
    (first : docket.granted = (job, notice) :: rest) :
    (Docket.tell notice { docket with granted := rest }).record = docket.record := by
  unfold record
  rw [line_of_first first]
  simp [tell, line]

/-- In an orderly turn the record stays as it is, or a job gets past the guard and its notice comes
last. -/
theorem Shift.record_cases (shift : Shift (some document) together docket next)
    (orderly : ¬docket.Overtakes next) :
    (next.record = docket.record ∧ next.outside = docket.outside) ∨
    ∃ job notice, docket.outside job ∧ Tells (some document) job notice ∧
      next.outside = (docket.enter job).outside ∧ next.record = docket.record ++ [notice] := by
  cases shift with
  | still => exact Or.inl ⟨rfl, rfl⟩
  | skips ticket came closed => cases closed
  | joins job notice came tells alone =>
      right
      refine ⟨job, notice, came, tells, rfl, ?_⟩
      rw [record_join, record_enter]
  | passes job notice came tells alone =>
      right
      refine ⟨job, notice, came, tells, rfl, ?_⟩
      have empty : docket.line = [] := by
        apply Decidable.byContradiction
        intro waiting
        apply orderly
        refine ⟨waiting, rfl, ?_⟩
        change docket.notices ++ [notice] ≠ docket.notices
        simp
      rw [record_tell (by exact empty), record_enter]
  | leaves job notice rest first alone => exact Or.inl ⟨record_leave first, rfl⟩

theorem Shift.willClear (shift : Shift (some document) together docket next)
    (orderly : ¬docket.Overtakes next) (willClear : docket.WillClear) : next.WillClear := by
  rcases shift.record_cases orderly with
    ⟨record, outside⟩ | ⟨job, notice, came, tells, outside, record⟩
  · unfold WillClear Clearing
    rw [record, outside]
    exact willClear
  · cases job with
    | aborted ticket => cases tells
    | removal ticket => cases tells
    | retirement call =>
        right
        refine ⟨?_, ?_⟩
        · intro other there
          rw [outside] at there
          exact clearing_enter_retirement call docket other there
        · rw [record, tells.clear_iff.mp rfl]
          exact List.getLast?_concat
    | validation ticket =>
        rcases willClear with ⟨call, there⟩ | ⟨clearing, _⟩
        · left
          refine ⟨call, ?_⟩
          rw [outside]
          exact outside_enter there rfl (by intro same; cases same)
        · cases clearing _ came

theorem Shift.willTell (shift : Shift (some document) together docket next)
    (orderly : ¬docket.Overtakes next) (willTell : docket.WillTell (.about document)) :
    next.WillTell (.about document) := by
  obtain ⟨unretired, told⟩ := willTell
  rcases shift.record_cases orderly with
    ⟨record, outside⟩ | ⟨job, notice, came, tells, outside, record⟩
  · unfold WillTell
    rw [record, outside]
    exact ⟨unretired, told⟩
  · refine ⟨?_, Or.inr ?_⟩
    · intro call there
      rw [outside] at there
      exact unretired call there.1
    · rw [record]
      cases tells with
      | retirement call => exact absurd came (unretired call)
      | validation ticket other present =>
          cases present
          exact List.getLast?_concat

/-- If only one job is outside, and finds nobody inside, no job overtakes others. -/
theorem Shift.keeps (shift : Shift document? together docket next)
    (unretired : ∀ call, ¬docket.outside (.retirement call))
    (single : ∀ job other, docket.outside job → docket.outside other → other = job)
    (alone : together ∨ docket.line = [] ∨ ∀ job, ¬docket.outside job) :
    ¬docket.Overtakes next ∧ (∀ call, ¬next.outside (.retirement call)) ∧
      (next = docket ∨ next.line = [] ∨ ∀ job, ¬next.outside job) := by
  have entered {job : Job} (came : docket.outside job) :
      ∀ other, ¬(docket.enter job).outside other := by
    rintro other ⟨there, different, _⟩
    exact different (single job other came there)
  cases shift with
  | still => exact ⟨fun overtakes => overtakes.2.2 rfl, unretired, Or.inl rfl⟩
  | skips ticket came closed =>
      exact ⟨fun overtakes => overtakes.2.2 rfl, fun call => entered came _,
        Or.inr (Or.inr (entered came))⟩
  | joins job notice came tells unaccompanied =>
      exact ⟨fun overtakes => overtakes.2.2 rfl, fun call => entered came _,
        Or.inr (Or.inr (entered came))⟩
  | passes job notice came tells unaccompanied =>
      have empty : docket.line = [] := by
        rcases alone with gathered | empty | nobody
        · exact unaccompanied gathered
        · exact empty
        · exact absurd came (nobody job)
      exact ⟨fun overtakes => overtakes.1 empty, fun call => entered came _,
        Or.inr (Or.inr (entered came))⟩
  | leaves job notice rest first unaccompanied =>
      have line := line_of_first first
      refine ⟨?_, unretired, Or.inr ?_⟩
      · rintro ⟨_, same, _⟩
        rw [line] at same
        have shorter := congrArg List.length same
        rw [List.length_cons] at shorter
        exact absurd shorter (Nat.ne_of_lt (Nat.lt_succ_self _))
      · rcases alone with gathered | empty | nobody
        · exact Or.inl (unaccompanied gathered)
        · rw [line] at empty
          cases empty
        · exact Or.inr nobody

end Docket

/-- Whether a call neither validates nor clears a document, nor aborts its validation. -/
def Command.Spares (uri : Uri) (command : Command) : Prop :=
  command ≠ .schedule uri ∧ command ≠ .retire uri ∧ command ≠ .shutdown

namespace State

/-- Whether all calls that are made spare the document. -/
def Spared (uri : Uri) (moves : List Move) : Prop :=
  ∀ move ∈ moves, ∀ command, move.command? = some command → command.Spares uri

/-- Whether the document is open and stays as it is, all along a run. -/
def Rests (uri : Uri) (document : Document) (state : State) (moves : List Move) : Prop :=
  ∀ before, before <+: moves → (state.follow before).store.find? uri = some document

/-- Whether no task of the document publishes ahead of those in line, all along a run. -/
def Orderly (uri : Uri) (state : State) (moves : List Move) : Prop :=
  ∀ before move, before ++ [move] <+: moves →
    ¬((state.follow before).docket uri).Overtakes ((state.follow (before ++ [move])).docket uri)

variable {uri : Uri} {document : Document} {state : State} {moves : List Move}

theorem orderly_nil : state.Orderly uri [] :=
  forall_moves_nil

theorem orderly_cons {move : Move} :
    state.Orderly uri (move :: moves) ↔
      ¬(state.docket uri).Overtakes ((state.move move).docket uri) ∧
        (state.move move).Orderly uri moves :=
  forall_moves_cons

instance decidableOrderly : ∀ (state : State) (moves : List Move),
    Decidable (state.Orderly uri moves)
  | _, [] => isTrue orderly_nil
  | state, move :: moves =>
    haveI := decidableOrderly (state.move move) moves
    decidable_of_iff _ orderly_cons.symm

instance (state : State) (moves : List Move) : Decidable (state.Rests uri document moves) :=
  decidable_of_iff (∀ before ∈ moves.inits, (state.follow before).store.find? uri = some document) (by
    unfold Rests
    simp only [List.mem_inits])

instance (command : Command) : Decidable (command.Spares uri) :=
  inferInstanceAs (Decidable (command ≠ .schedule uri ∧ command ≠ .retire uri ∧
    command ≠ .shutdown))

instance (moves : List Move) : Decidable (Spared uri moves) :=
  decidable_of_iff (∀ move ∈ moves, ∀ command ∈ move.command?.toList, command.Spares uri) (by
    unfold Spared
    simp only [Option.mem_toList])

theorem unbroken_spared (uri : Uri) (holds : Docket → Prop)
    (granted : ∀ docket first rest, docket.awaiting = first :: rest → holds docket →
      holds { docket with granted := docket.granted ++ [first], awaiting := rest }) :
    Unbroken (Command.Spares uri) fun state => Timers state ∧ holds (state.docket uri) := by
  apply unbroken_docket holds uri
  · intro spares
    exact absurd rfl spares.1
  · intro spares
    exact absurd rfl spares.2.1
  · intro spares
    exact absurd rfl spares.2.2
  · exact granted

/-- A turn of an orderly run, with the document that rests. -/
theorem Reachable.orderly_follow (holds : Docket → Prop) (reachable : Reachable state)
    (spared : Spared uri moves) (rests : state.Rests uri document moves)
    (orderly : state.Orderly uri moves)
    (granted : ∀ docket first rest, docket.awaiting = first :: rest → holds docket →
      holds { docket with granted := docket.granted ++ [first], awaiting := rest })
    (shifts : ∀ {together : Prop} {docket next : Docket},
      Docket.Shift (some document) together docket next → ¬docket.Overtakes next →
      holds docket → holds next)
    (start : holds (state.docket uri)) : holds ((state.follow moves).docket uri) := by
  apply reachable.docket_follow holds (unbroken_spared uri holds granted) moves spared _ start
  rintro before earlier docket next rfl rfl shift
  have sofar : before <+: moves := (List.prefix_append before [.turn]).trans earlier
  rw [rests before sofar] at shift
  exact shifts shift (orderly before .turn earlier)

theorem Reachable.willClear_follow (reachable : Reachable state) (spared : Spared uri moves)
    (rests : state.Rests uri document moves) (orderly : state.Orderly uri moves)
    (start : (state.docket uri).WillClear) : ((state.follow moves).docket uri).WillClear := by
  apply reachable.orderly_follow Docket.WillClear spared rests orderly _ Docket.Shift.willClear start
  intro docket first rest awaiting kept
  unfold Docket.WillClear
  rw [Docket.record_granted awaiting]
  exact kept

theorem Reachable.willTell_follow (reachable : Reachable state) (spared : Spared uri moves)
    (rests : state.Rests uri document moves) (orderly : state.Orderly uri moves)
    (start : (state.docket uri).WillTell (.about document)) :
    ((state.follow moves).docket uri).WillTell (.about document) := by
  apply reachable.orderly_follow (Docket.WillTell (.about document)) spared rests orderly _
    Docket.Shift.willTell start
  intro docket first rest awaiting kept
  unfold Docket.WillTell
  rw [Docket.record_granted awaiting]
  exact kept

/-! ### When timers run out -/

/-- Whether something holds of the timer of every task that has one, given its document, its job,
the time when it runs out and the time that it is. -/
def Timed (fits : Uri → Job → Nat → Nat → Prop) (state : State) : Prop :=
  ∀ task ∈ state.tasks, ∀ due, task.stage = .timed due → fits task.uri task.job due state.now

/-- A task with a timer was there before the turn. -/
theorem timed_of_step? {next : State} {task : Task} {due : Nat} (stepped : state.step? = some next)
    (member : task ∈ next.tasks) (timed : task.stage = .timed due) : task ∈ state.tasks := by
  obtain ⟨before, taken, after, split, _, _, turn⟩ := step?_turn stepped
  rcases turn.mem_tasks member with
    here | ⟨guard, entering⟩ | ⟨guard, queued⟩ | ⟨guard, notice, waits, _⟩
  · exact mem_split split (here.mem_of_timed timed)
  · rw [entering] at timed
    cases timed
  · rw [queued] at timed
    cases timed
  · rw [waits] at timed
    cases timed

theorem timed_of_cancel {other : Uri} {task : Task} {due : Nat}
    (member : task ∈ (state.cancel other).tasks) (timed : task.stage = .timed due) :
    task ∈ state.tasks :=
  (mem_of_cancel member).mem_of_timed timed

theorem timed_of_grant {task : Task} {due : Nat} (member : task ∈ state.grant.tasks)
    (timed : task.stage = .timed due) : task ∈ state.tasks := by
  rcases grant_cases state with ⟨next, _⟩ | ⟨before, owner, job, guard, notice, after, split, _, next⟩
  · rw [next] at member
    exact member
  · rw [next] at member
    rcases List.mem_append.mp member with rest | last
    · exact mem_split split rest
    · rw [List.mem_singleton.mp last] at timed
      cases timed

theorem Timed.push {fits : Uri → Job → Nat → Nat → Prop} {owner : Uri} {job : Job} {due : Nat}
    (timed : state.Timed fits) (new : fits owner job due state.now) :
    (state.push ⟨owner, job, .timed due⟩).Timed fits := by
  intro task member limit stage
  rcases List.mem_append.mp member with here | last
  · exact timed task here limit stage
  · rw [List.mem_singleton.mp last] at stage ⊢
    cases stage
    exact new

theorem Timed.cancel {fits : Uri → Job → Nat → Nat → Prop} (timed : state.Timed fits)
    (other : Uri) : (state.cancel other).Timed fits := by
  intro task member due stage
  rw [(sameSetting_cancel other state).now]
  exact timed task (timed_of_cancel member stage) due stage

theorem Timed.turn {fits : Uri → Job → Nat → Nat → Prop} {next : State}
    (stepped : state.step? = some next) (timed : state.Timed fits) : next.Timed fits := by
  intro task member due stage
  rw [(sameSetting_step? stepped).now]
  exact timed task (timed_of_step? stepped member stage) due stage

/-- Only calls that begin something start timers. -/
theorem unbroken_timed {made : Command → Prop} {fits : Uri → Job → Nat → Nat → Prop}
    (later : ∀ {owner job due now time}, now ≤ time → fits owner job due now →
      fits owner job due time)
    (scheduled : ∀ (state : State) owner, made (.schedule owner) →
      fits owner (.validation state.nextTicket) state.due state.now)
    (retired : ∀ (state : State) owner, made (.retire owner) →
      fits owner (.retirement state.nextCall) state.now state.now) :
    Unbroken made (Timed fits) where
  setting _ _ _ passed timed := fun task member due stage =>
    later passed (timed task member due stage)
  schedule {state} owner allowed timed := by
    rw [schedule_eq]
    apply Timed.push
    · exact timed.cancel owner
    · have new := scheduled state owner allowed
      rw [← (sameSetting_cancel owner state).now] at new
      exact new
  retire {state} owner allowed timed := by
    apply Timed.push
    · exact timed
    · exact retired state owner allowed
  cancel other _ timed := timed.cancel other
  grant {state} timed := by
    intro task member due stage
    rw [(sameSetting_grant state).now]
    exact timed task (timed_of_grant member stage) due stage

/-- Retirements that have yet to ask for the guard can do so at once. -/
theorem Reachable.prompt (reachable : Reachable state) :
    state.Timed fun _ job due now => job.isRetirement = true → due ≤ now := by
  have unbroken : Unbroken (fun _ => True)
      (Timed fun _ job due now => job.isRetirement = true → due ≤ now) := by
    apply unbroken_timed
    · intro owner job due now time passed prompt retires
      exact Nat.le_trans (prompt retires) passed
    · intro state owner _ retires
      cases retires
    · intro state owner _ _
      exact Nat.le_refl state.now
  exact Preserved.reachable ⟨unbroken, Timed.turn⟩ (fun _ _ _ member => (nomatch member)) reachable

/-- When a document is scheduled, none of its timers runs out after the new one. -/
theorem Reachable.due_schedule (reachable : Reachable state) (uri : Uri) :
    (state.schedule uri).Timed fun owner _ due _ => owner = uri → due ≤ state.due := by
  have begun : Reachable (state.schedule uri) := reachable.follow [.call (.schedule uri) rfl]
  have now : (state.schedule uri).now = state.now := by
    rw [schedule_eq]
    exact (sameSetting_cancel uri state).now
  intro task member due timed owned
  have live : task.job.isLive = true := by
    have fits := begun.timers.fits task member
    rw [timed] at fits
    exact fits
  have outside : ((state.schedule uri).docket uri).outside task.job :=
    ⟨task, member, owned, rfl, live, by rw [timed]; rfl⟩
  rw [docket_schedule reachable.timers] at outside
  rcases outside with new | ⟨_, retires⟩
  · have present : ⟨uri, .validation state.nextTicket, .timed state.due⟩ ∈
        (state.schedule uri).tasks := by
      rw [schedule_eq]
      exact List.mem_append_right _ List.mem_cons_self
    have same := begun.timers.unique member present live new.symm
    rw [same] at timed
    cases timed
    exact Nat.le_refl state.due
  · have prompt := begun.prompt task member due timed retires
    rw [now] at prompt
    exact Nat.le_trans prompt (Nat.le_add_right _ _)

/-- Once all timers have run out and all is settled, and no task of the document waits, there is
none. -/
theorem not_mem_of_settled {limit : Nat} (settled : state.step? = none)
    (timed : state.Timed fun owner _ due _ => owner = uri → due ≤ limit)
    (passed : limit ≤ state.now)
    (free : ∀ task ∈ state.tasks, task.uri = uri → task.stage.isHeldUp = false) :
    ∀ task ∈ state.tasks, task.uri ≠ uri := by
  intro task member owned
  have idle := step?_eq_none_iff.mp settled task member
  have passing := free task member owned
  cases stage : task.stage with
  | timed due =>
      have early := timed task member due stage owned
      rw [stage] at idle
      have late := of_decide_eq_false idle
      omega
  | queued guard =>
      rw [stage] at passing
      cases passing
  | entering guard =>
      rw [stage] at idle
      cases idle
  | waiting guard notice =>
      rw [stage] at passing
      cases passing
  | permitted guard notice =>
      rw [stage] at idle
      cases idle
  | ready =>
      rw [stage] at idle
      cases idle

/-! ### When jobs keep to the line -/

/-- Whether all retirements of the document that are under way have got past the guard. -/
def RetirementsInside (uri : Uri) (state : State) : Prop :=
  ∀ task ∈ state.tasks, task.uri = uri → task.job.isRetirement = true →
    task.stage.isInside = true

instance (uri : Uri) (state : State) : Decidable (state.RetirementsInside uri) :=
  inferInstanceAs (Decidable (∀ task ∈ state.tasks, task.uri = uri →
    task.job.isRetirement = true → task.stage.isInside = true))

theorem retirementsInside_iff :
    state.RetirementsInside uri ↔ ∀ call, ¬(state.docket uri).outside (.retirement call) := by
  constructor
  · rintro within call ⟨task, member, owned, job, _, outside⟩
    have inside := within task member owned (by rw [job]; rfl)
    rw [inside] at outside
    cases outside
  · intro absent task member owned retires
    cases inside : task.stage.isInside with
    | true => rfl
    | false =>
        have live := Job.isLive_of_isRetirement retires
        cases job : task.job with
        | retirement call => exact absurd ⟨task, member, owned, job, live, inside⟩ (absent call)
        | _ =>
            rw [job] at retires
            cases retires

/-- Whether no retirement is outside, and no validation that is finds anybody inside. -/
structure Unobstructed (uri : Uri) (state : State) : Prop where
  unretired : ∀ call, ¬(state.docket uri).outside (.retirement call)
  alone : state.Gathered uri ∨ (state.docket uri).line = [] ∨ ∀ job, ¬(state.docket uri).outside job

/-- A run is orderly if every move of it keeps something that lets nobody overtake others. -/
theorem orderly_of_invariant {holds : State → List Move → Prop}
    (step : ∀ {state : State} {move : Move} {moves : List Move}, Reachable state →
      holds state (move :: moves) → holds (state.move move) moves ∧
        ¬(state.docket uri).Overtakes ((state.move move).docket uri))
    (reachable : Reachable state) (start : holds state moves) :
    state.Orderly uri moves := by
  induction moves generalizing state with
  | nil => exact orderly_nil
  | cons first moves ih =>
      obtain ⟨next, orderly⟩ := step reachable start
      exact orderly_cons.mpr ⟨orderly, ih (reachable.follow [first]) next⟩

/-- Calls leave the line as it is, and what was published. -/
theorem docket_move_of_call {move : Move} (timers : Timers state) (call : move ≠ .turn) :
    ((state.move move).docket uri).line = (state.docket uri).line ∧
      ((state.move move).docket uri).notices = (state.docket uri).notices := by
  have unbroken := @unbroken_docket (fun _ => True) (fun docket =>
    docket.line = (state.docket uri).line ∧ docket.notices = (state.docket uri).notices) uri
    (fun _ _ _ kept => kept) (fun _ _ _ kept => kept) (fun _ _ kept => kept) (by
      rintro docket first rest awaiting ⟨line, notices⟩
      refine ⟨?_, notices⟩
      rw [Docket.line_granted awaiting]
      exact line)
  have kept := unbroken.move ⟨timers, rfl, rfl⟩ move (fun _ _ => trivial)
    fun _ isTurn => absurd isTurn call
  exact kept.2

/-- Calls that spare a document change at most who of those in line was handed a permit. -/
theorem docket_move_of_spared {move : Move} (timers : Timers state)
    (spared : ∀ command, move.command? = some command → command.Spares uri)
    (call : move ≠ .turn) :
    ((state.move move).docket uri).outside = (state.docket uri).outside ∧
    ((state.move move).docket uri).line = (state.docket uri).line ∧
    ((state.move move).docket uri).notices = (state.docket uri).notices := by
  have unbroken := unbroken_spared uri (fun docket =>
    docket.outside = (state.docket uri).outside ∧ docket.line = (state.docket uri).line ∧
      docket.notices = (state.docket uri).notices) (by
        rintro docket first rest awaiting ⟨outside, line, notices⟩
        refine ⟨outside, ?_, notices⟩
        rw [Docket.line_granted awaiting]
        exact line)
  have kept := unbroken.move ⟨timers, rfl, rfl, rfl⟩ move spared
    fun _ isTurn => absurd isTurn call
  exact kept.2

/-- A document has one validation outside at most. -/
theorem Timers.outsider_unique (timers : Timers state)
    (unretired : ∀ call, ¬(state.docket uri).outside (.retirement call)) {job other : Job}
    (here : (state.docket uri).outside job) (there : (state.docket uri).outside other) :
    other = job := by
  cases job with
  | retirement call => exact absurd here (unretired call)
  | aborted ticket => exact absurd here (not_outside_of_ended rfl)
  | removal ticket => exact absurd here (not_outside_of_ended rfl)
  | validation ticket =>
      cases other with
      | retirement call => exact absurd there (unretired call)
      | aborted second => exact absurd there (not_outside_of_ended rfl)
      | removal second => exact absurd there (not_outside_of_ended rfl)
      | validation second =>
          have listed := timers.lookup_of_outsider here
          rw [timers.lookup_of_outsider there] at listed
          rw [Option.some.inj listed]

/-- If the docket stays as it is, all tasks of the document stay together. -/
theorem Reachable.gathered_of_docket_eq {move : Move} (reachable : Reachable state)
    (gathered : state.Gathered uri) (same : (state.move move).docket uri = state.docket uri) :
    (state.move move).Gathered uri := by
  apply Classical.byContradiction
  intro dropped
  obtain ⟨call, stage, member, ended⟩ := reachable.dropped move gathered dropped
  have underWay : (state.move move).UnderWay uri (.retirement call) := by
    rw [underWay_iff rfl, same, ← underWay_iff rfl]
    exact ⟨_, member, rfl, rfl⟩
  obtain ⟨task, present, _, job⟩ := underWay
  exact ended (List.mem_map.mpr ⟨task, present, job⟩)

/-- A turn leaves a document unobstructed, and nobody overtakes others. -/
theorem Unobstructed.turn {next : State} (unobstructed : state.Unobstructed uri)
    (reachable : Reachable state) (stepped : state.step? = some next) :
    next.Unobstructed uri ∧ ¬(state.docket uri).Overtakes (next.docket uri) := by
  obtain ⟨unretired, alone⟩ := unobstructed
  have shift := shift_of_step? reachable.timers reachable.guarded stepped uri
  obtain ⟨orderly, unretiredNext, aloneNext⟩ := shift.keeps unretired
    (fun _ _ here there => reachable.timers.outsider_unique unretired here there) alone
  refine ⟨⟨unretiredNext, ?_⟩, orderly⟩
  rcases aloneNext with same | rest
  · rcases alone with gathered | other
    · left
      rw [← move_turn stepped] at same ⊢
      exact reachable.gathered_of_docket_eq gathered same
    · right
      rw [same]
      exact other
  · exact Or.inr rest

/-- A move that spares a document leaves it unobstructed, and nobody overtakes others. -/
theorem Unobstructed.move {move : Move} (unobstructed : state.Unobstructed uri)
    (reachable : Reachable state)
    (spared : ∀ command, move.command? = some command → command.Spares uri) :
    (state.move move).Unobstructed uri ∧
      ¬(state.docket uri).Overtakes ((state.move move).docket uri) := by
  by_cases isTurn : move = .turn
  · subst isTurn
    cases stepped : state.step? with
    | none =>
        rw [move_turn_of_settled stepped]
        exact ⟨unobstructed, fun overtakes => overtakes.2.2 rfl⟩
    | some next =>
        rw [move_turn stepped]
        exact unobstructed.turn reachable stepped
  · obtain ⟨outside, line, notices⟩ := docket_move_of_spared reachable.timers spared isTurn
    refine ⟨⟨?_, ?_⟩, fun overtakes => overtakes.2.2 notices⟩
    · rw [outside]
      exact unobstructed.unretired
    · rw [outside, line]
      rcases unobstructed.alone with gathered | other
      · left
        exact (unbroken_gathered (Command.Spares uri) uri).move gathered move spared
          fun _ turn => absurd turn isTurn
      · exact Or.inr other

theorem Unobstructed.orderly (unobstructed : state.Unobstructed uri) (reachable : Reachable state)
    (spared : Spared uri moves) : state.Orderly uri moves := by
  refine @orderly_of_invariant uri state moves (fun state moves => state.Unobstructed uri ∧
    Spared uri moves) ?_ reachable ⟨unobstructed, spared⟩
  rintro state move moves reachable ⟨unobstructed, spared⟩
  obtain ⟨next, orderly⟩ := unobstructed.move reachable (spared move List.mem_cons_self)
  exact ⟨⟨next, fun later member => spared later (List.mem_cons_of_mem move member)⟩, orderly⟩

/-! ### The last notice about a document that has come to rest -/

/-- If no task of a document is under way, what is on record was published. -/
theorem lastNotice?_of_unoccupied (unoccupied : ∀ task ∈ state.tasks, task.uri ≠ uri) :
    (∀ job, ¬(state.docket uri).outside job) ∧
      (state.docket uri).record.getLast? = state.lastNotice? uri := by
  have empty : (state.docket uri).line = [] := by
    apply List.eq_nil_iff_forall_not_mem.mpr
    intro item member
    obtain ⟨stage, present, _⟩ := mem_of_mem_line member
    exact unoccupied _ present rfl
  constructor
  · rintro job ⟨task, member, owned, _⟩
    exact unoccupied task member owned
  · unfold Docket.record
    rw [empty, List.map_nil, List.append_nil, lastNotice?_eq]

theorem preserved_gate (gate : Option Uri) : Preserved fun state => state.gate = gate where
  setting _ _ _ _ same := same
  schedule {state} other _ same := by
    rw [schedule_eq]
    exact (sameSetting_cancel other state).gate.trans same
  retire _ _ same := same
  cancel {state} other _ same := (sameSetting_cancel other state).gate.trans same
  grant {state} same := (sameSetting_grant state).gate.trans same
  turn stepped same := (sameSetting_step? stepped).gate.trans same

/-- Where notices need no permit, nobody is in line. -/
theorem Reachable.orderly_of_ungated (reachable : Reachable state) (ungated : state.gate ≠ some uri)
    (moves : List Move) : state.Orderly uri moves := by
  rintro before move _ ⟨waiting, _⟩
  apply waiting
  apply List.eq_nil_iff_forall_not_mem.mpr
  intro item member
  obtain ⟨stage, present, inside, _⟩ := mem_of_mem_line member
  have gated := (reachable.follow before).metered.gated _ present inside
  have same := (preserved_gate state.gate).toUnbroken.follow (preserved_gate state.gate).turn rfl
    before fun _ _ _ _ => trivial
  exact ungated (same.symm.trans gated)

theorem Reachable.unobstructed_schedule (reachable : Reachable state)
    (gathered : state.Gathered uri) (within : state.RetirementsInside uri) :
    (state.schedule uri).Unobstructed uri := by
  constructor
  · intro call there
    rw [docket_schedule reachable.timers] at there
    rcases there with new | ⟨old, _⟩
    · cases new
    · exact retirementsInside_iff.mp within call old
  · left
    exact (unbroken_gathered (fun _ => True) uri).schedule uri trivial gathered

/-- Take any state, schedule a document, and take any run after that whose calls spare the document
while it stays as it is, up to a point where the timer has run out, all is settled and no task of
the document waits. If no task of the document published ahead of those in line, the last notice is
about the document if and only if all its retirements had got past the guard when it was scheduled.
And no task published ahead of others if notices about the document need no permit, or if all its
tasks stood at one guard and its retirements had got past it. -/
theorem told_last_iff {state final : State} {uri : Uri} {document : Document} {moves : List Move}
    (reachable : Reachable state) (spared : Spared uri moves)
    (rests : (state.schedule uri).Rests uri document moves)
    (reached : (state.schedule uri).follow moves = final) (passed : state.due ≤ final.now)
    (settled : final.step? = none)
    (free : ∀ task ∈ final.tasks, task.uri = uri → task.stage.isHeldUp = false) :
    ((state.schedule uri).Orderly uri moves →
      (final.lastNotice? uri = some (.about document) ↔ state.RetirementsInside uri)) ∧
    (state.gate ≠ some uri ∨ state.Gathered uri ∧ state.RetirementsInside uri →
      (state.schedule uri).Orderly uri moves) := by
  have begun : Reachable (state.schedule uri) := reachable.follow [.call (.schedule uri) rfl]
  have timed : final.Timed fun owner _ due _ => owner = uri → due ≤ state.due := by
    have unbroken : Unbroken (Command.Spares uri)
        (Timed fun owner _ due _ => owner = uri → due ≤ state.due) := by
      apply unbroken_timed
      · exact fun _ early => early
      · intro later owner spares owned
        exact absurd (congrArg Command.schedule owned) spares.1
      · intro later owner spares owned
        exact absurd (congrArg Command.retire owned) spares.2.1
    rw [← reached]
    exact unbroken.follow Timed.turn (reachable.due_schedule uri) moves spared
  obtain ⟨nobody, record⟩ :=
    lastNotice?_of_unoccupied (not_mem_of_settled settled timed passed free)
  refine ⟨fun orderly => ⟨?_, ?_⟩, ?_⟩
  · intro last
    apply retirementsInside_iff.mpr
    intro call there
    have start : ((state.schedule uri).docket uri).WillClear := by
      rw [docket_schedule reachable.timers]
      exact Or.inl ⟨call, Or.inr ⟨there, rfl⟩⟩
    have finish := begun.willClear_follow spared rests orderly start
    rw [reached] at finish
    rcases finish with ⟨other, outside⟩ | ⟨_, clear⟩
    · exact nobody _ outside
    · rw [record, last] at clear
      exact Notice.about_ne_clear document (Option.some.inj clear)
  · intro within
    have start : ((state.schedule uri).docket uri).WillTell (.about document) := by
      rw [docket_schedule reachable.timers]
      refine ⟨?_, Or.inl ⟨_, Or.inl rfl⟩⟩
      rintro call (new | ⟨old, _⟩)
      · cases new
      · exact retirementsInside_iff.mp within call old
    have finish := begun.willTell_follow spared rests orderly start
    rw [reached] at finish
    rcases finish.2 with ⟨job, there⟩ | last
    · exact absurd there (nobody job)
    · rw [← record]
      exact last
  · rintro (ungated | ⟨gathered, within⟩)
    · have gate : (state.schedule uri).gate = state.gate :=
        (preserved_gate state.gate).schedule uri trivial rfl
      exact begun.orderly_of_ungated (by rw [gate]; exact ungated) moves
    · exact (reachable.unobstructed_schedule gathered within).orderly begun spared

/-- A retirement that was called before and waits for its permit does not keep the validation from
having its say, but one that still waits for the guard does. -/
theorem told_last_behind_retirement :
    let uri : Uri := ⟨"file:///a.lg"⟩
    let document : Document := ⟨uri, 1, "# A"⟩
    let behind := (State.initial 0 (some uri)).applyAll
      [(true, .openDocument document), (true, .retire uri)]
    let ahead := (State.initial 0 (some uri)).applyAll
      [(true, .openDocument document), (true, .schedule uri), (true, .retire uri)]
    ((behind.schedule uri).follow
      [.turn, .call (.release 2) rfl, .turn, .turn]).lastNotice? uri = some (.about document) ∧
    ((ahead.schedule uri).follow
      [.turn, .call (.release 3) rfl, .turn, .turn, .turn]).lastNotice? uri ≠
        some (.about document) := by
  have reachable := reachable_applyAll 0 (some ⟨"file:///a.lg"⟩)
    [(true, .openDocument ⟨⟨"file:///a.lg"⟩, 1, "# A"⟩), (true, .retire ⟨"file:///a.lg"⟩)]
  have reachableToo := reachable_applyAll 0 (some ⟨"file:///a.lg"⟩)
    [(true, .openDocument ⟨⟨"file:///a.lg"⟩, 1, "# A"⟩), (true, .schedule ⟨"file:///a.lg"⟩),
      (true, .retire ⟨"file:///a.lg"⟩)]
  have behind := @told_last_iff _ _ ⟨"file:///a.lg"⟩ ⟨⟨"file:///a.lg"⟩, 1, "# A"⟩
    [.turn, .call (.release 2) rfl, .turn, .turn] reachable (by decide) (by decide) rfl
    (by decide) (by decide) (by decide)
  have ahead := @told_last_iff _ _ ⟨"file:///a.lg"⟩ ⟨⟨"file:///a.lg"⟩, 1, "# A"⟩
    [.turn, .call (.release 3) rfl, .turn, .turn, .turn] reachableToo (by decide) (by decide) rfl
    (by decide) (by decide) (by decide)
  constructor
  · exact (behind.1 (behind.2 (Or.inr (by decide)))).mpr (by decide)
  · intro told
    exact absurd ((ahead.1 (by decide +kernel)).mp told) (by decide)

/-- A retirement that was called before waits for the guard while the document is scheduled again.
It then aborts the validation, and the open document stays without reports. -/
theorem validation_lost :
    let uri : Uri := ⟨"file:///a.lg"⟩
    let document : Document := ⟨uri, 1, "# A\n- $\x7bnope()\x7d"⟩
    let state := (State.initial 100 (some uri)).applyAll
      [(true, .openDocument document), (true, .schedule uri), (true, .advance 100),
        (true, .closeDocument uri), (true, .retire uri), (true, .openDocument document)]
    let final := state.applyAll [(true, .schedule uri), (true, .release 3), (true, .advance 100)]
    final.store.find? uri = some document ∧ state.due ≤ final.now ∧ final.tasks = [] ∧
      final.lastNotice? uri = some .clear := by
  decide +kernel

end State

end TemplateServer.Validation
