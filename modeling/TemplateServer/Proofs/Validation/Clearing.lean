import TemplateServer.Proofs.Validation.Shift

/-!
Clearing a document. A retirement that gets past the guard aborts the validation that is outside,
so when it returns no validation is outside that was scheduled before the call. Main statement: the
document then stays cleared until it is scheduled again if and only if no validation is inside
either, and none is if all tasks of the document stand at one guard.
-/

namespace TemplateServer.Validation

namespace Docket

/-- Whether only retirements are outside. -/
def Clearing (docket : Docket) : Prop :=
  ∀ job, docket.outside job → job.isRetirement = true

def Has (job : Job) (docket : Docket) : Prop :=
  docket.outside job ∨ job ∈ docket.line.map Prod.fst

/-- Whether a job is still outside, or only retirements are. -/
def Heeds (job : Job) (docket : Docket) : Prop :=
  docket.Clearing ∨ (docket.outside job ∧ job ∉ docket.line.map Prod.fst)

/-- Whether nothing but retirements is under way and the document was cleared last. -/
structure Cleared (docket : Docket) : Prop where
  clearing : docket.Clearing
  retiring : ∀ item ∈ docket.line, item.1.isRetirement = true
  last : docket.notices.getLast? = some .clear

variable {document? : Option Document} {together : Prop} {docket next : Docket}

theorem last_tell (notice : Notice) (docket : Docket) :
    (docket.tell notice).notices.getLast? = some notice :=
  List.getLast?_concat

/-! ### While a retirement is under way -/

theorem Clearing.enter (clearing : docket.Clearing) (job : Job) : (docket.enter job).Clearing := by
  intro other outside
  exact clearing other outside.1

theorem clearing_enter_retirement (call : Nat) (docket : Docket) :
    (docket.enter (.retirement call)).Clearing := by
  intro other outside
  exact outside.2.2 rfl

/-- A retirement that is outside stays there when another job gets past the guard. -/
theorem outside_enter {job other : Job} (outside : docket.outside other)
    (retires : other.isRetirement = true) (different : other ≠ job) :
    (docket.enter job).outside other :=
  ⟨outside, different, fun _ => retires⟩

theorem Shift.heeds {call : Nat} (shift : Shift document? together docket next)
    (heeds : docket.Heeds (.retirement call)) : next.Heeds (.retirement call) := by
  cases shift with
  | still => exact heeds
  | skips ticket came closed =>
      rcases heeds with clearing | ⟨outside, absent⟩
      · exact Or.inl (clearing.enter _)
      · exact Or.inr ⟨outside_enter outside rfl (by intro same; cases same), absent⟩
  | joins job notice came tells alone =>
      rcases heeds with clearing | ⟨outside, absent⟩
      · exact Or.inl (clearing.enter job)
      · by_cases same : .retirement call = job
        · left
          rw [← same]
          exact clearing_enter_retirement call docket
        · right
          refine ⟨outside_enter outside rfl same, ?_⟩
          rw [line_join, List.map_append]
          intro member
          rcases List.mem_append.mp member with old | last
          · exact absent old
          · exact same (List.mem_singleton.mp last)
  | passes job notice came tells alone =>
      rcases heeds with clearing | ⟨outside, absent⟩
      · exact Or.inl (clearing.enter job)
      · by_cases same : .retirement call = job
        · left
          rw [← same]
          exact clearing_enter_retirement call docket
        · exact Or.inr ⟨outside_enter outside rfl same, absent⟩
  | leaves job notice rest first alone =>
      rcases heeds with clearing | ⟨outside, absent⟩
      · exact Or.inl clearing
      · right
        refine ⟨outside, ?_⟩
        rw [line_of_first first] at absent
        intro member
        exact absent (List.mem_cons_of_mem _ member)

/-- The turn in which a retirement ends publishes its notice. No validation is outside then, and
nobody is inside if all tasks of the document are together. -/
theorem Shift.returns {call : Nat} (shift : Shift document? together docket next)
    (heeds : docket.Heeds (.retirement call)) (truthful : docket.Truthful)
    (present : docket.Has (.retirement call)) (gone : ¬next.Has (.retirement call)) :
    next.Clearing ∧ next.notices.getLast? = some .clear ∧ (together → next.line = []) := by
  have stays {job : Job} (different : .retirement call ≠ job) :
      (docket.enter job).Has (.retirement call) := by
    rcases present with outside | inLine
    · exact Or.inl (outside_enter outside rfl different)
    · exact Or.inr inLine
  cases shift with
  | still => exact absurd present gone
  | skips ticket came closed => exact absurd (stays (by intro same; cases same)) gone
  | joins job notice came tells alone =>
      exfalso
      apply gone
      by_cases same : .retirement call = job
      · right
        rw [line_join, List.map_append, same]
        exact List.mem_append_right _ List.mem_cons_self
      · rcases stays same with outside | inLine
        · exact Or.inl outside
        · right
          rw [line_join, List.map_append]
          exact List.mem_append_left _ inLine
  | passes job notice came tells alone =>
      by_cases same : .retirement call = job
      · subst same
        refine ⟨clearing_enter_retirement call docket, ?_, alone⟩
        rw [tells.clear_iff.mp rfl]
        exact last_tell _ _
      · exact absurd (stays same) gone
  | leaves job notice rest first alone =>
      have line := line_of_first first
      have inside : .retirement call = job := by
        apply Decidable.byContradiction
        intro different
        apply gone
        rcases present with outside | inLine
        · exact Or.inl outside
        · rw [line] at inLine
          rcases List.mem_cons.mp inLine with here | there
          · exact absurd here different
          · exact Or.inr there
      subst inside
      refine ⟨?_, ?_, alone⟩
      · rcases heeds with clearing | ⟨_, absent⟩
        · exact clearing
        · rw [line] at absent
          exact absurd List.mem_cons_self absent
      · have member : (.retirement call, notice) ∈ docket.line := by
          rw [line]
          exact List.mem_cons_self
        have told : notice = .clear := (truthful _ member).mp rfl
        rw [told]
        exact last_tell _ _

/-- Whoever was handed a permit keeps it until it publishes. -/
theorem Shift.granted_or_told {item : Job × Notice} (shift : Shift document? together docket next)
    (granted : item ∈ docket.granted) :
    item ∈ next.granted ∨ next.notices.getLast? = some item.2 := by
  cases shift with
  | still => exact Or.inl granted
  | skips ticket came closed => exact Or.inl granted
  | joins job notice came tells alone => exact Or.inl granted
  | passes job notice came tells alone => exact Or.inl granted
  | leaves job notice rest first alone =>
      rw [first] at granted
      rcases List.mem_cons.mp granted with here | there
      · right
        rw [here]
        exact last_tell _ _
      · exact Or.inl there

/-! ### Once a document was cleared -/

theorem Shift.cleared (shift : Shift document? together docket next) (truthful : docket.Truthful)
    (cleared : docket.Cleared) : next.Cleared := by
  cases shift with
  | still => exact cleared
  | skips ticket came closed => exact ⟨cleared.clearing.enter _, cleared.retiring, cleared.last⟩
  | joins job notice came tells alone =>
      refine ⟨cleared.clearing.enter job, ?_, cleared.last⟩
      rw [line_join]
      intro item member
      rcases List.mem_append.mp member with old | last
      · exact cleared.retiring item old
      · rw [List.mem_singleton.mp last]
        exact cleared.clearing job came
  | passes job notice came tells alone =>
      refine ⟨cleared.clearing.enter job, cleared.retiring, ?_⟩
      rw [tells.clear_iff.mp (cleared.clearing job came)]
      exact last_tell _ _
  | leaves job notice rest first alone =>
      have line := line_of_first first
      have member : (job, notice) ∈ docket.line := by
        rw [line]
        exact List.mem_cons_self
      refine ⟨cleared.clearing, ?_, ?_⟩
      · intro item there
        apply cleared.retiring item
        rw [line]
        exact List.mem_cons_of_mem _ there
      · have told : notice = .clear := (truthful _ member).mp (cleared.retiring _ member)
        rw [told]
        exact last_tell _ _

end Docket

namespace State

variable {uri : Uri} {state : State}

def lastNotice? (uri : Uri) (state : State) : Option Notice :=
  ((state.published.filter fun publication => publication.uri = uri).map
    Publication.notice).getLast?

theorem lastNotice?_eq (uri : Uri) (state : State) :
    state.lastNotice? uri = (state.docket uri).notices.getLast? :=
  rfl

/-- As long as the document is not scheduled, the retirement is outside or only retirements are. -/
theorem Reachable.heeds_follow {call : Nat} (reachable : Reachable state)
    (heeds : (state.docket uri).Heeds (.retirement call)) {moves : List Move}
    (unscheduled : ∀ move ∈ moves, move.command? ≠ some (.schedule uri)) :
    ((state.follow moves).docket uri).Heeds (.retirement call) := by
  have unbroken : Unbroken (fun command => command ≠ .schedule uri) fun state =>
      Timers state ∧ (state.docket uri).Heeds (.retirement call) := by
    apply unbroken_docket (Docket.Heeds (.retirement call)) uri
    · intro scheduled
      exact absurd rfl scheduled
    · intro _ docket other kept
      rcases kept with clearing | ⟨outside, absent⟩
      · left
        rintro job (rfl | old)
        · rfl
        · exact clearing job old
      · exact Or.inr ⟨Or.inr outside, absent⟩
    · intro _ docket kept
      exact Or.inl fun job outside => outside.2
    · intro docket first rest awaiting kept
      unfold Docket.Heeds
      rw [Docket.line_granted awaiting]
      exact kept
  apply reachable.docket_follow _ unbroken moves _ _ heeds
  · rintro move member command called rfl
    exact unscheduled move member called
  · intro before _ docket next _ _ shift
    exact shift.heeds

/-- As long as the document is not scheduled, it stays cleared. -/
theorem Reachable.cleared_follow (reachable : Reachable state)
    (cleared : (state.docket uri).Cleared) {moves : List Move}
    (unscheduled : ∀ move ∈ moves, move.command? ≠ some (.schedule uri)) :
    ((state.follow moves).docket uri).Cleared := by
  have unbroken : Unbroken (fun command => command ≠ .schedule uri) fun state =>
      Timers state ∧ ((state.docket uri).Truthful ∧ (state.docket uri).Cleared) := by
    apply unbroken_docket (fun docket => docket.Truthful ∧ docket.Cleared) uri
    · intro scheduled
      exact absurd rfl scheduled
    · rintro _ docket call ⟨truthful, kept⟩
      refine ⟨truthful, ?_, kept.retiring, kept.last⟩
      rintro job (rfl | old)
      · rfl
      · exact kept.clearing job old
    · rintro _ docket ⟨truthful, kept⟩
      exact ⟨truthful, fun job outside => outside.2, kept.retiring, kept.last⟩
    · rintro docket first rest awaiting ⟨truthful, kept⟩
      have line := Docket.line_granted awaiting
      refine ⟨?_, kept.clearing, ?_, kept.last⟩
      · intro item member
        rw [line] at member
        exact truthful item member
      · intro item member
        rw [line] at member
        exact kept.retiring item member
  have both : ((state.follow moves).docket uri).Truthful ∧
      ((state.follow moves).docket uri).Cleared := by
    apply reachable.docket_follow (fun docket => docket.Truthful ∧ docket.Cleared) unbroken moves
      _ _ ⟨reachable.truthful uri, cleared⟩
    · rintro move member command called rfl
      exact unscheduled move member called
    · rintro before _ docket next _ _ shift ⟨truthful, kept⟩
      exact ⟨shift.truthful truthful, shift.cleared truthful kept⟩
  exact both.2

theorem isRunnable_of_granted {item : Job × Notice} (granted : item ∈ (state.docket uri).granted) :
    ∃ task ∈ state.tasks, task.stage.isRunnable state.now = true := by
  obtain ⟨stage, member, tells⟩ := mem_told.mp granted
  refine ⟨_, member, ?_⟩
  cases stage with
  | permitted guard notice => rfl
  | _ => cases tells

/-- Whoever was handed a permit gets to publish if tasks go on for long enough. -/
theorem Reachable.exists_leaves {item : Job × Notice} (reachable : Reachable state)
    (granted : item ∈ (state.docket uri).granted) :
    ∃ count, (state.follow (List.replicate count .turn)).lastNotice? uri = some item.2 := by
  -- every turn leaves fewer steps to take, and the task is in line until it publishes
  induction left : state.steps using Nat.strongRecOn generalizing state with
  | ind left ih =>
      cases stepped : state.step? with
      | none =>
          obtain ⟨task, member, runnable⟩ := isRunnable_of_granted granted
          rw [step?_eq_none_iff.mp stepped task member] at runnable
          cases runnable
      | some next =>
          have less := steps_lt_of_step? stepped
          have moved := move_turn stepped
          have later : Reachable next := by
            rw [← moved]
            exact reachable.follow [.turn]
          have shift := shift_of_step? reachable.timers reachable.guarded stepped uri
          rcases shift.granted_or_told granted with still | told
          · obtain ⟨count, last⟩ := ih next.steps (by omega) later still rfl
            refine ⟨count + 1, ?_⟩
            rw [List.replicate_succ, follow_cons, moved]
            exact last
          · refine ⟨1, ?_⟩
            change (state.move .turn).lastNotice? uri = _
            rw [moved]
            exact told

/-- With enough permits, all that are in line are handed one. -/
theorem granted_release {item : Job × Notice} (member : item ∈ (state.docket uri).line) :
    ∃ permits, item ∈ ((state.release permits).docket uri).granted := by
  refine ⟨state.tasks.countP fun task => task.stage.isWaiting, ?_⟩
  generalize enough : (state.tasks.countP fun task => task.stage.isWaiting) = permits
  have line : ((state.release permits).docket uri).line = (state.docket uri).line := by
    apply @release_invariant (fun later => (later.docket uri).line = (state.docket uri).line) _
      state rfl
    intro later same
    rw [← same]
    rcases docket_grant later uri with kept | ⟨first, rest, awaiting, next⟩
    · rw [kept]
    · rw [next, Docket.line_granted awaiting]
  have unclaimed := waiting_release permits state
  rw [enough, Nat.sub_self] at unclaimed
  rw [← line] at member
  rcases List.mem_append.mp member with granted | awaiting
  · exact granted
  · obtain ⟨stage, present, tells⟩ := mem_told.mp awaiting
    refine absurd ?_ (List.countP_eq_zero.mp unclaimed _ present)
    cases stage with
    | waiting guard notice => rfl
    | _ => cases tells

/-! ### When a retirement returns -/

theorem Reachable.heeds_retire (reachable : Reachable state) (uri : Uri) :
    ((state.retire uri).docket uri).Heeds (.retirement state.nextCall) := by
  right
  rw [docket_retire]
  refine ⟨Or.inl rfl, ?_⟩
  intro inLine
  have underWay : state.UnderWay uri (.retirement state.nextCall) :=
    (underWay_iff rfl).mpr (Or.inr inLine)
  obtain ⟨task, member, _, job⟩ := underWay
  have fresh : Job.retirement state.nextCall ∉ state.tasks.map Task.job :=
    reachable.timers.job_fresh (Nat.lt_irrefl state.nextCall)
  exact fresh (List.mem_map.mpr ⟨task, member, job⟩)

/-- If a validation is inside, there is a run after which its notice is the last. -/
theorem Reachable.exists_validated {item : Job × Notice} (reachable : Reachable state)
    (member : item ∈ (state.docket uri).line) :
    ∃ later : List Move, (∀ move ∈ later, move.command? ≠ some (.schedule uri)) ∧
      (state.follow later).lastNotice? uri = some item.2 := by
  obtain ⟨permits, granted⟩ := granted_release member
  have released : Reachable (state.release permits) :=
    reachable.follow [.call (.release permits) rfl]
  obtain ⟨count, last⟩ := released.exists_leaves granted
  refine ⟨.call (.release permits) rfl :: List.replicate count .turn, ?_, last⟩
  intro move among scheduled
  rcases List.mem_cons.mp among with here | there
  · rw [here] at scheduled
    cases scheduled
  · rw [List.eq_of_mem_replicate there] at scheduled
    cases scheduled

/-- Take a retirement that was called, any run after the call in which the document is not
scheduled, and the turn in which the retirement returns. The document stays cleared until it is
scheduled again if and only if no validation of it is under way then; and none is if all tasks of
the document stood at one guard before that turn. -/
theorem clear_last_iff {state last next : State} {uri : Uri} {moves : List Move}
    (reachable : Reachable state)
    (unscheduled : ∀ move ∈ moves, move.command? ≠ some (.schedule uri))
    (reached : (state.retire uri).follow moves = last) (stepped : last.step? = some next)
    (underWay : last.UnderWay uri (.retirement state.nextCall))
    (returned : ¬next.UnderWay uri (.retirement state.nextCall)) :
    ((∀ later : List Move, (∀ move ∈ later, move.command? ≠ some (.schedule uri)) →
        (next.follow later).lastNotice? uri = some .clear) ↔
      ∀ ticket, ¬next.UnderWay uri (.validation ticket)) ∧
    (last.Gathered uri → ∀ ticket, ¬next.UnderWay uri (.validation ticket)) := by
  have called : Reachable (state.retire uri) := reachable.follow [.call (.retire uri) rfl]
  have before : Reachable last := by
    rw [← reached]
    exact called.follow moves
  have after : Reachable next := by
    rw [← move_turn stepped]
    exact before.follow [.turn]
  have heeds : (last.docket uri).Heeds (.retirement state.nextCall) := by
    rw [← reached]
    exact called.heeds_follow (reachable.heeds_retire uri) unscheduled
  have truthful := after.truthful uri
  have shift := shift_of_step? before.timers before.guarded stepped uri
  obtain ⟨clearing, cleared, alone⟩ := shift.returns heeds (before.truthful uri)
    ((underWay_iff rfl).mp underWay) fun present => returned ((underWay_iff rfl).mpr present)
  have outside : ∀ ticket, ¬(next.docket uri).outside (.validation ticket) := by
    intro ticket there
    cases clearing _ there
  refine ⟨⟨?_, ?_⟩, ?_⟩
  · intro always ticket validating
    rcases (underWay_iff rfl).mp validating with there | inLine
    · exact outside ticket there
    · obtain ⟨item, member, job⟩ := List.mem_map.mp inLine
      obtain ⟨later, permitted, last⟩ := after.exists_validated member
      rw [always later permitted] at last
      have retires := (truthful item member).mpr (Option.some.inj last).symm
      rw [job] at retires
      cases retires
  · intro unvalidated later permitted
    refine (after.cleared_follow ⟨clearing, ?_, cleared⟩ permitted).last
    intro item member
    have live := after.timers.live_of_mem_line member
    cases job : item.1 with
    | retirement call => rfl
    | aborted ticket =>
        rw [job] at live
        cases live
    | removal ticket =>
        rw [job] at live
        cases live
    | validation ticket =>
        refine absurd ((underWay_iff rfl).mpr (Or.inr ?_)) (unvalidated ticket)
        exact List.mem_map.mpr ⟨item, member, job⟩
  · intro gathered ticket validating
    rcases (underWay_iff rfl).mp validating with there | inLine
    · exact outside ticket there
    · rw [alone gathered] at inLine
      cases inLine

/-- A retirement that waits for the validation that is publishing clears the document for good. -/
theorem clear_last_of_waiting :
    let uri : Uri := ⟨"file:///a.lg"⟩
    let state := (State.initial 0 (some uri)).applyAll
      [(true, .openDocument ⟨uri, 1, "# A"⟩), (true, .schedule uri)]
    let last := (state.retire uri).follow [.turn, .call (.release 2) rfl, .turn]
    last.UnderWay uri (.retirement 0) ∧ (last.move .turn).tasks = [] ∧
    ∀ later : List Move, (∀ move ∈ later, move.command? ≠ some (.schedule uri)) →
      ((last.move .turn).follow later).lastNotice? uri = some .clear := by
  have reachable := reachable_applyAll 0 (some ⟨"file:///a.lg"⟩)
    [(true, .openDocument ⟨⟨"file:///a.lg"⟩, 1, "# A"⟩), (true, .schedule ⟨"file:///a.lg"⟩)]
  have exact := @clear_last_iff _ _ _ ⟨"file:///a.lg"⟩ [.turn, .call (.release 2) rfl, .turn]
    reachable (by decide) rfl (step?_eq_move (by decide)) (by decide) (by decide)
  have ended : ∀ state : State, state.tasks = [] → ∀ ticket,
      ¬state.UnderWay ⟨"file:///a.lg"⟩ (.validation ticket) := by
    rintro state empty ticket ⟨task, member, _⟩
    rw [empty] at member
    cases member
  exact ⟨by decide, by decide, exact.1.mpr (ended _ (by decide))⟩

/-- A retirement finds the permit that the validation at the dropped guard has left, and returns
before this validation publishes. -/
theorem validation_after_clear :
    let uri : Uri := ⟨"file:///a.lg"⟩
    let document : Document := ⟨uri, 1, "# A\n- $\x7bnope()\x7d"⟩
    let state := (State.initial 0 (some uri)).applyAll
      [(true, .openDocument document), (true, .retire uri), (true, .schedule uri),
        (true, .release 1), (false, .retire uri)]
    let later := state.applyAll [(false, .release 2), (true, .isPending uri)]
    state.retiring = 1 ∧ later.retiring = 0 ∧
      later.lastNotice? uri = some (.about document) ∧ later.lastNotice? uri ≠ some .clear := by
  refine ⟨rfl, rfl, rfl, ?_⟩
  intro same
  exact Notice.about_ne_clear _ (Option.some.inj same)

end State

end TemplateServer.Validation
