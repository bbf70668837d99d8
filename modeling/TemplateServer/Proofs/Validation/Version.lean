import TemplateServer.Proofs.Document.Store
import TemplateServer.Proofs.Validation.Patience

/-!
The versions that are published. A validation reads the document when it gets past the guard, and
may publish long after. As long as the document is not closed, its version never falls, so what is
on record, published or in line, falls back only where a newer version is published ahead of an
older one in line. Main statement: this is the only way for versions to fall back; it takes permits,
retirements that return, and permits or time that come before all that could go on has done so.
-/

namespace TemplateServer.Validation

def versions (notices : List Notice) : List Int :=
  notices.filterMap Notice.version

theorem versions_append (first second : List Notice) :
    versions (first ++ second) = versions first ++ versions second :=
  List.filterMap_append

theorem mem_versions {notices : List Notice} {version : Int} :
    version ∈ versions notices ↔ ∃ notice ∈ notices, notice.version = some version :=
  List.mem_filterMap

theorem versions_about (document : Document) : versions [.about document] = [document.version] :=
  rfl

theorem versions_clear : versions [.clear] = [] :=
  rfl

namespace Docket

/-- Whether a newer version was published ahead of an older one in line. -/
def Outruns (docket next : Docket) : Prop :=
  next.line = docket.line ∧ ∃ notice newer, next.notices = docket.notices ++ [notice] ∧
    notice.version = some newer ∧ ∃ older ∈ versions (docket.line.map Prod.snd), older < newer

/-- Whether what is on record is about versions up to that of the document. -/
def Bounded (document? : Option Document) (docket : Docket) : Prop :=
  ∀ version ∈ versions docket.record, ∃ document, document? = some document ∧
    version ≤ document.version

/-- Whether versions do not fall on record. -/
def Ascending (docket : Docket) : Prop :=
  (versions docket.record).Pairwise (· ≤ ·)

/-- What a move can do to the record: leave it as it is, or put a notice on it, as the last or ahead
of those in line. -/
inductive Adds (document? : Option Document) (docket next : Docket) : Prop where
  | nothing (same : next.record = docket.record)
  | last (job : Job) (notice : Notice) (tells : Tells document? job notice)
      (record : next.record = docket.record ++ [notice]) (same : next.notices = docket.notices)
  | ahead (job : Job) (notice : Notice) (tells : Tells document? job notice)
      (told : next.notices = docket.notices ++ [notice]) (same : next.line = docket.line)

variable {document? : Option Document} {together : Prop} {docket next : Docket}

theorem Outruns.overtakes (outruns : docket.Outruns next) : docket.Overtakes next := by
  obtain ⟨line, notice, newer, notices, _, older, member, _⟩ := outruns
  refine ⟨?_, line, ?_⟩
  · intro empty
    rw [empty] at member
    cases member
  · rw [notices]
    simp

theorem Shift.adds (shift : Shift document? together docket next) : Adds document? docket next := by
  cases shift with
  | still => exact .nothing rfl
  | skips ticket came closed => exact .nothing rfl
  | joins job notice came tells alone => exact .last job notice tells (record_join job notice _) rfl
  | passes job notice came tells alone => exact .ahead job notice tells rfl rfl
  | leaves job notice rest first alone => exact .nothing (record_leave first)

theorem record_ahead {notice : Notice} (told : next.notices = docket.notices ++ [notice])
    (same : next.line = docket.line) :
    next.record = docket.notices ++ [notice] ++ docket.line.map Prod.snd := by
  unfold record
  rw [told, same]

/-- What comes on record is what the document is, or nothing at all. -/
theorem Adds.mem_record (adds : Adds document? docket next) {notice : Notice}
    (member : notice ∈ next.record) :
    notice ∈ docket.record ∨ notice = .clear ∨
      ∃ document, document? = some document ∧ notice = .about document := by
  have told {job : Job} {other : Notice} (tells : Tells document? job other) :
      other = .clear ∨ ∃ document, document? = some document ∧ other = .about document := by
    cases tells with
    | validation ticket document present => exact Or.inr ⟨document, present, rfl⟩
    | retirement call => exact Or.inl rfl
  cases adds with
  | nothing same =>
      rw [same] at member
      exact Or.inl member
  | last job other tells record same =>
      rw [record] at member
      rcases List.mem_append.mp member with old | last
      · exact Or.inl old
      · rw [List.mem_singleton.mp last]
        exact Or.inr (told tells)
  | ahead job other tells notices same =>
      rw [record_ahead notices same, List.append_assoc] at member
      rcases List.mem_append.mp member with old | rest
      · exact Or.inl (List.mem_append_left _ old)
      · rcases List.mem_cons.mp rest with first | line
        · rw [first]
          exact Or.inr (told tells)
        · exact Or.inl (List.mem_append_right _ line)

theorem Bounded.adds (bounded : docket.Bounded document?) (adds : Adds document? docket next) :
    next.Bounded document? := by
  intro version member
  obtain ⟨notice, present, about⟩ := mem_versions.mp member
  rcases adds.mem_record present with old | rfl | ⟨document, found, rfl⟩
  · exact bounded version (mem_versions.mpr ⟨notice, old, about⟩)
  · cases about
  · exact ⟨document, found, Int.le_of_eq (Option.some.inj about).symm⟩

/-- A number that is put into a sorted list after numbers it is not below keeps the list sorted
unless it is above one that follows. -/
theorem pairwise_insert_iff {before after : List Int} {newest : Int}
    (bounded : ∀ earlier ∈ before, earlier ≤ newest) :
    (before ++ newest :: after).Pairwise (· ≤ ·) ↔
      (before ++ after).Pairwise (· ≤ ·) ∧ ¬∃ older ∈ after, older < newest := by
  rw [List.pairwise_append, List.pairwise_cons, List.pairwise_append]
  constructor
  · rintro ⟨first, ⟨least, second⟩, across⟩
    refine ⟨⟨first, second, ?_⟩, ?_⟩
    · exact fun earlier member later following =>
        across earlier member later (List.mem_cons_of_mem _ following)
    · rintro ⟨older, member, less⟩
      exact absurd (least older member) (Int.not_le.mpr less)
  · rintro ⟨⟨first, second, across⟩, unbeaten⟩
    refine ⟨first, ⟨?_, second⟩, ?_⟩
    · intro later member
      exact Int.not_lt.mp fun less => unbeaten ⟨later, member, less⟩
    · intro earlier member later following
      rcases List.mem_cons.mp following with here | there
      · rw [here]
        exact bounded earlier member
      · exact across earlier member later there

/-- The record stays ascending if and only if no version is outrun. -/
theorem Adds.ascending_iff (adds : Adds document? docket next) (bounded : docket.Bounded document?) :
    next.Ascending ↔ docket.Ascending ∧ ¬docket.Outruns next := by
  unfold Ascending
  cases adds with
  | nothing same =>
      have quiet : ¬docket.Outruns next := by
        rintro ⟨line, notice, _, notices, _⟩
        rw [record_ahead notices line] at same
        have longer := congrArg List.length same
        simp [record] at longer
      rw [same]
      exact ⟨fun ascending => ⟨ascending, quiet⟩, fun both => both.1⟩
  | last job notice tells record same =>
      have quiet : ¬docket.Outruns next := by
        rintro ⟨_, notice, _, notices, _⟩
        rw [same] at notices
        simp at notices
      rw [record, versions_append]
      cases tells with
      | retirement call =>
          rw [versions_clear, List.append_nil]
          exact ⟨fun ascending => ⟨ascending, quiet⟩, fun both => both.1⟩
      | validation ticket document present =>
          rw [versions_about, List.pairwise_append]
          constructor
          · rintro ⟨ascending, _⟩
            exact ⟨ascending, quiet⟩
          · rintro ⟨ascending, _⟩
            refine ⟨ascending, List.pairwise_singleton _ _, ?_⟩
            intro version member last latest
            obtain ⟨known, found, below⟩ := bounded version member
            rw [List.mem_singleton.mp latest, ← Option.some.inj (found.symm.trans present)]
            exact below
  | ahead job notice tells notices same =>
      rw [record_ahead notices same, versions_append, versions_append]
      have before : versions docket.record =
          versions docket.notices ++ versions (docket.line.map Prod.snd) :=
        versions_append _ _
      cases tells with
      | retirement call =>
          have quiet : ¬docket.Outruns next := by
            rintro ⟨_, notice, newer, other, about, _⟩
            rw [notices] at other
            have cleared := List.append_cancel_left other
            cases cleared
            cases about
          rw [versions_clear, List.append_nil, ← before]
          exact ⟨fun ascending => ⟨ascending, quiet⟩, fun both => both.1⟩
      | validation ticket document present =>
          have outrun : docket.Outruns next ↔
              ∃ older ∈ versions (docket.line.map Prod.snd), older < document.version := by
            constructor
            · rintro ⟨_, notice, newer, other, about, older, member, less⟩
              rw [notices] at other
              have said := List.append_cancel_left other
              cases said
              cases about
              exact ⟨older, member, less⟩
            · rintro ⟨older, member, less⟩
              exact ⟨same, _, _, notices, rfl, older, member, less⟩
          rw [versions_about, outrun, before, List.append_assoc, List.singleton_append]
          apply pairwise_insert_iff
          intro version member
          have listed : version ∈ versions docket.record := by
            rw [before]
            exact List.mem_append_left _ member
          obtain ⟨known, found, below⟩ := bounded version listed
          rw [← Option.some.inj (found.symm.trans present)]
          exact below

/-! ### Without retirements -/

def Unretired (docket : Docket) : Prop :=
  ∀ job, docket.Has job → job.isRetirement = false

theorem Unretired.enter (unretired : docket.Unretired) (job : Job) :
    (docket.enter job).Unretired := by
  rintro other (outside | inLine)
  · exact unretired other (Or.inl outside.1)
  · exact unretired other (Or.inr inLine)

theorem Shift.unretired (shift : Shift document? together docket next)
    (unretired : docket.Unretired) : next.Unretired := by
  cases shift with
  | still => exact unretired
  | skips ticket came closed => exact unretired.enter _
  | passes job notice came tells alone => exact unretired.enter job
  | joins job notice came tells alone =>
      rintro other (outside | inLine)
      · exact unretired.enter job other (Or.inl outside)
      · rw [line_join, List.map_append] at inLine
        rcases List.mem_append.mp inLine with old | last
        · exact unretired other (Or.inr old)
        · rw [List.mem_singleton.mp last]
          exact unretired job (Or.inl came)
  | leaves job notice rest first alone =>
      rintro other (outside | inLine)
      · exact unretired other (Or.inl outside)
      · apply unretired other
        right
        rw [line_of_first first]
        exact List.mem_cons_of_mem _ inLine

/-- Where all tasks of the document are together, nobody overtakes others. -/
theorem Shift.orderly (shift : Shift document? together docket next) (gathered : together) :
    ¬docket.Overtakes next := by
  rintro ⟨waiting, same, told⟩
  cases shift with
  | still => exact told rfl
  | skips ticket came closed => exact told rfl
  | joins job notice came tells alone => exact told rfl
  | passes job notice came tells alone => exact waiting (alone gathered)
  | leaves job notice rest first alone =>
      have shorter := congrArg List.length same
      rw [line_of_first first] at shorter
      change (rest ++ docket.awaiting).length = _ at shorter
      rw [List.length_cons] at shorter
      omega

end Docket

namespace State

variable {state : State} {uri : Uri}

theorem Reachable.adds_move (reachable : Reachable state) (uri : Uri) (move : Move) :
    Docket.Adds (state.store.find? uri) (state.docket uri) ((state.move move).docket uri) := by
  by_cases isTurn : move = .turn
  · subst isTurn
    cases stepped : state.step? with
    | none =>
        rw [move_turn_of_settled stepped]
        exact .nothing rfl
    | some next =>
        rw [move_turn stepped]
        exact (shift_of_step? reachable.timers reachable.guarded stepped uri).adds
  · obtain ⟨line, notices⟩ := @docket_move_of_call uri state move reachable.timers isTurn
    apply Docket.Adds.nothing
    unfold Docket.record
    rw [line, notices]

theorem store_move_of_turn (state : State) : (state.move .turn).store = state.store := by
  cases stepped : state.step? with
  | none => rw [move_turn_of_settled stepped]
  | some next =>
      rw [move_turn stepped]
      exact (sameSetting_step? stepped).store

/-- The version of an open document does not fall as long as it is not closed. -/
theorem version_le_move {move : Move} {document : Document}
    (unclosed : move.command? ≠ some (.closeDocument uri))
    (found : state.store.find? uri = some document) :
    ∃ later, (state.move move).store.find? uri = some later ∧ document.version ≤ later.version := by
  have kept {next : State} (same : next.store = state.store) :
      ∃ later, next.store.find? uri = some later ∧ document.version ≤ later.version := by
    rw [same]
    exact ⟨document, found, Int.le_refl _⟩
  cases move with
  | turn => exact kept (store_move_of_turn state)
  | pass time => exact kept rfl
  | call command instant =>
      cases command with
      | openDocument opened =>
          have next := Store.find?_insertNew opened state.store uri
          rw [found] at next
          by_cases owned : opened.uri = uri
          · rw [if_pos owned] at next
            exact ⟨document, next, Int.le_refl _⟩
          · rw [if_neg owned] at next
            exact ⟨document, next, Int.le_refl _⟩
      | changeDocument changed =>
          have next := Store.find?_change changed state.store uri
          by_cases made : changed.uri = uri ∧ (state.store.change changed).1 ≠ .stale
          · rw [if_pos made] at next
            refine ⟨changed, next, Int.not_lt.mp ?_⟩
            intro lower
            apply made.2
            rw [Store.change_eq_stale_iff, made.1]
            exact ⟨document, found, lower⟩
          · rw [if_neg made, found] at next
            exact ⟨document, next, Int.le_refl _⟩
      | closeDocument other =>
          have different : other ≠ uri := fun same => unclosed (by rw [same]; rfl)
          have next := Store.find?_erase other state.store uri
          rw [if_neg different, found] at next
          exact ⟨document, next, Int.le_refl _⟩
      | schedule other =>
          apply kept
          change (state.schedule other).store = _
          rw [schedule_eq]
          exact (sameSetting_cancel other state).store
      | retire other => exact kept rfl
      | isPending other => exact kept rfl
      | setDelay delay =>
          have unread : ∀ count : UInt64, State.store { state with delay := count } = state.store :=
            fun _ => rfl
          exact kept (unread delay.milliseconds)
      | advance duration => cases instant
      | release count => exact kept (sameSetting_release count state).store
      | shutdown => exact kept (sameSetting_shutdown state).store
      | idle => exact kept rfl

/-! ### The record along a run -/

/-- Whether no version is outrun, all along a run. -/
def Unbeaten (uri : Uri) (state : State) (moves : List Move) : Prop :=
  ∀ before move, before ++ [move] <+: moves →
    ¬((state.follow before).docket uri).Outruns ((state.follow (before ++ [move])).docket uri)

theorem Orderly.unbeaten {moves : List Move} (orderly : state.Orderly uri moves) :
    state.Unbeaten uri moves := by
  intro before move earlier outruns
  exact orderly before move earlier outruns.overtakes

theorem unbeaten_nil : state.Unbeaten uri [] :=
  forall_moves_nil

theorem unbeaten_cons {move : Move} {moves : List Move} :
    state.Unbeaten uri (move :: moves) ↔
      ¬(state.docket uri).Outruns ((state.move move).docket uri) ∧
        (state.move move).Unbeaten uri moves :=
  forall_moves_cons

/-- Versions do not fall on record in the course of a run if and only if none is outrun. -/
theorem Reachable.ascending_follow_iff {moves : List Move} (reachable : Reachable state)
    (bounded : (state.docket uri).Bounded (state.store.find? uri))
    (unclosed : ∀ move ∈ moves, move.command? ≠ some (.closeDocument uri)) :
    ((state.follow moves).docket uri).Ascending ↔
      (state.docket uri).Ascending ∧ state.Unbeaten uri moves := by
  induction moves generalizing state with
  | nil => exact (and_iff_left unbeaten_nil).symm
  | cons move moves ih =>
      have adds := reachable.adds_move uri move
      have next : ((state.move move).docket uri).Bounded ((state.move move).store.find? uri) := by
        intro version member
        obtain ⟨document, found, below⟩ := bounded.adds adds version member
        obtain ⟨later, known, above⟩ := version_le_move (unclosed move List.mem_cons_self) found
        exact ⟨later, known, Int.le_trans below above⟩
      have rest : ((State.follow (state.move move) moves).docket uri).Ascending ↔ _ :=
        ih (reachable.follow [move]) next
          fun later member => unclosed later (List.mem_cons_of_mem move member)
      rw [follow_cons, rest, adds.ascending_iff bounded, unbeaten_cons, and_assoc]

/-- What is on record at the end of a run was there at its start, or is about the document as it was
at some point of the run. -/
theorem Reachable.mem_record_follow {moves : List Move} (reachable : Reachable state)
    {notice : Notice} (member : notice ∈ ((state.follow moves).docket uri).record) :
    notice ∈ (state.docket uri).record ∨ notice = .clear ∨
      ∃ before document, before <+: moves ∧
        (state.follow before).store.find? uri = some document ∧ notice = .about document := by
  induction moves generalizing state with
  | nil => exact Or.inl member
  | cons move moves ih =>
      rcases ih (reachable.follow [move]) member with old | clear | ⟨before, document, earlier, rest⟩
      · rcases (reachable.adds_move uri move).mem_record old with known | clear | ⟨document, rest⟩
        · exact Or.inl known
        · exact Or.inr (Or.inl clear)
        · exact Or.inr (Or.inr ⟨[], document, List.nil_prefix, rest⟩)
      · exact Or.inr (Or.inl clear)
      · right; right
        exact ⟨move :: before, document, List.cons_prefix_cons.mpr ⟨rfl, earlier⟩, rest⟩

/-! ### Runs without retirements -/

/-- Whether no retirement of the document is under way, and all its tasks stand at one guard. -/
structure Undisturbed (uri : Uri) (state : State) : Prop where
  gathered : state.Gathered uri
  unretired : (state.docket uri).Unretired

theorem undisturbed_initial (delay : UInt64) (gate : Option Uri) (uri : Uri) :
    (State.initial delay gate).Undisturbed uri := by
  constructor
  · rintro guard ⟨task, member, _⟩
    cases member
  · rintro job (⟨task, member, _⟩ | inLine)
    · cases member
    · cases inLine

/-- As long as the document is not retired, a task of it gets past the guard only when nobody is
inside. -/
theorem Undisturbed.move {move : Move} (undisturbed : state.Undisturbed uri)
    (reachable : Reachable state) (kept : move.command? ≠ some (.retire uri)) :
    (state.move move).Undisturbed uri ∧
      ¬(state.docket uri).Overtakes ((state.move move).docket uri) := by
  have gathered : (state.move move).Gathered uri := by
    apply Classical.byContradiction
    intro dropped
    obtain ⟨call, stage, member, _⟩ := reachable.dropped move undisturbed.gathered dropped
    have underWay := (underWay_iff rfl).mp ⟨_, member, rfl, rfl⟩
    cases undisturbed.unretired (.retirement call) underWay
  by_cases isTurn : move = .turn
  · subst isTurn
    cases stepped : state.step? with
    | none =>
        rw [move_turn_of_settled stepped]
        exact ⟨undisturbed, fun overtakes => overtakes.2.2 rfl⟩
    | some next =>
        have shift := shift_of_step? reachable.timers reachable.guarded stepped uri
        rw [move_turn stepped] at gathered ⊢
        exact ⟨⟨gathered, shift.unretired undisturbed.unretired⟩,
          shift.orderly undisturbed.gathered⟩
  · have unbroken := @unbroken_docket (fun command => command ≠ .retire uri) Docket.Unretired uri
      (by
        rintro _ docket ticket unretired job ((rfl | outside) | inLine)
        · rfl
        · exact unretired job (Or.inl outside.1)
        · exact unretired job (Or.inr inLine))
      (fun made => absurd rfl made)
      (by
        rintro _ docket unretired job (outside | inLine)
        · exact unretired job (Or.inl outside.1)
        · exact unretired job (Or.inr inLine))
      (by
        intro docket first rest awaiting unretired
        unfold Docket.Unretired Docket.Has
        rw [Docket.line_granted awaiting]
        exact unretired)
    have unretired := unbroken.move ⟨reachable.timers, undisturbed.unretired⟩ move
      (fun command made same => kept (by rw [made, same])) fun _ turn => absurd turn isTurn
    refine ⟨⟨gathered, unretired.2⟩, ?_⟩
    intro overtakes
    exact overtakes.2.2 (docket_move_of_call reachable.timers isTurn).2

theorem Undisturbed.orderly {moves : List Move} (undisturbed : state.Undisturbed uri)
    (reachable : Reachable state) (unretired : ∀ move ∈ moves, move.command? ≠ some (.retire uri)) :
    state.Orderly uri moves := by
  refine @orderly_of_invariant uri state moves (fun state moves => state.Undisturbed uri ∧
    ∀ move ∈ moves, move.command? ≠ some (.retire uri)) ?_ reachable ⟨undisturbed, unretired⟩
  rintro state move moves reachable ⟨undisturbed, unretired⟩
  obtain ⟨next, orderly⟩ := undisturbed.move reachable (unretired move List.mem_cons_self)
  exact ⟨⟨next, fun later member => unretired later (List.mem_cons_of_mem move member)⟩, orderly⟩

/-! ### What is published -/

def versionsOf (uri : Uri) (state : State) : List Int :=
  (state.published.filter fun item => item.uri = uri).filterMap fun item => item.notice.version

theorem versionsOf_eq (uri : Uri) (state : State) :
    state.versionsOf uri = versions (state.docket uri).notices :=
  (List.filterMap_map ..).symm

theorem versions_record (uri : Uri) (state : State) :
    versions (state.docket uri).record =
      state.versionsOf uri ++ versions ((state.docket uri).line.map Prod.snd) := by
  rw [versionsOf_eq]
  exact versions_append _ _

theorem versionsOf_ascend (ascending : (state.docket uri).Ascending) :
    (state.versionsOf uri).Pairwise (· ≤ ·) := by
  unfold Docket.Ascending at ascending
  rw [versions_record] at ascending
  exact (List.pairwise_append.mp ascending).1

theorem ascending_initial_iff {moves : List Move} (delay : UInt64) (gate : Option Uri)
    (unclosed : ∀ move ∈ moves, move.command? ≠ some (.closeDocument uri)) :
    (((State.initial delay gate).follow moves).docket uri).Ascending ↔
      (State.initial delay gate).Unbeaten uri moves := by
  have reachable : Reachable (State.initial delay gate) := ⟨delay, gate, [], rfl⟩
  rw [reachable.ascending_follow_iff (fun _ => nofun) unclosed]
  exact ⟨fun both => both.2, fun unbeaten => ⟨List.Pairwise.nil, unbeaten⟩⟩

/-- Where all calls settle and none closes the document, published versions do not fall. -/
theorem versionsOf_applyAll_ascend (delay : UInt64) (gate : Option Uri) (calls : List Command)
    (unclosed : ∀ call ∈ calls, call ≠ .closeDocument uri) :
    (((State.initial delay gate).applyAll (calls.map (Prod.mk true))).versionsOf uri).Pairwise
      (· ≤ ·) := by
  have reachable : Reachable (State.initial delay gate) := ⟨delay, gate, [], rfl⟩
  obtain ⟨moves, reached, made, patient⟩ :=
    @leadsPatiently_applyAll (State.initial delay gate) calls rfl
  rw [← reached]
  apply versionsOf_ascend
  apply (ascending_initial_iff delay gate _).mpr
  · exact (patient.orderly reachable List.Pairwise.nil).unbeaten
  · intro move member closes
    have called : .closeDocument uri ∈ calls.filter Command.isInstant := by
      rw [← made]
      exact List.mem_filterMap.mpr ⟨move, member, closes⟩
    exact unclosed _ (List.mem_filter.mp called).1 rfl

/-- Every version of a document that is published was read from the store with its text. As long as
the document is not closed, published versions do not fall unless a newer one is published ahead of
an older one in line, which is the only way for them to fall once nobody is in line. This does not
happen where notices need no permit, where the document is not retired, or where permits and time
come only when no task can go on, as they do where all calls settle. -/
theorem published_versions_ascend {moves : List Move} (delay : UInt64) (gate : Option Uri)
    (uri : Uri) (unclosed : ∀ move ∈ moves, move.command? ≠ some (.closeDocument uri)) :
    let start := State.initial delay gate
    let final := start.follow moves
    (∀ item ∈ final.published, item.uri = uri → ∀ version, item.notice.version = some version →
      ∃ before document, before <+: moves ∧
        (start.follow before).store.find? uri = some document ∧ document.version = version ∧
        item.notice.reports = (Analysis.ofText uri.text document.text).reports) ∧
    (start.Unbeaten uri moves → (final.versionsOf uri).Pairwise (· ≤ ·)) ∧
    ((∀ task ∈ final.tasks, task.uri = uri → task.stage.isInside = false) →
      (final.versionsOf uri).Pairwise (· ≤ ·) → start.Unbeaten uri moves) ∧
    (gate ≠ some uri ∨ (∀ move ∈ moves, move.command? ≠ some (.retire uri)) ∨
      start.Patient moves → start.Unbeaten uri moves) ∧
    ∀ calls : List Command, (∀ call ∈ calls, call ≠ .closeDocument uri) →
      ((start.applyAll (calls.map (Prod.mk true))).versionsOf uri).Pairwise (· ≤ ·) := by
  intro start final
  have reachable : Reachable start := ⟨delay, gate, [], rfl⟩
  have ascending := ascending_initial_iff delay gate unclosed
  refine ⟨?_, ?_, ?_, ?_, ?_⟩
  · intro item member owned version about
    have recorded : item.notice ∈ (final.docket uri).record := by
      refine List.mem_append_left _ (List.mem_map.mpr ⟨item, ?_, rfl⟩)
      exact List.mem_filter.mpr ⟨member, decide_eq_true owned⟩
    rcases reachable.mem_record_follow recorded with old | clear | ⟨before, document, earlier, rest⟩
    · cases old
    · rw [clear] at about
      cases about
    · obtain ⟨found, same⟩ := rest
      rw [same] at about ⊢
      refine ⟨before, document, earlier, found, Option.some.inj about, ?_⟩
      unfold Notice.about
      rw [Store.uri_of_find? found]
  · intro unbeaten
    exact versionsOf_ascend (ascending.mpr unbeaten)
  · intro outside sorted
    have empty : (final.docket uri).line = [] := by
      apply List.eq_nil_iff_forall_not_mem.mpr
      intro item member
      obtain ⟨stage, present, inside, _⟩ := mem_of_mem_line member
      have stuck := outside _ present rfl
      rw [show stage.isInside = true from inside] at stuck
      cases stuck
    apply ascending.mp
    unfold Docket.Ascending
    have whole : final.versionsOf uri ++ versions [] = final.versionsOf uri := List.append_nil _
    rw [versions_record, empty, List.map_nil, whole]
    exact sorted
  · rintro (ungated | unretired | patient)
    · exact (reachable.orderly_of_ungated ungated moves).unbeaten
    · exact ((undisturbed_initial delay gate uri).orderly reachable unretired).unbeaten
    · exact (patient.orderly reachable List.Pairwise.nil).unbeaten
  · exact fun calls => versionsOf_applyAll_ascend delay gate calls

/-- A change that comes while the version before waits for its permit is published after it. -/
theorem versions_ascend_of_changed :
    let uri : Uri := ⟨"file:///a.lg"⟩
    let moves : List Move :=
      [.call (.openDocument ⟨uri, 1, "# A"⟩) rfl, .call (.schedule uri) rfl, .turn,
        .call (.changeDocument ⟨uri, 2, "# B"⟩) rfl, .call (.schedule uri) rfl, .turn,
        .call (.release 2) rfl, .turn, .turn]
    let final := (State.initial 0 (some uri)).follow moves
    (∀ move ∈ moves, move.command? ≠ some (.closeDocument uri)) ∧
      (∀ move ∈ moves, move.command? ≠ some (.retire uri)) ∧
      final.versionsOf uri = [1, 2] ∧ (final.versionsOf uri).Pairwise (· ≤ ·) := by
  intro uri moves final
  have unclosed : ∀ move ∈ moves, move.command? ≠ some (.closeDocument uri) := by decide
  have unretired : ∀ move ∈ moves, move.command? ≠ some (.retire uri) := by decide
  obtain ⟨_, ascends, _, unbeaten, _⟩ := published_versions_ascend 0 (some uri) uri unclosed
  refine ⟨unclosed, unretired, by decide +kernel, ?_⟩
  exact ascends (unbeaten (Or.inr (Or.inl unretired)))

/-- A validation at a guard of its own finds the permit that an older one was to be handed, and
publishes ahead of it. -/
theorem version_published_backwards :
    let uri : Uri := ⟨"file:///a.lg"⟩
    let steps : List (Bool × Command) :=
      [(true, .openDocument ⟨uri, 1, "# A\n- one"⟩), (true, .retire uri), (true, .schedule uri),
        (true, .release 1), (true, .changeDocument ⟨uri, 2, "# A\n- ok"⟩), (false, .schedule uri),
        (false, .release 2), (true, .isPending uri)]
    let final := (State.initial 0 (some uri)).applyAll steps
    (∀ step ∈ steps, step.2 ≠ .closeDocument uri) ∧ final.versionsOf uri = [2, 1] ∧
      ¬(final.versionsOf uri).Pairwise (· ≤ ·) := by
  intro uri steps final
  have published : final.versionsOf uri = [2, 1] := by decide +kernel
  refine ⟨by decide, published, ?_⟩
  rw [published]
  decide

end State

end TemplateServer.Validation
