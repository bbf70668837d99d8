import TemplateServer.Session
import TemplateServer.Proofs.Document.Store
import TemplateServer.Proofs.Validation.Clearing
import TemplateServer.Proofs.Validation.Desk

/-!
What an editor sees of a session. Every event that changes a document also starts its timer, and
closing a document clears it at once. Main statement: as soon as no timer of an open document counts
any more, the reports that were published last are those of the document as it stands, unless
validation was shut down; and a document that was closed stays cleared.
-/

namespace TemplateServer

open Validation

namespace Validation

def Desk.last? (desk : Desk) : Option Notice :=
  (desk.log.map Publication.notice).getLast?

/-- Whether what was published last is what should be seen, once no validation is on the desk. -/
structure Desk.Shows (document? : Option Document) (shut closed : Bool) (desk : Desk) : Prop where
  validating : ∀ item ∈ desk.jobs, item.1.isRetirement = false
  current : ∀ document, document? = some document → desk.jobs = [] → shut = false →
    desk.last? = some (.about document)
  cleared : document? = none → closed = true → desk.last? = some .clear

namespace Desk

variable {document? : Option Document} {shut closed : Bool} {uri : Uri} {now : Nat}
  {desk next : Desk}

theorem last?_tell (time : Nat) (uri : Uri) (notice : Notice) (desk : Desk) :
    (desk.tell time uri notice).last? = some notice := by
  unfold last? tell
  rw [List.map_append]
  exact List.getLast?_concat

theorem Shows.clear_jobs (shows : desk.Shows document? shut closed) : desk.clear.jobs = [] := by
  apply List.filter_eq_nil_iff.mpr
  intro item member
  rw [shows.validating item member]
  exact Bool.false_ne_true

theorem Shows.turn (shows : desk.Shows document? shut closed)
    (turn : Turn uri document? now desk next) : next.Shows document? shut closed := by
  cases turn with
  | still => exact shows
  | skips ticket due before after split ripe absent =>
      refine ⟨?_, ?_, shows.cleared⟩
      · intro item member
        apply shows.validating
        rw [split]
        exact (List.sublist_append_right [_] after).append_left before |>.mem member
      · intro document present
        rw [absent] at present
        cases present
  | validates ticket due document before after split ripe present =>
      refine ⟨?_, ?_, ?_⟩
      · intro item member
        apply shows.validating
        rw [split]
        exact (List.sublist_append_right [_] after).append_left before |>.mem member
      · intro other also _ _
        rw [last?_tell, ← Option.some.inj (present.symm.trans also)]
      · intro absent
        rw [absent] at present
        cases present
  | clears call due before after split ripe =>
      have validating := shows.validating (.retirement call, due) (by rw [split]; simp)
      cases validating

/-- A document that was scheduled is yet to be validated. -/
theorem Shows.schedule (shows : desk.Shows document? shut closed) (document : Document)
    (still : Bool) (ticket due : Nat) :
    Shows (some document) still closed
      { desk.clear with jobs := desk.clear.jobs ++ [(.validation ticket, due)] } := by
  refine ⟨?_, ?_, nofun⟩
  · intro item member
    rw [shows.clear_jobs] at member
    rw [List.mem_singleton.mp member]
    rfl
  · intro _ _ empty
    simp at empty

theorem Shows.retire (shows : desk.Shows document? shut closed) (time : Nat) (still : Bool) :
    Shows none still true (desk.clear.tell time uri .clear) := by
  refine ⟨?_, nofun, fun _ _ => last?_tell time uri .clear desk.clear⟩
  intro item member
  have empty : (desk.clear.tell time uri .clear).jobs = [] := shows.clear_jobs
  rw [empty] at member
  cases member

theorem Shows.shutdown (shows : desk.Shows document? shut closed) :
    Shows document? true closed desk.clear := by
  refine ⟨?_, fun _ _ _ => nofun, shows.cleared⟩
  intro item member
  rw [shows.clear_jobs] at member
  cases member

end Desk

namespace State

/-- Whether what was published last about a document is what should be seen in a state. -/
structure Shows (uri : Uri) (shut closed : Bool) (state : State) : Prop where
  untied : Untied state
  desk : (state.desk uri).Shows (state.store.find? uri) shut closed

variable {state next : State} {uri : Uri} {shut closed : Bool}

theorem Leads.invariant {holds : State → Prop}
    (turn : ∀ {state next : State}, state.step? = some next → holds state → holds next)
    (pass : ∀ {state : State} (now : Nat), holds state → holds { state with now := now })
    (leads : Leads state [] next) (start : holds state) : holds next := by
  obtain ⟨moves, rfl, uncalled⟩ := leads
  induction moves generalizing state with
  | nil => exact start
  | cons move moves ih =>
      cases move with
      | call command instant => cases uncalled
      | turn =>
          apply ih _ uncalled
          cases stepped : state.step? with
          | none =>
              rw [move_turn_of_settled stepped]
              exact start
          | some later =>
              rw [move_turn stepped]
              exact turn stepped start
      | pass time => exact ih (pass _ start) uncalled

theorem Shows.leads (shows : state.Shows uri shut closed) (leads : Leads state [] next) :
    next.Shows uri shut closed := by
  refine leads.invariant ?_ ?_ shows
  · intro state next stepped shows
    obtain ⟨free, turn⟩ := shows.untied.turn stepped uri
    refine ⟨free, ?_⟩
    rw [(sameSetting_step? stepped).store]
    exact shows.desk.turn turn
  · intro state now shows
    exact ⟨shows.untied.setting state.store state.delay now, shows.desk⟩

/-- A document that is open once it is scheduled is yet to be validated. -/
theorem Shows.schedule_self (shows : state.Shows uri shut closed) {store : Store}
    {document : Document} (found : store.find? uri = some document) (still : Bool) :
    (State.schedule uri { state with store := store }).Shows uri still closed := by
  have free : Untied { state with store := store } :=
    shows.untied.setting store state.delay state.now
  refine ⟨free.schedule uri, ?_⟩
  have same : (State.schedule uri { state with store := store }).store = store := by
    rw [schedule_eq]
    exact (sameSetting_cancel uri _).store
  rw [same, free.desk_schedule, if_pos rfl, found]
  exact shows.desk.schedule document still _ _

theorem Shows.schedule_other (shows : state.Shows uri shut closed) {store : Store} {owner : Uri}
    (other : owner ≠ uri) (kept : store.find? uri = state.store.find? uri) :
    (State.schedule owner { state with store := store }).Shows uri shut closed := by
  have free : Untied { state with store := store } :=
    shows.untied.setting store state.delay state.now
  refine ⟨free.schedule owner, ?_⟩
  have same : (State.schedule owner { state with store := store }).store = store := by
    rw [schedule_eq]
    exact (sameSetting_cancel owner _).store
  rw [same, free.desk_schedule, if_neg other, kept]
  exact shows.desk

theorem store_retireNow (owner : Uri) (state : State) :
    (state.retireNow owner).store = state.store := by
  have runnable : (state.retirement owner).stage.isRunnable state.now = true :=
    decide_eq_true (Nat.le_refl state.now)
  exact (resume_turn _ runnable).sameSetting.store

theorem Shows.retireNow (shows : state.Shows uri shut closed) (owner : Uri) :
    (State.retireNow owner { state with store := (state.store.erase owner).2 }).Shows uri shut
      (closed || owner = uri) := by
  have free : Untied { state with store := (state.store.erase owner).2 } :=
    shows.untied.setting _ state.delay state.now
  obtain ⟨freed, same⟩ := free.retireNow owner uri
  refine ⟨freed, ?_⟩
  rw [store_retireNow, same]
  change Desk.Shows ((state.store.erase owner).2.find? uri) _ _ _
  rw [Store.find?_erase]
  by_cases owned : owner = uri
  · rw [if_pos owned, if_pos owned, decide_eq_true owned, Bool.or_true]
    exact shows.desk.retire _ shut
  · rw [if_neg owned, if_neg owned, decide_eq_false owned, Bool.or_false]
    exact shows.desk

theorem Shows.shutdown (shows : state.Shows uri shut closed) :
    state.shutdown.Shows uri true closed := by
  obtain ⟨free, same⟩ := shows.untied.shutdown uri
  refine ⟨free, ?_⟩
  rw [same, (sameSetting_shutdown state).store]
  exact shows.desk.shutdown

theorem Shows.setDelay (shows : state.Shows uri shut closed) (delay : Duration) :
    (state.setDelay delay).Shows uri shut closed := by
  -- for any delay at all: what the delay comes to is never looked into
  have kept : ∀ count : UInt64, State.Shows uri shut closed { state with delay := count } :=
    fun count => ⟨shows.untied.setting state.store count state.now, shows.desk⟩
  exact kept delay.milliseconds

end State

end Validation

/-! ### Events -/

namespace Event

def schedules (uri : Uri) (session : Session) : Event → Bool
  | .opened document => document.uri = uri
  | .changed other version texts =>
    other = uri && !texts.isEmpty &&
      (session.find? uri).all fun document => document.version ≤ version
  | _ => false

/-- Whether validation is shut down after an event and the document was not scheduled since. -/
def leavesShut (uri : Uri) (session : Session) (shut : Bool) : Event → Bool
  | .shutdown => true
  | event => shut && !event.schedules uri session

def closes (uri : Uri) : Event → Bool
  | .closed other => other = uri
  | _ => false

end Event

namespace Session

def applyAll (session : Session) (steps : List (Bool × Event)) : Session :=
  steps.foldl (fun session step => session.apply step.1 step.2) session

/-- Whether validation is shut down after some events and the document was not scheduled since. -/
def isShut (uri : Uri) : Session → Bool → List (Bool × Event) → Bool
  | _, shut, [] => shut
  | session, shut, step :: steps =>
    isShut uri (session.apply step.1 step.2) (step.2.leavesShut uri session shut) steps

variable {session : Session} {uri : Uri} {shut closed : Bool}

theorem shows_applySettings (shows : session.validation.Shows uri shut closed) (sent : Json) :
    (session.applySettings sent).validation.Shows uri shut closed := by
  unfold applySettings
  cases Settings.ofClient? sent with
  | none => exact shows
  | some read =>
      cases read with
      | ok settings => exact shows.setDelay _
      | error error => exact shows

theorem shows_openDocument (shows : session.validation.Shows uri shut closed)
    (document : Document) :
    (session.openDocument document).validation.Shows uri
      (shut && !Event.schedules uri session (.opened document)) closed := by
  have found := Store.find?_insertNew document session.validation.store uri
  by_cases owned : document.uri = uri
  · rw [if_pos owned] at found
    subst owned
    exact shows.schedule_self found _
  · rw [if_neg owned] at found
    have kept : (shut && !Event.schedules uri session (.opened document)) = shut := by
      simp [Event.schedules, owned]
    rw [kept]
    exact shows.schedule_other owned found

/-- A change that is made starts the timer, and one that is not leaves the session as it is. -/
theorem shows_changeDocument (shows : session.validation.Shows uri shut closed) (other : Uri)
    (version : Int) (texts : List String) :
    (session.changeDocument other version texts).validation.Shows uri
      (shut && !Event.schedules uri session (.changed other version texts)) closed := by
  unfold changeDocument
  cases last : texts.getLast? with
  | none =>
      have kept : (shut && !Event.schedules uri session (.changed other version texts)) = shut := by
        simp [Event.schedules, List.getLast?_eq_none_iff.mp last]
      rw [kept]
      exact shows
  | some text =>
      have nonempty : texts.isEmpty = false := by
        cases texts with
        | nil => cases last
        | cons first rest => rfl
      have found := Store.find?_change ⟨other, version, text⟩ session.validation.store uri
      have stale := @Store.change_eq_stale_iff session.validation.store ⟨other, version, text⟩
      -- a change that is made, whether the document was open before or not
      have made {store : Store} (kept : store.find? uri =
          if other = uri then some ⟨other, version, text⟩ else session.validation.store.find? uri) :
          (State.schedule other { session.validation with store := store }).Shows uri
            (shut && !Event.schedules uri session (.changed other version texts)) closed := by
        by_cases owned : other = uri
        · rw [if_pos owned] at kept
          subst owned
          exact shows.schedule_self kept _
        · rw [if_neg owned] at kept
          have same : (shut && !Event.schedules uri session (.changed other version texts)) =
              shut := by
            simp [Event.schedules, owned]
          rw [same]
          exact shows.schedule_other owned kept
      rcases change : session.validation.store.change ⟨other, version, text⟩ with ⟨outcome, store⟩
      dsimp only
      rw [change] at found stale ⊢
      cases outcome with
      | stale =>
          obtain ⟨old, present, lower⟩ := stale.mp rfl
          have kept : (shut && !Event.schedules uri session (.changed other version texts)) =
              shut := by
            by_cases owned : other = uri
            · subst owned
              have known : session.find? other = some old := present
              have late : ¬old.version ≤ version := Int.not_le.mpr lower
              simp [Event.schedules, known, late]
            · simp [Event.schedules, owned]
          rw [kept]
          exact shows
      | updated => exact made (by simpa using found)
      | opened => exact made (by simpa using found)

/-- What was published last stays what should be seen, event by event. -/
theorem shows_handle (shows : session.validation.Shows uri shut closed) (event : Event) :
    (session.handle event).validation.Shows uri (event.leavesShut uri session shut)
      (closed || event.closes uri) := by
  have unclosed {next : State} {still : Bool} (shown : next.Shows uri still closed) :
      next.Shows uri still (closed || false) := by
    rw [Bool.or_false]
    exact shown
  have unscheduled {next : State} {still : Bool} (shown : next.Shows uri shut still) :
      next.Shows uri (shut && !false) still := by
    rw [Bool.not_false, Bool.and_true]
    exact shown
  cases event with
  | started options =>
      cases options with
      | none => exact unclosed (unscheduled shows)
      | some options => exact unclosed (unscheduled (shows_applySettings shows options))
  | acknowledged => exact unclosed (unscheduled shows)
  | opened document => exact unclosed (shows_openDocument shows document)
  | changed other version texts => exact unclosed (shows_changeDocument shows other version texts)
  | closed other => exact unscheduled (shows.retireNow other)
  | configured settings => exact unclosed (unscheduled (shows_applySettings shows settings))
  | elapsed duration =>
      have passed := shows.leads (State.leads_advance duration session.validation)
      exact unclosed (unscheduled passed)
  | shutdown => exact unclosed shows.shutdown
  | idle => exact unclosed (unscheduled shows)

theorem shows_applyAll (steps : List (Bool × Event))
    (shows : session.validation.Shows uri shut closed) :
    (session.applyAll steps).validation.Shows uri (session.isShut uri shut steps)
      (closed || steps.any fun step => step.2.closes uri) := by
  induction steps generalizing session shut closed with
  | nil =>
      rw [List.any_nil, Bool.or_false]
      exact shows
  | cons step steps ih =>
      obtain ⟨settles, event⟩ := step
      have handled := shows_handle shows event
      have applied : (session.apply settles event).validation.Shows uri
          (event.leavesShut uri session shut) (closed || event.closes uri) := by
        cases settles with
        | false => exact handled
        | true => exact handled.leads (State.leads_settle _)
      have rest := ih applied
      rw [Bool.or_assoc] at rest
      exact rest

theorem shows_initial (settings : Settings) (uri : Uri) :
    (Session.initial settings).validation.Shows uri false false :=
  ⟨⟨State.timers_initial _ none, rfl, fun _ => nofun⟩, ⟨fun _ => nofun, nofun, nofun⟩⟩

/-- After any events, the reports that were published last about an open document are those of the
document as it stands, unless its timer counts or validation was shut down since it was last
scheduled; and a document that was closed and is not open was cleared last. -/
theorem lastNotice?_is_current (settings : Settings) (steps : List (Bool × Event)) (uri : Uri) :
    let session := (Session.initial settings).applyAll steps
    (∀ document, session.find? uri = some document → session.validation.isPending uri = false →
      (Session.initial settings).isShut uri false steps = false →
      session.validation.lastNotice? uri =
        some ⟨(Analysis.ofText uri.text document.text).reports, some document.version⟩) ∧
    (session.find? uri = none → (∃ step ∈ steps, step.2 = .closed uri) →
      session.validation.lastNotice? uri = some .clear) := by
  intro session
  have shows := shows_applyAll steps (shows_initial settings uri)
  constructor
  · intro document found idle unshut
    have empty : (session.validation.desk uri).jobs = [] := by
      rw [← shows.untied.clear_of_idle idle]
      exact shows.desk.clear_jobs
    have current := shows.desk.current document found empty unshut
    unfold Notice.about at current
    rw [Store.uri_of_find? found] at current
    exact current
  · rintro absent ⟨step, member, closing⟩
    apply shows.desk.cleared absent
    rw [Bool.false_or, List.any_eq_true]
    refine ⟨step, member, ?_⟩
    rw [closing]
    exact decide_eq_true rfl

/-- Validation goes on with the first change after a shutdown, a stale change is not seen, and
another document is closed before it was validated. -/
theorem current_after_shutdown :
    let first : Uri := ⟨"file:///a.lg"⟩
    let second : Uri := ⟨"file:///b.lg"⟩
    let settings : Settings := ⟨⟨500⟩⟩
    let steps : List (Bool × Event) :=
      [(true, .opened ⟨first, 1, "# A\n- $\x7bnope()\x7d"⟩), (true, .elapsed 500), (true, .shutdown),
        (true, .changed first 2 ["# B", "# A\n- one"]), (true, .changed first 1 ["# C"]),
        (true, .opened ⟨second, 1, "x"⟩), (true, .closed second), (true, .elapsed 500)]
    let session := (Session.initial settings).applyAll steps
    session.find? first = some ⟨first, 2, "# A\n- one"⟩ ∧
      session.validation.isPending first = false ∧
      (Session.initial settings).isShut first false steps = false ∧
      session.validation.lastNotice? first =
        some ⟨(Analysis.ofText "file:///a.lg" "# A\n- one").reports, some 2⟩ ∧
      session.find? second = none ∧ session.validation.lastNotice? second = some .clear := by
  intro first second settings steps session
  have present : session.find? first = some ⟨first, 2, "# A\n- one"⟩ := by decide +kernel
  have idle : session.validation.isPending first = false := by decide +kernel
  have unshut : (Session.initial settings).isShut first false steps = false := by decide +kernel
  have gone : session.find? second = none := by decide +kernel
  refine ⟨present, idle, unshut, ?_, gone, ?_⟩
  · exact (lastNotice?_is_current settings steps first).1 _ present idle unshut
  · exact (lastNotice?_is_current settings steps second).2 gone
      ⟨(true, .closed second), by simp [steps], rfl⟩

end Session

end TemplateServer
