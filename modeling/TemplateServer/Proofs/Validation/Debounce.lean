import TemplateServer.Proofs.Validation.Desk

/-!
Debouncing as a history. What is published about a document can be told from the calls alone: a
retirement clears it at once, and a timer that nothing ends while it runs has the document of that
moment validated when it runs out. Main statement: where no notice needs a permit and every call
settles, this is all that is published, in this order.
-/

namespace TemplateServer.Validation

/-- What calls set that neither tasks nor timers do: the clock, the delay and the documents. -/
structure Setting where
  now : Nat
  delay : UInt64
  store : Store

def Command.endsTimer (uri : Uri) : Command → Bool
  | .schedule other => other = uri
  | .retire other => other = uri
  | .shutdown => true
  | _ => false

def restOf (delay : UInt64) : Nat :=
  min delay.toNat longestRest

namespace Setting

def after (setting : Setting) : Command → Setting
  | .openDocument document => { setting with store := (setting.store.insertNew document).2 }
  | .changeDocument document => { setting with store := (setting.store.change document).2 }
  | .closeDocument uri => { setting with store := (setting.store.erase uri).2 }
  | .setDelay delay => { setting with delay := delay.milliseconds }
  | .advance duration => { setting with now := setting.now + duration }
  | _ => setting

theorem now_le_after (setting : Setting) (call : Command) :
    setting.now ≤ (setting.after call).now := by
  cases call with
  | advance duration => exact Nat.le_add_right setting.now duration
  | setDelay delay =>
      -- for any delay at all: what the delay comes to is never looked into
      have kept : ∀ count, setting.now ≤ Setting.now { setting with delay := count } :=
        fun _ => Nat.le_refl setting.now
      exact kept _
  | _ => exact Nat.le_refl setting.now

def report? (uri : Uri) (time : Nat) (setting : Setting) : Option Publication :=
  (setting.store.find? uri).map fun document => ⟨time, uri, .about document⟩

/-- What comes of a timer in the course of some calls. It runs out when the clock gets to `due`,
unless a call ends it before. -/
def ring? (uri : Uri) (due : Nat) : Setting → List Command → Option Publication
  | setting, [] => if due ≤ setting.now then setting.report? uri due else none
  | setting, call :: calls =>
    if due ≤ setting.now then setting.report? uri due
    else if call.endsTimer uri then none
    else ring? uri due (setting.after call) calls

/-- What some calls have published about a document, each call at its turn: a retirement clears it,
and a call that schedules it starts a timer, which runs for `period delay`. -/
def trace (period : UInt64 → Nat) (uri : Uri) : Setting → List Command → List Publication
  | _, [] => []
  | setting, call :: calls =>
    (match call with
      | .schedule other =>
        if other = uri then
          (ring? uri (setting.now + period setting.delay) setting calls).toList
        else []
      | .retire other => if other = uri then [⟨setting.now, uri, .clear⟩] else []
      | _ => []) ++ trace period uri (setting.after call) calls

end Setting

/-! ### One document watched -/

/-- A document with the timer that runs for it, if there is one. -/
structure Watch where
  setting : Setting
  alarm? : Option Nat

namespace Watch

/-- The timer after a call, before the clock is looked at. -/
def reset (uri : Uri) (watch : Watch) (call : Command) : Option Nat :=
  if call.endsTimer uri then
    match call with
    | .schedule _ => some (watch.setting.now + restOf watch.setting.delay)
    | _ => none
  else watch.alarm?

def clearing (uri : Uri) (watch : Watch) : Command → List Publication
  | .retire other => if other = uri then [⟨watch.setting.now, uri, .clear⟩] else []
  | _ => []

def running (now : Nat) : Option Nat → Option Nat
  | none => none
  | some due => if due ≤ now then none else some due

/-- What a timer publishes that has run out. -/
def rung (uri : Uri) (setting : Setting) : Option Nat → List Publication
  | none => []
  | some due => if due ≤ setting.now then (setting.report? uri due).toList else []

/-- Makes a call, and then lets the timer run out if its time has come. -/
def call (uri : Uri) (watch : Watch) (call : Command) : Watch :=
  ⟨watch.setting.after call, running (watch.setting.after call).now (watch.reset uri call)⟩

def told (uri : Uri) (watch : Watch) (call : Command) : List Publication :=
  watch.clearing uri call ++ rung uri (watch.setting.after call) (watch.reset uri call)

def log (uri : Uri) : Watch → List Command → List Publication
  | _, [] => []
  | watch, call :: calls => watch.told uri call ++ log uri (watch.call uri call) calls

variable {uri : Uri} {watch : Watch}

theorem ring?_of_late {due : Nat} {setting : Setting} (late : ¬due ≤ setting.now) (call : Command)
    (calls : List Command) :
    setting.ring? uri due (call :: calls) =
      if call.endsTimer uri then none else (setting.after call).ring? uri due calls := by
  rw [Setting.ring?, if_neg late]

theorem ring?_of_ripe {due : Nat} {setting : Setting} (ripe : due ≤ setting.now)
    (calls : List Command) : setting.ring? uri due calls = setting.report? uri due := by
  cases calls with
  | nil => rw [Setting.ring?, if_pos ripe]
  | cons call calls => rw [Setting.ring?, if_pos ripe]

/-- What a timer leads to is what it publishes now, if its time has come, and what it leads to
later. -/
theorem rung_append_ring? (setting : Setting) (alarm? : Option Nat) (calls : List Command) :
    rung uri setting alarm? ++
        ((running setting.now alarm?).bind fun due => setting.ring? uri due calls).toList =
      (alarm?.bind fun due => setting.ring? uri due calls).toList := by
  cases alarm? with
  | none => rfl
  | some due =>
      by_cases ripe : due ≤ setting.now
      · simp [rung, running, ripe, ring?_of_ripe ripe]
      · simp [rung, running, ripe]

theorem lt_of_running {now due : Nat} {alarm? : Option Nat} (still : running now alarm? = some due) :
    now < due := by
  cases alarm? with
  | none => cases still
  | some limit =>
      by_cases ripe : limit ≤ now
      · simp [running, ripe] at still
      · simp [running, ripe] at still
        omega

theorem eq_of_running {now due : Nat} {alarm? : Option Nat} (still : running now alarm? = some due) :
    alarm? = some due := by
  cases alarm? with
  | none => cases still
  | some limit =>
      change (if limit ≤ now then none else some limit) = some due at still
      split at still
      · cases still
      · exact still

/-- A call does to the timer what the trace says: a timer that it does not end runs on, and one that
it starts takes the place of the one before. -/
theorem reset_eq (call : Command) (calls : List Command)
    (later : ∀ due ∈ watch.alarm?, watch.setting.now < due) :
    watch.clearing uri call ++ ((watch.reset uri call).bind fun due =>
        (watch.setting.after call).ring? uri due calls).toList ++
        (watch.setting.after call).trace restOf uri calls =
      (watch.alarm?.bind fun due => watch.setting.ring? uri due (call :: calls)).toList ++
        watch.setting.trace restOf uri (call :: calls) := by
  have rings : (watch.alarm?.bind fun due => watch.setting.ring? uri due (call :: calls)) =
      if call.endsTimer uri then none
      else watch.alarm?.bind fun due => (watch.setting.after call).ring? uri due calls := by
    cases alarm : watch.alarm? with
    | none => simp
    | some due =>
        have late : ¬due ≤ watch.setting.now := Nat.not_le_of_lt (later due alarm)
        simp only [Option.bind_some]
        exact ring?_of_late late call calls
  rw [rings]
  cases call with
  | schedule other =>
      by_cases owned : other = uri
      · simp [reset, clearing, Command.endsTimer, Setting.trace, Setting.after, owned]
      · simp [reset, clearing, Command.endsTimer, Setting.trace, Setting.after, owned]
  | retire other =>
      by_cases owned : other = uri
      · simp [reset, clearing, Command.endsTimer, Setting.trace, owned]
      · simp [reset, clearing, Command.endsTimer, Setting.trace, owned]
  | shutdown => simp [reset, clearing, Command.endsTimer, Setting.trace]
  | _ => simp [reset, clearing, Command.endsTimer, Setting.trace]

/-- Watching a document call by call publishes what the calls lead to one after the other. -/
theorem log_eq_trace (calls : List Command) (watch : Watch)
    (later : ∀ due ∈ watch.alarm?, watch.setting.now < due) :
    watch.log uri calls =
      (watch.alarm?.bind fun due => watch.setting.ring? uri due calls).toList ++
        watch.setting.trace restOf uri calls := by
  induction calls generalizing watch with
  | nil =>
      cases alarm : watch.alarm? with
      | none => simp [log, Setting.trace]
      | some due =>
          have late := later due alarm
          simp [log, Setting.trace, Setting.ring?, Nat.not_le_of_lt late]
  | cons call calls ih =>
      have next : ∀ due ∈ (watch.call uri call).alarm?,
          (watch.call uri call).setting.now < due := fun due => lt_of_running
      have rings := @rung_append_ring? uri (watch.setting.after call) (watch.reset uri call) calls
      rw [log, ih _ next, ← reset_eq call calls later, ← rings, told]
      simp only [List.append_assoc]
      rfl

/-- A call leads to one publication at most. -/
theorem told_cases (call : Command) (later : ∀ due ∈ watch.alarm?, watch.setting.now < due) :
    watch.told uri call = [] ∨
    ∃ item, watch.told uri call = [item] ∧ watch.setting.now ≤ item.time ∧
      item.time ≤ (watch.setting.after call).now := by
  by_cases retires : call = .retire uri
  · right
    refine ⟨⟨watch.setting.now, uri, .clear⟩, ?_, Nat.le_refl _, ?_⟩
    · simp [retires, told, clearing, reset, Command.endsTimer, rung]
    · simp [retires, Setting.after]
  · have silent : watch.clearing uri call = [] := by
      cases call with
      | retire other => exact if_neg fun owned => retires (by rw [owned])
      | _ => rfl
    have soon : ∀ due ∈ watch.reset uri call, watch.setting.now ≤ due := by
      intro due set
      unfold reset at set
      split at set
      · cases call with
        | schedule other =>
            have same := Option.some.inj set
            omega
        | _ => cases set
      · exact Nat.le_of_lt (later due set)
    unfold told
    rw [silent, List.nil_append]
    cases set : watch.reset uri call with
    | none => exact Or.inl rfl
    | some due =>
        by_cases ripe : due ≤ (watch.setting.after call).now
        · cases found : (watch.setting.after call).report? uri due with
          | none => exact Or.inl (by simp [rung, ripe, found])
          | some item =>
              obtain ⟨document, _, rfl⟩ := Option.map_eq_some_iff.mp found
              exact Or.inr ⟨⟨due, uri, .about document⟩, by simp [rung, ripe, found],
                soon due set, ripe⟩
        · exact Or.inl (by simp [rung, ripe])

/-- What some calls lead to being published comes in the order of time, none of it before now. -/
theorem log_sorted (calls : List Command) (watch : Watch)
    (later : ∀ due ∈ watch.alarm?, watch.setting.now < due) :
    (watch.log uri calls).Pairwise (fun first second => first.time ≤ second.time) ∧
      ∀ item ∈ watch.log uri calls, watch.setting.now ≤ item.time := by
  induction calls generalizing watch with
  | nil => exact ⟨List.Pairwise.nil, fun _ member => (nomatch member)⟩
  | cons call calls ih =>
      obtain ⟨sorted, bounded⟩ := ih (watch.call uri call) fun due => lt_of_running
      change ∀ item ∈ log uri _ calls, (watch.setting.after call).now ≤ item.time at bounded
      have onward := watch.setting.now_le_after call
      rw [log]
      rcases told_cases call later with none | ⟨item, one, soon, done⟩
      · rw [none, List.nil_append]
        exact ⟨sorted, fun item member => Nat.le_trans onward (bounded item member)⟩
      · rw [one]
        refine ⟨List.pairwise_cons.mpr ⟨?_, sorted⟩, ?_⟩
        · intro other member
          exact Nat.le_trans done (bounded other member)
        · intro other member
          rcases List.mem_cons.mp member with here | there
          · rw [here]
            exact soon
          · exact Nat.le_trans onward (bounded other there)

/-- It makes no difference to a timer whether the clock is looked at on the way. -/
theorem rung_append_rung {now time : Nat} (onward : now ≤ time) (delay : UInt64) (store : Store)
    (alarm? : Option Nat) :
    rung uri ⟨now, delay, store⟩ alarm? ++ rung uri ⟨time, delay, store⟩ (running now alarm?) =
      rung uri ⟨time, delay, store⟩ alarm? := by
  cases alarm? with
  | none => rfl
  | some due =>
      by_cases ripe : due ≤ now
      · simp [rung, running, ripe, Nat.le_trans ripe onward, Setting.report?]
      · simp [rung, running, ripe]

theorem running_running {now time : Nat} (onward : now ≤ time) (alarm? : Option Nat) :
    running time (running now alarm?) = running time alarm? := by
  cases alarm? with
  | none => rfl
  | some due =>
      by_cases ripe : due ≤ now
      · simp [running, ripe, Nat.le_trans ripe onward]
      · simp [running, ripe]

end Watch

namespace State

def setting (state : State) : Setting :=
  ⟨state.now, state.delay, state.store⟩

def alarmJobs (ticket : Nat) (alarm? : Option Nat) : List (Job × Nat) :=
  (alarm?.map fun due => (.validation ticket, due)).toList

/-- Whether a state is as the watch over a document says, and the timer has yet to run out. -/
structure Keeps (uri : Uri) (watch : Watch) (state : State) : Prop where
  untied : Untied state
  setting : state.setting = watch.setting
  jobs : ∃ ticket, (state.desk uri).jobs = alarmJobs ticket watch.alarm?
  later : ∀ due ∈ watch.alarm?, watch.setting.now < due

variable {state : State} {uri : Uri} {watch : Watch}

theorem Keeps.now (keeps : state.Keeps uri watch) : state.now = watch.setting.now :=
  congrArg Setting.now keeps.setting

theorem SameSetting.setting_eq {next : State} (same : SameSetting state next) :
    next.setting = state.setting := by
  unfold State.setting
  rw [same.now, same.delay, same.store]

theorem setting_settle (state : State) : state.settle.setting = state.setting :=
  (sameSetting_settle state).setting_eq

private theorem nil_of_single {item other : Job × Nat} {before after : List (Job × Nat)}
    (split : [item] = before ++ other :: after) : before = [] ∧ item = other ∧ after = [] := by
  cases before with
  | nil =>
      obtain ⟨same, rest⟩ := List.cons_eq_cons.mp split
      exact ⟨rfl, same, rest.symm⟩
  | cons first before => simp at split

theorem turn_of_none {document? : Option Document} {now : Nat} {desk later : Desk}
    (turn : Desk.Turn uri document? now desk later) (jobs : desk.jobs = []) : later = desk := by
  cases turn with
  | still => rfl
  | skips ticket due before after split ripe closed => simp [jobs] at split
  | validates ticket due document before after split ripe present => simp [jobs] at split
  | clears call due before after split ripe => simp [jobs] at split

theorem turn_of_alarm {document? : Option Document} {now ticket due : Nat} {desk later : Desk}
    (turn : Desk.Turn uri document? now desk later)
    (jobs : desk.jobs = [(.validation ticket, due)]) :
    later = desk ∨
      later = ⟨[], desk.log ++
        (document?.map fun document => Publication.mk now uri (.about document)).toList⟩ := by
  cases turn with
  | still => exact Or.inl rfl
  | skips number limit before after split ripe closed =>
      obtain ⟨rfl, _, rfl⟩ := nil_of_single (jobs.symm.trans split)
      right
      simp [closed]
  | validates number limit document before after split ripe present =>
      obtain ⟨rfl, _, rfl⟩ := nil_of_single (jobs.symm.trans split)
      right
      simp [present, Desk.tell]
  | clears call limit before after split ripe =>
      obtain ⟨_, same, _⟩ := nil_of_single (jobs.symm.trans split)
      cases same

/-- Settling lets the timer run out if its time is now. -/
theorem Untied.settle_alarm (untied : Untied state) {ticket : Nat} {alarm? : Option Nat}
    (jobs : (state.desk uri).jobs = alarmJobs ticket alarm?)
    (soon : ∀ due ∈ alarm?, state.now ≤ due) :
    state.settle.Keeps uri ⟨state.setting, Watch.running state.now alarm?⟩ ∧
      (state.settle.desk uri).log =
        (state.desk uri).log ++ Watch.rung uri state.setting alarm? := by
  have later : ∀ due ∈ Watch.running state.now alarm?, state.now < due :=
    fun due => Watch.lt_of_running
  cases alarm? with
  | none =>
      obtain ⟨free, same⟩ := untied.settle_of_later (by
        rw [jobs]
        exact fun _ member => (nomatch member))
      rw [same]
      exact ⟨⟨free, setting_settle state, ⟨ticket, by rw [same, jobs]; rfl⟩, later⟩,
        (List.append_nil _).symm⟩
  | some due =>
      by_cases late : state.now < due
      · have running : Watch.running state.now (some due) = some due :=
          if_neg (Nat.not_le_of_lt late)
        have silent : Watch.rung uri state.setting (some due) = [] :=
          if_neg (Nat.not_le_of_lt late)
        obtain ⟨free, same⟩ := untied.settle_of_later (by
          rw [jobs]
          intro item member
          rw [List.mem_singleton.mp member]
          exact late)
        rw [same, silent, List.append_nil]
        exact ⟨⟨free, setting_settle state, ⟨ticket, by rw [same, jobs, running]⟩, later⟩, rfl⟩
      · have now : state.now = due := Nat.le_antisymm (soon due rfl) (Nat.le_of_not_lt late)
        have ripe : due ≤ state.now := Nat.le_of_eq now.symm
        have ended : Watch.running state.now (some due) = none := if_pos ripe
        have told : Watch.rung uri state.setting (some due) =
            (state.setting.report? uri due).toList := if_pos ripe
        obtain ⟨free, done, rest⟩ := @Untied.settle_desk state uri untied
          (fun desk => desk = state.desk uri ∨
            desk = ⟨[], (state.desk uri).log ++ (state.setting.report? uri due).toList⟩) (by
              rintro desk next turn (rfl | rfl)
              · rcases turn_of_alarm turn jobs with still | rung
                · exact Or.inl still
                · right
                  rw [rung, now]
                  rfl
              · exact Or.inr (turn_of_none turn rfl)) (Or.inl rfl)
        -- the timer is not on the desk any more, since its time has come
        rcases done with still | rung
        · rw [still, jobs] at rest
          exact absurd (rest _ List.mem_cons_self) late
        · rw [rung, told]
          exact ⟨⟨free, setting_settle state, ⟨ticket, by rw [rung, ended]; rfl⟩, later⟩, rfl⟩

theorem turn_of_retiring {document? : Option Document} {now call time : Nat} {desk later : Desk}
    (turn : Desk.Turn uri document? now desk later)
    (unripe : ∀ ticket due, (.validation ticket, due) ∈ desk.jobs → now < due)
    (only : desk.clear.jobs = [(.retirement call, time)]) :
    later = desk ∨ later = ⟨[], desk.log ++ [⟨now, uri, .clear⟩]⟩ := by
  cases turn with
  | still => exact Or.inl rfl
  | skips ticket due before after split ripe closed =>
      have late := unripe ticket due (by rw [split]; simp)
      exact absurd ripe (Nat.not_le_of_lt late)
  | validates ticket due document before after split ripe present =>
      have late := unripe ticket due (by rw [split]; simp)
      exact absurd ripe (Nat.not_le_of_lt late)
  | clears number due before after split ripe =>
      right
      unfold Desk.clear at only
      rw [split, List.filter_append, List.filter_cons_of_pos rfl] at only
      obtain ⟨first, _, last⟩ := nil_of_single only.symm
      simp only [Desk.tell, Desk.clear, List.filter_append, first, last, List.append_nil]

/-- Settling clears a document that is to be cleared, and ends its timer. -/
theorem Untied.settle_retiring (untied : Untied state) {ticket call : Nat} {alarm? : Option Nat}
    (jobs : (state.desk uri).jobs = alarmJobs ticket alarm? ++ [(.retirement call, state.now)])
    (later : ∀ due ∈ alarm?, state.now < due) :
    state.settle.Keeps uri ⟨state.setting, none⟩ ∧
      (state.settle.desk uri).log = (state.desk uri).log ++ [⟨state.now, uri, .clear⟩] := by
  have unripe : ∀ number due, (.validation number, due) ∈ (state.desk uri).jobs →
      state.now < due := by
    intro number due member
    rw [jobs] at member
    cases alarm? with
    | none => simp [alarmJobs] at member
    | some limit =>
        have same : number = ticket ∧ due = limit := by simpa [alarmJobs] using member
        rw [same.2]
        exact later limit rfl
  have only : (state.desk uri).clear.jobs = [(.retirement call, state.now)] := by
    unfold Desk.clear
    rw [jobs]
    cases alarm? with
    | none => rfl
    | some limit => rfl
  obtain ⟨free, done, rest⟩ := @Untied.settle_desk state uri untied
    (fun desk => desk = state.desk uri ∨
      desk = ⟨[], (state.desk uri).log ++ [⟨state.now, uri, .clear⟩]⟩) (by
        rintro desk next turn (rfl | rfl)
        · exact turn_of_retiring turn unripe only
        · exact Or.inr (turn_of_none turn rfl)) (Or.inl rfl)
  rcases done with still | cleared
  · rw [still, jobs] at rest
    have late := rest (.retirement call, state.now) (by simp)
    exact absurd late (Nat.lt_irrefl _)
  · rw [cleared]
    exact ⟨⟨free, setting_settle state, ⟨ticket, by rw [cleared]; rfl⟩, fun _ => nofun⟩, rfl⟩

/-! ### Time that passes -/

theorem Keeps.passTo (keeps : state.Keeps uri watch) {time : Nat}
    (soon : ∀ due ∈ watch.alarm?, time ≤ due) :
    (state.passTo time).Keeps uri
        ⟨{ watch.setting with now := max watch.setting.now time },
          Watch.running (max watch.setting.now time) watch.alarm?⟩ ∧
      ((state.passTo time).desk uri).log = (state.desk uri).log ++
        Watch.rung uri { watch.setting with now := max watch.setting.now time } watch.alarm? := by
  obtain ⟨ticket, jobs⟩ := keeps.jobs
  have later := keeps.later
  rw [← keeps.setting] at later ⊢
  have free := keeps.untied.setting state.store state.delay (max state.now time)
  exact free.settle_alarm jobs fun due set =>
    Nat.max_le.mpr ⟨Nat.le_of_lt (later due set), soon due set⟩

/-- The clock stops at every time at which the timer may run out, so the timer runs out in time. -/
theorem Keeps.passAll {target : Nat} (times : List Nat) (keeps : state.Keeps uri watch)
    (onward : watch.setting.now ≤ target) (sorted : times.Pairwise (· ≤ ·))
    (early : ∀ time ∈ times, time ≤ target)
    (stops : ∀ due ∈ watch.alarm?, due < target → due ∈ times) :
    ((times ++ [target]).foldl State.passTo state).Keeps uri
        ⟨{ watch.setting with now := target }, Watch.running target watch.alarm?⟩ ∧
      (((times ++ [target]).foldl State.passTo state).desk uri).log = (state.desk uri).log ++
        Watch.rung uri { watch.setting with now := target } watch.alarm? := by
  induction times generalizing state watch with
  | nil =>
      have last := @Keeps.passTo state uri watch keeps target fun due set =>
        Nat.le_of_not_lt fun before => nomatch stops due set before
      rw [Nat.max_eq_right onward] at last
      exact last
  | cons time times ih =>
      obtain ⟨least, rest⟩ := List.pairwise_cons.mp sorted
      have bound := early time List.mem_cons_self
      have soon : ∀ due ∈ watch.alarm?, time ≤ due := by
        intro due set
        by_cases before : due < target
        · rcases List.mem_cons.mp (stops due set before) with here | there
          · exact Nat.le_of_eq here.symm
          · exact least due there
        · omega
      obtain ⟨passed, logged⟩ := keeps.passTo soon
      have still : max watch.setting.now time ≤ target := Nat.max_le.mpr ⟨onward, bound⟩
      obtain ⟨arrived, told⟩ := ih passed still rest
        (fun other member => early other (List.mem_cons_of_mem time member)) (by
          intro due running before
          have late : max watch.setting.now time < due := Watch.lt_of_running running
          rcases List.mem_cons.mp (stops due (Watch.eq_of_running running) before) with here | there
          · omega
          · exact there)
      rw [List.cons_append, List.foldl_cons]
      rw [Watch.running_running still] at arrived
      rw [logged, List.append_assoc, Watch.rung_append_rung still] at told
      exact ⟨arrived, told⟩

theorem Keeps.settle (keeps : state.Keeps uri watch) :
    state.settle.Keeps uri watch ∧ (state.settle.desk uri).log = (state.desk uri).log := by
  obtain ⟨ticket, jobs⟩ := keeps.jobs
  have later := keeps.later
  have same := keeps.now
  obtain ⟨free, kept⟩ := keeps.untied.settle_of_later (by
    rw [jobs]
    cases alarm : watch.alarm? with
    | none => exact fun _ member => nomatch member
    | some due =>
        intro item member
        rw [List.mem_singleton.mp member, same]
        exact later due alarm)
  rw [kept]
  exact ⟨⟨free, (setting_settle state).trans keeps.setting, ⟨ticket, by rw [kept, jobs]⟩, later⟩,
    rfl⟩

theorem sorted_dueBefore (target : Nat) (state : State) :
    (state.dueBefore target).Pairwise (· ≤ ·) := by
  unfold dueBefore
  refine List.Pairwise.imp of_decide_eq_true (List.pairwise_mergeSort ?_ ?_ _)
  · intro first second third before after
    exact decide_eq_true (Nat.le_trans (of_decide_eq_true before) (of_decide_eq_true after))
  · intro first second
    rcases Nat.le_total first second with before | after
    · simp [before]
    · simp [after]

theorem mem_dueBefore {task : Task} {due target : Nat} (member : task ∈ state.tasks)
    (timed : task.stage = .timed due) (early : due < target) : due ∈ state.dueBefore target := by
  unfold dueBefore
  rw [List.mem_mergeSort]
  refine List.mem_filterMap.mpr ⟨task, member, ?_⟩
  simp only [timed, if_pos early]

theorem passTo_of_le {time : Nat} (onward : state.now ≤ time) :
    state.passTo time = settle { state with now := time } := by
  unfold State.passTo
  rw [Nat.max_eq_right onward]

theorem settle_advance {duration : Nat} (passes : duration ≠ 0) (state : State) :
    (state.advance duration).settle =
      (state.dueBefore (state.now + duration) ++ [state.now + duration]).foldl State.passTo
        state.settle := by
  rw [List.foldl_append, List.foldl_cons, List.foldl_nil,
    passTo_of_le (now_dueBefore_le duration state)]
  unfold advance
  rw [if_neg passes]

/-- Time that passes lets the timer run out that is due on the way. -/
theorem Keeps.advance (keeps : state.Keeps uri watch) (duration : Nat) :
    (state.advance duration).settle.Keeps uri (watch.call uri (.advance duration)) ∧
      ((state.advance duration).settle.desk uri).log =
        (state.desk uri).log ++ watch.told uri (.advance duration) := by
  obtain ⟨settled, silent⟩ := keeps.settle
  have same := keeps.now
  obtain ⟨ticket, jobs⟩ := keeps.jobs
  by_cases still : duration = 0
  · have unmoved : state.advance duration = state := if_pos still
    have running : Watch.running watch.setting.now watch.alarm? = watch.alarm? ∧
        Watch.rung uri watch.setting watch.alarm? = [] := by
      cases alarm : watch.alarm? with
      | none => exact ⟨rfl, rfl⟩
      | some due =>
          have late := Nat.not_le_of_lt (keeps.later due alarm)
          exact ⟨if_neg late, if_neg late⟩
    have kept : watch.call uri (.advance duration) = watch := by
      unfold Watch.call
      rw [still]
      change Watch.mk watch.setting (Watch.running watch.setting.now watch.alarm?) = watch
      rw [running.1]
    have untold : watch.told uri (.advance duration) = [] := by
      unfold Watch.told
      rw [still]
      change Watch.rung uri watch.setting watch.alarm? = []
      exact running.2
    rw [unmoved, kept, untold, List.append_nil]
    exact ⟨settled, silent⟩
  · rw [settle_advance still, ← silent]
    have passed := @Keeps.passAll state.settle uri watch (watch.setting.now + duration)
      (state.dueBefore (state.now + duration)) settled (Nat.le_add_right _ _) (sorted_dueBefore _ _)
      (fun time member => by
        have early := lt_of_mem_dueBefore member
        omega) (by
        intro due set early
        have member : (.validation ticket, due) ∈ (state.desk uri).jobs := by
          rw [jobs, show watch.alarm? = some due from set]
          exact List.mem_cons_self
        exact mem_dueBefore (mem_jobsOf.mp member) rfl (by omega))
    rw [same] at passed ⊢
    exact passed

/-! ### Calls -/

theorem Untied.release (untied : Untied state) (count : Nat) :
    Untied (state.release count) ∧ (state.release count).desk uri = state.desk uri := by
  refine @release_invariant (fun later => Untied later ∧ later.desk uri = state.desk uri) ?_ state
    ⟨untied, rfl⟩ count
  rintro later ⟨free, same⟩
  rcases grant_cases later with ⟨next, _⟩ | ⟨before, owner, job, guard, notice, after, split, _, _⟩
  · rw [next]
    exact ⟨⟨⟨free.timers.jobs, free.timers.fits, free.timers.issued, free.timers.listed,
      free.timers.keys⟩,
      free.ungated, free.timed⟩, same⟩
  · obtain ⟨due, timed⟩ := free.timed _ (mem_split_self split)
    cases timed

/-- A call that leaves the desk as the watch says lets the timer run out if it is to run out at
once. -/
theorem Keeps.called {next : State} {call : Command} (free : Untied next)
    (set : next.setting = watch.setting.after call)
    (desk : ∃ ticket, (next.desk uri).jobs = alarmJobs ticket (watch.reset uri call))
    (soon : ∀ due ∈ watch.reset uri call, next.now ≤ due)
    (logged : (next.desk uri).log = (state.desk uri).log ++ watch.clearing uri call) :
    next.settle.Keeps uri (watch.call uri call) ∧
      (next.settle.desk uri).log = (state.desk uri).log ++ watch.told uri call := by
  obtain ⟨ticket, jobs⟩ := desk
  have settled := free.settle_alarm jobs soon
  have same : next.now = (watch.setting.after call).now := congrArg Setting.now set
  rw [logged, set, same, List.append_assoc] at settled
  exact settled

theorem alarmJobs_clear (ticket : Nat) (alarm? : Option Nat) :
    ((alarmJobs ticket alarm?).filter fun item => item.1.isRetirement) = [] := by
  cases alarm? with
  | none => rfl
  | some due => rfl

/-- Most calls leave the desk as it is. -/
theorem Keeps.unmoved {next : State} {call : Command} (keeps : state.Keeps uri watch)
    (free : Untied next) (made : next.setting = watch.setting.after call)
    (now : next.now = state.now) (kept : next.desk uri = state.desk uri)
    (running : watch.reset uri call = watch.alarm?) (silent : watch.clearing uri call = []) :
    next.settle.Keeps uri (watch.call uri call) ∧
      (next.settle.desk uri).log = (state.desk uri).log ++ watch.told uri call := by
  apply Keeps.called free made
  · rw [kept, running]
    exact keeps.jobs
  · rw [running, now, keeps.now]
    exact fun due alarm => Nat.le_of_lt (keeps.later due alarm)
  · rw [kept, silent, List.append_nil]

theorem Keeps.shutdown (keeps : state.Keeps uri watch) :
    state.shutdown.settle.Keeps uri (watch.call uri .shutdown) ∧
      (state.shutdown.settle.desk uri).log =
        (state.desk uri).log ++ watch.told uri .shutdown := by
  obtain ⟨ticket, jobs⟩ := keeps.jobs
  obtain ⟨free, kept⟩ := keeps.untied.shutdown uri
  apply Keeps.called free
  · exact (sameSetting_shutdown state).setting_eq.trans keeps.setting
  · refine ⟨ticket, ?_⟩
    rw [kept]
    unfold Desk.clear
    rw [jobs, alarmJobs_clear]
    rfl
  · exact fun _ => nofun
  · rw [kept]
    exact (List.append_nil _).symm

/-- A schedule call starts the timer of its document anew and leaves the others. -/
theorem Keeps.schedule (keeps : state.Keeps uri watch) (other : Uri) :
    (state.schedule other).settle.Keeps uri (watch.call uri (.schedule other)) ∧
      ((state.schedule other).settle.desk uri).log =
        (state.desk uri).log ++ watch.told uri (.schedule other) := by
  obtain ⟨ticket, jobs⟩ := keeps.jobs
  have free := keeps.untied.schedule other
  have made : (state.schedule other).setting = watch.setting.after (.schedule other) := by
    rw [schedule_eq]
    exact (sameSetting_cancel other state).setting_eq.trans keeps.setting
  have now : (state.schedule other).now = state.now :=
    (congrArg Setting.now made).trans keeps.now.symm
  have kept := keeps.untied.desk_schedule other uri
  by_cases owned : other = uri
  · rw [if_pos owned] at kept
    have started : watch.reset uri (.schedule other) = some state.due := by
      unfold Watch.reset Command.endsTimer
      rw [if_pos (decide_eq_true owned), ← keeps.setting]
      rfl
    apply Keeps.called free made
    · refine ⟨state.nextTicket, ?_⟩
      rw [kept, started]
      unfold Desk.clear
      rw [jobs, alarmJobs_clear]
      rfl
    · rw [started, now]
      intro due alarm
      rw [← Option.some.inj alarm]
      exact Nat.le_add_right _ _
    · rw [kept]
      exact (List.append_nil _).symm
  · rw [if_neg owned] at kept
    refine keeps.unmoved free made now kept ?_ rfl
    unfold Watch.reset Command.endsTimer
    rw [if_neg (by simpa using owned)]

/-- A retire call ends the timer of its document and clears it. -/
theorem Keeps.retire (keeps : state.Keeps uri watch) (other : Uri) :
    (state.retire other).settle.Keeps uri (watch.call uri (.retire other)) ∧
      ((state.retire other).settle.desk uri).log =
        (state.desk uri).log ++ watch.told uri (.retire other) := by
  obtain ⟨ticket, jobs⟩ := keeps.jobs
  have free := keeps.untied.retire other
  have kept := desk_retire other state uri
  by_cases owned : other = uri
  · rw [if_pos owned] at kept
    have settled := @Untied.settle_retiring (state.retire other) uri free ticket state.nextCall
      watch.alarm? (by rw [kept, jobs]; rfl) (by
        change ∀ due ∈ watch.alarm?, state.now < due
        rw [keeps.now]
        exact keeps.later)
    have ended : watch.reset uri (.retire other) = none := by
      unfold Watch.reset Command.endsTimer
      rw [if_pos (decide_eq_true owned)]
    have called : watch.call uri (.retire other) = ⟨(state.retire other).setting, none⟩ := by
      unfold Watch.call
      rw [ended, ← keeps.setting]
      rfl
    have told : watch.told uri (.retire other) = [⟨state.now, uri, .clear⟩] := by
      unfold Watch.told Watch.clearing
      rw [ended, keeps.now]
      simp only [if_pos owned]
      rfl
    rw [called, told]
    rw [kept] at settled
    exact settled
  · rw [if_neg owned] at kept
    refine keeps.unmoved free keeps.setting rfl kept ?_ ?_
    · unfold Watch.reset Command.endsTimer
      rw [if_neg (by simpa using owned)]
    · exact if_neg owned

/-- A call that settles does to a document what the watch over it says. -/
theorem Keeps.apply (keeps : state.Keeps uri watch) (call : Command) :
    (state.apply true call).2.Keeps uri (watch.call uri call) ∧
      ((state.apply true call).2.desk uri).log =
        (state.desk uri).log ++ watch.told uri call := by
  have untied := keeps.untied
  have set := keeps.setting
  cases call with
  | openDocument document =>
      exact keeps.unmoved (untied.setting _ state.delay state.now) (by rw [← set]; rfl) rfl rfl
        rfl rfl
  | changeDocument document =>
      exact keeps.unmoved (untied.setting _ state.delay state.now) (by rw [← set]; rfl) rfl rfl
        rfl rfl
  | closeDocument other =>
      exact keeps.unmoved (untied.setting _ state.delay state.now) (by rw [← set]; rfl) rfl rfl
        rfl rfl
  | isPending other => exact keeps.unmoved untied set rfl rfl rfl rfl
  | idle => exact keeps.unmoved untied set rfl rfl rfl rfl
  | setDelay delay =>
      -- for any delay at all: what the delay comes to is never looked into
      have changed : ∀ count : UInt64,
          State.setting { state with delay := count } = { watch.setting with delay := count } ∧
          State.now { state with delay := count } = state.now ∧
          State.desk uri { state with delay := count } = state.desk uri := by
        rw [← set]
        exact fun _ => ⟨rfl, rfl, rfl⟩
      obtain ⟨made, now, kept⟩ := changed delay.milliseconds
      exact keeps.unmoved (untied.setting state.store _ state.now) made now kept rfl rfl
  | release count =>
      obtain ⟨free, kept⟩ := @Untied.release state uri untied count
      have held := sameSetting_release count state
      exact keeps.unmoved free (held.setting_eq.trans set) held.now kept rfl rfl
  | advance duration => exact keeps.advance duration
  | shutdown => exact keeps.shutdown
  | schedule other => exact keeps.schedule other
  | retire other => exact keeps.retire other

/-- What calls that settle have published about a document is what the watch over it tells. -/
theorem Keeps.applyAll (calls : List Command) (keeps : state.Keeps uri watch) :
    ((state.applyAll (calls.map (Prod.mk true))).desk uri).log =
      (state.desk uri).log ++ watch.log uri calls := by
  induction calls generalizing state watch with
  | nil => exact (List.append_nil _).symm
  | cons call calls ih =>
      obtain ⟨kept, told⟩ := keeps.apply call
      have rest := ih kept
      rw [told, List.append_assoc] at rest
      exact rest

theorem keeps_initial (delay : UInt64) (uri : Uri) :
    (State.initial delay none).Keeps uri ⟨⟨0, delay, .empty⟩, none⟩ := by
  refine ⟨⟨timers_initial delay none, rfl, fun _ => nofun⟩, rfl, ⟨0, rfl⟩, fun _ => nofun⟩

/-- Where no notice needs a permit and every call settles, what is published about a document is
what the calls lead to: a clear for each retirement, and for each timer that no call ends before it
runs out the document of that moment, in the order of time. -/
theorem published_eq_trace (delay : UInt64) (calls : List Command) (uri : Uri) :
    (((State.initial delay none).applyAll (calls.map (Prod.mk true))).published.filter
        fun item => item.uri = uri) = Setting.trace restOf uri ⟨0, delay, .empty⟩ calls ∧
      (Setting.trace restOf uri ⟨0, delay, .empty⟩ calls).Pairwise
        fun first second => first.time ≤ second.time := by
  have traced : Watch.log uri ⟨⟨0, delay, .empty⟩, none⟩ calls =
      Setting.trace restOf uri ⟨0, delay, .empty⟩ calls :=
    Watch.log_eq_trace calls ⟨⟨0, delay, .empty⟩, none⟩ fun _ => nofun
  rw [← traced]
  constructor
  · exact (keeps_initial delay uri).applyAll calls
  · exact (Watch.log_sorted calls ⟨⟨0, delay, .empty⟩, none⟩ fun _ => nofun).1

/-- A timer runs for thirty years at most, also when the delay is longer. -/
theorem published_before_delay :
    let uri : Uri := ⟨"file:///a.lg"⟩
    let delay : UInt64 := 18446744073709551615
    let calls : List Command :=
      [.openDocument ⟨uri, 1, "x"⟩, .schedule uri, .advance 946079999999, .advance 1]
    (((State.initial delay none).applyAll (calls.map (Prod.mk true))).published.filter
        fun item => item.uri = uri) ≠
      Setting.trace UInt64.toNat uri ⟨0, delay, .empty⟩ calls := by
  decide +kernel

end State

end TemplateServer.Validation
