import BookmarkSync.Proofs.Schedule.Pending
import BookmarkSync.Proofs.Sync.Actions

/-!
# `BookmarkSync.Proofs.Sync.Plan` — when cycles start

When the cycles of an engine start is decided by a part of it alone, its plan: the clock, the settings, the
tasks, the debounce window and whoever waits for a turn. Every action leaves the plan as it is, or changes
it in one of a few ways, and sometimes a cycle starts by it (`replans_act`). What is known about starts
rests on this description; no later proof looks into an action again.

`launch?` says which cycle starts by an action. It does so exactly: the cycle that it names is begun
(`begins_of_launch?`), and where it names none the cycles stay as they are, except that the one in flight may
be carried on (`sameCycles_of_launch?`).
-/

namespace BookmarkSync

/-- Whether the job is an automatic sync. -/
def Job.isAutomatic : Job → Bool
  | .automatic _ => true
  | .reported => false

/-- The start of a cycle. -/
structure Launch where
  /-- Whether it is an automatic sync that starts. -/
  automatic : Bool
  origin : Origin
  /-- The settings that the cycle follows. -/
  settings : Settings
deriving DecidableEq, Repr

/-- What decides when cycles start. -/
structure Plan where
  now : Timestamp
  settings : Settings
  queue : Queue Job
  lastStart : Option Timestamp
  deferred : Option Nat
  waiting : List Waiting

/-- Whether the action can ask for an automatic sync. -/
def Action.MayAsk : Action → Prop
  | .event .trigger | .edit _ => True
  | _ => False

namespace Engine

variable {ρ : Type}

/-! ## Launches -/

/-- Whether a sync that is asked for starts at once. -/
def isReady (e : Engine ρ) : Bool := e.settings.refusal?.isNone && !e.isBusy

/-- The cycle that starts by an event, if any. -/
def Event.launch? (e : Engine ρ) : Event → Option Launch
  | call => if e.isReady then some ⟨false, .caller, e.settings⟩ else none
  | takeTurn =>
    match e.inFlight, e.waiting with
    | none, w :: _ => some ⟨true, .task w.task, w.settings⟩
    | _, _ => none
  | startDue =>
    if e.isReady then (e.queue.firstDue? e.now).map fun t => ⟨t.1.job.isAutomatic, .task t.2, e.settings⟩
    else none
  | _ => none

/-- The cycle that starts by an action, if any. -/
def launch? (e : Engine ρ) : Action → Option Launch
  | .event event => event.launch? e
  | .edit _ => none

/-- The cycle that starts at a moment, if any. -/
def Moment.launch? (m : Moment ρ) : Option Launch := m.engine.launch? m.action

/-! ## Plans -/

def plan (e : Engine ρ) : Plan := ⟨e.now, e.settings, e.queue, e.lastStart, e.deferred, e.waiting⟩

/-- The engine as task `n`, which is `t`, leaves it when it starts and before it asks for its sync. -/
def taken (e : Engine ρ) (t : ScheduledTask Job) (n : Nat) : Engine ρ :=
  { e with
    queue := e.queue.start n
    deferred := if t.job = .automatic true then none else e.deferred
    lastStart := if t.job = .automatic true then some e.now else e.lastStart }

/-- What an action does to the plan of an engine, and the cycle that starts by it. -/
inductive Replans (e : Engine ρ) : Action → Option Launch → Plan → Prop
  | keeps {action : Action} : Replans e action none e.plan
  | turnsClock (time : Timestamp) : Replans e (.event (.setClock time)) none { e.plan with now := time }
  | configures (settings : Settings) :
      Replans e (.event (.configure settings)) none { e.plan with settings }
  /-- An automatic sync is scheduled at once, as the window is over. -/
  | starts {action : Action} : action.MayAsk → e.settings.isConfigured = true → e.windowElapsed? = none →
      Replans e action none
        { e.plan with queue := e.queue.schedule e.now .zero (.automatic false), lastStart := some e.now }
  /-- An automatic sync is deferred to the end of the window. -/
  | defers {action : Action} {elapsed : Int64} {left : Duration} : action.MayAsk →
      e.settings.isConfigured = true → e.windowElapsed? = some elapsed → e.hasDeferred = false →
      e.windowLeft? elapsed = some left →
      Replans e action none
        { e.plan with
          queue := e.queue.schedule e.now left (.automatic true)
          deferred := some e.queue.nextNumber }
  | forgets {n : Nat} : e.deferred = some n →
      Replans e (.event .cancelDeferred) none
        { e.plan with queue := (e.queue.cancel n).2, deferred := none }
  | reports : Replans e (.event .scheduleReported) none
      { e.plan with queue := e.queue.schedule e.now .zero .reported }
  | cancels (n : Nat) : Replans e (.event (.cancelTask n)) none { e.plan with queue := (e.queue.cancel n).2 }
  /-- Someone calls for a sync, and it starts. -/
  | calls : e.settings.refusal? = none →
      Replans e (.event .call) (some ⟨false, .caller, e.settings⟩) { e.plan with lastStart := some e.now }
  /-- Whoever waits longest takes the turn. -/
  | takesTurn {w : Waiting} {waiting : List Waiting} : e.waiting = w :: waiting →
      Replans e (.event .takeTurn) (some ⟨true, .task w.task, w.settings⟩)
        { e.plan with waiting, lastStart := some e.now }
  /-- A task starts, and its sync is turned away. An automatic one is turned away only by the settings. -/
  | turnsAway {t : ScheduledTask Job} {n : Nat} : e.queue.firstDue? e.now = some (t, n) →
      (t.job.isAutomatic = true → e.settings.refusal? ≠ none) →
      Replans e (.event .startDue) none (e.taken t n).plan
  /-- An automatic task starts, and its sync waits for a turn. -/
  | waits {t : ScheduledTask Job} {n : Nat} : e.queue.firstDue? e.now = some (t, n) →
      t.job.isAutomatic = true → e.settings.refusal? = none →
      Replans e (.event .startDue) none
        { (e.taken t n).plan with waiting := e.waiting ++ [⟨n, e.settings⟩] }
  /-- A task starts, and so does its sync. -/
  | launches {t : ScheduledTask Job} {n : Nat} : e.queue.firstDue? e.now = some (t, n) →
      e.settings.refusal? = none →
      Replans e (.event .startDue) (some ⟨t.job.isAutomatic, .task n, e.settings⟩)
        { (e.taken t n).plan with lastStart := some e.now }

section Replans

variable (remote : Remote ρ) (e : Engine ρ)

/-! ### Being refused, waiting, starting -/

/-- A cycle that starts is noted as the last start, and nothing else of the plan changes. -/
theorem plan_begin (origin : Origin) (settings : Settings) :
    (e.begin remote origin settings).2.plan = { e.plan with lastStart := some e.now } := by
  unfold begin
  split <;> rfl

/-- An engine is ready if its settings ask for a sync and it is not busy. -/
theorem isReady_eq_true_iff : e.isReady = true ↔ e.settings.refusal? = none ∧ e.isBusy = false := by
  simp only [isReady, Bool.and_eq_true, Option.isNone_iff_eq_none, Bool.not_eq_true']

/-- A ready engine that is asked for a sync starts one; any other starts none, and nothing happens to it. -/
theorem sync_of_ready (origin : Origin) (h : e.isReady = true) :
    e.sync remote origin = e.begin remote origin e.settings := by
  obtain ⟨hready, hfree⟩ := e.isReady_eq_true_iff.mp h
  simp only [sync, hready, hfree, Bool.false_eq_true, if_false]

theorem sync_of_not_ready (origin : Origin) (h : e.isReady = false) : (e.sync remote origin).2 = e := by
  cases hrefusal : e.settings.refusal? with
  | some r => simp only [sync, hrefusal]
  | none =>
    have hbusy : e.isBusy = true := by
      rw [isReady, hrefusal] at h
      simpa using h
    simp only [sync, hrefusal, hbusy, if_true]

/-- So it is with an automatic sync, but that one may wait. -/
theorem autoSync_of_ready (task : Nat) (h : e.isReady = true) :
    e.autoSync remote task = e.begin remote (.task task) e.settings := by
  obtain ⟨hready, hfree⟩ := e.isReady_eq_true_iff.mp h
  simp only [autoSync, hready, hfree, Bool.false_eq_true, if_false]

/-- An automatic sync that does not start is refused by the settings, or it waits. -/
theorem autoSync_of_not_ready (task : Nat) (h : e.isReady = false) :
    e.settings.refusal? ≠ none ∧ (e.autoSync remote task).2 = e ∨
    e.settings.refusal? = none ∧
      (e.autoSync remote task).2 = { e with waiting := e.waiting ++ [⟨task, e.settings⟩] } := by
  cases hrefusal : e.settings.refusal? with
  | some r => exact .inl ⟨nofun, by simp only [autoSync, hrefusal]⟩
  | none =>
    have hbusy : e.isBusy = true := by
      rw [isReady, hrefusal] at h
      simpa using h
    exact .inr ⟨rfl, by simp only [autoSync, hrefusal, hbusy, if_true]⟩

/-! ### Every action replans -/

/-- Stages of a cycle, and its end, leave the plan alone. -/
theorem plan_proceed : (e.proceed remote).2.plan = e.plan := by
  cases hflight : e.inFlight with
  | none => simp only [proceed, hflight]
  | some c =>
    obtain ⟨device, far, hframe⟩ := e.perform_frame remote c
    have hclock := (e.device_perform remote c).1
    rcases hperform : e.perform remote c with ⟨turn, e'⟩
    rw [hperform] at hframe hclock
    replace hframe : e' = { e with device, far } := hframe
    have hplan : e'.plan = e.plan := by
      rw [hframe] at hclock ⊢
      show { e.plan with now := device.clock } = e.plan
      rw [show device.clock = e.device.clock from hclock]
      rfl
    -- neither going on nor finishing touches the queue, the settings or the waiting runs
    rcases turn with stage | outcome
    · simp only [proceed, hflight, hperform]
      exact hplan
    · simp only [proceed, hflight, hperform]
      exact hplan

/-- Someone's call starts a cycle, or changes nothing of the plan. -/
theorem replans_call : Replans e (.event .call) (Event.call.launch? e) (e.sync remote .caller).2.plan := by
  unfold Event.launch?
  by_cases hready : e.isReady = true
  · rw [if_pos hready, sync_of_ready remote e .caller hready, plan_begin]
    exact .calls (e.isReady_eq_true_iff.mp hready).1
  · rw [if_neg hready, sync_of_not_ready remote e .caller (Bool.not_eq_true _ ▸ hready)]
    exact .keeps

/-- The sync that waited longest starts when it takes its turn, and is off the plan by then. -/
theorem replans_takeTurn :
    Replans e (.event .takeTurn) (Event.takeTurn.launch? e) (e.takeTurn remote).2.plan := by
  cases hflight : e.inFlight with
  | some c =>
    simp only [takeTurn, Event.launch?, hflight]
    exact .keeps
  | none =>
    cases hwaiting : e.waiting with
    | nil =>
      simp only [takeTurn, Event.launch?, hflight, hwaiting]
      exact .keeps
    | cons w waiting =>
      simp only [takeTurn, Event.launch?, hflight, hwaiting, plan_begin]
      exact .takesTurn hwaiting

/-- A task starts a cycle if the engine is ready, and with the settings of that moment. -/
theorem launch?_startDue_of_not_ready (h : e.isReady = false) : Event.startDue.launch? e = none := by
  simp only [Event.launch?, h, Bool.false_eq_true, if_false]

section StartDue

variable {e} {t : ScheduledTask Job} {n : Nat}

theorem launch?_startDue_of_ready (hdue : e.queue.firstDue? e.now = some (t, n)) (h : e.isReady = true) :
    Event.startDue.launch? e = some ⟨t.job.isAutomatic, .task n, e.settings⟩ := by
  simp only [Event.launch?, h, if_true, hdue, Option.map_some]

/-- A task that is due starts, and then asks for its sync. -/
theorem apply_startDue (hdue : e.queue.firstDue? e.now = some (t, n)) :
    Event.startDue.apply remote e = if t.job.isAutomatic then (e.taken t n).autoSync remote n
      else (e.taken t n).sync remote (.task n) := by
  simp only [Event.apply, startDue, hdue, Option.elim_some, taken]
  cases t.job with
  | automatic deferred => cases deferred <;> rfl
  | reported => rfl

/-- While no task is due, nothing starts. -/
theorem apply_startDue_of_none (hdue : e.queue.firstDue? e.now = none) :
    Event.startDue.apply remote e = (none, e) := by
  simp only [Event.apply, startDue, hdue, Option.elim_none]

/-- What the sync of a task that starts leads to, when it does not start as well. -/
theorem apply_startDue_of_not_ready (hdue : e.queue.firstDue? e.now = some (t, n)) (h : e.isReady = false) :
    (t.job.isAutomatic = true → e.settings.refusal? ≠ none) ∧
      (Event.startDue.apply remote e).2 = e.taken t n ∨
    t.job.isAutomatic = true ∧ e.settings.refusal? = none ∧
      (Event.startDue.apply remote e).2
        = { e.taken t n with waiting := e.waiting ++ [⟨n, e.settings⟩] } := by
  have hnot : (e.taken t n).isReady = false := h
  rw [apply_startDue remote hdue]
  -- an automatic run waits for its turn, and a plain one is refused as any call would be
  cases hjob : t.job.isAutomatic with
  | true =>
    rw [if_pos rfl]
    rcases autoSync_of_not_ready remote (e.taken t n) n hnot with ⟨hrefused, hafter⟩ | ⟨haccepted, hafter⟩
    · exact .inl ⟨fun _ => hrefused, hafter⟩
    · exact .inr ⟨rfl, haccepted, hafter⟩
  | false =>
    rw [if_neg Bool.false_ne_true]
    exact .inl ⟨nofun, sync_of_not_ready remote (e.taken t n) (.task n) hnot⟩

/-- The sync of a task that starts when it can. -/
theorem apply_startDue_of_ready (hdue : e.queue.firstDue? e.now = some (t, n)) (h : e.isReady = true) :
    Event.startDue.apply remote e = (e.taken t n).begin remote (.task n) e.settings := by
  have hready : (e.taken t n).isReady = true := h
  rw [apply_startDue remote hdue]
  split
  · exact autoSync_of_ready remote (e.taken t n) n hready
  · exact sync_of_ready remote (e.taken t n) (.task n) hready

end StartDue

/-- **A task that is due** leaves the queue, and starts a cycle, waits for its turn, or comes to nothing. -/
theorem replans_startDue : Replans e (.event .startDue) (Event.startDue.launch? e)
    (Event.startDue.apply remote e).2.plan := by
  cases hdue : e.queue.firstDue? e.now with
  | none =>
    have hnothing : Event.startDue.launch? e = none := by
      simp only [Event.launch?, hdue, Option.map_none, ite_self]
    rw [hnothing, apply_startDue_of_none remote hdue]
    exact .keeps
  | some due =>
    obtain ⟨t, n⟩ := due
    -- a due task that finds the engine free launches a cycle, whichever kind of task it is
    cases hready : e.isReady with
    | true =>
      rw [launch?_startDue_of_ready hdue hready, apply_startDue_of_ready remote hdue hready, plan_begin]
      exact .launches hdue (e.isReady_eq_true_iff.mp hready).1
    | false =>
      rw [launch?_startDue_of_not_ready e hready]
      rcases apply_startDue_of_not_ready remote hdue hready with ⟨hrefused, hafter⟩ | ⟨hjob, haccepted, hafter⟩
      · rw [hafter]
        exact .turnsAway hdue hrefused
      · rw [hafter]
        exact .waits hdue hjob haccepted

variable {e} in
/-- A wish for an automatic sync schedules one at once, defers one, or changes nothing of the plan. -/
theorem replans_trigger {action : Action} (haction : action.MayAsk) (hnone : e.launch? action = none) :
    Replans e action (e.launch? action) e.trigger.2.plan := by
  rw [hnone]
  have hdone := e.triggerDone_trigger
  generalize e.trigger = r at hdone ⊢
  cases hdone with
  | skips | joins | faults => exact .keeps
  | starts hconfigured helapsed => exact .starts haction hconfigured helapsed
  | defers hconfigured helapsed hdeferred hleft => exact .defers haction hconfigured helapsed hdeferred hleft

/-- Taking the deferred sync back cancels its task. -/
theorem replans_cancelDeferred : Replans e (.event .cancelDeferred) none e.cancelDeferred.2.plan := by
  unfold cancelDeferred
  cases hdeferred : e.deferred with
  | none => exact .keeps
  | some n => exact .forgets hdeferred

/-- Of the device, a wish depends on the clock only. -/
theorem trigger_edited (store : Store) (ids : IdSupply) :
    let edited : Engine ρ := { e with device := ⟨store, e.device.clock, ids⟩ }
    edited.trigger.1 = e.trigger.1 ∧ edited.trigger.2.plan = e.trigger.2.plan := by
  intro edited
  have helapsed : edited.windowElapsed? = e.windowElapsed? := rfl
  have hleft : edited.windowLeft? = e.windowLeft? := rfl
  have hdeferred : edited.hasDeferred = e.hasDeferred := rfl
  unfold trigger
  rw [helapsed, hleft, hdeferred]
  repeat' split
  all_goals exact ⟨rfl, rfl⟩

/-- An edit may ask for an automatic sync when it is done, and changes nothing else of the plan. -/
theorem replans_edit (edit : Edit) : Replans e (.edit edit) none (edit.apply e).plan := by
  have hedited := edited_apply e edit
  generalize edit.apply e = e' at hedited
  cases hedited with
  | inVain ids _ => exact .keeps
  | asked ids =>
    have hasks : (Action.edit edit).MayAsk := trivial
    rw [(trigger_edited e (e.device.store.after (edit.seen e)) ids).2]
    exact replans_trigger hasks rfl

/-- **Every action keeps the plan or changes it in one of a few ways**, and `launch?` says which cycle starts
by it. -/
theorem replans_act (action : Action) : Replans e action (e.launch? action) (e.act remote action).2.plan := by
  -- one lemma for each kind of event; those that only change a field need none
  cases action with
  | edit edit => exact replans_edit e edit
  | event event =>
    cases event with
    | call => exact replans_call remote e
    | proceed =>
      show Replans e _ none (e.proceed remote).2.plan
      rw [plan_proceed]
      exact .keeps
    | takeTurn => exact replans_takeTurn remote e
    | startDue => exact replans_startDue remote e
    | trigger => exact replans_trigger trivial rfl
    | cancelDeferred => exact replans_cancelDeferred e
    | scheduleReported => exact .reports
    | cancelTask n => exact .cancels n
    | change c => exact .keeps
    | load => exact .keeps
    | refuse readOnly failingKey => exact .keeps
    | setClock time => exact .turnsClock time
    | configure settings => exact .configures settings

/-! ### Launches are starts of cycles -/

variable {e} {action : Action}

/-- A launch by a due task begins a cycle in the engine that has taken the task from its queue. -/
theorem begins_of_startDue {l : Launch} (h : Event.startDue.launch? e = some l) : e.isReady = true ∧
    ∃ prepared : Engine ρ, SameCycles e prepared ∧
      Event.startDue.apply remote e = prepared.begin remote l.origin l.settings := by
  have hready : e.isReady = true := by
    cases hready : e.isReady with
    | true => rfl
    | false =>
      rw [launch?_startDue_of_not_ready e hready] at h
      cases h
  refine ⟨hready, ?_⟩
  cases hdue : e.queue.firstDue? e.now with
  | none =>
    simp only [Event.launch?, hdue, Option.map_none, ite_self] at h
    cases h
  | some due =>
    rw [launch?_startDue_of_ready hdue hready] at h
    cases h
    exact ⟨e.taken due.1 due.2, ⟨rfl, rfl, rfl, rfl, rfl⟩, apply_startDue_of_ready remote hdue hready⟩

/-- A due task that launches nothing leaves the cycles as they are, whether it is turned away or waits. -/
theorem sameCycles_startDue (h : Event.startDue.launch? e = none) :
    SameCycles e (Event.startDue.apply remote e).2 := by
  cases hdue : e.queue.firstDue? e.now with
  | none =>
    rw [apply_startDue_of_none remote hdue]
    exact (Beside.refl e).toSameCycles
  | some due =>
    cases hready : e.isReady with
    | true =>
      rw [launch?_startDue_of_ready hdue hready] at h
      cases h
    | false =>
      rcases apply_startDue_of_not_ready remote hdue hready with ⟨-, hafter⟩ | ⟨-, -, hafter⟩
      · rw [hafter]
        exact ⟨rfl, rfl, rfl, rfl, rfl⟩
      · rw [hafter]
        exact ⟨rfl, rfl, rfl, rfl, rfl⟩

/-- An edit changes the device and may trigger, which starts nothing by itself. -/
theorem Edited.sameCycles {seen : List Store.Event} {e' : Engine ρ} (h : Edited e seen e') :
    SameCycles e e' := by
  cases h with
  | inVain ids _ => exact ⟨rfl, rfl, rfl, rfl, rfl⟩
  | asked ids =>
    let edited : Engine ρ := { e with device := ⟨e.device.store.after seen, e.device.clock, ids⟩ }
    have hedited : SameCycles e edited := ⟨rfl, rfl, rfl, rfl, rfl⟩
    exact hedited.trans Beside.trigger.toSameCycles

/-- **The cycle that `launch?` names is begun**, none being in flight, and under the settings it names. -/
theorem begins_of_launch? {l : Launch} (h : e.launch? action = some l) : e.inFlight = none ∧
    ∃ prepared : Engine ρ, SameCycles e prepared ∧
      e.act remote action = prepared.begin remote l.origin l.settings := by
  have hsame : SameCycles e e := (Beside.refl e).toSameCycles
  have hfree (hready : e.isReady = true) : e.inFlight = none :=
    (isBusy_eq_false_iff.mp (e.isReady_eq_true_iff.mp hready).2).1
  -- a launch comes from a call, from whoever is next, or from a due task
  cases action with
  | edit edit => cases h
  | event event =>
    cases event with
    | call =>
      simp only [launch?, Event.launch?] at h
      split at h
      · next hready =>
        cases h
        exact ⟨hfree hready, e, hsame, sync_of_ready remote e .caller hready⟩
      · cases h
    | takeTurn =>
      simp only [launch?, Event.launch?] at h
      split at h
      · next w waiting hflight hwaiting =>
        cases h
        refine ⟨hflight, { e with waiting }, ⟨rfl, rfl, rfl, rfl, rfl⟩, ?_⟩
        simp only [act, Event.apply, takeTurn, hflight, hwaiting]
      · cases h
    | startDue =>
      obtain ⟨hready, hbegins⟩ := begins_of_startDue remote h
      exact ⟨hfree hready, hbegins⟩
    | _ => cases h

/-- **Where `launch?` names no cycle, none starts**: the cycles stay as they are, unless the one in flight is
carried on. -/
theorem sameCycles_of_launch? (h : e.launch? action = none) (haction : action ≠ .event .proceed) :
    SameCycles e (e.act remote action).2 := by
  have hrefl : SameCycles e e := (Beside.refl e).toSameCycles
  cases action with
  | edit edit => exact (edited_apply e edit).sameCycles
  | event event =>
    cases event with
    | proceed => exact absurd rfl haction
    | call =>
      simp only [launch?, Event.launch?] at h
      split at h
      · cases h
      · next hnot =>
        show SameCycles e (e.sync remote .caller).2
        rw [sync_of_not_ready remote e .caller (Bool.not_eq_true _ ▸ hnot)]
        exact hrefl
    | takeTurn =>
      simp only [launch?, Event.launch?] at h
      show SameCycles e (e.takeTurn remote).2
      unfold takeTurn
      split
      · next hflight hwaiting => simp only [hflight, hwaiting, reduceCtorEq] at h
      · exact hrefl
    | startDue => exact sameCycles_startDue remote h
    | trigger => exact Beside.trigger.toSameCycles
    | cancelDeferred => exact Beside.cancelDeferred.toSameCycles
    | _ => exact ⟨rfl, rfl, rfl, rfl, rfl⟩

end Replans

/-! ## What can become of a plan -/

namespace Replans

variable {e : Engine ρ} {action : Action} {launch : Option Launch} {p : Plan}

/-- Only whoever turns the clock changes it. -/
theorem now (h : Replans e action launch p) :
    p.now = e.now ∨ ∃ time, action = .event (.setClock time) ∧ p.now = time := by
  cases h with
  | turnsClock time => exact .inr ⟨time, rfl, rfl⟩
  | _ => exact .inl rfl

/-- Only whoever configures changes the settings. -/
theorem settings (h : Replans e action launch p) :
    p.settings = e.settings ∨ ∃ settings, action = .event (.configure settings) := by
  cases h with
  | configures settings => exact .inr ⟨settings, rfl⟩
  | _ => exact .inl rfl

/-- A window starts now or not at all. -/
theorem lastStart (h : Replans e action launch p) : p.lastStart = e.lastStart ∨ p.lastStart = some e.now := by
  have htaken (t : ScheduledTask Job) (n : Nat) :
      (e.taken t n).lastStart = e.lastStart ∨ (e.taken t n).lastStart = some e.now := by
    unfold taken
    split
    · exact .inr rfl
    · exact .inl rfl
  cases h with
  | keeps | turnsClock | configures | defers | forgets | reports | cancels => exact .inl rfl
  | starts | calls | takesTurn | launches => exact .inr rfl
  | @turnsAway t n | @waits t n => exact htaken t n

/-- Tasks are only added. -/
theorem nextNumber_le (h : Replans e action launch p) : e.queue.nextNumber ≤ p.queue.nextNumber := by
  have hschedule (delay : Duration) (job : Job) :
      e.queue.nextNumber ≤ (e.queue.schedule e.now delay job).nextNumber := by
    rw [Queue.nextNumber_schedule]
    exact Nat.le_succ _
  have hsettle (n : Nat) (status : TaskStatus) : e.queue.nextNumber ≤ (e.queue.settle n status).nextNumber :=
    Nat.le_of_eq (Queue.nextNumber_settle n status).symm
  cases h with
  | keeps | turnsClock | configures | calls | takesTurn => exact Nat.le_refl _
  | starts | reports => exact hschedule .zero _
  | @defers _ _ left => exact hschedule left _
  | @forgets n | cancels n => exact hsettle n .cancelled
  | @turnsAway _ n | @waits _ n | @launches _ n => exact hsettle n .started

/-- Whoever waits has been waiting, or is the task that starts, under the settings as they are. -/
theorem of_mem_waiting (h : Replans e action launch p) {w : Waiting} (hw : w ∈ p.waiting) :
    w ∈ e.waiting ∨ action = .event .startDue ∧ e.settings.refusal? = none ∧ w.settings = e.settings ∧
      ∃ t, e.queue.firstDue? e.now = some (t, w.task) := by
  cases h with
  | takesTurn hturn =>
    rw [hturn]
    exact .inl (List.mem_cons_of_mem _ hw)
  | @waits t n hdue _ hready =>
    rcases List.mem_append.mp hw with hw | hw
    · exact .inl hw
    · obtain rfl := List.mem_singleton.mp hw
      exact .inr ⟨rfl, hready, rfl, t, hdue⟩
  | _ => exact .inl hw

/-- A cycle starts at once, under the settings as they are, or it takes its turn, under those it waited with. -/
theorem of_launch {l : Launch} (h : Replans e action (some l) p) :
    action ≠ .event .takeTurn ∧ e.settings.refusal? = none ∧ l.settings = e.settings ∨
    action = .event .takeTurn ∧ ∃ w ∈ e.waiting, l.origin = .task w.task ∧ l.settings = w.settings := by
  cases h with
  | calls hready => exact .inl ⟨nofun, hready, rfl⟩
  | launches _ hready => exact .inl ⟨nofun, hready, rfl⟩
  | @takesTurn w _ hturn =>
    refine .inr ⟨rfl, w, ?_, rfl, rfl⟩
    rw [hturn]
    exact List.mem_cons_self

end Replans

/-! ## Runs of plans -/

/-- An engine to which nothing has happened yet. -/
def new (device : Device) (settings : Settings) (config : SyncConfig) (far : ρ) : Engine ρ :=
  { device, settings, config, far }

/-- What holds of the plan at first, and what no moment of the run takes from it, holds of the plan at every
moment of the run, and after it. -/
theorem plan_induction {P : Plan → Prop} (remote : Remote ρ) (e : Engine ρ) (actions : List Action)
    (hstep : ∀ m ∈ e.moments remote actions, Replans m.engine m.action m.launch? (m.next remote).plan →
      P m.engine.plan → P (m.next remote).plan)
    (h : P e.plan) :
    (∀ m ∈ e.moments remote actions, P m.engine.plan) ∧ P (e.afterAll remote actions).plan :=
  moments_induction (P := fun e' => P e'.plan) (fun m hm => hstep m hm (replans_act remote m.engine m.action)) h

/-! ## The configuration -/

/-- How an engine is tuned never changes. -/
theorem config_act (remote : Remote ρ) (e : Engine ρ) (action : Action) :
    (e.act remote action).2.config = e.config := by
  cases hlaunch : e.launch? action with
  | some l =>
    obtain ⟨-, prepared, hsame, hbegins⟩ := begins_of_launch? remote hlaunch
    rw [hbegins, config_begin]
    exact hsame.config
  | none =>
    by_cases haction : action = .event .proceed
    · subst haction
      exact config_proceed remote e
    · exact (sameCycles_of_launch? remote hlaunch haction).config

theorem config_afterAll (remote : Remote ρ) (e : Engine ρ) (actions : List Action) :
    (∀ m ∈ e.moments remote actions, m.engine.config = e.config) ∧
      (e.afterAll remote actions).config = e.config :=
  moments_induction (P := fun e' => e'.config = e.config)
    (fun m _ h => (config_act remote m.engine m.action).trans h) rfl

end Engine

end BookmarkSync
