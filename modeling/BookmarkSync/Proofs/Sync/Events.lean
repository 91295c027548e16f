import BookmarkSync.Proofs.Store.Changes
import BookmarkSync.Sync.Engine

/-!
# `BookmarkSync.Proofs.Sync.Events` — everything that can happen to an engine

An engine goes on by events: someone calls for a sync, a task comes due, the cycle in flight carries out
a stage, the store is changed, the clock or the settings move. Whatever an event is, it does one of three
things to the cycles (`moves_apply`): it leaves them alone and perhaps turns someone away, it starts a
cycle while none is in flight, or it carries the cycle in flight one stage further. And whatever an event
is, the store sees at most one thing happen (`store_apply`). Facts about all runs of an engine rest on
these two.
-/

namespace BookmarkSync.Engine

/-! ## Events -/

/-- What can happen to an engine. -/
inductive Event
  /-- Someone calls for a sync and waits for its report. -/
  | call
  /-- The cycle in flight carries out its stage. -/
  | proceed
  /-- The automatic sync that waits longest takes its turn. -/
  | takeTurn
  /-- The task that is due starts. -/
  | startDue
  /-- Someone asks for an automatic sync. -/
  | trigger
  | cancelDeferred
  /-- Someone schedules a sync whose report is handed over. -/
  | scheduleReported
  | cancelTask (number : Nat)
  /-- Someone changes the store. -/
  | change (c : Store.Change)
  /-- The store reads its entries again. -/
  | load
  /-- From now on writes to the entries are refused like this. -/
  | refuse (readOnly : Bool) (failingKey : Option String)
  | setClock (time : Timestamp)
  | configure (settings : Settings)

variable {ρ : Type}

/-- The engine after an event, and the sync that has ended by it or was turned away. -/
def Event.apply (remote : Remote ρ) (e : Engine ρ) : Event → Option Ended × Engine ρ
  | call => e.sync remote .caller
  | proceed => e.proceed remote
  | takeTurn => e.takeTurn remote
  | startDue => (e.startDue remote).elim (none, e) Prod.snd
  | trigger => (none, e.trigger.2)
  | cancelDeferred => (none, e.cancelDeferred.2)
  | scheduleReported => (none, e.scheduleReported)
  | cancelTask number => (none, (e.cancelTask number).2)
  | change c => (none, (e.onDevice fun d => d.change fun s now => c.run now s).2)
  | load => (none, { e with device := e.device.load })
  | refuse readOnly failingKey =>
    (none, { e with device := e.device.withKeyValue { e.device.store.kv with readOnly, failingKey } })
  | setClock time => (none, { e with device := { e.device with clock := time } })
  | configure settings => (none, { e with settings })

/-- The engine after some events, one after the other. -/
def after (remote : Remote ρ) (e : Engine ρ) (events : List Event) : Engine ρ :=
  events.foldl (fun e event => (event.apply remote e).2) e

/-- The reports that are handed out in the course of some events, in order. -/
def reports (remote : Remote ρ) : Engine ρ → List Event → List Report
  | _, [] => []
  | e, event :: events =>
    let (answer, e) := event.apply remote e
    (answer.map Ended.report).toList ++ e.reports remote events

section Runs

variable (remote : Remote ρ) (e : Engine ρ)

theorem after_nil : e.after remote [] = e := rfl

theorem after_cons (event : Event) (events : List Event) :
    e.after remote (event :: events) = (event.apply remote e).2.after remote events := rfl

/-- A run is carried on by what happens after it. -/
theorem after_append (events later : List Event) :
    e.after remote (events ++ later) = (e.after remote events).after remote later :=
  List.foldl_append

/-- What every event preserves holds after every run. -/
theorem after_induction {P : Engine ρ → Prop} (hstep : ∀ e event, P e → P (Event.apply remote e event).2)
    (h : P e) (events : List Event) : P (e.after remote events) := by
  induction events generalizing e with
  | nil => exact h
  | cons event events ih => exact ih (event.apply remote e).2 (hstep e event h)

end Runs

/-! ## Wishes for an automatic sync -/

/-- What comes of a wish for an automatic sync, and when. -/
inductive TriggerDone (e : Engine ρ) : Except TriggerFault Decision × Engine ρ → Prop
  /-- Without an address there is nothing to sync with. -/
  | skips : e.settings.isConfigured = false → TriggerDone e (.ok .skipped, e)
  /-- Outside the window a sync is scheduled at once. -/
  | starts : e.settings.isConfigured = true → e.windowElapsed? = none →
      TriggerDone e (.ok .started,
        { e with queue := e.queue.schedule e.now .zero (.automatic false), lastStart := some e.now })
  /-- Inside the window a wish joins the deferred sync that is pending. -/
  | joins {elapsed : Int64} : e.settings.isConfigured = true → e.windowElapsed? = some elapsed →
      e.hasDeferred = true → TriggerDone e (.ok .alreadyPending, e)
  /-- Otherwise a sync is deferred for the rest of the window, -/
  | defers {elapsed : Int64} {left : Duration} : e.settings.isConfigured = true →
      e.windowElapsed? = some elapsed → e.hasDeferred = false → e.windowLeft? elapsed = some left →
      TriggerDone e (.ok .deferred,
        { e with
          queue := e.queue.schedule e.now left (.automatic true)
          deferred := some e.queue.nextNumber })
  /-- unless the rest does not fit. -/
  | faults {elapsed : Int64} : e.settings.isConfigured = true → e.windowElapsed? = some elapsed →
      e.hasDeferred = false → e.windowLeft? elapsed = none → TriggerDone e (.error .overflow, e)

/-- **A wish for an automatic sync does one of these things**, by whether there is an address, whether the
window is open, whether a deferred sync is pending, and whether the rest of the window fits. -/
theorem triggerDone_trigger (e : Engine ρ) : TriggerDone e e.trigger := by
  unfold trigger
  cases hconfigured : e.settings.isConfigured with
  | false => exact .skips hconfigured
  | true =>
    -- outside the window a run starts at once; inside it one may already be waiting for the end
    cases helapsed : e.windowElapsed? with
    | none => exact .starts hconfigured helapsed
    | some elapsed =>
      cases hdeferred : e.hasDeferred with
      | true => exact .joins hconfigured helapsed hdeferred
      | false =>
        cases hleft : e.windowLeft? elapsed with
        | none =>
          simp only [Bool.not_true, Bool.false_eq_true, if_false, hleft]
          exact .faults hconfigured helapsed hdeferred hleft
        | some left =>
          simp only [Bool.not_true, Bool.false_eq_true, if_false, hleft]
          exact .defers hconfigured helapsed hdeferred hleft

/-! ## What concerns cycles -/

/-- What the cycles of an engine have to do with is as it was. -/
structure SameCycles (e e' : Engine ρ) : Prop where
  inFlight : e'.inFlight = e.inFlight
  registry : e'.registry = e.registry
  status : e'.status = e.status
  config : e'.config = e.config
  far : e'.far = e.far

/-- The engine has gone on beside its cycles: they are as they were, and the store has gone on as stores do. -/
structure Beside (e e' : Engine ρ) : Prop extends SameCycles e e' where
  store : ∃ seen, e'.device.store = e.device.store.after seen

/-- Nothing happens. -/
theorem Beside.refl (e : Engine ρ) : Beside e e := ⟨⟨rfl, rfl, rfl, rfl, rfl⟩, [], rfl⟩

/-- Someone was turned away: the settings do not ask for a sync, or the engine was busy. -/
def TurnedAway (e : Engine ρ) (report : Report) : Prop :=
  (∃ r, report = .failed (.declined r)) ∨ report = .failed .busy ∧ e.isBusy = true

/-- What an event can do to the cycles of an engine. -/
inductive Moves (remote : Remote ρ) (e : Engine ρ) : Event → Option Ended × Engine ρ → Prop
  /-- Nothing; but someone may have been turned away. -/
  | aside {event : Event} {answer : Option Ended} {e' : Engine ρ} : Beside e e' →
      (∀ ended, answer = some ended → TurnedAway e ended.report) → Moves remote e event (answer, e')
  /-- A cycle starts, none being in flight. -/
  | begins {event : Event} {e' : Engine ρ} (origin : Origin) (settings : Settings) : e.inFlight = none →
      Beside e e' → Moves remote e event (e'.begin remote origin settings)
  /-- The cycle in flight carries out its stage. -/
  | proceeds {c : Cycle} : e.inFlight = some c → Moves remote e .proceed (e.proceed remote)

section Moves

variable {remote : Remote ρ} {e e' : Engine ρ} {event : Event}

/-- Something happens beside the cycles, and nobody is answered. -/
theorem Moves.silent (h : Beside e e') : Moves remote e event (none, e') := .aside h nofun

/-- An engine is free if no cycle is in flight and no automatic sync waits for its turn. -/
theorem isBusy_eq_false_iff : e.isBusy = false ↔ e.inFlight = none ∧ e.waiting = [] := by
  simp only [isBusy, Bool.or_eq_false_iff, Option.isSome_eq_false_iff, Option.isNone_iff_eq_none,
    Bool.not_eq_false', List.isEmpty_iff]

theorem Beside.isBusy (h : Beside e e') (hwaiting : e'.waiting = e.waiting) : e'.isBusy = e.isBusy := by
  rw [Engine.isBusy, h.inFlight, hwaiting, Engine.isBusy]

/-- A wish for an automatic sync only plans one. -/
theorem Beside.trigger : Beside e e.trigger.2 := by
  have hdone := e.triggerDone_trigger
  generalize e.trigger = r at hdone ⊢
  cases hdone with
  | skips | joins | faults => exact .refl e
  | starts | defers => exact ⟨⟨rfl, rfl, rfl, rfl, rfl⟩, [], rfl⟩

/-- Taking a deferred sync back only changes what is planned. -/
theorem Beside.cancelDeferred : Beside e e.cancelDeferred.2 := by
  unfold Engine.cancelDeferred
  split
  · exact .refl e
  · exact ⟨⟨rfl, rfl, rfl, rfl, rfl⟩, [], rfl⟩

/-- Someone asks for a sync of an engine that was prepared for it. -/
theorem Moves.sync (h : Beside e e') (hwaiting : e'.waiting = e.waiting) (origin : Origin) :
    Moves remote e event (e'.sync remote origin) := by
  have hbusy := h.isBusy hwaiting
  unfold Engine.sync
  cases e'.settings.refusal? with
  | some r =>
    refine .aside h fun ended hended => ?_
    cases hended
    exact .inl ⟨r, rfl⟩
  | none =>
    -- a call is turned away while a cycle runs or somebody waits
    by_cases hb : e'.isBusy = true
    · simp only [hb, if_true]
      refine .aside h fun ended hended => ?_
      cases hended
      exact .inr ⟨rfl, hbusy ▸ hb⟩
    · simp only [hb, if_false, Bool.false_eq_true]
      have hfree := isBusy_eq_false_iff.mp (Bool.not_eq_true _ ▸ hbusy ▸ hb)
      exact .begins origin e'.settings hfree.1 h

/-- An automatic sync of an engine that was prepared for it is turned away, waits, or starts a cycle. -/
theorem Moves.autoSync (h : Beside e e') (hwaiting : e'.waiting = e.waiting) (task : Nat) :
    Moves remote e event (e'.autoSync remote task) := by
  have hbusy := h.isBusy hwaiting
  unfold Engine.autoSync
  cases e'.settings.refusal? with
  | some r =>
    refine .aside h fun ended hended => ?_
    cases hended
    exact .inl ⟨r, rfl⟩
  | none =>
    by_cases hb : e'.isBusy = true
    · simp only [hb, if_true]
      exact .silent ⟨⟨h.inFlight, h.registry, h.status, h.config, h.far⟩, h.store⟩
    · simp only [hb, if_false, Bool.false_eq_true]
      have hfree := isBusy_eq_false_iff.mp (Bool.not_eq_true _ ▸ hbusy ▸ hb)
      exact .begins (.task task) e'.settings hfree.1 h

/-- The automatic sync that has waited starts a cycle if none is in flight. -/
theorem Moves.takeTurn : Moves remote e event (e.takeTurn remote) := by
  unfold Engine.takeTurn
  split
  · next w waiting hflight _ =>
    exact .begins (.task w.task) w.settings hflight ⟨⟨rfl, rfl, rfl, rfl, rfl⟩, [], rfl⟩
  · exact .silent (.refl e)

/-- A task starts the sync that it stands for. -/
theorem Moves.work (h : Beside e e') (hwaiting : e'.waiting = e.waiting) (n : Nat) (job : Job) :
    Moves remote e event (e'.work remote n job) := by
  cases job with
  | automatic deferred =>
    cases deferred with
    | true =>
      let ready : Engine ρ := { e' with deferred := none, lastStart := some e'.now }
      have hready : Beside e ready := ⟨⟨h.inFlight, h.registry, h.status, h.config, h.far⟩, h.store⟩
      exact .autoSync hready hwaiting n
    | false => exact .autoSync h hwaiting n
  | reported => exact .sync h hwaiting (.task n)

/-- Starting the task that is due is doing its work. -/
theorem Moves.startDue : Moves remote e event ((e.startDue remote).elim (none, e) Prod.snd) := by
  unfold Engine.startDue
  cases e.queue.firstDue? e.now with
  | none => exact .silent (.refl e)
  | some t =>
    let taken : Engine ρ := { e with queue := e.queue.start t.2 }
    have htaken : Beside e taken := ⟨⟨rfl, rfl, rfl, rfl, rfl⟩, [], rfl⟩
    exact .work htaken rfl t.2 t.1.job

/-- Carrying on without a cycle in flight does nothing. -/
theorem Moves.proceed : Moves remote e .proceed (e.proceed remote) := by
  cases hflight : e.inFlight with
  | none =>
    have hnothing : e.proceed remote = (none, e) := by simp only [Engine.proceed, hflight]
    rw [hnothing]
    exact .silent (.refl e)
  | some c => exact .proceeds hflight

variable (remote e) in
/-- **Every event leaves the cycles alone, starts one while none is in flight, or carries the one in flight
a stage further.** -/
theorem moves_apply (event : Event) : Moves remote e event (event.apply remote e) := by
  cases event with
  | call => exact .sync (.refl e) rfl .caller
  | proceed => exact .proceed
  | takeTurn => exact .takeTurn
  | startDue => exact .startDue
  | trigger => exact .silent .trigger
  | cancelDeferred => exact .silent .cancelDeferred
  | scheduleReported => exact .silent ⟨⟨rfl, rfl, rfl, rfl, rfl⟩, [], rfl⟩
  | cancelTask number => exact .silent ⟨⟨rfl, rfl, rfl, rfl, rfl⟩, [], rfl⟩
  | change c => exact .silent ⟨⟨rfl, rfl, rfl, rfl, rfl⟩, [.change c e.now], rfl⟩
  | load => exact .silent ⟨⟨rfl, rfl, rfl, rfl, rfl⟩, [.load e.now e.device.ids.fresh.1], rfl⟩
  | refuse readOnly failingKey => exact .silent ⟨⟨rfl, rfl, rfl, rfl, rfl⟩, [.refuse readOnly failingKey], rfl⟩
  | setClock time => exact .silent ⟨⟨rfl, rfl, rfl, rfl, rfl⟩, [], rfl⟩
  | configure settings => exact .silent ⟨⟨rfl, rfl, rfl, rfl, rfl⟩, [], rfl⟩

/-- While a cycle is in flight, whatever does not carry it on happens beside it. -/
theorem beside_apply {c : Cycle} (hflight : e.inFlight = some c) (hevent : event ≠ .proceed) :
    Beside e (event.apply remote e).2 := by
  have hmoves := moves_apply remote e event
  generalize event.apply remote e = r at hmoves ⊢
  cases hmoves with
  | aside hbeside _ => exact hbeside
  | begins _ _ hnone _ =>
    rw [hflight] at hnone
    cases hnone
  | proceeds _ => exact absurd rfl hevent

/-- What leaves the cycles alone can be followed by more of it. -/
theorem SameCycles.trans {e'' : Engine ρ} (h : SameCycles e e') (h' : SameCycles e' e'') : SameCycles e e'' :=
  ⟨h'.inFlight.trans h.inFlight, h'.registry.trans h.registry, h'.status.trans h.status,
    h'.config.trans h.config, h'.far.trans h.far⟩

/-- A cycle in flight stays where it is until it is carried on. -/
theorem sameCycles_after (remote : Remote ρ) {e : Engine ρ} {c : Cycle} (hflight : e.inFlight = some c)
    {events : List Event} (hevents : ∀ event ∈ events, event ≠ .proceed) :
    SameCycles e (e.after remote events) := by
  induction events generalizing e with
  | nil => exact (Beside.refl e).toSameCycles
  | cons event events ih =>
    rw [List.forall_mem_cons] at hevents
    have hfirst : SameCycles e (event.apply remote e).2 := (beside_apply hflight hevents.1).toSameCycles
    exact hfirst.trans (ih (hfirst.inFlight.trans hflight) hevents.2)

end Moves

/-! ## What the store sees -/

/-- What the store sees of a stage of a cycle: the commit, and nothing else. -/
def seenOfStage (e : Engine ρ) : Stage → List Store.Event
  | .commit found => [.change (.replaceWith fun ours => ours.synced found e.now e.config.retention) e.now]
  | _ => []

/-- What the store sees of an event. -/
def Event.seen (e : Engine ρ) : Event → List Store.Event
  | proceed => e.inFlight.elim [] fun c => e.seenOfStage c.stage
  | change c => [.change c e.now]
  | load => [.load e.now e.device.ids.fresh.1]
  | refuse readOnly failingKey => [.refuse readOnly failingKey]
  | _ => []

section Store

variable (remote : Remote ρ) (e : Engine ρ)

/-- A stage of a cycle changes nothing but the device and the far side. -/
theorem perform_frame (c : Cycle) : ∃ device far, (e.perform remote c).2 = { e with device, far } := by
  unfold perform
  cases c.stage with
  | checkMetadata bookmarks =>
    let asked := e.ask fun reg far => remote.has reg (c.metadataFile e.config) far
    show ∃ device far, (asked.2.metadataFound bookmarks asked.1).2 = { e with device, far }
    rcases asked.1 with error | found
    · exact ⟨_, _, rfl⟩
    · cases found <;> exact ⟨_, _, rfl⟩
  | commit found =>
    simp only [commit]
    split <;> exact ⟨_, _, rfl⟩
  | _ => exact ⟨_, _, rfl⟩

/-- Carrying out a commit is a change of the store, and no other stage touches it; no stage turns the clock. -/
theorem device_perform (c : Cycle) : (e.perform remote c).2.device.clock = e.device.clock ∧
    (e.perform remote c).2.device.store = e.device.store.after (e.seenOfStage c.stage) := by
  unfold perform
  cases c.stage with
  | checkMetadata bookmarks =>
    let asked := e.ask fun reg far => remote.has reg (c.metadataFile e.config) far
    show (asked.2.metadataFound bookmarks asked.1).2.device.clock = e.device.clock ∧
      (asked.2.metadataFound bookmarks asked.1).2.device.store = e.device.store
    rcases asked.1 with error | found
    · exact ⟨rfl, rfl⟩
    · cases found <;> exact ⟨rfl, rfl⟩
  | commit found =>
    simp only [commit]
    split <;> exact ⟨rfl, rfl⟩
  | _ => exact ⟨rfl, rfl⟩

/-- A cycle that starts has not touched the device; so it is with everything else that only asks for one. -/
theorem device_begin (origin : Origin) (settings : Settings) :
    (e.begin remote origin settings).2.device = e.device := by
  unfold begin
  split <;> rfl

/-- Carrying on is a stage of the cycle in flight, and its end leaves the device. -/
theorem device_proceed : (e.proceed remote).2.device.clock = e.device.clock ∧
    (e.proceed remote).2.device.store = e.device.store.after (Event.proceed.seen e) := by
  cases hflight : e.inFlight with
  | none =>
    have hnothing : e.proceed remote = (none, e) := by simp only [proceed, hflight]
    have hunseen : Event.proceed.seen e = [] := by simp only [Event.seen, hflight, Option.elim_none]
    rw [hnothing, hunseen]
    exact ⟨rfl, rfl⟩
  | some c =>
    have hperform := e.device_perform remote c
    simp only [proceed, Event.seen, hflight, Option.elim_some]
    rw [← hperform.1, ← hperform.2]
    -- whether the cycle goes on or is over, its end changes nothing on the device
    split
    · next h =>
      rw [h]
      exact ⟨rfl, rfl⟩
    · next h =>
      rw [h]
      exact ⟨rfl, rfl⟩

/-- Asking for a sync leaves the device. -/
theorem device_sync (origin : Origin) : (e.sync remote origin).2.device = e.device := by
  unfold sync
  split
  · rfl
  · split
    · rfl
    · exact device_begin remote e origin e.settings

theorem device_autoSync (task : Nat) : (e.autoSync remote task).2.device = e.device := by
  unfold autoSync
  split
  · rfl
  · split
    · rfl
    · exact device_begin remote e (.task task) e.settings

theorem device_takeTurn : (e.takeTurn remote).2.device = e.device := by
  unfold takeTurn
  split
  · exact device_begin remote _ _ _
  · rfl

theorem device_work (n : Nat) (job : Job) : (e.work remote n job).2.device = e.device := by
  unfold work
  split
  · exact device_autoSync remote _ n
  · exact device_autoSync remote e n
  · exact device_sync remote e (.task n)

theorem device_startDue : ((e.startDue remote).elim (none, e) Prod.snd).2.device = e.device := by
  unfold startDue
  split
  · rfl
  · exact device_work remote _ _ _

theorem device_trigger : e.trigger.2.device = e.device := by
  have hdone := e.triggerDone_trigger
  generalize e.trigger = r at hdone ⊢
  cases hdone <;> rfl

theorem device_cancelDeferred : e.cancelDeferred.2.device = e.device := by
  unfold cancelDeferred
  split <;> rfl

/-- **The store of an engine goes on as stores do**, whatever happens to the engine: it sees the change that an
event is, or the commit of the cycle in flight. -/
theorem store_apply (event : Event) :
    (event.apply remote e).2.device.store = e.device.store.after (event.seen e) := by
  cases event with
  | call => exact congrArg Device.store (device_sync remote e .caller)
  | proceed => exact (device_proceed remote e).2
  | takeTurn => exact congrArg Device.store (device_takeTurn remote e)
  | startDue => exact congrArg Device.store (device_startDue remote e)
  | trigger => exact congrArg Device.store e.device_trigger
  | cancelDeferred => exact congrArg Device.store e.device_cancelDeferred
  | scheduleReported | cancelTask _ | change _ | load | refuse _ _ | setClock _ | configure _ => rfl

/-- What every event preserves of a store holds of the store of an engine after every run. -/
theorem store_induction {P : Store → Prop} (hstep : ∀ s event, P s → P (Store.Event.apply s event))
    (h : P e.device.store) (events : List Event) : P (e.after remote events).device.store := by
  have hevent : ∀ (e : Engine ρ) event, P e.device.store → P (Event.apply remote e event).2.device.store := by
    intro e event he
    rw [store_apply remote e event]
    exact Store.after_induction hstep he (event.seen e)
  exact after_induction remote e hevent h events

end Store

/-! ## The configuration -/

/-- No start of a cycle and no stage changes how an engine is tuned. -/
theorem config_begin (remote : Remote ρ) (e : Engine ρ) (origin : Origin) (settings : Settings) :
    (e.begin remote origin settings).2.config = e.config := by
  unfold begin
  split <;> rfl

theorem config_proceed (remote : Remote ρ) (e : Engine ρ) : (e.proceed remote).2.config = e.config := by
  cases hflight : e.inFlight with
  | none => simp only [proceed, hflight]
  | some c =>
    obtain ⟨device, far, hframe⟩ := e.perform_frame remote c
    have hconfig : (e.perform remote c).2.config = e.config := by rw [hframe]
    rcases hperform : e.perform remote c with ⟨turn, e'⟩
    rw [hperform] at hconfig
    cases turn <;> simpa only [proceed, hflight, hperform, finish] using hconfig

/-- No event changes how an engine is tuned. -/
theorem config_apply (remote : Remote ρ) (e : Engine ρ) (event : Event) :
    (event.apply remote e).2.config = e.config := by
  have hmoves := moves_apply remote e event
  generalize event.apply remote e = r at hmoves ⊢
  cases hmoves with
  | aside hbeside _ => exact hbeside.config
  | begins origin settings _ hbeside => rw [config_begin, hbeside.config]
  | proceeds _ => exact config_proceed remote e

/-- How an engine is tuned never changes. -/
theorem config_after (remote : Remote ρ) (e : Engine ρ) (events : List Event) :
    (e.after remote events).config = e.config :=
  after_induction (P := fun e' => e'.config = e.config) remote e
    (fun e' event h => (config_apply remote e' event).trans h) rfl events

end BookmarkSync.Engine
