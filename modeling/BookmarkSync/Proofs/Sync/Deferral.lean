import BookmarkSync.Proofs.Sync.Plan
import BookmarkSync.Proofs.Sync.Window

/-!
# `BookmarkSync.Proofs.Sync.Deferral` — bursts of wishes

Inside the debounce window the wishes for an automatic sync come down to one deferred sync. What makes it so
is that the handle of the engine keeps to the queue: a deferred sync that is pending is the one the handle
names (`TracksDeferred`). Every action preserves this, whoever writes to the handle, the window or the queue.

The window itself is told by clamped arithmetic, and by a difference that must fit. It does while clock and
debounce span stay moderate.
-/

namespace BookmarkSync

/-! ## The handle and the queue -/

/-- The handle keeps to the queue. -/
structure Queue.TracksDeferred (q : Queue Job) (deferred : Option Nat) : Prop where
  handle : ∀ n t, q.Awaits n t → t.job = .automatic true → deferred = some n
  job : ∀ n t, q.Awaits n t → deferred = some n → t.job = .automatic true
  known : ∀ n, deferred = some n → n < q.nextNumber

namespace Queue

variable {q : Queue Job} {deferred : Option Nat}

theorem tracksDeferred_empty : ({} : Queue Job).TracksDeferred none where
  handle _ _ h := absurd h not_awaits_empty
  job _ _ h := absurd h not_awaits_empty
  known := nofun

namespace TracksDeferred

variable (h : q.TracksDeferred deferred)

include h

/-- Another task is scheduled, which is no deferred sync. -/
theorem schedule (now : Timestamp) (delay : Duration) {job : Job} (hjob : job ≠ .automatic true) :
    (q.schedule now delay job).TracksDeferred deferred where
  handle n t ht hdeferred := by
    rcases awaits_schedule.mp ht with hold | ⟨-, rfl⟩
    · exact h.handle n t hold hdeferred
    · exact absurd hdeferred hjob
  job n t ht hhandle := by
    rcases awaits_schedule.mp ht with hold | ⟨rfl, -⟩
    · exact h.job n t hold hhandle
    · exact absurd (h.known _ hhandle) (Nat.lt_irrefl _)
  known n hhandle := by
    rw [nextNumber_schedule]
    exact Nat.lt_succ_of_lt (h.known n hhandle)

/-- A deferred sync is scheduled, none being pending. -/
theorem defer (now : Timestamp) (left : Duration) (hnone : deferred.any q.isPending = false) :
    (q.schedule now left (.automatic true)).TracksDeferred (some q.nextNumber) where
  handle n t ht hdeferred := by
    -- no older deferred task can still be waiting, for its handle would say so
    rcases awaits_schedule.mp ht with hold | ⟨rfl, -⟩
    · have hpending : q.isPending n = true := isPending_iff.mpr ⟨t, hold⟩
      rw [h.handle n t hold hdeferred, Option.any_some, hpending] at hnone
      cases hnone
    · rfl
  job n t ht hhandle := by
    rcases awaits_schedule.mp ht with hold | ⟨-, rfl⟩
    · cases hhandle
      exact absurd hold.lt_nextNumber (Nat.lt_irrefl _)
    · rfl
  known n hhandle := by
    cases hhandle
    rw [nextNumber_schedule]
    exact Nat.lt_succ_self _

/-- A task is started or cancelled. -/
theorem settle {status : TaskStatus} (hstatus : status ≠ .pending) (k : Nat) :
    (q.settle k status).TracksDeferred deferred where
  handle n t ht := h.handle n t ((awaits_settle hstatus).mp ht).2
  job n t ht := h.job n t ((awaits_settle hstatus).mp ht).2
  known n hhandle := by
    rw [nextNumber_settle]
    exact h.known n hhandle

/-- The deferred sync is started or cancelled, and the handle given up. -/
theorem forget {status : TaskStatus} (hstatus : status ≠ .pending) {k : Nat} (hk : deferred = some k) :
    (q.settle k status).TracksDeferred none where
  handle n t ht hdeferred := by
    obtain ⟨hne, hold⟩ := (awaits_settle hstatus).mp ht
    have hsame : some k = some n := hk.symm.trans (h.handle n t hold hdeferred)
    exact absurd (Option.some.inj hsame).symm hne
  job _ _ _ := nofun
  known := nofun

end TracksDeferred

end Queue

/-! ## Moderate clocks -/

/-- 2^61 milliseconds, which are some seventy million years. -/
def moderateMillis : Nat := 0x2000000000000000

/-- The reading is so far from both ends of 64 bits that windows around it can be told. -/
def Timestamp.IsModerate (t : Timestamp) : Prop := t.toInt.natAbs < moderateMillis

instance (t : Timestamp) : Decidable t.IsModerate := inferInstanceAs (Decidable (_ < _))

/-- The clock and the start of the window are moderate. -/
structure Plan.IsModerate (p : Plan) : Prop where
  now : p.now.IsModerate
  lastStart : ∀ last, p.lastStart = some last → last.IsModerate

namespace Engine

variable {ρ : Type} {e : Engine ρ}

/-! ## What every action preserves -/

theorem tracksDeferred_taken (h : e.queue.TracksDeferred e.deferred) {t : ScheduledTask Job} {n : Nat}
    (hdue : e.queue.firstDue? e.now = some (t, n)) :
    (e.taken t n).queue.TracksDeferred (e.taken t n).deferred := by
  have hstarted : TaskStatus.started ≠ .pending := by decide
  show (e.queue.settle n .started).TracksDeferred (if t.job = .automatic true then none else e.deferred)
  split
  · next hjob => exact h.forget hstarted (h.handle n t (Queue.awaits_of_firstDue? hdue).1 hjob)
  · exact h.settle hstarted n

/-- **Whatever happens, the handle keeps to the queue.** -/
theorem Replans.tracksDeferred {action : Action} {launch : Option Launch} {plan : Plan}
    (hreplans : Replans e action launch plan) (h : e.queue.TracksDeferred e.deferred) :
    plan.queue.TracksDeferred plan.deferred := by
  have hcancelled : TaskStatus.cancelled ≠ .pending := by decide
  cases hreplans with
  | keeps | turnsClock | configures | calls | takesTurn => exact h
  | starts => exact h.schedule e.now .zero (by decide)
  | reports => exact h.schedule e.now .zero (by decide)
  | @defers _ _ left _ _ _ hnone _ => exact h.defer e.now left hnone
  | forgets hhandle => exact h.forget hcancelled hhandle
  | cancels n => exact h.settle hcancelled n
  | turnsAway hdue | waits hdue | launches hdue => exact tracksDeferred_taken h hdue

theorem tracksDeferred_afterAll (remote : Remote ρ) (device : Device) (settings : Settings)
    (config : SyncConfig) (far : ρ) (actions : List Action) :
    let e := (new device settings config far).afterAll remote actions
    e.queue.TracksDeferred e.deferred :=
  (plan_induction (P := fun p => p.queue.TracksDeferred p.deferred) remote (new device settings config far)
    actions (fun _ _ hreplans => hreplans.tracksDeferred) Queue.tracksDeferred_empty).2

/-- A task that has been started or cancelled is never pending again. -/
theorem Replans.isSettled {action : Action} {launch : Option Launch} {plan : Plan} {k : Nat}
    (hreplans : Replans e action launch plan) (h : e.queue.IsSettled k) : plan.queue.IsSettled k := by
  have hcancelled : TaskStatus.cancelled ≠ .pending := by decide
  have hstarted : TaskStatus.started ≠ .pending := by decide
  cases hreplans with
  | keeps | turnsClock | configures | calls | takesTurn => exact h
  | starts | reports => exact h.schedule e.now .zero _
  | @defers _ _ left => exact h.schedule e.now left _
  | @forgets n => exact h.settle hcancelled n
  | cancels n => exact h.settle hcancelled n
  | @turnsAway _ n | @waits _ n | @launches _ n => exact h.settle hstarted n

theorem Replans.isModerate {action : Action} {launch : Option Launch} {plan : Plan}
    (hreplans : Replans e action launch plan)
    (hclock : ∀ time, action = .event (.setClock time) → time.IsModerate) (h : e.plan.IsModerate) :
    plan.IsModerate where
  now := by
    rcases hreplans.now with hnow | ⟨time, haction, hnow⟩
    · rw [hnow]
      exact h.now
    · rw [hnow]
      exact hclock time haction
  lastStart last hlast := by
    rcases hreplans.lastStart with hstart | hstart
    · exact h.lastStart last (hstart.symm.trans hlast)
    · obtain rfl := Option.some.inj (hstart.symm.trans hlast)
      exact h.now

section Runs

variable (remote : Remote ρ) (device : Device) (settings : Settings)

/-- An engine whose clock is only turned to moderate readings stays moderate. -/
theorem isModerate_afterAll (config : SyncConfig) (far : ρ) {actions : List Action}
    (hstart : device.clock.IsModerate) (hclock : ∀ time, .event (.setClock time) ∈ actions → time.IsModerate) :
    ((new device settings config far).afterAll remote actions).plan.IsModerate := by
  let start := new device settings config far
  have hnew : start.plan.IsModerate := ⟨hstart, fun _ hlast => nomatch hlast⟩
  refine (plan_induction remote start actions
    (fun m hm hreplans => hreplans.isModerate fun time htime => ?_) hnew).2
  exact hclock time (htime ▸ action_mem_of_moment hm)

theorem debounce_afterAll_lt {config : SyncConfig} (far : ρ) (hspan : config.debounce.millis < moderateMillis)
    (actions : List Action) :
    ((new device settings config far).afterAll remote actions).debounce < moderateMillis := by
  rw [debounce, (config_afterAll remote _ actions).2]
  exact Int.ofNat_lt.mpr hspan

end Runs

/-! ## Wishes and cancellations -/

/-- Task `n` is a deferred sync, and it is pending. -/
def IsDeferred (e : Engine ρ) (n : Nat) : Prop := ∃ t, e.queue.Awaits n t ∧ t.job = .automatic true

/-- The number of the task that starts at a moment, if any. -/
def Moment.started? (m : Moment ρ) : Option Nat :=
  match m.action with
  | .event .startDue => (m.engine.queue.firstDue? m.engine.now).map Prod.snd
  | _ => none

/-- What comes of a wish for an automatic sync. -/
inductive Triggered (e : Engine ρ) : Except TriggerFault Decision × Engine ρ → Prop
  | skips : e.settings.isConfigured = false → Triggered e (.ok .skipped, e)
  /-- A sync is queued, and it is due now. -/
  | starts : e.settings.isConfigured = true → e.WindowIsOver →
      Triggered e (.ok .started,
        { e with
          queue := ⟨e.queue.tasks ++ [{ due := e.now, job := .automatic false }]⟩
          lastStart := some e.now })
  /-- A deferred sync is pending already. -/
  | joins {n : Nat} : e.settings.isConfigured = true → ¬ e.WindowIsOver → e.IsDeferred n →
      Triggered e (.ok .alreadyPending, e)
  /-- A sync is queued, and it is due when the window ends. -/
  | defers {last due : Timestamp} : e.settings.isConfigured = true → ¬ e.WindowIsOver →
      (∀ n, ¬ e.IsDeferred n) → e.lastStart = some last → due.toInt = last.toInt + e.debounce →
      Triggered e (.ok .deferred,
        { e with
          queue := ⟨e.queue.tasks ++ [{ due, job := .automatic true }]⟩
          deferred := some e.queue.nextNumber })

theorem hasDeferred_iff (h : e.queue.TracksDeferred e.deferred) :
    e.hasDeferred = true ↔ ∃ n, e.IsDeferred n := by
  unfold hasDeferred IsDeferred
  rw [Option.any_eq_true]
  constructor
  · rintro ⟨n, hhandle, hpending⟩
    obtain ⟨t, ht⟩ := Queue.isPending_iff.mp hpending
    exact ⟨n, t, ht, h.job n t ht hhandle⟩
  · rintro ⟨n, t, ht, hjob⟩
    exact ⟨n, h.handle n t ht hjob, Queue.isPending_iff.mpr ⟨t, ht⟩⟩

theorem fst_cancelDeferred (e : Engine ρ) : e.cancelDeferred.1 = e.hasDeferred := by
  unfold cancelDeferred hasDeferred
  cases e.deferred <;> rfl

section Moderate

variable (hmoderate : e.plan.IsModerate) (hspan : e.debounce < moderateMillis)
include hmoderate hspan

/-- While the clock and the span are moderate, the rest of the window can be told. -/
theorem restFits_of_isModerate {last : Timestamp} (hlast : e.lastStart = some last) : e.RestFits last := by
  have hbound : (moderateMillis : Int) = 0x2000000000000000 := rfl
  have hmax : Int64.maxValue.toInt = 0x7fffffffffffffff := by decide
  have hcapped : e.cappedDebounce ≤ e.debounce := Int.min_le_left _ _
  have hnow : e.now.IsModerate := hmoderate.now
  have hstart : last.IsModerate := hmoderate.lastStart last hlast
  unfold Timestamp.IsModerate at hnow hstart
  unfold RestFits
  omega

/-- **A moderate wish is always decided.** -/
theorem trigger_ne_overflow : e.trigger.1 ≠ .error .overflow := by
  have hdone := e.triggerDone_trigger
  generalize e.trigger = r at hdone ⊢
  cases hdone with
  | skips | starts | joins | defers => exact nofun
  | faults _ helapsed _ hleft =>
    obtain ⟨last, hlast, rfl, hinside⟩ := of_windowElapsed? helapsed
    rw [windowLeft?_of_fits hinside (restFits_of_isModerate hmoderate hspan hlast)] at hleft
    cases hleft

/-- **What comes of a wish** is told by the window and the queue, in exact integers. -/
theorem triggered (h : e.queue.TracksDeferred e.deferred) : Triggered e e.trigger := by
  have hbound : (moderateMillis : Int) = 0x2000000000000000 := rfl
  have hmax : Int64.maxValue.toInt = 0x7fffffffffffffff := by decide
  have hfits : e.debounce ≤ Int64.maxValue.toInt := by omega
  have hover := windowElapsed?_eq_none_iff hfits
  have hinside {elapsed : Int64} (helapsed : e.windowElapsed? = some elapsed) : ¬ e.WindowIsOver := by
    rw [← hover, helapsed]
    exact Option.some_ne_none elapsed
  have hdeferred := hasDeferred_iff h
  have hfault := trigger_ne_overflow hmoderate hspan
  have hdone := e.triggerDone_trigger
  generalize e.trigger = r at hdone hfault ⊢
  cases hdone with
  | skips hconfigured => exact .skips hconfigured
  | starts hconfigured helapsed =>
    have hnow : e.queue.schedule e.now .zero (.automatic false)
        = ⟨e.queue.tasks ++ [{ due := e.now, job := .automatic false }]⟩ := by
      rw [Queue.schedule, Timestamp.after_zero]
    rw [hnow]
    exact .starts hconfigured (hover.mp helapsed)
  | joins hconfigured helapsed hpending =>
    obtain ⟨n, hn⟩ := hdeferred.mp hpending
    exact .joins hconfigured (hinside helapsed) hn
  | defers hconfigured helapsed hpending hleft =>
    obtain ⟨last, hlast, -, hdue⟩ := toInt_due_of_windowLeft? hfits helapsed hleft
    have hnone : ∀ n, ¬ e.IsDeferred n := by
      intro n hn
      rw [hdeferred.mpr ⟨n, hn⟩] at hpending
      cases hpending
    refine .defers hconfigured (hinside helapsed) hnone hlast ?_
    -- the window ends before the clock does
    have hstart : last.IsModerate := hmoderate.lastStart last hlast
    unfold Timestamp.IsModerate at hstart
    rw [hdue]
    exact Int.min_eq_left (by omega)
  | faults => exact absurd rfl hfault

end Moderate

/-- A cancelled task never starts. -/
theorem started?_ne_of_isSettled {remote : Remote ρ} {n : Nat} (h : e.queue.IsSettled n) (later : List Action) :
    ∀ m ∈ e.moments remote later, m.started? ≠ some n := by
  have hsettled : ∀ m ∈ e.moments remote later, m.engine.queue.IsSettled n :=
    (plan_induction (P := fun p => p.queue.IsSettled n) remote e later
      (fun _ _ hreplans => hreplans.isSettled) h).1
  intro m hm hstarted
  unfold Moment.started? at hstarted
  split at hstarted
  · obtain ⟨⟨t, k⟩, hdue, rfl⟩ := Option.map_eq_some_iff.mp hstarted
    exact (hsettled m hm).2 t (Queue.awaits_of_firstDue? hdue).1
  · cases hstarted

section Triggered

variable {r : Except TriggerFault Decision × Engine ρ} (h : Triggered e r)
    (hconfigured : e.settings.isConfigured = true)

include h hconfigured

/-- With an address, a sync is started exactly when the window is over. -/
theorem Triggered.started_iff : r.1 = .ok .started ↔ e.WindowIsOver := by
  cases h with
  | skips hnot => exact absurd (hconfigured.symm.trans hnot) (by decide)
  | starts _ hover => exact iff_of_true rfl hover
  | joins _ hinside _ | defers _ hinside _ _ _ => exact iff_of_false nofun hinside

theorem Triggered.alreadyPending_iff : r.1 = .ok .alreadyPending ↔ ¬ e.WindowIsOver ∧ ∃ n, e.IsDeferred n := by
  cases h with
  | skips hnot => exact absurd (hconfigured.symm.trans hnot) (by decide)
  | starts _ hover => exact iff_of_false nofun fun hinside => hinside.1 hover
  | joins _ hinside hn => exact iff_of_true rfl ⟨hinside, _, hn⟩
  | defers _ _ hnone _ _ => exact iff_of_false nofun fun hjoin => hjoin.2.elim hnone

theorem Triggered.deferred_iff : r.1 = .ok .deferred ↔ ¬ e.WindowIsOver ∧ ¬ ∃ n, e.IsDeferred n := by
  cases h with
  | skips hnot => exact absurd (hconfigured.symm.trans hnot) (by decide)
  | starts _ hover => exact iff_of_false nofun fun hinside => hinside.1 hover
  | joins _ _ hn => exact iff_of_false nofun fun hnone => hnone.2 ⟨_, hn⟩
  | defers _ hinside hnone _ _ => exact iff_of_true rfl ⟨hinside, fun ⟨n, hn⟩ => hnone n hn⟩

end Triggered

/-! ## Bursts -/

/-- The wishes that an engine is told come down to one deferred sync. -/
structure Coalesces (remote : Remote ρ) (e : Engine ρ) : Prop where
  /-- A deferred sync that is pending is the one that the handle names; so there is at most one. -/
  handle : ∀ n, e.IsDeferred n → e.deferred = some n
  /-- What a wish does. -/
  wish : Triggered e e.trigger
  starts : e.settings.isConfigured = true → (e.trigger.1 = .ok .started ↔ e.WindowIsOver)
  joins : e.settings.isConfigured = true →
    (e.trigger.1 = .ok .alreadyPending ↔ ¬ e.WindowIsOver ∧ ∃ n, e.IsDeferred n)
  defers : e.settings.isConfigured = true →
    (e.trigger.1 = .ok .deferred ↔ ¬ e.WindowIsOver ∧ ¬ ∃ n, e.IsDeferred n)
  cancels : e.cancelDeferred.1 = true ↔ ∃ n, e.IsDeferred n
  /-- A deferred sync that is cancelled never starts, whatever happens later. -/
  cancelled : ∀ n, e.IsDeferred n → ∀ later,
    ∀ m ∈ e.cancelDeferred.2.moments remote later, m.started? ≠ some n

theorem coalesces_of_triggered (remote : Remote ρ) (h : e.queue.TracksDeferred e.deferred)
    (htriggered : Triggered e e.trigger) : Coalesces remote e where
  handle := by
    rintro n ⟨t, ht, hjob⟩
    exact h.handle n t ht hjob
  wish := htriggered
  starts := htriggered.started_iff
  joins := htriggered.alreadyPending_iff
  defers := htriggered.deferred_iff
  cancels := by
    rw [fst_cancelDeferred]
    exact hasDeferred_iff h
  cancelled := by
    rintro n ⟨t, ht, hjob⟩
    refine started?_ne_of_isSettled ?_
    rw [cancelDeferred, h.handle n t ht hjob]
    exact Queue.isSettled_cancel ht

/-- **Bursts coalesce into one deferred sync**, whatever happens to an engine and in whatever order, as long
as the clock and the debounce span stay moderate. -/
theorem bursts_coalesce (remote : Remote ρ) (device : Device) (settings : Settings) (config : SyncConfig)
    (far : ρ) (actions : List Action) (hspan : config.debounce.millis < moderateMillis)
    (hstart : device.clock.IsModerate) (hclock : ∀ time, .event (.setClock time) ∈ actions → time.IsModerate) :
    Coalesces remote ((new device settings config far).afterAll remote actions) := by
  have htracks := tracksDeferred_afterAll remote device settings config far actions
  have hmoderate := isModerate_afterAll remote device settings config far hstart hclock
  have hdebounce := debounce_afterAll_lt remote device settings far hspan actions
  exact coalesces_of_triggered remote htracks (triggered hmoderate hdebounce htracks)

/-! ### A burst of two wishes -/

/-- A far side that cannot be reached. -/
def unreachable : Remote Unit where
  opened _ far := far
  closed _ far := far
  has _ _ far := (.error (.transport "unreachable"), far)
  createDirectories _ _ far := (.error (.transport "unreachable"), far)
  read _ _ far := (.error (.transport "unreachable"), far)
  write _ _ _ far := (.error (.transport "unreachable"), far)

/-- A new engine with an address. -/
def burstEngine : Engine Unit :=
  new (.start .empty 0 default false) { enabled := true, webdavUrl := "dav://h" } {} ()

/-- Three seconds after the first wish the second is deferred, and the third joins it. -/
theorem bursts_coalesce_within_window :
    let e := burstEngine.afterAll unreachable [.event .trigger, .event (.setClock 3000), .event .trigger]
    Coalesces unreachable e ∧ e.trigger.1 = .ok .alreadyPending := by
  refine ⟨bursts_coalesce unreachable _ _ _ _ _ (by decide) (by decide) ?_, by rfl⟩
  intro time htime
  have htime : time = 3000 := by simpa using htime
  rw [htime]
  decide

end Engine

end BookmarkSync
