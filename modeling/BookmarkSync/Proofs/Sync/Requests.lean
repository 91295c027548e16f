import BookmarkSync.Proofs.Sync.Deferral
import BookmarkSync.Proofs.Sync.LocalEdits

/-!
# `BookmarkSync.Proofs.Sync.Requests` — no wish is lost

A wish for an automatic sync is owed until it is honoured: an automatic task is pending, or an automatic sync
waits for its turn (`Owes`). A wish that is not skipped leaves the engine owing, whichever way it is decided.
From then on whatever happens leaves it owing, unless an automatic sync starts or the deferred one is
cancelled. A sync that starts later finds the change that was wished to be synced: what a cycle merges is the
collection as it stands at its commit.
-/

namespace BookmarkSync

theorem Settings.refusal?_of_isConfigured {s : Settings} (h : s.isConfigured = true) : s.refusal? = none := by
  simp only [isConfigured, Bool.and_eq_true, bne_iff_ne] at h
  simp only [refusal?, h.1, Bool.not_true, Bool.false_eq_true, if_false, if_neg h.2]

/-- An automatic sync is to come. -/
inductive Plan.Owes (p : Plan) : Prop
  | queued {n : Nat} {t : ScheduledTask Job} : p.queue.Awaits n t → t.job.isAutomatic = true → Owes p
  | waits : p.waiting ≠ [] → Owes p

/-- It still is when the automatic tasks are as they were, and so is whoever waits. -/
theorem Plan.Owes.keep {p p' : Plan} (h : p.Owes)
    (hqueue : ∀ n t, p.queue.Awaits n t → t.job.isAutomatic = true → p'.queue.Awaits n t)
    (hwaiting : p'.waiting = p.waiting) : p'.Owes := by
  cases h with
  | queued ht hautomatic => exact .queued (hqueue _ _ ht hautomatic) hautomatic
  | waits hnonempty => exact .waits (hwaiting ▸ hnonempty)

namespace Engine

variable {ρ : Type} {e : Engine ρ}

/-! ## From wishes to debts -/

/-- A wish that is decided leaves the engine owing. -/
theorem owes_trigger (h : e.queue.TracksDeferred e.deferred) (hconfigured : e.settings.isConfigured = true)
    (hdecided : e.trigger.1 ≠ .error .overflow) : e.trigger.2.plan.Owes := by
  have hschedule (delay : Duration) (job : Job) :
      (e.queue.schedule e.now delay job).Awaits e.queue.nextNumber { due := e.now.after delay, job } :=
    Queue.awaits_schedule.mpr (.inr ⟨rfl, rfl⟩)
  have hdone := e.triggerDone_trigger
  generalize e.trigger = r at hdone hdecided ⊢
  cases hdone with
  | skips hnot =>
    rw [hconfigured] at hnot
    cases hnot
  | starts => exact .queued (hschedule .zero (.automatic false)) rfl
  | @defers _ left => exact .queued (hschedule left (.automatic true)) rfl
  | joins _ _ hdeferred =>
    -- the wish joins the deferred sync that is pending
    obtain ⟨n, t, ht, hjob⟩ := (hasDeferred_iff h).mp hdeferred
    exact .queued ht (congrArg Job.isAutomatic hjob)
  | faults => exact absurd rfl hdecided

/-- The action is a wish for an automatic sync that is decided and not skipped, or a change that an editor has
made. -/
def Wishes (e : Engine ρ) : Action → Prop
  | .event .trigger => ∃ decision, e.trigger.1 = .ok decision ∧ decision ≠ .skipped
  | .edit edit => (edit.apply e).device.store ≠ e.device.store
  | _ => False

theorem owes_act (remote : Remote ρ) (h : e.queue.TracksDeferred e.deferred)
    (hconfigured : e.settings.isConfigured = true) {action : Action} (hwishes : e.Wishes action)
    (hdecided : e.trigger.1 ≠ .error .overflow) : (e.act remote action).2.plan.Owes := by
  cases action with
  | edit edit =>
    have hedited := edited_apply e edit
    replace hwishes : (edit.apply e).device.store ≠ e.device.store := hwishes
    show (edit.apply e).plan.Owes
    generalize edit.apply e = e' at hedited hwishes
    cases hedited with
    | inVain => exact absurd rfl hwishes
    | asked ids =>
      -- an edit wishes for what a wish by itself would
      rw [(trigger_edited e (e.device.store.after (edit.seen e)) ids).2]
      exact owes_trigger h hconfigured hdecided
  | event event =>
    cases event with
    | trigger => exact owes_trigger h hconfigured hdecided
    | _ => exact absurd hwishes id

/-! ## Debts stay until they are paid -/

/-- Only a task that is known by its handle is cancelled. -/
def Moment.CancelsReported (m : Moment ρ) : Prop :=
  ∀ n t, m.action = .event (.cancelTask n) → m.engine.queue.tasks[n]? = some t → t.job = .reported

/-- The moment pays the debt: an automatic sync starts, or the deferred one is cancelled. -/
inductive Moment.Pays (m : Moment ρ) : Prop
  | starts {l : Launch} : m.launch? = some l → l.automatic = true → Pays m
  | cancels : m.action = .event .cancelDeferred → m.engine.cancelDeferred.1 = true → Pays m

/-- The debt does not concern a task that is no automatic one. -/
theorem ne_of_awaits {q : Queue Job} {n k : Nat} {t : ScheduledTask Job}
    (hother : ∀ u, q.Awaits n u → u.job.isAutomatic = false) (ht : q.Awaits k t)
    (hautomatic : t.job.isAutomatic = true) : k ≠ n := by
  rintro rfl
  rw [hother t ht] at hautomatic
  cases hautomatic

/-- **An engine that owes an automatic sync still does at the next moment, unless this one pays.** -/
theorem Moment.owes_next (remote : Remote ρ) {m : Moment ρ} (h : m.engine.plan.Owes)
    (hconfigured : m.engine.settings.isConfigured = true) (hcancels : m.CancelsReported) :
    m.Pays ∨ (m.next remote).plan.Owes := by
  obtain ⟨e, action⟩ := m
  have hreplans := replans_act remote e action
  have hlaunch : (Moment.mk e action).launch? = e.launch? action := rfl
  show _ ∨ (e.act remote action).2.plan.Owes
  generalize e.launch? action = launch, (e.act remote action).2.plan = p at hreplans hlaunch
  have hschedule (delay : Duration) (job : Job) : ∀ n t, e.queue.Awaits n t → t.job.isAutomatic = true →
      (e.queue.schedule e.now delay job).Awaits n t :=
    fun _ _ ht _ => Queue.awaits_schedule.mpr (.inl ht)
  have hstart {t : ScheduledTask Job} {n : Nat} (hdue : e.queue.firstDue? e.now = some (t, n))
      (hjob : t.job.isAutomatic = false) :
      ∀ k u, e.queue.Awaits k u → u.job.isAutomatic = true → (e.queue.start n).Awaits k u := by
    intro k u hu hautomatic
    refine Queue.awaits_start.mpr ⟨ne_of_awaits (fun t' ht' => ?_) hu hautomatic, hu⟩
    rwa [ht'.eq (Queue.awaits_of_firstDue? hdue).1]
  have hcancel {n : Nat} (hother : ∀ u, e.queue.Awaits n u → u.job.isAutomatic = false) :
      ∀ k u, e.queue.Awaits k u → u.job.isAutomatic = true → (e.queue.cancel n).2.Awaits k u :=
    fun k u hu hautomatic => Queue.awaits_cancel.mpr ⟨ne_of_awaits hother hu hautomatic, hu⟩
  -- whatever happens, the task that is owed stays where it is, unless this moment pays for it
  cases hreplans with
  | keeps => exact .inr h
  | turnsClock | configures | calls => exact .inr (h.keep (fun _ _ ht _ => ht) rfl)
  | starts | reports => exact .inr (h.keep (hschedule .zero _) rfl)
  | @defers _ _ left => exact .inr (h.keep (hschedule left _) rfl)
  | @forgets n hhandle =>
    by_cases hdone : e.cancelDeferred.1 = true
    · exact .inl (.cancels rfl hdone)
    · refine .inr (h.keep (hcancel fun t ht => ?_) rfl)
      rw [fst_cancelDeferred, hasDeferred, hhandle] at hdone
      exact absurd (Queue.isPending_iff.mpr ⟨t, ht⟩) hdone
  | cancels n =>
    refine .inr (h.keep (hcancel fun t ht => ?_) rfl)
    rw [hcancels n t rfl ht.1]
    rfl
  | takesTurn => exact .inl (.starts hlaunch rfl)
  | @turnsAway t _ hdue hrefused =>
    cases hjob : t.job.isAutomatic with
    | true => exact absurd (Settings.refusal?_of_isConfigured hconfigured) (hrefused hjob)
    | false => exact .inr (h.keep (hstart hdue hjob) rfl)
  | waits => exact .inr (.waits (List.append_ne_nil_of_right_ne_nil _ (List.cons_ne_nil _ _)))
  | @launches t _ hdue =>
    cases hjob : t.job.isAutomatic with
    | true => exact .inl (.starts hlaunch hjob)
    | false => exact .inr (h.keep (hstart hdue hjob) rfl)

/-- From a moment on at which the engine owes an automatic sync, it owes one or has paid. -/
theorem owes_afterAll (remote : Remote ρ) (h : e.plan.Owes) (later : List Action)
    (hconfigured : ∀ m ∈ e.moments remote later, m.engine.settings.isConfigured = true)
    (hcancels : ∀ m ∈ e.moments remote later, m.CancelsReported) :
    (∃ m ∈ e.moments remote later, m.Pays) ∨ (e.afterAll remote later).plan.Owes := by
  induction later generalizing e with
  | nil => exact .inr h
  | cons action later ih =>
    rw [moments, List.forall_mem_cons] at hconfigured hcancels
    rw [moments]
    rcases Moment.owes_next remote h hconfigured.1 hcancels.1 with hpays | howes
    · exact .inl ⟨_, List.mem_cons_self, hpays⟩
    · rcases ih howes hconfigured.2 hcancels.2 with ⟨m, hm, hpays⟩ | hstill
      · exact .inl ⟨m, List.mem_cons_of_mem _ hm, hpays⟩
      · exact .inr hstill

/-! ## Wishes are honoured -/

/-- An automatic sync starts at the moment: it is the launch of the moment, and its cycle is begun, no other
being in flight. -/
def Moment.BeginsAutomatic (remote : Remote ρ) (m : Moment ρ) : Prop :=
  ∃ l prepared, m.launch? = some l ∧ l.automatic = true ∧ m.engine.inFlight = none ∧
    SameCycles m.engine prepared ∧ m.engine.act remote m.action = prepared.begin remote l.origin l.settings

/-- What has become of a wish when `later` has happened: an automatic sync has started, one is queued, one waits
for the cycle in flight, or the deferred one has been cancelled. -/
inductive Honours (remote : Remote ρ) (e : Engine ρ) (later : List Action) : Prop
  | begun {m : Moment ρ} : m ∈ e.moments remote later → m.BeginsAutomatic remote → Honours remote e later
  | queued {n : Nat} {t : ScheduledTask Job} : (e.afterAll remote later).queue.Awaits n t →
      t.job.isAutomatic = true → Honours remote e later
  | waits : (e.afterAll remote later).waiting ≠ [] → Honours remote e later
  | cancelled {m : Moment ρ} : m ∈ e.moments remote later → m.action = .event .cancelDeferred →
      m.engine.cancelDeferred.1 = true → Honours remote e later

theorem honours_of_owes (remote : Remote ρ) (h : e.plan.Owes) (later : List Action)
    (hconfigured : ∀ m ∈ e.moments remote later, m.engine.settings.isConfigured = true)
    (hcancels : ∀ m ∈ e.moments remote later, m.CancelsReported) : Honours remote e later := by
  rcases owes_afterAll remote h later hconfigured hcancels with ⟨m, hm, hpays⟩ | howes
  · cases hpays with
    | starts hlaunch hautomatic =>
      obtain ⟨hnone, prepared, hsame, hbegins⟩ := begins_of_launch? remote hlaunch
      exact .begun hm ⟨_, prepared, hlaunch, hautomatic, hnone, hsame, hbegins⟩
    | cancels haction hdone => exact .cancelled hm haction hdone
  · cases howes with
    | queued ht hautomatic => exact .queued ht hautomatic
    | waits hwaiting => exact .waits hwaiting

/-- What a cycle merges when `actions` have happened since `e`: the collection of `e`, and all that has been
changed since. -/
def MergesChangesSince (remote : Remote ρ) (e : Engine ρ) (actions : List Action) : Prop :=
  let committing := e.afterAll remote actions
  ∀ c found, committing.inFlight = some c → c.stage = .commit found → (committing.proceed remote).1 = none →
    let collection := e.device.store.after (e.seenOfRun remote actions)
    let merged := collection.snapshot.synced found committing.now committing.config.retention
    (committing.proceed remote).2.device.store = collection.committed merged.bookmarks merged.metadata

theorem mergesChangesSince (remote : Remote ρ) (e : Engine ρ) (actions : List Action) :
    MergesChangesSince remote e actions := by
  intro c found hflight hstage hdone collection merged
  have hstore : (e.afterAll remote actions).device.store = collection := store_afterAll remote e actions
  rw [proceed_commit remote hflight hstage hdone, hstore]

/-- **No wish for an automatic sync is lost**, nor any change that an editor has made. Whatever happens later,
while the settings have an address and only tasks that are known by their handles are cancelled: an automatic
sync has started since, or it is to come, or the deferred one has been cancelled; and what a cycle merges from
then on includes the change. Only a wish that ends in a fault is not honoured, and none does as long as the
clock and the debounce span stay moderate. -/
theorem wishes_are_honoured (remote : Remote ρ) (device : Device) (settings : Settings) (config : SyncConfig)
    (far : ρ) (earlier later : List Action) (wish : Action) :
    let asking := (new device settings config far).afterAll remote earlier
    (∀ m ∈ asking.moments remote (wish :: later), m.engine.settings.isConfigured = true) →
    (∀ m ∈ asking.moments remote (wish :: later), m.CancelsReported) → asking.Wishes wish →
    (asking.trigger.1 ≠ .error .overflow → Honours remote (asking.act remote wish).2 later) ∧
    MergesChangesSince remote asking (wish :: later) ∧
    (config.debounce.millis < moderateMillis → device.clock.IsModerate →
      (∀ time, .event (.setClock time) ∈ earlier → time.IsModerate) → asking.trigger.1 ≠ .error .overflow) := by
  intro asking hconfigured hcancels hwishes
  rw [moments, List.forall_mem_cons] at hconfigured hcancels
  refine ⟨fun hdecided => ?_, mergesChangesSince remote asking _, fun hspan hstart hclock => ?_⟩
  · have htracks := tracksDeferred_afterAll remote device settings config far earlier
    -- what is owed after the wish is paid at some later moment, or still owed at the end
    have howes := owes_act remote htracks hconfigured.1 hwishes hdecided
    exact honours_of_owes remote howes later hconfigured.2 hcancels.2
  · have hmoderate := isModerate_afterAll remote device settings config far hstart hclock
    exact trigger_ne_overflow hmoderate (debounce_afterAll_lt remote device settings far hspan earlier)

/-! ### A change inside the debounce window -/

/-- A bookmark is added. -/
def addition : Action := .edit (.add "n" "/n" false true)

/-- Time goes on to the end of the window, and two syncs start one after the other. -/
def untilBegun : List Action :=
  [.event (.setClock 5000), .event .startDue, .event .proceed, .event .startDue]

theorem cancelsReported_of_forall {remote : Remote ρ} {actions : List Action}
    (h : ∀ n, .event (.cancelTask n) ∉ actions) : ∀ m ∈ e.moments remote actions, m.CancelsReported :=
  fun _ hm n _ haction => absurd (haction ▸ action_mem_of_moment hm) (h n)

set_option maxRecDepth 10000 in
/-- A bookmark that is added right after a wish is not lost. As time goes on, a sync is queued for it; and
when the queue has run empty, one has begun. -/
theorem wishes_are_honoured_in_window :
    let asking := burstEngine.afterAll unreachable [.event .trigger]
    let asked := (asking.act unreachable addition).2
    Honours unreachable asked [.event (.setClock 5000)] ∧
      (∃ m ∈ asked.moments unreachable untilBegun, m.BeginsAutomatic unreachable) ∧
      MergesChangesSince unreachable asking (addition :: untilBegun) := by
  intro asking asked
  have hchanged : asking.Wishes addition := by
    intro hstore
    have hlength := congrArg (fun s : Store => s.bookmarks.length) hstore
    revert hlength
    decide
  have hqueued := wishes_are_honoured unreachable _ _ _ _ [.event .trigger] [.event (.setClock 5000)] addition
    (by decide) (cancelsReported_of_forall (by simp [addition])) hchanged
  have hhonoured := wishes_are_honoured unreachable _ _ _ _ [.event .trigger] untilBegun addition
    (by decide) (cancelsReported_of_forall (by simp [addition, untilBegun])) hchanged
  have hdecided := hqueued.2.2 (by decide) (by decide) (by simp)
  have hbegun : Honours unreachable asked untilBegun := hhonoured.1 hdecided
  refine ⟨hqueued.1 hdecided, ?_, hhonoured.2.1⟩
  cases hbegun with
  | begun hm hbegins => exact ⟨_, hm, hbegins⟩
  | queued ht _ =>
    -- no task is left
    have hsettled : ∀ t ∈ (asked.afterAll unreachable untilBegun).queue.tasks, t.isPending = false := by decide
    exact absurd ht.2 (Bool.eq_false_iff.mp (hsettled _ (List.mem_of_getElem? ht.1)))
  | waits hwaiting =>
    have hnobody : (asked.afterAll unreachable untilBegun).waiting = [] := by decide
    exact absurd hnobody hwaiting
  | cancelled hm haction _ =>
    have hmem := action_mem_of_moment hm
    rw [haction] at hmem
    simp [untilBegun] at hmem

end Engine

end BookmarkSync
