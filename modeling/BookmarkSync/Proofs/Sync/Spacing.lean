import BookmarkSync.Proofs.Sync.Deferral

/-!
# `BookmarkSync.Proofs.Sync.Spacing` — the time between starts

The debounce window is checked when a sync is wished for, and not again when it starts. So what it keeps apart
is a start and the wishes that come after it: an automatic sync that is wished for after a cycle has started
starts at least the debounce span later (`starts_spaced`), however long it has to wait for its turn. Of two
automatic syncs that have both been wished for before the first of them starts, this says nothing, and
they can start at the same time (`not_automatic_syncs_always_spaced`).
-/

namespace BookmarkSync

/-- What is so since a cycle has started at `start`, when the next task was to get the number `first`. -/
structure Plan.SpacedSince (p : Plan) (span : Int) (start : Timestamp) (first : Nat) : Prop where
  window : ∃ last, p.lastStart = some last ∧ start.toInt ≤ last.toInt ∧ last.toInt ≤ p.now.toInt
  queued : ∀ n t, p.queue.Awaits n t → first ≤ n → t.job.isAutomatic = true →
    start.toInt + span ≤ t.due.toInt
  /-- Whoever waits for a turn has been due. -/
  waiting : ∀ w ∈ p.waiting, first ≤ w.task → start.toInt + span ≤ p.now.toInt

namespace Engine

variable {ρ : Type} {e : Engine ρ} {action : Action} {launch : Option Launch} {p : Plan}

/-- The clock is not turned back. -/
def Moment.IsForward (remote : Remote ρ) (m : Moment ρ) : Prop := m.engine.now.toInt ≤ (m.next remote).now.toInt

instance (remote : Remote ρ) (m : Moment ρ) : Decidable (m.IsForward remote) :=
  inferInstanceAs (Decidable (_ ≤ _))

/-- Whoever waits for a turn comes from a task of the queue. -/
theorem Replans.waiting_lt (hreplans : Replans e action launch p)
    (h : ∀ w ∈ e.waiting, w.task < e.queue.nextNumber) : ∀ w ∈ p.waiting, w.task < p.queue.nextNumber := by
  intro w hw
  refine Nat.lt_of_lt_of_le ?_ hreplans.nextNumber_le
  rcases hreplans.of_mem_waiting hw with hold | ⟨-, -, -, t, hdue⟩
  · exact h w hold
  · exact (Queue.awaits_of_firstDue? hdue).1.lt_nextNumber

section SpacedSince

variable {start : Timestamp} {first : Nat}

/-- When a cycle starts, what is to be wished for later is still to be scheduled. -/
theorem Replans.spacedSince_of_launch {l : Launch} (hreplans : Replans e action (some l) p)
    (hwaiting : ∀ w ∈ e.waiting, w.task < e.queue.nextNumber) (span : Int) :
    p.SpacedSince span e.now e.queue.nextNumber := by
  have hnow : ∃ last, some e.now = some last ∧ e.now.toInt ≤ last.toInt ∧ last.toInt ≤ e.now.toInt :=
    ⟨e.now, rfl, Int.le_refl _, Int.le_refl _⟩
  have hqueued : ∀ n t, e.queue.Awaits n t → e.queue.nextNumber ≤ n → t.job.isAutomatic = true →
      e.now.toInt + span ≤ t.due.toInt :=
    fun n t ht hn => absurd ht.lt_nextNumber (Nat.not_lt.mpr hn)
  have hwait : ∀ w ∈ e.waiting, e.queue.nextNumber ≤ w.task → e.now.toInt + span ≤ e.now.toInt :=
    fun w hw hn => absurd (hwaiting w hw) (Nat.not_lt.mpr hn)
  cases hreplans with
  | calls => exact ⟨hnow, hqueued, hwait⟩
  | takesTurn hturn => exact ⟨hnow, hqueued, fun w hw => hwait w (hturn ▸ List.mem_cons_of_mem _ hw)⟩
  | launches => exact ⟨hnow, fun n t ht => hqueued n t (Queue.awaits_start.mp ht).2, hwait⟩

/-- A task starts. -/
theorem spacedSince_taken (h : e.plan.SpacedSince e.debounce start first) (t : ScheduledTask Job) (n : Nat) :
    (e.taken t n).plan.SpacedSince e.debounce start first where
  window := by
    obtain ⟨last, hlast, hstart, hnow⟩ := h.window
    show ∃ last, (if t.job = .automatic true then some e.now else e.lastStart) = some last ∧ _ ∧ _
    split
    · exact ⟨e.now, rfl, Int.le_trans hstart hnow, Int.le_refl _⟩
    · exact ⟨last, hlast, hstart, hnow⟩
  queued k u hu := h.queued k u (Queue.awaits_start.mp hu).2
  waiting := h.waiting

/-- **What has been so since a start stays so**, while the clock goes forward. -/
theorem Replans.spacedSince (hreplans : Replans e action launch p)
    (hspan : e.debounce ≤ Int64.maxValue.toInt) (hfits : start.toInt + e.debounce ≤ Int64.maxValue.toInt)
    (hforward : e.now.toInt ≤ p.now.toInt) (h : e.plan.SpacedSince e.debounce start first) :
    p.SpacedSince e.debounce start first := by
  obtain ⟨last, hlast, hstart, hnow⟩ := h.window
  replace hnow : last.toInt ≤ e.now.toInt := hnow
  have hrestart : ∃ last, some e.now = some last ∧ start.toInt ≤ last.toInt ∧ last.toInt ≤ e.now.toInt :=
    ⟨e.now, rfl, Int.le_trans hstart hnow, Int.le_refl _⟩
  -- a task that is scheduled must not be due too early, if it is an automatic sync
  have hschedule {delay : Duration} {job : Job}
      (hdue : job.isAutomatic = true → start.toInt + e.debounce ≤ (e.now.after delay).toInt) :
      ∀ n t, (e.queue.schedule e.now delay job).Awaits n t → first ≤ n → t.job.isAutomatic = true →
        start.toInt + e.debounce ≤ t.due.toInt := by
    intro n t ht hn hautomatic
    rcases Queue.awaits_schedule.mp ht with hold | ⟨-, rfl⟩
    · exact h.queued n t hold hn hautomatic
    · exact hdue hautomatic
  cases hreplans with
  | keeps => exact h
  | turnsClock =>
    exact ⟨⟨last, hlast, hstart, Int.le_trans hnow hforward⟩, h.queued,
      fun w hw hn => Int.le_trans (h.waiting w hw hn) hforward⟩
  | configures => exact ⟨h.window, h.queued, h.waiting⟩
  | starts _ _ helapsed =>
    have hover : e.debounce ≤ e.now.toInt - last.toInt :=
      (windowElapsed?_eq_none_iff hspan).mp helapsed last hlast
    refine ⟨hrestart, hschedule fun _ => ?_, h.waiting⟩
    rw [Timestamp.after_zero]
    omega
  | defers _ _ helapsed _ hleft =>
    obtain ⟨last', hlast', -, hdue⟩ := toInt_due_of_windowLeft? hspan helapsed hleft
    obtain rfl : last = last' := Option.some.inj (hlast.symm.trans hlast')
    refine ⟨h.window, hschedule fun _ => ?_, h.waiting⟩
    rw [hdue]
    omega
  | forgets => exact ⟨h.window, fun n t ht => h.queued n t (Queue.awaits_cancel.mp ht).2, h.waiting⟩
  | reports => exact ⟨h.window, hschedule nofun, h.waiting⟩
  | cancels => exact ⟨h.window, fun n t ht => h.queued n t (Queue.awaits_cancel.mp ht).2, h.waiting⟩
  | calls => exact ⟨hrestart, h.queued, h.waiting⟩
  | takesTurn hturn =>
    refine ⟨hrestart, h.queued, fun w hw => h.waiting w ?_⟩
    show w ∈ e.waiting
    rw [hturn]
    exact List.mem_cons_of_mem _ hw
  | @turnsAway t n => exact spacedSince_taken h t n
  | @waits t n hdue hautomatic =>
    have htaken := spacedSince_taken h t n
    refine ⟨htaken.window, htaken.queued, fun w hw hn => ?_⟩
    rcases List.mem_append.mp hw with hw | hw
    · exact htaken.waiting w hw hn
    · obtain rfl := List.mem_singleton.mp hw
      obtain ⟨ht, hpassed⟩ := Queue.awaits_of_firstDue? hdue
      exact Int.le_trans (h.queued n t ht hn hautomatic) hpassed
  | @launches t n => exact ⟨hrestart, (spacedSince_taken h t n).queued, h.waiting⟩

/-- An automatic sync of a later task starts when the span is over. -/
theorem Replans.spaced {l : Launch} (hreplans : Replans e action (some l) p)
    {span : Int} (h : e.plan.SpacedSince span start first) (hautomatic : l.automatic = true) {n : Nat}
    (horigin : l.origin = .task n) (hlater : first ≤ n) : start.toInt + span ≤ e.now.toInt := by
  cases hreplans with
  | calls => cases hautomatic
  | @takesTurn w _ hturn =>
    cases horigin
    refine h.waiting w ?_ hlater
    show w ∈ e.waiting
    rw [hturn]
    exact List.mem_cons_self
  | @launches t _ hdue =>
    cases horigin
    obtain ⟨ht, hpassed⟩ := Queue.awaits_of_firstDue? hdue
    exact Int.le_trans (h.queued n t ht hlater hautomatic) hpassed

end SpacedSince

/-! ## Two starts -/

/-- **An automatic sync that is wished for after a cycle has started starts at least the debounce span later**,
however long it waits for its turn, while the clock is not turned back. -/
theorem starts_spaced (remote : Remote ρ) (device : Device) (settings : Settings)
    (config : SyncConfig) (far : ρ)
    (earlier between : List Action) (first second : Action) (l₁ l₂ : Launch) (n : Nat) :
    let e₁ := (new device settings config far).afterAll remote earlier
    let e₂ := (e₁.act remote first).2.afterAll remote between
    config.debounce.millis ≤ Int64.maxValue.toInt →
    e₁.now.toInt + config.debounce.millis ≤ Int64.maxValue.toInt →
    (∀ m ∈ (e₁.act remote first).2.moments remote between, m.IsForward remote) →
    e₁.launch? first = some l₁ → e₂.launch? second = some l₂ →
    l₂.automatic = true → l₂.origin = .task n → e₁.queue.nextNumber ≤ n →
    e₁.now.toInt + config.debounce.millis ≤ e₂.now.toInt := by
  intro e₁ e₂ hspan hfits hforward hfirst hsecond hautomatic horigin hlater
  have hknown : ∀ w ∈ e₁.waiting, w.task < e₁.queue.nextNumber :=
    (plan_induction (P := fun p => ∀ w ∈ p.waiting, w.task < p.queue.nextNumber) remote
      (new device settings config far) earlier (fun _ _ hreplans => hreplans.waiting_lt)
      (List.forall_mem_nil _)).2
  have hconfig : ∀ m ∈ (e₁.act remote first).2.moments remote between, m.engine.config = config := by
    intro m hm
    rw [(config_afterAll remote _ between).1 m hm, config_act]
    exact (config_afterAll remote (new device settings config far) earlier).2
  have hlaunched : (e₁.act remote first).2.plan.SpacedSince config.debounce.millis e₁.now e₁.queue.nextNumber :=
    (hfirst ▸ replans_act remote e₁ first).spacedSince_of_launch hknown _
  -- what is planned after the first start lies behind its window, by induction over the moments between
  have hspaced : e₂.plan.SpacedSince config.debounce.millis e₁.now e₁.queue.nextNumber := by
    refine (plan_induction
      (P := fun p => p.SpacedSince config.debounce.millis e₁.now e₁.queue.nextNumber)
      remote (e₁.act remote first).2 between (fun m hm hreplans h => ?_) hlaunched).2
    have hdebounce : m.engine.debounce = config.debounce.millis := by rw [debounce, hconfig m hm]
    rw [← hdebounce] at h hspan hfits ⊢
    exact hreplans.spacedSince hspan hfits (hforward m hm) h
  exact (hsecond ▸ replans_act remote e₂ second).spaced hspaced hautomatic horigin hlater

/-- A wish, a deferred one while the first sync runs, and the time until it is due. -/
def untilDue : List Action := [.event .trigger, .event .proceed, .event (.setClock 7000)]

set_option maxRecDepth 10000 in
/-- A sync starts at once; the one that is wished for while it runs starts late enough. -/
theorem starts_spaced_after_burst :
    let e₁ := burstEngine.afterAll unreachable [.event .trigger]
    let e₂ := (e₁.act unreachable (.event .startDue)).2.afterAll unreachable untilDue
    e₁.now.toInt + burstEngine.debounce ≤ e₂.now.toInt := by
  intro e₁ e₂
  have hfirst : e₁.launch? (.event .startDue) = some ⟨true, .task 0, burstEngine.settings⟩ := by decide
  have hsecond : e₂.launch? (.event .startDue) = some ⟨true, .task 1, burstEngine.settings⟩ := by decide
  exact starts_spaced unreachable _ _ _ _ [.event .trigger] untilDue _ _ _ _ 1 (by decide)
    (by decide) (by decide)
    hfirst hsecond rfl rfl (by decide)

/-- The clock readings at which automatic syncs start in the course of a run, in order. -/
def automaticStarts (remote : Remote ρ) (e : Engine ρ) (actions : List Action) : List Timestamp :=
  (e.moments remote actions).filterMap fun m => (m.launch?.filter (·.automatic)).map fun _ => m.engine.now

/-- A cycle goes on for so long that two automatic syncs are wished for meanwhile, and due when it ends. -/
def pileUp : List Action :=
  [.event .call, .event (.setClock 5000), .event .trigger, .event .startDue, .event (.setClock 10000),
    .event .trigger, .event .proceed, .event .takeTurn, .event .proceed, .event .startDue]

set_option maxRecDepth 10000 in
/-- Two automatic syncs can start at the same time. -/
theorem not_automatic_syncs_always_spaced :
    ¬ ∀ actions, (∀ m ∈ burstEngine.moments unreachable actions, m.IsForward unreachable) →
      (burstEngine.automaticStarts unreachable actions).Pairwise fun s t =>
        s.toInt + burstEngine.debounce ≤ t.toInt := by
  intro hspaced
  have hstarts : burstEngine.automaticStarts unreachable pileUp = [10000, 10000] := by decide
  have hpile := hspaced pileUp (by decide)
  rw [hstarts] at hpile
  revert hpile
  decide

end Engine

end BookmarkSync
