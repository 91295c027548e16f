import BookmarkSync.Proofs.Sync.Deferral

/-!
# `BookmarkSync.Proofs.Sync.Delay` — when a deferred sync is due

A sync that is wished for inside the debounce window is deferred to the end of the window. Its delay is
computed in 64 bits, in steps of which all but one stop at the limits of the clock: the time that has passed,
the span, and the due time do, the difference of the first two overflows. Whether it does depends on whether
the rest of the window can be told in 64 bits (`RestFits`). It always can unless the clock has been set back
behind the last start.
-/

namespace BookmarkSync.Engine

variable {ρ : Type} {e : Engine ρ} {last : Timestamp}

/-- Inside the window, where no deferred sync is pending, a wish queues one for the rest of the window. -/
theorem trigger_of_left {elapsed : Int64} {left : Duration} (hconfigured : e.settings.isConfigured = true)
    (hfree : e.hasDeferred = false) (helapsed : e.windowElapsed? = some elapsed)
    (hleft : e.windowLeft? elapsed = some left) :
    e.trigger = (.ok .deferred,
      { e with
        queue := ⟨e.queue.tasks ++ [{ due := e.now.after left, job := .automatic true }]⟩
        deferred := some e.queue.nextNumber }) := by
  simp only [trigger, hconfigured, helapsed, hfree, hleft, Bool.not_true, Bool.false_eq_true, if_false]
  rfl

/-- Where the rest does not fit, a wish ends in a fault, and leaves the engine as it was. -/
theorem trigger_of_not_fits (hconfigured : e.settings.isConfigured = true) (hfree : e.hasDeferred = false)
    (hlast : e.lastStart = some last) (hinside : e.now.toInt - last.toInt < e.cappedDebounce)
    (hrest : ¬ e.RestFits last) : e.trigger = (.error .overflow, e) := by
  have helapsed := windowElapsed?_of_inside hinside hlast
  have hleft := windowLeft?_of_not_fits hrest
  simp only [trigger, hconfigured, helapsed, hfree, hleft, Bool.not_true, Bool.false_eq_true, if_false]

/-- **A deferred sync is due when the window ends, or when the clock does, as long as the rest of the window
fits.** Whatever the clock shows, whenever a sync was started last and however long the span is: a wish inside
the window queues one sync, due where the exact end of the window is, capped at the last clock reading, if the
rest of the window fits in 64 bits. It does unless the clock has been set back. If it does not, the difference
that the delay is computed as overflows: the wish ends in a fault and queues nothing. -/
theorem deferred_due_iff (hconfigured : e.settings.isConfigured = true) (hfree : e.hasDeferred = false)
    (hlast : e.lastStart = some last) (hinside : e.now.toInt - last.toInt < e.cappedDebounce) :
    (e.RestFits last → ∃ due : Timestamp,
      e.trigger = (.ok .deferred,
        { e with
          queue := ⟨e.queue.tasks ++ [{ due, job := .automatic true }]⟩
          deferred := some e.queue.nextNumber }) ∧
      due.toInt = min (last.toInt + e.cappedDebounce) Int64.maxValue.toInt) ∧
    (¬ e.RestFits last → e.trigger = (.error .overflow, e)) ∧
    (last.toInt ≤ e.now.toInt → e.RestFits last) := by
  refine ⟨fun hrest => ?_, trigger_of_not_fits hconfigured hfree hlast hinside, restFits_of_le⟩
  have helapsed := windowElapsed?_of_inside hinside hlast
  have hleft := windowLeft?_of_fits hinside hrest
  exact ⟨_, trigger_of_left hconfigured hfree helapsed hleft, toInt_after_rest hinside hrest⟩

/-- A new engine that has asked for a sync at `start`, when the clock shows `now`. -/
def startedAt (start now : Timestamp) : Engine Unit :=
  burstEngine.afterAll unreachable [.event (.setClock start), .event .trigger, .event (.setClock now)]

/-- The clock has been set back from a second before its last reading. The window would end four seconds after
that reading, and the deferred sync is due at it. -/
theorem deferred_due_iff_at_last_reading :
    let e := startedAt (Int64.maxValue - 1000) 5000
    e.settings.isConfigured = true ∧ e.hasDeferred = false ∧ e.lastStart = some (Int64.maxValue - 1000) ∧
      e.now.toInt - (Int64.maxValue - 1000).toInt < e.cappedDebounce ∧
      e.trigger.1 = .ok .deferred ∧
      e.trigger.2.queue.tasks = e.queue.tasks ++ [{ due := Int64.maxValue, job := .automatic true }] := by
  intro e
  have hconfigured : e.settings.isConfigured = true := by decide
  have hfree : e.hasDeferred = false := by decide
  have hlast : e.lastStart = some (Int64.maxValue - 1000) := by decide
  have hinside : e.now.toInt - (Int64.maxValue - 1000).toInt < e.cappedDebounce := by decide
  have hfits : e.RestFits (Int64.maxValue - 1000) := by decide
  obtain ⟨due, htrigger, hend⟩ := (deferred_due_iff hconfigured hfree hlast hinside).1 hfits
  have hdue : due = Int64.maxValue := Int64.toInt.inj (hend.trans (by decide))
  rw [htrigger, hdue]
  exact ⟨hconfigured, hfree, hlast, hinside, rfl, rfl⟩

/-- A sync was started at 0, and the clock has been set back to its first reading. The window ends at 5000,
but no deferred sync is queued. -/
theorem not_deferred_always_due_at_window_end : ¬ ∀ (e : Engine Unit) (last : Timestamp),
    e.settings.isConfigured = true → e.hasDeferred = false → e.lastStart = some last →
    e.now.toInt - last.toInt < e.cappedDebounce →
    ∃ due : Timestamp, due.toInt = min (last.toInt + e.cappedDebounce) Int64.maxValue.toInt ∧
      e.trigger.2.queue.tasks = e.queue.tasks ++ [{ due, job := .automatic true }] := by
  intro hdue
  let e := startedAt 0 Int64.minValue
  have hconfigured : e.settings.isConfigured = true := by decide
  have hfree : e.hasDeferred = false := by decide
  have hlast : e.lastStart = some 0 := by decide
  have hinside : e.now.toInt - (0 : Timestamp).toInt < e.cappedDebounce := by decide
  have hfault : e.trigger = (.error .overflow, e) :=
    trigger_of_not_fits hconfigured hfree hlast hinside (by decide)
  -- a task would have joined the queue, which the fault leaves as it was
  obtain ⟨due, -, htasks⟩ := hdue e 0 hconfigured hfree hlast hinside
  rw [hfault] at htasks
  have hlength := congrArg List.length htasks
  rw [List.length_append] at hlength
  exact absurd hlength (Nat.ne_of_lt (Nat.lt_succ_self _))

end BookmarkSync.Engine
