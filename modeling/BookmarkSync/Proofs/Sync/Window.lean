import BookmarkSync.Proofs.Time
import BookmarkSync.Sync.Engine

/-!
# `BookmarkSync.Proofs.Sync.Window` — the debounce window in exact integers

Whether an engine is inside its debounce window is decided with clamped arithmetic, which decides as exact
integers do (`subClamped_lt_clamped_iff`). The rest of the window is a checked difference. If it fits in 64 bits
(`RestFits`), it is the exact rest, and a sync that is deferred for it falls due when the window ends
(`toInt_after_rest`). If it does not, there is no rest to be deferred for.
-/

namespace BookmarkSync.Engine

variable {ρ : Type} {e : Engine ρ}

/-! ## Inside and outside -/

/-- The debounce span in milliseconds. -/
def debounce (e : Engine ρ) : Int := e.config.debounce.millis

/-- The window is over when its start, if any, is at least the debounce span ago. -/
def WindowIsOver (e : Engine ρ) : Prop :=
  ∀ last, e.lastStart = some last → e.debounce ≤ e.now.toInt - last.toInt

/-- An engine that has never started a sync is outside the window. -/
theorem windowElapsed?_of_none (h : e.lastStart = none) : e.windowElapsed? = none := by
  rw [windowElapsed?, h]
  rfl

theorem windowElapsed?_of_some {last : Timestamp} (h : e.lastStart = some last) :
    e.windowElapsed? =
      if Timestamp.subClamped e.now last < e.config.debounce.clamped then some (Timestamp.subClamped e.now last)
      else none := by
  rw [windowElapsed?, h]
  rfl

/-- The debounce span in milliseconds, at most the last clock reading. -/
def cappedDebounce (e : Engine ρ) : Int := min e.debounce Int64.maxValue.toInt

theorem cappedDebounce_of_fits (hfits : e.debounce ≤ Int64.maxValue.toInt) : e.cappedDebounce = e.debounce :=
  Int.min_eq_left hfits

theorem cappedDebounce_bounds (e : Engine ρ) :
    0 ≤ e.cappedDebounce ∧ e.cappedDebounce ≤ Int64.maxValue.toInt := by
  have hpos : 0 ≤ e.debounce := Int.natCast_nonneg _
  have hmax : 0 ≤ Int64.maxValue.toInt := by decide
  unfold cappedDebounce
  omega

theorem toInt_clamped_debounce (e : Engine ρ) : e.config.debounce.clamped.toInt = e.cappedDebounce :=
  Duration.toInt_clamped _

/-- Clamping the time that has passed does not matter for the comparison with the span. -/
theorem subClamped_lt_clamped_iff (last : Timestamp) :
    Timestamp.subClamped e.now last < e.config.debounce.clamped ↔
      e.now.toInt - last.toInt < e.cappedDebounce := by
  have hbounds := e.cappedDebounce_bounds
  have hmin : Int64.minValue.toInt < 0 := by decide
  rw [Int64.lt_iff_toInt_lt, toInt_clamped_debounce, Timestamp.toInt_subClamped]
  omega

/-- **Time counts as inside the window exactly until the window is over.** -/
theorem windowElapsed?_eq_none_iff (hfits : e.debounce ≤ Int64.maxValue.toInt) :
    e.windowElapsed? = none ↔ e.WindowIsOver := by
  unfold WindowIsOver
  cases hlast : e.lastStart with
  | none => exact iff_of_true (windowElapsed?_of_none hlast) nofun
  | some last =>
    have hlt := subClamped_lt_clamped_iff (e := e) last
    rw [cappedDebounce_of_fits hfits] at hlt
    rw [windowElapsed?_of_some hlast]
    constructor
    · rintro h _ ⟨⟩
      split at h
      · cases h
      · next hnot => exact Int.not_lt.mp (mt hlt.mpr hnot)
    · intro h
      exact if_neg (mt hlt.mp (Int.not_lt.mpr (h last rfl)))

section Inside

variable {last : Timestamp} (hinside : e.now.toInt - last.toInt < e.cappedDebounce)
include hinside

theorem windowElapsed?_of_inside (hlast : e.lastStart = some last) :
    e.windowElapsed? = some (Timestamp.subClamped e.now last) := by
  rw [windowElapsed?_of_some hlast]
  exact if_pos ((subClamped_lt_clamped_iff last).mpr hinside)

end Inside

/-- What has passed inside the window has passed since the last start. -/
theorem of_windowElapsed? {elapsed : Int64} (h : e.windowElapsed? = some elapsed) :
    ∃ last, e.lastStart = some last ∧ elapsed = Timestamp.subClamped e.now last ∧
      e.now.toInt - last.toInt < e.cappedDebounce := by
  cases hlast : e.lastStart with
  | none =>
    rw [windowElapsed?_of_none hlast] at h
    cases h
  | some last =>
    rw [windowElapsed?_of_some hlast] at h
    obtain ⟨hlt, helapsed⟩ := Option.ite_none_right_eq_some.mp h
    exact ⟨last, rfl, (Option.some.inj helapsed).symm, (subClamped_lt_clamped_iff last).mp hlt⟩

/-! ## The rest of the window -/

/-- The rest of the window, from now until the debounce span after the last start, can be told in 64 bits. -/
def RestFits (e : Engine ρ) (last : Timestamp) : Prop :=
  last.toInt + e.cappedDebounce - e.now.toInt ≤ Int64.maxValue.toInt

instance (e : Engine ρ) (last : Timestamp) : Decidable (e.RestFits last) := inferInstanceAs (Decidable (_ ≤ _))

/-- The rest fits unless the clock has been set back behind the last start. -/
theorem restFits_of_le {last : Timestamp} (h : last.toInt ≤ e.now.toInt) : e.RestFits last := by
  have hbounds := e.cappedDebounce_bounds
  unfold RestFits
  omega

section Rest

variable {last : Timestamp} (hinside : e.now.toInt - last.toInt < e.cappedDebounce)
include hinside

/-- A rest that fits is exact: the time that has passed is then not clamped either. -/
theorem windowLeft?_of_fits (hrest : e.RestFits last) :
    e.windowLeft? (Timestamp.subClamped e.now last)
      = some ⟨(last.toInt + e.cappedDebounce - e.now.toInt).toNat⟩ := by
  have hmin : Int64.minValue.toInt = -2 ^ 63 := by decide
  have hmax : Int64.maxValue.toInt = 2 ^ 63 - 1 := by decide
  have hbounds := e.cappedDebounce_bounds
  unfold RestFits at hrest
  have helapsed : (Timestamp.subClamped e.now last).toInt = e.now.toInt - last.toInt := by
    rw [Timestamp.toInt_subClamped]
    omega
  have hleft : (Int64.ofInt (last.toInt + e.cappedDebounce - e.now.toInt)).toInt
      = last.toInt + e.cappedDebounce - e.now.toInt :=
    Int64.toInt_ofInt_of_le (by omega) (by omega)
  have hchecked : Timestamp.subChecked? e.config.debounce.clamped (Timestamp.subClamped e.now last)
      = some (Int64.ofInt (last.toInt + e.cappedDebounce - e.now.toInt)) := by
    rw [Timestamp.subChecked?_eq_some_iff, hleft, toInt_clamped_debounce, helapsed]
    omega
  rw [windowLeft?, hchecked, Option.map_some, hleft]

/-- **What is deferred for the rest of the window falls due when the window ends**, or when the clock does. -/
theorem toInt_after_rest (hrest : e.RestFits last) :
    (e.now.after ⟨(last.toInt + e.cappedDebounce - e.now.toInt).toNat⟩).toInt
      = min (last.toInt + e.cappedDebounce) Int64.maxValue.toInt := by
  unfold RestFits at hrest
  rw [Timestamp.toInt_after, Int.toNat_of_nonneg (by omega), Int.min_eq_left hrest]
  congr 1
  omega

end Rest

/-- A rest that does not fit is none. -/
theorem windowLeft?_of_not_fits {last : Timestamp} (hrest : ¬ e.RestFits last) :
    e.windowLeft? (Timestamp.subClamped e.now last) = none := by
  have hmin : Int64.minValue.toInt = -2 ^ 63 := by decide
  have hmax : Int64.maxValue.toInt = 2 ^ 63 - 1 := by decide
  have hbounds := e.cappedDebounce_bounds
  have helapsed := Timestamp.toInt_subClamped e.now last
  unfold RestFits at hrest
  have hchecked : Timestamp.subChecked? e.config.debounce.clamped (Timestamp.subClamped e.now last) = none := by
    rw [Timestamp.subChecked?_eq_none_iff, toInt_clamped_debounce]
    omega
  rw [windowLeft?, hchecked, Option.map_none]

/-- **What is deferred falls due at the end of the window**, unless the clock cannot show that any more. -/
theorem toInt_due_of_windowLeft? (hfits : e.debounce ≤ Int64.maxValue.toInt) {elapsed : Int64} {left : Duration}
    (helapsed : e.windowElapsed? = some elapsed) (hleft : e.windowLeft? elapsed = some left) :
    ∃ last, e.lastStart = some last ∧ e.now.toInt - last.toInt < e.debounce ∧
      (e.now.after left).toInt = min (last.toInt + e.debounce) Int64.maxValue.toInt := by
  obtain ⟨last, hlast, rfl, hinside⟩ := of_windowElapsed? helapsed
  have hrest : e.RestFits last := by
    refine Decidable.byContradiction fun hnot => ?_
    rw [windowLeft?_of_not_fits hnot] at hleft
    cases hleft
  rw [windowLeft?_of_fits hinside hrest] at hleft
  cases hleft
  rw [← cappedDebounce_of_fits hfits]
  exact ⟨last, hlast, hinside, toInt_after_rest hinside hrest⟩

end BookmarkSync.Engine
