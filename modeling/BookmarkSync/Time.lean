/-!
# `BookmarkSync.Time` — clock readings and durations

A clock reading counts milliseconds in 64 bits. Arithmetic on readings comes in three kinds, and each
operation says which one it is:

* *clamped*: the exact result, moved to the nearest reading when it lies outside 64 bits. Cutoffs and
  due times use it, so a deadline beyond the range is the last reading and not one in the past.
* *checked*: the exact result, and none where it lies outside 64 bits. Only the rest of a debounce window
  is computed like this.
* *wrapped*: the exact result modulo 2^64. Only turning a clock by hand uses it.

A duration is a number of milliseconds without an upper bound.
-/

namespace BookmarkSync

/-- A clock reading: milliseconds since the epoch. -/
abbrev Timestamp := Int64

/-- A span of time in whole milliseconds. -/
structure Duration where
  millis : Nat
deriving DecidableEq, Repr, Inhabited

namespace Duration

def ofSeconds (n : Nat) : Duration := ⟨n * 1000⟩

def zero : Duration := ⟨0⟩

/-- The milliseconds of `d` as a 64-bit number, at most the largest one. -/
def clamped (d : Duration) : Int64 := Int64.ofIntClamp d.millis

/-- The milliseconds of `d` modulo 2^64. -/
def wrapped (d : Duration) : Int64 := Int64.ofNat d.millis

end Duration

namespace Timestamp

/-- `t + n`, clamped. -/
def addClamped (t n : Int64) : Timestamp := Int64.ofIntClamp (t.toInt + n.toInt)

/-- `t - n`, clamped. -/
def subClamped (t n : Int64) : Timestamp := Int64.ofIntClamp (t.toInt - n.toInt)

/-- `t - n`, checked. -/
def subChecked? (t n : Int64) : Option Int64 :=
  let difference := t.toInt - n.toInt
  if Int64.minValue.toInt ≤ difference ∧ difference ≤ Int64.maxValue.toInt then some (t - n) else none

/-- The reading `d` after `t`, clamped. -/
def after (t : Timestamp) (d : Duration) : Timestamp := addClamped t d.clamped

/-- The reading `d` before `t`, clamped. -/
def before (t : Timestamp) (d : Duration) : Timestamp := subClamped t d.clamped

/-- A clock turned forward by `d`, wrapped. -/
def turned (t : Timestamp) (d : Duration) : Timestamp := t + d.wrapped

end Timestamp

end BookmarkSync
