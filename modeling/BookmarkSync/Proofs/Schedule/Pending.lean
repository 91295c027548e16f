import BookmarkSync.Proofs.Time
import BookmarkSync.Schedule.Queue

/-!
# `BookmarkSync.Proofs.Schedule.Pending` — the pending tasks of a queue

A queue keeps every task, so what it will still do is said by its pending tasks alone. Scheduling adds one
of them, and starting or cancelling takes one away; nothing else changes about them. A task that is no
longer pending stays so (`IsSettled`), whatever happens to the queue.
-/

namespace BookmarkSync.Queue

variable {α : Type} {q : Queue α} {n : Nat} {t : ScheduledTask α}

/-- Task `n` of the queue is `t`, and it is pending. -/
def Awaits (q : Queue α) (n : Nat) (t : ScheduledTask α) : Prop := q.tasks[n]? = some t ∧ t.isPending = true

/-- The queue has task `n`, and it has been started or cancelled. -/
def IsSettled (q : Queue α) (n : Nat) : Prop := n < q.nextNumber ∧ ∀ t, ¬ q.Awaits n t

/-- A pending task has a number that the queue has given out. -/
theorem Awaits.lt_nextNumber (h : q.Awaits n t) : n < q.nextNumber := (List.getElem?_eq_some_iff.mp h.1).1

theorem Awaits.eq {u : ScheduledTask α} (h : q.Awaits n t) (h' : q.Awaits n u) : t = u :=
  Option.some.inj (h.1.symm.trans h'.1)

/-- The query of the queue says whether some task waits under the number. -/
theorem isPending_iff : q.isPending n = true ↔ ∃ t, q.Awaits n t := by
  simp only [isPending, status?, decide_eq_true_eq, Option.map_eq_some_iff, Awaits, ScheduledTask.isPending]

theorem not_awaits_empty : ¬ ({} : Queue α).Awaits n t := by
  rintro ⟨ht, -⟩
  simp at ht

/-- The task that starts was pending, and its time has come. -/
theorem awaits_of_firstDue? {now : Timestamp} (h : q.firstDue? now = some (t, n)) :
    q.Awaits n t ∧ t.due.toInt ≤ now.toInt := by
  obtain ⟨ht, hpending, hdue⟩ := firstDue?_eq_some h
  exact ⟨⟨ht, hpending⟩, Int64.le_iff_toInt_le.mp hdue⟩

/-- **Scheduling adds one pending task**, which gets the next number. -/
theorem awaits_schedule {now : Timestamp} {delay : Duration} {job : α} :
    (q.schedule now delay job).Awaits n t
      ↔ q.Awaits n t ∨ n = q.nextNumber ∧ t = { due := now.after delay, job } := by
  unfold Awaits schedule nextNumber
  -- an earlier number, the new one, and one that nothing has yet
  rcases Nat.lt_trichotomy n q.tasks.length with hlt | rfl | hgt
  · rw [List.getElem?_append_left hlt]
    exact ⟨.inl, fun h => h.resolve_right fun h' => Nat.ne_of_lt hlt h'.1⟩
  · rw [List.getElem?_concat_length]
    constructor
    · rintro ⟨⟨⟩, -⟩
      exact .inr ⟨rfl, rfl⟩
    · rintro (⟨h, -⟩ | ⟨-, rfl⟩)
      · rw [List.getElem?_eq_none (Nat.le_refl _)] at h
        cases h
      · exact ⟨rfl, rfl⟩
  · have hlength (new : ScheduledTask α) : (q.tasks ++ [new]).length ≤ n := by
      rw [List.length_append]
      exact hgt
    rw [List.getElem?_eq_none (hlength _), List.getElem?_eq_none (Nat.le_of_lt hgt)]
    constructor
    · rintro ⟨⟨⟩, -⟩
    · rintro (⟨⟨⟩, -⟩ | ⟨rfl, -⟩)
      exact absurd hgt (Nat.lt_irrefl _)

/-- **Starting or cancelling a task takes it away from the pending ones**, and leaves the others. -/
theorem awaits_settle {status : TaskStatus} (hstatus : status ≠ .pending) {k : Nat} :
    (q.settle k status).Awaits n t ↔ n ≠ k ∧ q.Awaits n t := by
  unfold Awaits settle
  rw [List.getElem?_modify]
  by_cases hk : k = n
  · subst hk
    constructor
    · rintro ⟨ht, hpending⟩
      obtain ⟨u, -, rfl⟩ := Option.map_eq_some_iff.mp ht
      -- a task that was pending has the new status, and another one was not pending before
      simp only [if_true] at hpending
      split at hpending
      · exact absurd (of_decide_eq_true hpending) hstatus
      · next hu => exact absurd hpending hu
    · rintro ⟨hne, -⟩
      exact absurd rfl hne
  · simp only [if_neg hk, Option.map_eq_map, Option.map_id_fun']
    exact ⟨fun h => ⟨Ne.symm hk, h⟩, And.right⟩

theorem awaits_start {k : Nat} : (q.start k).Awaits n t ↔ n ≠ k ∧ q.Awaits n t := awaits_settle (by decide)

theorem awaits_cancel {k : Nat} : (q.cancel k).2.Awaits n t ↔ n ≠ k ∧ q.Awaits n t := awaits_settle (by decide)

/-- Each scheduled task takes one number. -/
theorem nextNumber_schedule (now : Timestamp) (delay : Duration) (job : α) :
    (q.schedule now delay job).nextNumber = q.nextNumber + 1 := by
  simp [nextNumber, schedule]

/-- Starting and cancelling take no number. -/
theorem nextNumber_settle (k : Nat) (status : TaskStatus) : (q.settle k status).nextNumber = q.nextNumber := by
  simp [nextNumber, settle]

/-! ## Settled tasks -/

/-- A settled task stays settled, since a new one gets another number. -/
theorem IsSettled.schedule (h : q.IsSettled n) (now : Timestamp) (delay : Duration) (job : α) :
    (q.schedule now delay job).IsSettled n := by
  refine ⟨?_, fun t ht => ?_⟩
  · rw [nextNumber_schedule]
    exact Nat.lt_succ_of_lt h.1
  · rcases awaits_schedule.mp ht with hold | ⟨hnew, -⟩
    · exact h.2 t hold
    · exact absurd hnew (Nat.ne_of_lt h.1)

theorem IsSettled.settle (h : q.IsSettled n) {status : TaskStatus} (hstatus : status ≠ .pending) (k : Nat) :
    (q.settle k status).IsSettled n := by
  refine ⟨?_, fun t ht => h.2 t ((awaits_settle hstatus).mp ht).2⟩
  rw [nextNumber_settle]
  exact h.1

/-- A pending task that is cancelled is settled from then on. -/
theorem isSettled_cancel (h : q.Awaits n t) : (q.cancel n).2.IsSettled n := by
  refine ⟨?_, fun u hu => (awaits_cancel.mp hu).1 rfl⟩
  show (q.settle n .cancelled).nextNumber > n
  rw [nextNumber_settle]
  exact h.lt_nextNumber

end BookmarkSync.Queue
