import BookmarkSync.Time

/-!
# `BookmarkSync.Schedule.Queue` — tasks that wait for their time

A queue numbers its tasks in the order in which they were scheduled and keeps all of them. A task waits
until it starts or is cancelled; after that its status never changes. Of the tasks that are due, the one
with the earliest due time comes first, and of several with the same due time the one with the smallest
number.
-/

namespace BookmarkSync

inductive TaskStatus
  | pending
  | started
  | cancelled
deriving DecidableEq, Repr

structure ScheduledTask (α : Type) where
  due : Timestamp
  job : α
  status : TaskStatus := .pending
deriving Repr

namespace ScheduledTask

variable {α : Type}

def isPending (t : ScheduledTask α) : Bool := t.status = .pending

/-- Whether the task is pending and its time has come. -/
def isDue (now : Timestamp) (t : ScheduledTask α) : Bool := t.isPending && t.due ≤ now

end ScheduledTask

/-- Scheduled tasks, numbered from zero. -/
structure Queue (α : Type) where
  tasks : List (ScheduledTask α) := []
deriving Repr

namespace Queue

variable {α : Type}

/-- The number that the next task gets. -/
def nextNumber (q : Queue α) : Nat := q.tasks.length

/-- Schedules a task for `delay` after `now`. -/
def schedule (q : Queue α) (now : Timestamp) (delay : Duration) (job : α) : Queue α :=
  ⟨q.tasks ++ [{ due := now.after delay, job }]⟩

def status? (q : Queue α) (n : Nat) : Option TaskStatus := q.tasks[n]?.map (·.status)

/-- Whether task `n` neither started nor was cancelled. -/
def isPending (q : Queue α) (n : Nat) : Bool := q.status? n = some .pending

/-- Moves a pending task on. -/
def settle (q : Queue α) (n : Nat) (status : TaskStatus) : Queue α :=
  ⟨q.tasks.modify n fun t => if t.isPending then { t with status } else t⟩

/-- Keeps task `n` from starting, and answers whether it was pending. -/
def cancel (q : Queue α) (n : Nat) : Bool × Queue α := (q.isPending n, q.settle n .cancelled)

/-- Starts task `n`. -/
def start (q : Queue α) (n : Nat) : Queue α := q.settle n .started

/-- How many tasks are pending. -/
def pending (q : Queue α) : Nat := q.tasks.countP ScheduledTask.isPending

/-- The first of the numbered tasks with the earliest due time. -/
def earliest? : List (ScheduledTask α × Nat) → Option (ScheduledTask α × Nat)
  | [] => none
  | t :: ts =>
    match earliest? ts with
    | none => some t
    | some u => if u.1.due < t.1.due then some u else some t

/-- The due time of the pending task that comes first. -/
def nextDue? (q : Queue α) : Option Timestamp :=
  (earliest? (q.tasks.zipIdx.filter fun t => t.1.isPending)).map (·.1.due)

/-- The task that is to start at `now`, with its number. -/
def firstDue? (q : Queue α) (now : Timestamp) : Option (ScheduledTask α × Nat) :=
  earliest? (q.tasks.zipIdx.filter fun t => t.1.isDue now)

theorem mem_of_earliest? : ∀ {ts : List (ScheduledTask α × Nat)} {u : ScheduledTask α × Nat},
    earliest? ts = some u → u ∈ ts
  | t :: ts, u, h => by
    unfold earliest? at h
    split at h
    · simp_all
    · rename_i v hv
      split at h
      · cases h
        exact List.mem_cons_of_mem _ (mem_of_earliest? hv)
      · simp_all

theorem firstDue?_eq_some {q : Queue α} {now : Timestamp} {t : ScheduledTask α} {n : Nat}
    (h : q.firstDue? now = some (t, n)) : q.tasks[n]? = some t ∧ t.isPending = true ∧ t.due ≤ now := by
  have hm := mem_of_earliest? h
  rw [List.mem_filter, List.mem_zipIdx_iff_getElem?] at hm
  obtain ⟨ht, hdue⟩ := hm
  simp only [ScheduledTask.isDue, Bool.and_eq_true, decide_eq_true_eq] at hdue
  exact ⟨ht, hdue⟩

end Queue

end BookmarkSync
