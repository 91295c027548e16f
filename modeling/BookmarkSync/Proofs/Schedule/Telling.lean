import BookmarkSync.Proofs.Schedule.Course
import BookmarkSync.Proofs.Schedule.Earliest

/-!
# `BookmarkSync.Proofs.Schedule.Telling` — what is told of an agenda

What was told of the course of an agenda says which tasks were scheduled, started and cancelled, and so which
of them wait (`waitingIn`). The queue says the same (`Told`): the tasks that wait are those that are pending.
And what was told says how many tasks a run has started (`startedBy`), which is what the runs that are going on
have counted (`Counted`).
-/

namespace BookmarkSync

namespace Occurrence

/-- The task that is scheduled, by its number and its due time. -/
def scheduled? : Occurrence → Option (Nat × Timestamp)
  | scheduled n due => some (n, due)
  | _ => none

/-- The task that is started. -/
def started? : Occurrence → Option (Nat × Timestamp)
  | started n due _ _ => some (n, due)
  | _ => none

/-- The task that is kept from starting. -/
def cancelled? : Occurrence → Option Nat
  | cancelled n true => some n
  | _ => none

/-- Counts on what the latest run of a level has started. -/
def tally (level k : Nat) : Occurrence → Nat
  | called l => if l = level then 0 else k
  | started _ _ _ l => if l = level then k + 1 else k
  | _ => k

end Occurrence

open Occurrence

/-- The tasks that were scheduled, by number and due time, in order. -/
def scheduledIn (told : List Occurrence) : List (Nat × Timestamp) := told.filterMap scheduled?

/-- The tasks that were started, in order. -/
def startedIn (told : List Occurrence) : List (Nat × Timestamp) := told.filterMap started?

/-- The numbers of the tasks that were kept from starting. -/
def cancelledIn (told : List Occurrence) : List Nat := told.filterMap cancelled?

/-- The numbers of the tasks that were started or kept from starting. -/
def settledIn (told : List Occurrence) : List Nat := (startedIn told).map Prod.fst ++ cancelledIn told

/-- The tasks that were neither started nor cancelled. -/
def waitingIn (told : List Occurrence) : List (Nat × Timestamp) :=
  (scheduledIn told).filter fun task => task.1 ∉ settledIn told

/-- How many tasks the latest run of a level has started. -/
def startedBy (level : Nat) (told : List Occurrence) : Nat := told.foldl (tally level) 0

/-! ## The telling and the queue -/

/-- What was told says which tasks the queue has, and which of them are settled. -/
structure Told {α : Type} (told : List Occurrence) (q : Queue α) : Prop where
  scheduled : scheduledIn told = q.tasks.zipIdx.map fun t => (t.2, t.1.due)
  settled : ∀ n, n ∈ settledIn told ↔ q.IsSettled n

section Told

variable {α : Type} {told : List Occurrence} {q : Queue α} {n : Nat} {due : Timestamp}

/-- What is told in two parts is told in both, one after the other. -/
theorem scheduledIn_append (told later : List Occurrence) :
    scheduledIn (told ++ later) = scheduledIn told ++ scheduledIn later := List.filterMap_append

theorem startedIn_append (told later : List Occurrence) :
    startedIn (told ++ later) = startedIn told ++ startedIn later := List.filterMap_append

/-- A task is settled if either part says so. -/
theorem mem_settledIn_append {later : List Occurrence} :
    n ∈ settledIn (told ++ later) ↔ n ∈ settledIn told ∨ n ∈ settledIn later := by
  simp only [settledIn, startedIn_append, cancelledIn, List.filterMap_append, List.map_append, List.mem_append]
  exact or_or_or_comm

/-- A task waits from when it is scheduled until it is started or cancelled. -/
theorem mem_waitingIn {task : Nat × Timestamp} :
    task ∈ waitingIn told ↔ task ∈ scheduledIn told ∧ task.1 ∉ settledIn told := by
  rw [waitingIn, List.mem_filter, decide_eq_true_eq]

theorem mem_settledIn_of_started {task : Nat × Timestamp} (h : task ∈ startedIn told) :
    task.1 ∈ settledIn told :=
  List.mem_append_left _ (List.mem_map_of_mem h)

/-- When nothing is scheduled, no more tasks wait. -/
theorem waitingIn_of_append {later : List Occurrence} (h : scheduledIn later = []) {task : Nat × Timestamp}
    (htask : task ∈ waitingIn (told ++ later)) : task ∈ waitingIn told := by
  rw [mem_waitingIn, scheduledIn_append, h, List.append_nil, mem_settledIn_append, not_or] at htask
  exact mem_waitingIn.mpr ⟨htask.1, htask.2.1⟩

/-- Of an empty queue there is nothing to tell. -/
theorem told_empty : Told [] ({} : Queue α) where
  scheduled := rfl
  settled n := by simp [settledIn, startedIn, cancelledIn, Queue.IsSettled, Queue.nextNumber]

namespace Told

variable (h : Told told q)

include h

/-- Tasks are numbered in the order in which they are scheduled. -/
theorem length_scheduledIn : (scheduledIn told).length = q.nextNumber := by
  rw [h.scheduled, List.length_map, List.length_zipIdx, Queue.nextNumber]

/-- What was told when a task was scheduled is what the queue still says of it. -/
theorem mem_scheduledIn : (n, due) ∈ scheduledIn told ↔ ∃ t, q.tasks[n]? = some t ∧ t.due = due := by
  rw [h.scheduled, List.mem_map]
  constructor
  · rintro ⟨⟨t, k⟩, hmem, heq⟩
    cases heq
    exact ⟨t, List.mem_zipIdx_iff_getElem?.mp hmem, rfl⟩
  · rintro ⟨t, ht, rfl⟩
    exact ⟨(t, n), List.mem_zipIdx_iff_getElem?.mpr ht, rfl⟩

/-- **The tasks that are told to wait are those that are pending.** -/
theorem mem_waitingIn_iff : (n, due) ∈ waitingIn told ↔ ∃ t, q.Awaits n t ∧ t.due = due := by
  rw [mem_waitingIn, h.mem_scheduledIn, h.settled]
  constructor
  · rintro ⟨⟨t, ht, rfl⟩, hsettled⟩
    obtain ⟨u, hu⟩ := (Queue.not_isSettled_iff (List.getElem?_eq_some_iff.mp ht).1).mp hsettled
    obtain rfl : t = u := Option.some.inj (ht.symm.trans hu.1)
    exact ⟨t, hu, rfl⟩
  · rintro ⟨t, ht, rfl⟩
    exact ⟨⟨t, ht.1, rfl⟩, fun hsettled => hsettled.2 t ht⟩

/-- The tasks that wait by what is told are those that are pending in the queue. -/
theorem mem_numbers_iff : n ∈ (waitingIn told).map Prod.fst ↔ q.isPending n = true := by
  rw [Queue.isPending_iff, List.mem_map]
  constructor
  · rintro ⟨⟨k, due⟩, hmem, rfl⟩
    obtain ⟨t, ht, -⟩ := h.mem_waitingIn_iff.mp hmem
    exact ⟨t, ht⟩
  · rintro ⟨t, ht⟩
    exact ⟨(n, t.due), h.mem_waitingIn_iff.mpr ⟨t, ht, rfl⟩, rfl⟩

/-- They are told in the order of the queue, with the times at which they are due. -/
theorem waitingIn_eq :
    waitingIn told = (q.tasks.zipIdx.filter fun t => t.1.isPending).map fun t => (t.2, t.1.due) := by
  rw [waitingIn, h.scheduled, List.filter_map]
  congr 1
  refine List.filter_congr fun t ht => ?_
  have htask := List.mem_zipIdx_iff_getElem?.mp ht
  show decide (t.2 ∉ settledIn told) = t.1.isPending
  rw [Bool.eq_iff_iff, decide_eq_true_eq, h.settled,
    Queue.not_isSettled_iff (List.getElem?_eq_some_iff.mp htask).1]
  constructor
  · rintro ⟨u, hu⟩
    obtain rfl := Option.some.inj (htask.symm.trans hu.1)
    exact hu.2
  · exact fun hpending => ⟨t.1, htask, hpending⟩

/-- The number of pending tasks is told. -/
theorem pending_eq : q.pending = (waitingIn told).length := by
  rw [h.waitingIn_eq, List.length_map, ← List.countP_eq_length_filter, Queue.pending]
  conv => lhs; rw [← List.zipIdx_map_fst 0 q.tasks, List.countP_map]
  rfl

/-- The due time that comes next is told. -/
theorem nextDue?_eq : q.nextDue? = ((waitingIn told).map Prod.snd).min? := by
  rw [h.waitingIn_eq, List.map_map, Queue.nextDue?, Queue.map_due_earliest?]
  rfl

/-! ### What keeps to the queue -/

/-- A task that is scheduled gets the next number, and waits. -/
theorem schedule (now : Timestamp) (delay : Duration) (job : α) :
    Told (told ++ [.scheduled q.nextNumber (now.after delay)]) (q.schedule now delay job) where
  scheduled := by
    rw [scheduledIn_append, h.scheduled, Queue.schedule, List.zipIdx_append, List.map_append]
    simp [scheduledIn, scheduled?, Queue.nextNumber]
  settled n := by
    rw [mem_settledIn_append, Queue.isSettled_schedule_iff, ← h.settled]
    simp [settledIn, startedIn, cancelledIn, started?, cancelled?]

/-- A task leaves the waiting ones by an occurrence that settles it and schedules nothing. -/
theorem settle {status : TaskStatus} (hstatus : status ≠ .pending) {o : Occurrence} {k : Nat}
    (hscheduled : o.scheduled? = none) (hsettled : ∀ n, n ∈ settledIn [o] ↔ n = k ∧ q.isPending k = true) :
    Told (told ++ [o]) (q.settle k status) where
  scheduled := by
    have hnone : scheduledIn [o] = [] := by simp [scheduledIn, hscheduled]
    have hdues (p : Queue α) : p.tasks.zipIdx.map (fun t => (t.2, t.1.due))
        = (p.tasks.map (·.due)).zipIdx.map Prod.swap := by
      rw [List.zipIdx_map, List.map_map]
      rfl
    rw [scheduledIn_append, hnone, List.append_nil, h.scheduled, hdues, hdues, Queue.map_due_settle]
  settled n := by
    rw [mem_settledIn_append, Queue.isSettled_settle_iff hstatus, ← h.settled, hsettled]
    -- a task that is no longer pending was settled before
    have hpending (hlt : k < q.nextNumber) : q.isPending k = true ↔ k ∉ settledIn told := by
      rw [h.settled, Queue.not_isSettled_iff hlt, Queue.isPending_iff]
    constructor
    · rintro (hold | ⟨rfl, hk⟩)
      · exact .inl hold
      · obtain ⟨t, ht⟩ := Queue.isPending_iff.mp hk
        exact .inr ⟨rfl, ht.lt_nextNumber⟩
    · rintro (hold | ⟨rfl, hlt⟩)
      · exact .inl hold
      · by_cases hk : n ∈ settledIn told
        · exact .inl hk
        · exact .inr ⟨rfl, (hpending hlt).mpr hk⟩

/-- A task that starts was waiting; a task that is cancelled may have been settled before. -/
theorem start {k : Nat} {t : ScheduledTask α} (ht : q.Awaits k t) (now : Timestamp) (level : Nat) :
    Told (told ++ [.started k t.due now level]) (q.start k) :=
  h.settle (by decide) rfl fun n => by
    have hk : q.isPending k = true := Queue.isPending_iff.mpr ⟨t, ht⟩
    simp [settledIn, startedIn, cancelledIn, started?, cancelled?, hk]

theorem cancel (k : Nat) : Told (told ++ [.cancelled k (q.cancel k).1]) (q.cancel k).2 :=
  h.settle (by decide) rfl fun n => by
    show n ∈ settledIn [.cancelled k (q.isPending k)] ↔ _
    cases q.isPending k with
    | true => simp [settledIn, startedIn, cancelledIn, started?, cancelled?]
    | false => simp [settledIn, startedIn, cancelledIn, started?, cancelled?]

/-- The calls and returns of runs leave the queue as it is. -/
theorem append {o : Occurrence} (hscheduled : o.scheduled? = none) (hsettled : settledIn [o] = []) :
    Told (told ++ [o]) q where
  scheduled := by
    have hnone : scheduledIn [o] = [] := by simp [scheduledIn, hscheduled]
    rw [scheduledIn_append, hnone, List.append_nil, h.scheduled]
  settled n := by
    rw [mem_settledIn_append, hsettled, h.settled]
    simp

end Told

end Told

/-! ## Runs -/

/-- What was told says how many tasks have run in each run that is going on. A task that is going on has been
started, and has not yet run. -/
def Counted (told : List Occurrence) : List (Option Nat) → Prop
  | [] => True
  | some ran :: below => startedBy below.length told = ran ∧ Counted told below
  | none :: some ran :: below => startedBy below.length told = ran + 1 ∧ Counted told below
  | none :: _ => False

section Counted

variable {told : List Occurrence} {o : Occurrence} {below : List (Option Nat)}

/-- The tally of the runs is taken up by each occurrence. -/
theorem startedBy_append (level : Nat) (told : List Occurrence) (o : Occurrence) :
    startedBy level (told ++ [o]) = o.tally level (startedBy level told) := List.foldl_append

/-- What runs that are called later do makes no difference. -/
theorem Counted.append (h : Counted told below) (ho : ∀ level < below.length, ∀ k, o.tally level k = k) :
    Counted (told ++ [o]) below := by
  fun_induction Counted told below with
  | case1 => trivial
  | case2 ran below ih =>
    obtain ⟨hcount, hbelow⟩ := h
    refine ⟨?_, ih hbelow fun level hlevel => ho level (Nat.lt_succ_of_lt hlevel)⟩
    rw [startedBy_append, ho _ (Nat.lt_succ_self _), hcount]
  | case3 ran below ih =>
    obtain ⟨hcount, hbelow⟩ := h
    refine ⟨?_, ih hbelow fun level hlevel => ho level (by simp only [List.length_cons]; omega)⟩
    rw [startedBy_append, ho _ (by simp only [List.length_cons]; omega), hcount]
  | case4 => exact h.elim

/-- A call for the tasks that are due begins a run that has started none of them. -/
theorem Counted.called (h : Counted told below) :
    Counted (told ++ [.called below.length]) (some 0 :: below) := by
  refine ⟨?_, h.append fun level hlevel k => if_neg (by omega)⟩
  rw [startedBy_append]
  exact if_pos rfl

/-- A task that is started interrupts the run that started it. -/
theorem Counted.started {ran : Nat} (h : Counted told (some ran :: below)) (n : Nat) (due now : Timestamp) :
    Counted (told ++ [.started n due now below.length]) (none :: some ran :: below) := by
  refine ⟨?_, h.2.append fun level hlevel k => if_neg (by omega)⟩
  rw [startedBy_append, h.1]
  exact if_pos rfl

/-- A task that has finished counts for its run, which goes on. -/
theorem Counted.finished (h : Counted told (none :: below)) : Counted told (Agenda.shapeAfterTask below) := by
  rcases below with _ | ⟨_ | ran, below⟩
  · exact h.elim
  · exact h.elim
  · exact h

end Counted

end BookmarkSync
