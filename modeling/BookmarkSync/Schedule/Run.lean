import BookmarkSync.Schedule.Agenda

/-!
# `BookmarkSync.Schedule.Run` — running an agenda to its end

The weight of an agenda counts what its stack and its pending tasks can still do. `weight_lt_of_step?`
says that each small step takes weight away; so the steps of a run end, and a run needs no bound from
outside.
-/

namespace BookmarkSync

/-! ## Weights -/

mutual

def Command.weight : Command → Nat
  | .schedule _ _ script => Command.totalWeight script + 3
  | .cancel _ => 1
  | .setClock _ => 1
  | .runDue => 2

def Command.totalWeight : List Command → Nat
  | [] => 0
  | c :: cs => c.weight + Command.totalWeight cs

end

/-- What a task adds to the weight: nothing once it has started or been cancelled. -/
def ScheduledTask.weight (t : ScheduledTask Script) : Nat :=
  if t.isPending then Command.totalWeight t.job.commands + 2 else 0

def ScheduledTask.totalWeight : List (ScheduledTask Script) → Nat
  | [] => 0
  | t :: ts => t.weight + ScheduledTask.totalWeight ts

def Queue.weight (q : Queue Script) : Nat := ScheduledTask.totalWeight q.tasks

def Activity.weight : Activity → Nat
  | .due _ _ => 1
  | .commands rest => Command.totalWeight rest + 1

def Activity.totalWeight : List Activity → Nat
  | [] => 0
  | a :: stack => a.weight + Activity.totalWeight stack

namespace Agenda

def weight (a : Agenda) : Nat := a.queue.weight + Activity.totalWeight a.stack

/-! ## Each step takes weight away -/

theorem totalWeight_append (ts us : List (ScheduledTask Script)) :
    ScheduledTask.totalWeight (ts ++ us) = ScheduledTask.totalWeight ts + ScheduledTask.totalWeight us := by
  induction ts with
  | nil => simp [ScheduledTask.totalWeight]
  | cons t ts ih => simp only [List.cons_append, ScheduledTask.totalWeight, ih]; omega

theorem totalWeight_modify_settle {s : TaskStatus} (hs : s ≠ .pending) (ts : List (ScheduledTask Script))
    (n : Nat) :
    ScheduledTask.totalWeight (ts.modify n fun t => if t.isPending then { t with status := s } else t)
      + ((ts[n]?).map ScheduledTask.weight).getD 0 = ScheduledTask.totalWeight ts := by
  induction ts generalizing n with
  | nil => simp [ScheduledTask.totalWeight]
  | cons t ts ih =>
    cases n with
    | zero =>
      by_cases h : t.status = .pending
      · simp [ScheduledTask.totalWeight, ScheduledTask.weight, ScheduledTask.isPending, h, hs]; omega
      · simp [ScheduledTask.totalWeight, ScheduledTask.weight, ScheduledTask.isPending, h]
    | succ n =>
      have := ih n
      simp only [List.modify_succ_cons, ScheduledTask.totalWeight, List.getElem?_cons_succ]
      omega

theorem weight_settle {s : TaskStatus} (hs : s ≠ .pending) (q : Queue Script) (n : Nat) :
    (q.settle n s).weight + ((q.tasks[n]?).map ScheduledTask.weight).getD 0 = q.weight :=
  totalWeight_modify_settle hs q.tasks n

theorem weight_queue_schedule (q : Queue Script) (now : Timestamp) (delay : Duration) (job : Script) :
    (q.schedule now delay job).weight = q.weight + (Command.totalWeight job.commands + 2) := by
  simp [Queue.weight, Queue.schedule, totalWeight_append, ScheduledTask.totalWeight, ScheduledTask.weight,
    ScheduledTask.isPending]

theorem weight_schedule_le (a : Agenda) (name : String) (delay : Duration) (commands : List Command) :
    (a.schedule name delay commands).queue.weight ≤ a.queue.weight + (Command.totalWeight commands + 2) := by
  have h := weight_queue_schedule a.queue a.clock delay ⟨name, commands⟩
  unfold schedule
  split
  · exact Nat.le_of_eq h
  · have := weight_settle (s := .cancelled) (by decide)
      (a.queue.schedule a.clock delay ⟨name, commands⟩) a.queue.nextNumber
    simp only [Queue.cancel]
    simp only at h
    omega

theorem weight_cancel_le (a : Agenda) (name : String) : (a.cancel name).2.queue.weight ≤ a.queue.weight := by
  unfold cancel
  split
  · exact Nat.le_refl _
  · rename_i n _
    have := weight_settle (s := .cancelled) (by decide) a.queue n
    simp only [Queue.cancel]
    omega

theorem totalWeight_countRun (stack : List Activity) :
    Activity.totalWeight (countRun stack) = Activity.totalWeight stack := by
  unfold countRun
  split <;> simp [Activity.totalWeight, Activity.weight]

theorem weight_perform_lt (a : Agenda) (c : Command) (stack : List Activity) :
    (a.perform c stack).weight < a.queue.weight + c.weight + Activity.totalWeight stack := by
  cases c with
  | schedule name delay script =>
    have := weight_schedule_le a name delay script
    simp only [weight, perform, Command.weight]
    omega
  | cancel name =>
    have := weight_cancel_le a name
    simp only [weight, perform, Command.weight, note]
    omega
  | setClock time => simp only [weight, perform, Command.weight]; omega
  | runDue => simp only [weight, perform, Command.weight, Activity.totalWeight, Activity.weight]; omega

/-- Each step takes weight away. -/
theorem weight_lt_of_step? {a b : Agenda} (h : a.step? = some b) : b.weight < a.weight := by
  unfold step? at h
  split at h
  · cases h
  · rename_i stack hstack
    cases h
    simp [weight, hstack, totalWeight_countRun, Activity.totalWeight, Activity.weight]
  · rename_i c rest stack hstack
    cases h
    have := weight_perform_lt a c (.commands rest :: stack)
    simp only [weight, hstack, Activity.totalWeight, Activity.weight, Command.totalWeight] at this ⊢
    omega
  · rename_i deadline ran stack hstack
    split at h
    · cases h
      simp only [weight, hstack, endRun, Activity.totalWeight, Activity.weight]
      split <;> simp [note]
    · rename_i t n hdue
      obtain ⟨ht, hp, -⟩ := Queue.firstDue?_eq_some hdue
      have hw := weight_settle (s := .started) (by decide) a.queue n
      have htw : t.weight = Command.totalWeight t.job.commands + 2 := by simp [ScheduledTask.weight, hp]
      cases h
      simp only [ht, Option.map_some, Option.getD_some, htw] at hw
      simp only [weight, hstack, Queue.start, Activity.totalWeight, Activity.weight]
      omega

/-! ## Runs -/

/-- Takes steps until nothing is to do. -/
def run (a : Agenda) : Agenda :=
  match _h : a.step? with
  | none => a
  | some b => b.run
termination_by a.weight
decreasing_by exact weight_lt_of_step? _h

/-- Runs what is due, and answers how many tasks were started. -/
def runDue (a : Agenda) : Nat × Agenda :=
  let a := { a with stack := [.due none 0] }.run
  (a.ran, a)

/-- Turns the clock forward and runs what is due. -/
def advance (a : Agenda) (span : Duration) : Nat × Agenda := { a with clock := a.clock.turned span }.runDue

/-- Lets time pass. The clock shows each task its own due time. -/
def sleep (a : Agenda) (span : Duration) : Agenda :=
  { a with stack := [.due (some (a.clock.after span)) 0] }.run

end Agenda

end BookmarkSync
