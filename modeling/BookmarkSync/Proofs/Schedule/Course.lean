import BookmarkSync.Proofs.Schedule.Pending
import BookmarkSync.Schedule.Run

/-!
# `BookmarkSync.Proofs.Schedule.Course` — what happens to an agenda

An agenda is moved by its own small steps and from outside. A move from outside may come at any moment, also
while a task runs. So nothing is assumed of tasks: whatever one does beyond its script, it does by moves from
outside. A course of moves is told by the occurrences in it (`trace`), as they are seen by those who schedule
and cancel tasks and call for what is due.

`effect_act` says once what a move can do to the clock, to the queue and to the runs that are going on.
-/

namespace BookmarkSync

/-- What is seen of an agenda. The level of a run says how much was going on when it was called. -/
inductive Occurrence
  /-- A task gets the number `n`. -/
  | scheduled (n : Nat) (due : Timestamp)
  /-- A cancel of task `n` answers. -/
  | cancelled (n : Nat) (answer : Bool)
  /-- A run starts task `n`, when the clock shows `now`. -/
  | started (n : Nat) (due now : Timestamp) (level : Nat)
  /-- It is called for what is due. -/
  | called (level : Nat)
  /-- A run returns, and answers how many tasks it has started. -/
  | returned (level ran : Nat) (now : Timestamp)
deriving DecidableEq, Repr

/-- How many tasks have run in a run; nothing for a task. -/
def Activity.ran? : Activity → Option Nat
  | due _ ran => some ran
  | commands _ => none

namespace Agenda

inductive Move
  /-- The next small step, if anything is to do. -/
  | step
  | schedule (name : String) (delay : Duration) (commands : List Command)
  | cancel (n : Nat)
  | setClock (time : Timestamp)
  | runDue

variable (a : Agenda)

def act : Move → Agenda
  | .step => a.step?.getD a
  | .schedule name delay commands => a.schedule name delay commands
  | .cancel n => { a with queue := (a.queue.cancel n).2 }
  | .setClock time => { a with clock := time }
  | .runDue => { a with stack := .due none 0 :: a.stack }

/-- What is seen when a task carries out a command. -/
def seenOfCommand? : Command → Option Occurrence
  | .schedule _ delay _ => some (.scheduled a.queue.nextNumber (a.clock.after delay))
  | .cancel name => (a.number? name).map fun n => .cancelled n (a.queue.cancel n).1
  | .setClock _ => none
  | .runDue => some (.called a.stack.length)

/-- What is seen of the next small step. -/
def seenOfStep? : Option Occurrence :=
  match a.stack with
  | .commands (c :: _) :: _ => a.seenOfCommand? c
  | .due deadline ran :: stack =>
    match a.queue.firstDue? (deadline.getD a.clock) with
    | none => some (.returned stack.length ran (deadline.getD a.clock))
    | some (t, n) => some (.started n t.due (startTime a.clock deadline t.due) stack.length)
  | _ => none

def seen? : Move → Option Occurrence
  | .step => a.seenOfStep?
  | .schedule name delay commands => a.seenOfCommand? (.schedule name delay commands)
  | .cancel n => some (.cancelled n (a.queue.cancel n).1)
  | .setClock time => a.seenOfCommand? (.setClock time)
  | .runDue => a.seenOfCommand? .runDue

/-! ## Courses -/

def after (moves : List Move) : Agenda := moves.foldl act a

/-- What is seen in a course of moves, in order. -/
def trace (a : Agenda) : List Move → List Occurrence
  | [] => []
  | m :: moves => (a.seen? m).toList ++ (a.act m).trace moves

/-- The clock is not turned back in a course of moves. -/
def IsForward (a : Agenda) : List Move → Prop
  | [] => True
  | m :: moves => a.clock ≤ (a.act m).clock ∧ (a.act m).IsForward moves

instance decidableIsForward : (a : Agenda) → (moves : List Move) → Decidable (a.IsForward moves)
  | _, [] => .isTrue trivial
  | a, m :: moves =>
    have := decidableIsForward (a.act m) moves
    inferInstanceAs (Decidable (_ ∧ _))

theorem after_append (moves moves' : List Move) : a.after (moves ++ moves') = (a.after moves).after moves' :=
  List.foldl_append

theorem trace_append (moves moves' : List Move) :
    a.trace (moves ++ moves') = a.trace moves ++ (a.after moves).trace moves' := by
  induction moves generalizing a with
  | nil => rfl
  | cons m moves ih => rw [List.cons_append, trace, trace, ih, List.append_assoc]; rfl

/-- What holds at the start, and is kept by every move with what is seen of it, holds of a whole course. -/
theorem course_induction {P : List Occurrence → Agenda → Prop} {moves : List Move}
    (hforward : a.IsForward moves)
    (hact : ∀ told b m, b.clock ≤ (b.act m).clock → P told b → P (told ++ (b.seen? m).toList) (b.act m))
    {told : List Occurrence} (h : P told a) : P (told ++ a.trace moves) (a.after moves) := by
  induction moves generalizing a told with
  | nil => rwa [trace, List.append_nil]
  | cons m moves ih =>
    rw [trace, ← List.append_assoc]
    exact ih (a.act m) hforward.2 (hact told a m hforward.1 h)

/-! ## What a move can do -/

/-- The runs and tasks that are going on, the innermost first. -/
def shape : List (Option Nat) := a.stack.map Activity.ran?

/-- What becomes of the run that has started a task when the task has run. -/
def shapeAfterTask : List (Option Nat) → List (Option Nat)
  | some ran :: below => some (ran + 1) :: below
  | below => below

/-- What a move can do that leads to `b`, by what is seen of it. -/
inductive Effect (a : Agenda) : Option Occurrence → Agenda → Prop
  | quiet {b : Agenda} : b.queue = a.queue → b.shape = a.shape → Effect a none b
  | scheduled {b : Agenda} (delay : Duration) (job : Script) :
      b.queue = a.queue.schedule a.clock delay job → b.shape = a.shape →
      Effect a (some (.scheduled a.queue.nextNumber (a.clock.after delay))) b
  | cancelled {b : Agenda} (n : Nat) : b.queue = (a.queue.cancel n).2 → b.shape = a.shape →
      Effect a (some (.cancelled n (a.queue.cancel n).1)) b
  | called {b : Agenda} : b.queue = a.queue → b.shape = some 0 :: a.shape →
      Effect a (some (.called a.shape.length)) b
  | started {b : Agenda} {limit now : Timestamp} {t : ScheduledTask Script} {n ran : Nat}
      {below : List (Option Nat)} : a.queue.firstDue? limit = some (t, n) → b.queue = a.queue.start n →
      b.clock = now → t.due ≤ now → a.shape = some ran :: below → b.shape = none :: some ran :: below →
      Effect a (some (.started n t.due now below.length)) b
  /-- The script of a task is over. -/
  | finished {b : Agenda} {below : List (Option Nat)} : b.queue = a.queue → a.shape = none :: below →
      b.shape = shapeAfterTask below → Effect a none b
  | returned {b : Agenda} {now : Timestamp} {ran : Nat} {below : List (Option Nat)} : b.clock = now →
      a.queue.firstDue? now = none → b.queue = a.queue → b.ran = ran → a.shape = some ran :: below →
      b.shape = below → Effect a (some (.returned below.length ran now)) b

variable {a : Agenda}

theorem shape_of_stack {activity : Activity} {below : List Activity} (h : a.stack = activity :: below) :
    a.shape = activity.ran? :: below.map Activity.ran? := by
  rw [shape, h, List.map_cons]

theorem map_ran?_countRun (below : List Activity) :
    (countRun below).map Activity.ran? = shapeAfterTask (below.map Activity.ran?) := by
  rcases below with _ | ⟨_ | _, below⟩ <;> rfl

/-- What a command does that a task carries out. -/
theorem effect_perform (haccepting : a.accepting = true) {c : Command} {rest : List Command}
    {below : List Activity} (h : a.stack = .commands (c :: rest) :: below) :
    Effect a (a.seenOfCommand? c) (a.perform c (.commands rest :: below)) ∧
      (a.perform c (.commands rest :: below)).accepting = true := by
  have hshape : a.shape = none :: below.map Activity.ran? := shape_of_stack h
  cases c with
  | schedule name delay commands =>
    -- while the scheduler accepts tasks, every one of them is queued
    have hqueue : (a.perform (.schedule name delay commands) (.commands rest :: below)).queue
        = a.queue.schedule a.clock delay ⟨name, commands⟩ := by
      simp only [perform, schedule, haccepting, if_true]
    exact ⟨.scheduled delay ⟨name, commands⟩ hqueue hshape.symm, haccepting⟩
  | cancel name =>
    simp only [seenOfCommand?, perform, cancel]
    cases a.number? name with
    | none => exact ⟨.quiet rfl hshape.symm, haccepting⟩
    | some n => exact ⟨.cancelled n rfl hshape.symm, haccepting⟩
  | setClock time => exact ⟨.quiet rfl hshape.symm, haccepting⟩
  | runDue =>
    have hlevel : a.stack.length = a.shape.length := (List.length_map _).symm
    rw [seenOfCommand?, hlevel]
    refine ⟨.called rfl ?_, haccepting⟩
    rw [hshape]
    rfl

/-- At its end a run answers, and leaves the queue as it is; whether the end is noted makes no difference. -/
theorem effect_endRun {deadline : Option Timestamp} {ran : Nat} {below : List Activity}
    (h : a.stack = .due deadline ran :: below) (hdue : a.queue.firstDue? (deadline.getD a.clock) = none) :
    Effect a (some (.returned below.length ran (deadline.getD a.clock))) (a.endRun deadline ran below) ∧
      (a.endRun deadline ran below).accepting = a.accepting := by
  have hlevel : below.length = (below.map Activity.ran?).length := (List.length_map _).symm
  have hend : ∃ log, a.endRun deadline ran below
      = { a with ran, stack := below, clock := deadline.getD a.clock, log } := by
    unfold endRun
    split
    · exact ⟨a.log, rfl⟩
    · exact ⟨_, rfl⟩
  obtain ⟨log, hend⟩ := hend
  have hshape : a.shape = some ran :: below.map Activity.ran? := shape_of_stack h
  rw [hend, hlevel]
  exact ⟨.returned rfl hdue rfl rfl hshape rfl, rfl⟩

theorem due_le_startTime {clock due : Timestamp} {deadline : Option Timestamp} (h : due ≤ deadline.getD clock) :
    due ≤ startTime clock deadline due := by
  unfold startTime
  split
  · exact Int64.le_refl due
  · next hlate =>
    cases deadline with
    | none => exact h
    | some d => simpa using hlate

/-- What the next iteration of a run does. -/
theorem effect_iteration {deadline : Option Timestamp} {ran : Nat} {below : List Activity}
    (h : a.stack = .due deadline ran :: below) :
    Effect a a.seenOfStep? (a.step?.getD a) ∧ (a.step?.getD a).accepting = a.accepting := by
  simp only [seenOfStep?, step?, h]
  cases hdue : a.queue.firstDue? (deadline.getD a.clock) with
  | none => exact effect_endRun h hdue
  | some first =>
    obtain ⟨t, n⟩ := first
    have hlevel : below.length = (below.map Activity.ran?).length := (List.length_map _).symm
    have hpassed := due_le_startTime (Queue.firstDue?_eq_some hdue).2.2
    have hshape : a.shape = some ran :: below.map Activity.ran? := shape_of_stack h
    simp only [Option.getD_some]
    rw [hlevel]
    exact ⟨.started hdue rfl rfl hpassed hshape rfl, rfl⟩

/-- **What a move does is told by what is seen of it.** -/
theorem effect_act (haccepting : a.accepting = true) (m : Move) :
    Effect a (a.seen? m) (a.act m) ∧ (a.act m).accepting = true := by
  cases m with
  | schedule name delay commands =>
    exact ⟨.scheduled delay ⟨name, commands⟩ (if_pos haccepting) rfl, haccepting⟩
  | cancel n => exact ⟨.cancelled n rfl rfl, haccepting⟩
  | setClock time => exact ⟨.quiet rfl rfl, haccepting⟩
  | runDue =>
    have hlevel : a.stack.length = a.shape.length := (List.length_map _).symm
    rw [seen?, seenOfCommand?, hlevel]
    exact ⟨.called rfl rfl, haccepting⟩
  | step =>
    show Effect a a.seenOfStep? (a.step?.getD a) ∧ (a.step?.getD a).accepting = true
    -- what a step does depends on the top of the stack: nothing, a run, a finished task, or a command
    rcases hstack : a.stack with _ | ⟨_ | ⟨_ | ⟨c, rest⟩⟩, below⟩
    · simp only [seenOfStep?, step?, hstack]
      exact ⟨.quiet rfl rfl, haccepting⟩
    · exact haccepting ▸ effect_iteration hstack
    · simp only [seenOfStep?, step?, hstack]
      exact ⟨.finished rfl (shape_of_stack hstack) (map_ran?_countRun below), haccepting⟩
    · simp only [seenOfStep?, step?, hstack]
      exact effect_perform haccepting hstack

end Agenda

end BookmarkSync
