import BookmarkSync.Schedule.Queue

/-!
# `BookmarkSync.Schedule.Agenda` — scheduled scripts

An agenda is a clock and a queue of named scripts. A script is a list of commands that are carried out
when its task starts; they can schedule and cancel tasks, set the clock, and run what is due. Running what
is due starts due tasks, also those that the tasks schedule, until none is due.

A run is carried out in small steps on a stack of what is still to do. Each step takes weight from the
stack and the pending tasks together, so every run ends.
-/

namespace BookmarkSync

inductive Command
  | schedule (name : String) (delay : Duration) (script : List Command)
  | cancel (name : String)
  | setClock (time : Timestamp)
  | runDue
deriving Inhabited

structure Script where
  name : String
  commands : List Command

/-- What is still to do. -/
inductive Activity
  /-- Starting tasks as they come due, up to a deadline or else to what the clock shows; `ran` have run. -/
  | due (deadline : Option Timestamp) (ran : Nat)
  /-- The rest of a script. -/
  | commands (rest : List Command)

structure Agenda where
  clock : Timestamp
  queue : Queue Script := {}
  /-- Whether tasks are accepted; otherwise each is cancelled at once. -/
  accepting : Bool := true
  /-- What happened, in order. -/
  log : List String := []
  stack : List Activity := []
  /-- How many tasks the last finished run started. -/
  ran : Nat := 0

namespace Agenda

/-- The number of the latest task of this name. -/
def number? (a : Agenda) (name : String) : Option Nat :=
  (a.queue.tasks.zipIdx.reverse.find? (·.1.job.name == name)).map Prod.snd

def schedule (a : Agenda) (name : String) (delay : Duration) (commands : List Command) : Agenda :=
  let queue := a.queue.schedule a.clock delay ⟨name, commands⟩
  { a with queue := if a.accepting then queue else (queue.cancel a.queue.nextNumber).2 }

/-- Cancels the latest task of this name, and answers whether it was pending. -/
def cancel (a : Agenda) (name : String) : Option Bool × Agenda :=
  match a.number? name with
  | none => (none, a)
  | some n =>
    let (done, queue) := a.queue.cancel n
    (some done, { a with queue })

def status? (a : Agenda) (name : String) : Option TaskStatus :=
  (a.number? name).bind a.queue.status?

def note (a : Agenda) (line : String) : Agenda := { a with log := a.log ++ [line] }

def outcomeWord : Option Bool → String
  | none => "null"
  | some true => "true"
  | some false => "false"

/-- Carries out a command, with the rest of the stack given. -/
def perform (a : Agenda) : Command → List Activity → Agenda
  | .schedule name delay commands, stack => { a.schedule name delay commands with stack }
  | .cancel name, stack =>
    let (outcome, a) := a.cancel name
    { a.note s!"cancel {name} {outcomeWord outcome}" with stack }
  | .setClock time, stack => { a with clock := time, stack }
  | .runDue, stack => { a with stack := .due none 0 :: stack }

/-- Counts a finished task in the run that started it. -/
def countRun : List Activity → List Activity
  | .due deadline ran :: stack => .due deadline (ran + 1) :: stack
  | stack => stack

/-- Ends a run. A run inside a task is noted. -/
def endRun (a : Agenda) (deadline : Option Timestamp) (ran : Nat) (stack : List Activity) : Agenda :=
  let a := { a with ran, stack, clock := deadline.getD a.clock }
  if stack.isEmpty then a else a.note s!"nested run {ran}"

/-- The reading at which a task starts that is due by a deadline: its own due time, unless that is past. -/
def startTime (clock : Timestamp) (deadline : Option Timestamp) (due : Timestamp) : Timestamp :=
  if deadline.isSome && clock < due then due else clock

/-- The next small step, if anything is to do. -/
def step? (a : Agenda) : Option Agenda :=
  match a.stack with
  | [] => none
  | .commands [] :: stack => some { a with stack := countRun stack }
  | .commands (c :: rest) :: stack => some (a.perform c (.commands rest :: stack))
  | .due deadline ran :: stack =>
    match a.queue.firstDue? (deadline.getD a.clock) with
    | none => some (a.endRun deadline ran stack)
    | some (t, n) =>
      some { a.note t.job.name with
        clock := startTime a.clock deadline t.due
        queue := a.queue.start n
        stack := .commands t.job.commands :: .due deadline ran :: stack }

end Agenda

end BookmarkSync
