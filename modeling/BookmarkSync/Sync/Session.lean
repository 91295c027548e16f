import BookmarkSync.Sync.Engine

/-!
# `BookmarkSync.Sync.Session` — an engine at work

A session drives an engine: someone calls for syncs, and a runner starts the tasks that are due, one after
the other. Either can work in the background, where a file operation can be held up; what needs no turn
goes on in the meantime.
-/

namespace BookmarkSync

/-- Who starts due tasks: how many have ended, and which one runs. -/
structure Runner where
  ran : Nat := 0
  current : Option (Nat × Job) := none
  done : Bool := false
deriving DecidableEq, Repr

/-- How work in the background went so far. -/
inductive Background (α : Type)
  /-- Its file operation is held up. -/
  | held
  /-- Other work is held up, so it may not be over. -/
  | started
  | finished (a : α)
  /-- Nothing was done, as it would have to wait. -/
  | blocked
deriving Repr

structure Session (ρ : Type) where
  engine : Engine ρ
  /-- How many file operations may pass before one is held up. -/
  holdAfter : Option Nat := none
  /-- Whether a file operation is held up. -/
  held : Bool := false
  /-- A call for a sync, and its report once there is one. -/
  call : Option (Option Report) := none
  runner : Option Runner := none
  /-- The reports handed over by tasks. -/
  delivered : List Report := []

namespace Session

variable {ρ : Type} (remote : Remote ρ)

/-! ## Small steps -/

/-- Hands a report to whoever asked for the sync. -/
def handOver (s : Session ρ) : Option Ended → Session ρ
  | none => s
  | some ⟨.caller, report⟩ => { s with call := some (some report) }
  | some ⟨.task _, report⟩ =>
    let reported := s.runner.any fun r => r.current.any fun c => c.2 = .reported
    { s with
      runner := s.runner.map fun r => { r with ran := r.ran + 1, current := none }
      delivered := if reported then s.delivered ++ [report] else s.delivered }

/-- The engine moves, and whoever gets a report gets it. -/
def moved (s : Session ρ) (r : Option Ended × Engine ρ) : Session ρ := { s with engine := r.2 }.handOver r.1

/-- The runner starts the next task, or is done. -/
def startNext (s : Session ρ) (runner : Runner) : Session ρ :=
  match s.engine.startDue remote with
  | none => { s with runner := some { runner with done := true } }
  | some (task, r) => { s with runner := some { runner with current := some task } }.moved r

/-- The runner's step, if it can take one. -/
def runnerStep? (s : Session ρ) : Option (Session ρ) :=
  match s.runner with
  | some ⟨ran, none, false⟩ => some (s.startNext remote ⟨ran, none, false⟩)
  | _ => none

/-- The next step, if any can be taken: the cycle in flight comes first, then whoever waits for a turn,
then the runner. -/
def step? (s : Session ρ) : Option (Session ρ) :=
  match s.engine.inFlight with
  | some c =>
    if s.held then s.runnerStep? remote
    else if c.stage.isRemote && s.holdAfter = some 0 then some { s with held := true, holdAfter := none }
    else
      let holdAfter := if c.stage.isRemote then s.holdAfter.map (· - 1) else s.holdAfter
      some ({ s with holdAfter }.moved (s.engine.proceed remote))
  | none =>
    if s.engine.waiting.isEmpty then s.runnerStep? remote
    else some (s.moved (s.engine.takeTurn remote))

/-- Takes at most `n` steps. -/
def stepsWithin : Nat → Session ρ → Session ρ
  | 0, s => s
  | n + 1, s =>
    match s.step? remote with
    | none => s
    | some s => stepsWithin n s

/-- An upper bound for the number of steps: each task, each waiting sync and each call has one cycle. -/
def stepBound (s : Session ρ) : Nat :=
  (s.engine.queue.pending + s.engine.waiting.length + 2) * 12

/-- Takes steps until none can be taken. -/
def run (s : Session ρ) : Session ρ := stepsWithin remote s.stepBound s

/-! ## In the foreground -/

/-- Calls for a sync and waits for its report. -/
def sync (s : Session ρ) : Report × Session ρ :=
  match s.engine.sync remote .caller with
  | (some ended, engine) => (ended.report, { s with engine, holdAfter := none })
  | (none, engine) =>
    let s := { s with engine, call := some none, holdAfter := none }.run remote
    ((s.call.bind id).getD .succeeded, { s with call := none })

/-- Runs the tasks that are due, and answers how many ran. -/
def runDue (s : Session ρ) : Nat × Session ρ :=
  let s := { s with runner := some {}, holdAfter := none }.run remote
  ((s.runner.map Runner.ran).getD 0, { s with runner := none })

/-- Turns the clock forward and runs the tasks that are due. -/
def advance (s : Session ρ) (span : Duration) : Nat × Session ρ :=
  let device := s.engine.device.advance span
  { s with engine := { s.engine with device } }.runDue remote

/-! ## In the background -/

/-- Holds up a file operation of the next work in the background, after `n` others. -/
def pause (s : Session ρ) (n : Nat) : Session ρ := { s with holdAfter := some n }

/-- Calls for a sync in the background. -/
def syncBehind (s : Session ρ) : Background Report × Session ρ :=
  if s.held && s.call.isSome then (.blocked, s)
  else
    let wasHeld := s.held
    let s := ({ s with call := some none }.moved (s.engine.sync remote .caller)).run remote
    if wasHeld then (.started, s)
    else if s.held then (.held, s)
    else (.finished ((s.call.bind id).getD .succeeded), { s with call := none, holdAfter := none })

/-- Runs due tasks in the background. -/
def runBehind (s : Session ρ) : Background Nat × Session ρ :=
  if s.held && s.runner.isSome then (.blocked, s)
  else
    let wasHeld := s.held
    let s := { s with runner := some {} }.run remote
    if wasHeld then (.started, s)
    else if s.held then (.held, s)
    else (.finished ((s.runner.map Runner.ran).getD 0), { s with runner := none, holdAfter := none })

/-- Lets everything go on to its end; answers the report of the call and how many tasks ran. -/
def release (s : Session ρ) : (Option Report × Option Nat) × Session ρ :=
  let s := { s with held := false }.run remote
  ((s.call.bind id, s.runner.map Runner.ran), { s with call := none, runner := none })

end Session

end BookmarkSync
