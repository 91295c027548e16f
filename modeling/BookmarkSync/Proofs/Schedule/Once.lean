import Mathlib.Data.List.Nodup
import Mathlib.Data.List.Perm.Subperm
import BookmarkSync.Proofs.Schedule.Order

/-!
# `BookmarkSync.Proofs.Schedule.Once` — tasks run once, in order, unless cancelled

What was told of a course fits together (`Kept`). So no task starts twice or after it was cancelled, and while
nothing is scheduled only those start that were waiting (`RunsOnce`). A run that is called when nothing is going
on is itself a course (`runDue_eq_after`), and its answer is the last thing that is seen of it.
-/

namespace BookmarkSync

open Occurrence

/-- What is told of tasks that run once, in order, unless cancelled. -/
structure RunsOnce (told : List Occurrence) : Prop where
  once : ((startedIn told).map Prod.fst).Nodup
  increasing : (startedIn told).Pairwise Precedes
  fits : ∀ before o later, told = before ++ o :: later → o.Fits before
  /-- A task that was cancelled does not start. -/
  final : ∀ before n later, told = before ++ .cancelled n true :: later → n ∉ (startedIn later).map Prod.fst
  /-- While nothing is scheduled, no more tasks start than were waiting. -/
  bounded : ∀ before later, told = before ++ later → scheduledIn later = [] →
    (startedIn later).length ≤ (waitingIn before).length

section

variable {told before later : List Occurrence}

theorem mem_startedIn {task : Nat × Timestamp} :
    task ∈ startedIn told ↔ ∃ now level, .started task.1 task.2 now level ∈ told := by
  obtain ⟨n, due⟩ := task
  rw [startedIn, List.mem_filterMap]
  constructor
  · rintro ⟨o, ho, hstarted⟩
    cases o <;> cases hstarted
    exact ⟨_, _, ho⟩
  · rintro ⟨now, level, ho⟩
    exact ⟨_, ho, rfl⟩

/-- What starts in a part of what is told was scheduled before, and neither started nor cancelled. -/
theorem waiting_of_started (hfits : ∀ before o later, told = before ++ o :: later → o.Fits before)
    (htold : told = before ++ later) {task : Nat × Timestamp} (htask : task ∈ startedIn later) :
    ∃ first rest, later = first ++ rest ∧ task ∈ waitingIn (before ++ first) := by
  obtain ⟨now, level, hmem⟩ := mem_startedIn.mp htask
  obtain ⟨first, rest, rfl⟩ := List.append_of_mem hmem
  rw [← List.append_assoc] at htold
  exact ⟨first, _, rfl, (hfits _ _ _ htold).1⟩

theorem Kept.runsOnce {a : Agenda} (h : Kept told a) : RunsOnce told where
  once := h.order.once
  increasing := h.order.increasing
  fits := h.fits
  final before n later htold hmem := by
    obtain ⟨⟨k, due⟩, htask, rfl⟩ := List.mem_map.mp hmem
    -- had it been started later, it would have been waiting just after it was cancelled
    have hsplit : told = (before ++ [.cancelled k true]) ++ later := by
      rw [htold, List.append_assoc, List.singleton_append]
    obtain ⟨first, -, -, hwaits⟩ := waiting_of_started h.fits hsplit htask
    refine (mem_waitingIn.mp hwaits).2 (mem_settledIn_append.mpr (.inl (mem_settledIn_append.mpr (.inr ?_))))
    simp [settledIn, startedIn, cancelledIn, started?, cancelled?]
  bounded before later htold hnone := by
    have hnodup : (startedIn later).Nodup := by
      have hall := h.order.once
      rw [htold, startedIn_append, List.map_append, List.nodup_append] at hall
      exact List.Nodup.of_map Prod.fst hall.2.1
    -- nothing was scheduled meanwhile, so all that was started had been waiting before
    refine (List.subperm_of_subset hnodup fun task htask => ?_).length_le
    obtain ⟨first, rest, rfl, hwaits⟩ := waiting_of_started h.fits htold htask
    rw [scheduledIn_append, List.append_eq_nil_iff] at hnone
    exact waitingIn_of_append hnone.1 hwaits

end

/-! ## Runs -/

namespace Agenda

variable {told : List Occurrence} {a : Agenda}

theorem stack_eq_nil_of_step? (h : a.step? = none) : a.stack = [] := by
  unfold step? at h
  split at h
  · assumption
  · cases h
  · cases h
  · split at h <;> cases h

/-- The small steps of a run are a course, and the last of them leaves nothing to do. -/
theorem run_eq_act (h : a.stack ≠ []) : ∃ k, let b := a.after (List.replicate k .step)
    b.stack ≠ [] ∧ a.run = b.act .step ∧ a.run.stack = [] := by
  -- the induction follows the run: its last step is the one that empties the stack
  fun_induction run a with
  | case1 a hnone => exact absurd (stack_eq_nil_of_step? hnone) h
  | case2 a b hstep ih =>
    have hact : a.act .step = b := by rw [act, hstep, Option.getD_some]
    by_cases hb : b.stack = []
    · have hend : b.step? = none := by rw [step?, hb]
      -- no step is possible on an empty stack
      have hrun : b.run = b := by
        rw [run]
        split
        · rfl
        · next hsome => rw [hend] at hsome; cases hsome
      exact ⟨0, h, hrun.trans hact.symm, hrun.symm ▸ hb⟩
    · obtain ⟨k, hstack, hrun⟩ := ih hb
      refine ⟨k + 1, ?_⟩
      rw [List.replicate_succ, after, List.foldl_cons, hact]
      exact ⟨hstack, hrun⟩

/-- Of the step that leaves nothing to do it is seen how many tasks were started. -/
theorem seen_last (hkept : Kept told a) (hstack : a.stack ≠ []) (hend : (a.act .step).stack = []) :
    a.seen? .step = some (.returned 0 (a.act .step).ran (a.act .step).clock) := by
  have hshape : a.shape ≠ [] := fun h => hstack (List.map_eq_nil_iff.mp h)
  have hnil : (a.act .step).shape = [] := by rw [shape, hend, List.map_nil]
  have hruns := hkept.runs
  obtain ⟨heffect, -⟩ := effect_act hkept.accepting .step
  generalize a.seen? .step = seen, a.act .step = b at heffect hnil
  cases heffect with
  | quiet _ hsame => exact absurd (hsame ▸ hnil) hshape
  | scheduled _ _ _ hsame => exact absurd (hsame ▸ hnil) hshape
  | cancelled _ _ hsame => exact absurd (hsame ▸ hnil) hshape
  | called _ hb => exact absurd (hb ▸ hnil) (List.cons_ne_nil _ _)
  | started _ _ _ _ _ hb => exact absurd (hb ▸ hnil) (List.cons_ne_nil _ _)
  | @finished _ below _ ha hb =>
    -- a task is going on only within the run that has started it
    rw [ha] at hruns
    rcases below with _ | ⟨_ | ran, below⟩
    · exact hruns.elim
    · exact hruns.elim
    · exact absurd (hb ▸ hnil) (List.cons_ne_nil _ _)
  | returned hclock _ _ hran ha hb =>
    obtain rfl := hb.symm.trans hnil
    rw [hclock, hran, List.length_nil]

/-- A run that is called when nothing is going on is a course. -/
theorem runDue_eq_after (h : a.stack = []) : ∃ k, let b := a.after (.runDue :: List.replicate k .step)
    b.stack ≠ [] ∧ a.runDue = ((b.act .step).ran, b.act .step) ∧ (b.act .step).stack = [] := by
  have hcall : { a with stack := [.due none 0] } = a.act .runDue := by rw [act, h]
  obtain ⟨k, hstack, hrun, hend⟩ := run_eq_act (a := a.act .runDue) (List.cons_ne_nil _ _)
  rw [hrun] at hend
  refine ⟨k, hstack, ?_, hend⟩
  rw [runDue, hcall, hrun]
  rfl

theorem isForward_append {moves moves' : List Move} :
    a.IsForward (moves ++ moves') ↔ a.IsForward moves ∧ (a.after moves).IsForward moves' := by
  induction moves generalizing a with
  | nil => simp only [List.nil_append, IsForward, after, List.foldl_nil, true_and]
  | cons m moves ih => rw [List.cons_append, IsForward, IsForward, ih, and_assoc]; rfl

/-- The last that is seen of a run is its answer. -/
theorem kept_runDue (h : Kept told a) (hidle : a.stack = []) : ∃ k, let run := .runDue :: List.replicate k .step
    a.runDue.2 = a.after run ∧ (a.IsForward run → Kept (told ++ a.trace run) a.runDue.2 ∧
      ∃ before, told ++ a.trace run = before ++ [.returned 0 a.runDue.1 a.runDue.2.clock]) := by
  obtain ⟨k, hstack, hrun, hend⟩ := runDue_eq_after hidle
  have hsteps : Move.runDue :: List.replicate (k + 1) .step
      = (.runDue :: List.replicate k .step) ++ [.step] := by
    rw [List.replicate_succ', List.cons_append]
  have hafter : a.runDue.2 = a.after (.runDue :: List.replicate (k + 1) .step) := by
    rw [hsteps, after_append, hrun]
    rfl
  refine ⟨k + 1, hafter, fun hforward => ⟨hafter ▸ kept_course hforward h, ?_⟩⟩
  rw [hsteps, isForward_append] at hforward
  have hlast : (a.after (.runDue :: List.replicate k .step)).trace [.step]
      = [.returned 0 a.runDue.1 a.runDue.2.clock] := by
    rw [trace, seen_last (kept_course hforward.1 h) hstack hend, hrun]
    rfl
  exact ⟨told ++ a.trace (.runDue :: List.replicate k .step),
    by rw [hsteps, trace_append, hlast, List.append_assoc]⟩

/-- **Tasks run once, in order, unless cancelled**, in every course from an empty queue on in which the clock is
not turned back. What is pending and what comes next is told by what happened. A run that is called when nothing
is going on ends, answers how many tasks it has started, and leaves none that is due. -/
theorem tasks_run_once_in_order (clock : Timestamp) (moves : List Move) (hforward : IsForward { clock } moves) :
    let a := after { clock } moves
    let told := trace { clock } moves
    RunsOnce told ∧
    a.queue.pending = (waitingIn told).length ∧
    a.queue.nextDue? = ((waitingIn told).map Prod.snd).min? ∧
    (∀ span, a.advance span = (a.act (.setClock (a.clock.turned span))).runDue) ∧
    (a.stack = [] → ∃ k, let run := .runDue :: List.replicate k .step
      let more := a.trace run
      a.runDue.2 = a.after run ∧
      (a.IsForward run →
        a.runDue.1 = startedBy 0 (told ++ more) ∧
        (∀ task ∈ waitingIn (told ++ more), a.runDue.2.clock < task.2) ∧
        (scheduledIn more = [] → (startedIn more).length ≤ a.queue.pending))) := by
  intro a told
  have hkept : Kept told a := kept_course hforward (kept_start clock)
  refine ⟨hkept.runsOnce, hkept.queue.pending_eq, hkept.queue.nextDue?_eq, fun span => rfl, fun hidle => ?_⟩
  obtain ⟨k, hafter, hrun⟩ := kept_runDue hkept hidle
  refine ⟨k, hafter, fun hrunForward => ?_⟩
  obtain ⟨hkeptRun, before, htold⟩ := hrun hrunForward
  -- the run ends with the call that finds nothing left to start
  obtain ⟨hcount, hnone⟩ := hkeptRun.fits before _ [] htold
  refine ⟨?_, fun task htask => hnone task ?_, fun hscheduled => ?_⟩
  · rw [htold, startedBy_append]
    exact hcount
  · exact waitingIn_of_append rfl (htold ▸ htask)
  · rw [hkept.queue.pending_eq]
    exact hkeptRun.runsOnce.bounded told _ rfl hscheduled

/-- Three tasks are scheduled and one of them is cancelled. The first one to start turns the clock forward, and
schedules a task that is due at once and starts last. -/
def threeTasks : List Move :=
  [.schedule "late" ⟨20⟩ [], .schedule "early" ⟨10⟩ [.setClock 30, .schedule "last" ⟨0⟩ []],
    .schedule "never" ⟨5⟩ [], .cancel 2, .setClock 10, .runDue] ++ List.replicate 8 .step

/-- The tasks that were not cancelled start in order, one in the time of another one. -/
theorem tasks_run_once_in_order_three :
    startedIn (trace { clock := 0 } threeTasks) = [(1, 10), (0, 20), (3, 30)] ∧
    RunsOnce (trace { clock := 0 } threeTasks) :=
  ⟨by decide, (tasks_run_once_in_order 0 threeTasks (by decide)).1⟩

end Agenda

end BookmarkSync
