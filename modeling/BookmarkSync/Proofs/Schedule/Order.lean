import BookmarkSync.Proofs.Schedule.Telling

/-!
# `BookmarkSync.Proofs.Schedule.Order` — what is told fits together

Each occurrence in a course fits what was told before it (`Occurrence.Fits`). This follows from what every move
keeps (`Kept`): the queue says what was told, and the tasks that were started precede those that wait. The order
needs a clock that is not turned back, as a task that is scheduled is due no earlier than the clock shows.
-/

namespace BookmarkSync

open Occurrence

/-- What is seen fits what was told before. -/
def Occurrence.Fits (told : List Occurrence) : Occurrence → Prop
  -- tasks are numbered as they are scheduled
  | .scheduled n _ => n = (scheduledIn told).length
  | .cancelled n answer => answer = true ↔ n ∈ (waitingIn told).map Prod.fst
  | .started n due now _ => (n, due) ∈ waitingIn told ∧ due ≤ now ∧ ∀ s ∈ startedIn told, Precedes s (n, due)
  | .called _ => True
  | .returned level ran now => ran = startedBy level told ∧ ∀ task ∈ waitingIn told, now < task.2

/-! ## The order of starts -/

/-- The tasks that were started are in order, each of them once, and precede those that wait. -/
structure Ordered (told : List Occurrence) (clock : Timestamp) : Prop where
  once : ((startedIn told).map Prod.fst).Nodup
  increasing : (startedIn told).Pairwise Precedes
  ahead : ∀ s ∈ startedIn told, ∀ t ∈ waitingIn told, Precedes s t
  passed : ∀ s ∈ startedIn told, s.2 ≤ clock

namespace Ordered

variable {told : List Occurrence} {clock clock' : Timestamp} {o : Occurrence}

theorem later (h : Ordered told clock) (hclock : clock ≤ clock') : Ordered told clock' :=
  ⟨h.once, h.increasing, h.ahead, fun s hs => Int64.le_trans (h.passed s hs) hclock⟩

/-- Nothing is started, and no more tasks wait. -/
theorem append (h : Ordered told clock) (hscheduled : o.scheduled? = none) (hstarted : o.started? = none) :
    Ordered (told ++ [o]) clock := by
  have hsame : startedIn (told ++ [o]) = startedIn told := by
    rw [startedIn_append]
    simp [startedIn, hstarted]
  have hnone : scheduledIn [o] = [] := by simp [scheduledIn, hscheduled]
  refine ⟨hsame ▸ h.once, hsame ▸ h.increasing, fun s hs t ht => ?_, fun s hs => h.passed s (hsame ▸ hs)⟩
  exact h.ahead s (hsame ▸ hs) t (waitingIn_of_append hnone ht)

/-- A task that is scheduled comes after those that were started: it is not due before now, and has the last
number. -/
theorem schedule (h : Ordered told clock) {α : Type} {q : Queue α} (htold : Told told q) (delay : Duration) :
    Ordered (told ++ [.scheduled q.nextNumber (clock.after delay)]) clock := by
  have hsame : startedIn (told ++ [.scheduled q.nextNumber (clock.after delay)]) = startedIn told := by
    rw [startedIn_append]
    exact List.append_nil _
  refine ⟨hsame ▸ h.once, hsame ▸ h.increasing, fun s hs t ht => ?_, fun s hs => h.passed s (hsame ▸ hs)⟩
  rw [hsame] at hs
  obtain ⟨hscheduled, hsettled⟩ := mem_waitingIn.mp ht
  rw [scheduledIn_append, List.mem_append] at hscheduled
  rcases hscheduled with hold | hnew
  · have hwaits : t.1 ∉ settledIn told := fun hmem => hsettled (mem_settledIn_append.mpr (.inl hmem))
    exact h.ahead s hs t (mem_waitingIn.mpr ⟨hold, hwaits⟩)
  · obtain rfl := List.mem_singleton.mp hnew
    have hknown : s.1 < q.nextNumber := ((htold.settled s.1).mp (mem_settledIn_of_started hs)).1
    exact precedes_of_le (Int64.le_trans (h.passed s hs) (Timestamp.le_after clock delay)) hknown

/-- The task that starts is ahead of those that go on waiting. -/
theorem start (h : Ordered told clock) {α : Type} {q : Queue α} (htold : Told told q) {limit now : Timestamp}
    {t : ScheduledTask α} {n : Nat} (hfirst : q.firstDue? limit = some (t, n)) (hclock : clock ≤ now)
    (hdue : t.due ≤ now) (level : Nat) : Ordered (told ++ [.started n t.due now level]) now := by
  have hawaits : q.Awaits n t := (Queue.awaits_of_firstDue? hfirst).1
  have hwaits : (n, t.due) ∈ waitingIn told := htold.mem_waitingIn_iff.mpr ⟨t, hawaits, rfl⟩
  have hmore : startedIn (told ++ [.started n t.due now level]) = startedIn told ++ [(n, t.due)] :=
    startedIn_append _ _
  refine ⟨?_, ?_, fun s hs ⟨k, due⟩ hk => ?_, fun s hs => ?_⟩
  · -- a task that has been started is settled, and so no longer waits
    have hfresh : n ∉ (startedIn told).map Prod.fst := fun hmem =>
      (mem_waitingIn.mp hwaits).2 (List.mem_append_left _ hmem)
    rw [hmore, List.map_append, List.nodup_append]
    refine ⟨h.once, List.pairwise_singleton _ _, fun k hk m hm heq => hfresh ?_⟩
    rwa [heq, List.mem_singleton.mp hm] at hk
  · rw [hmore, List.pairwise_append]
    refine ⟨h.increasing, List.pairwise_singleton _ _, fun s hs u hu => ?_⟩
    rw [List.mem_singleton.mp hu]
    exact h.ahead s hs _ hwaits
  · -- what waits now was waiting before, and the queue took the first of them
    have hold : (k, due) ∈ waitingIn told := waitingIn_of_append rfl hk
    rw [hmore, List.mem_append, List.mem_singleton] at hs
    rcases hs with hs | rfl
    · exact h.ahead s hs (k, due) hold
    · obtain ⟨u, hu, rfl⟩ := htold.mem_waitingIn_iff.mp hold
      have hne : k ≠ n := by
        rintro rfl
        refine (mem_waitingIn.mp hk).2 (mem_settledIn_append.mpr (.inr ?_))
        simp [settledIn, startedIn, started?]
      exact Queue.precedes_of_firstDue? hfirst hu hne
  · rw [hmore, List.mem_append, List.mem_singleton] at hs
    rcases hs with hs | rfl
    · exact Int64.le_trans (h.passed s hs) hclock
    · exact hdue

end Ordered

/-! ## What every move keeps -/

/-- What was told fits together, and fits the agenda. -/
structure Kept (told : List Occurrence) (a : Agenda) : Prop where
  accepting : a.accepting = true
  queue : Told told a.queue
  runs : Counted told a.shape
  order : Ordered told a.clock
  fits : ∀ before o later, told = before ++ o :: later → o.Fits before

namespace Agenda

variable {told : List Occurrence} {a b : Agenda}

theorem kept_start (clock : Timestamp) : Kept [] { clock } where
  accepting := rfl
  queue := told_empty
  runs := trivial
  order := ⟨.nil, .nil, nofun, nofun⟩
  fits := by simp

/-- What is seen of a move fits what was told before. -/
theorem Effect.fits {o : Occurrence} (h : Effect a (some o) b) (hkept : Kept told a) : o.Fits told := by
  cases h with
  | scheduled delay job => exact hkept.queue.length_scheduledIn.symm
  | cancelled n => exact hkept.queue.mem_numbers_iff.symm
  | called => trivial
  | started hfirst hqueue hclock hdue hshape =>
    have hwaits := hkept.queue.mem_waitingIn_iff.mpr ⟨_, (Queue.awaits_of_firstDue? hfirst).1, rfl⟩
    exact ⟨hwaits, hdue, fun s hs => hkept.order.ahead s hs _ hwaits⟩
  | returned hclock hnone hqueue hran hshape =>
    have hruns := hkept.runs
    rw [hshape] at hruns
    refine ⟨hruns.1.symm, fun task htask => ?_⟩
    obtain ⟨t, ht, hdue⟩ := hkept.queue.mem_waitingIn_iff.mp htask
    exact hdue ▸ Queue.lt_due_of_firstDue? hnone ht

/-- The queue goes on saying what is told. -/
theorem Effect.tells {o? : Option Occurrence} (h : Effect a o? b) (hqueue : Told told a.queue) :
    Told (told ++ o?.toList) b.queue := by
  cases h with
  | quiet hsame => simpa [hsame] using hqueue
  | scheduled delay job hb => exact hb ▸ hqueue.schedule a.clock delay job
  | cancelled n hb => exact hb ▸ hqueue.cancel n
  | called hsame => exact hsame ▸ hqueue.append rfl rfl
  | started hfirst hb => exact hb ▸ hqueue.start (Queue.awaits_of_firstDue? hfirst).1 _ _
  | finished hsame => simpa [hsame] using hqueue
  | returned _ _ hsame => exact hsame ▸ hqueue.append rfl rfl

/-- The runs that are going on go on counting what they have started. -/
theorem Effect.counted {o? : Option Occurrence} (h : Effect a o? b) (hruns : Counted told a.shape) :
    Counted (told ++ o?.toList) b.shape := by
  cases h with
  | quiet _ hsame => simpa [hsame] using hruns
  | scheduled _ _ _ hsame => exact hsame ▸ hruns.append fun _ _ _ => rfl
  | cancelled n _ hsame => exact hsame ▸ hruns.append fun _ _ _ => by cases (a.queue.cancel n).1 <;> rfl
  | called _ hb => exact hb ▸ hruns.called
  | started _ _ _ _ ha hb => exact hb ▸ (ha ▸ hruns).started _ _ _
  | finished _ ha hb =>
    rw [ha] at hruns
    simpa [hb] using hruns.finished
  | returned _ _ _ _ ha hb =>
    rw [ha] at hruns
    exact hb ▸ hruns.2.append fun _ _ _ => rfl

/-- The order goes on, while the clock is not turned back. -/
theorem Effect.ordered {o? : Option Occurrence} (h : Effect a o? b) (hforward : a.clock ≤ b.clock)
    (hqueue : Told told a.queue) (horder : Ordered told a.clock) : Ordered (told ++ o?.toList) b.clock := by
  cases h with
  | quiet => simpa using horder.later hforward
  | scheduled delay => exact (horder.schedule hqueue delay).later hforward
  | cancelled => exact (horder.append rfl rfl).later hforward
  | called => exact (horder.append rfl rfl).later hforward
  | started hfirst _ hclock hdue =>
    subst hclock
    exact horder.start hqueue hfirst hforward hdue _
  | finished => simpa using horder.later hforward
  | returned => exact (horder.append rfl rfl).later hforward

theorem fits_append {o? : Option Occurrence}
    (h : ∀ before o later, told = before ++ o :: later → o.Fits before) (ho : ∀ o, o? = some o → o.Fits told)
    {before later : List Occurrence} {o : Occurrence} (heq : told ++ o?.toList = before ++ o :: later) :
    o.Fits before := by
  cases o? with
  | none => exact h before o later (by rwa [Option.toList_none, List.append_nil] at heq)
  | some last =>
    rcases List.eq_nil_or_concat later with rfl | ⟨later, last', rfl⟩
    · obtain ⟨rfl, hlast⟩ := List.append_inj' heq rfl
      cases hlast
      exact ho _ rfl
    · rw [List.concat_eq_append, ← List.cons_append, ← List.append_assoc] at heq
      exact h before o later (List.append_inj' heq rfl).1

/-- **Every move keeps what was told in order, while the clock is not turned back.** -/
theorem kept_act (m : Move) (hforward : a.clock ≤ (a.act m).clock) (h : Kept told a) :
    Kept (told ++ (a.seen? m).toList) (a.act m) := by
  obtain ⟨heffect, haccepting⟩ := effect_act h.accepting m
  exact {
    accepting := haccepting
    queue := heffect.tells h.queue
    runs := heffect.counted h.runs
    order := heffect.ordered hforward h.queue h.order
    fits := fun _ _ _ => fits_append h.fits fun o ho => Effect.fits (ho ▸ heffect) h }

/-- **What is told of a course fits together**, while the clock is not turned back. -/
theorem kept_course {moves : List Move} (hforward : a.IsForward moves) (h : Kept told a) :
    Kept (told ++ a.trace moves) (a.after moves) :=
  course_induction _ hforward (fun _ _ m => kept_act m) h

end Agenda

end BookmarkSync
