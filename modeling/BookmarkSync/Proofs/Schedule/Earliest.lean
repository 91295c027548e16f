import BookmarkSync.Proofs.Schedule.Pending

/-!
# `BookmarkSync.Proofs.Schedule.Earliest` — the task that comes first

Tasks come in the order of their due times, and of their numbers where these are equal (`Precedes`). The task
that starts precedes every other one that waits (`precedes_of_firstDue?`), whether that one is due or not.
-/

namespace BookmarkSync

/-- A task comes before another one if it is due earlier, or was scheduled first of two that are due at the
same time. -/
def Precedes (s t : Nat × Timestamp) : Prop := s.2 < t.2 ∨ s.2 = t.2 ∧ s.1 < t.1

theorem Precedes.le {s t : Nat × Timestamp} (h : Precedes s t) : s.2 ≤ t.2 := by
  rcases h with hlt | ⟨heq, -⟩
  · exact Int64.le_of_lt hlt
  · exact heq ▸ Int64.le_refl _

theorem precedes_of_le {s t : Nat × Timestamp} (hdue : s.2 ≤ t.2) (hnumber : s.1 < t.1) : Precedes s t :=
  (Int64.lt_or_eq_of_le hdue).imp id fun heq => ⟨heq, hnumber⟩

namespace Queue

variable {α : Type} {q : Queue α} {limit : Timestamp} {t u : ScheduledTask α} {n k : Nat}

theorem earliest?_eq_none {ts : List (ScheduledTask α × Nat)} (h : earliest? ts = none) : ts = [] := by
  cases ts with
  | nil => rfl
  | cons v ts =>
    unfold earliest? at h
    split at h
    · cases h
    · split at h <;> cases h

/-- Of tasks in the order of their numbers, the earliest one precedes the others. -/
theorem precedes_of_earliest? {ts : List (ScheduledTask α × Nat)} (hsorted : ts.Pairwise (·.2 < ·.2))
    (h : earliest? ts = some (t, n)) : ∀ v ∈ ts, v = (t, n) ∨ Precedes (n, t.due) (v.2, v.1.due) := by
  induction ts generalizing t n with
  | nil => cases h
  | cons first ts ih =>
    obtain ⟨hfirst, hsorted⟩ := List.pairwise_cons.mp hsorted
    rw [earliest?] at h
    intro v hv
    cases hrest : earliest? ts with
    | none =>
      rw [hrest] at h
      cases h
      obtain rfl := earliest?_eq_none hrest
      exact .inl (List.mem_singleton.mp hv)
    | some next =>
      simp only [hrest] at h
      have hnext := ih hsorted hrest
      split at h
      · next hearlier =>
        cases h
        rcases List.mem_cons.mp hv with rfl | hv
        · exact .inr (.inl hearlier)
        · exact hnext v hv
      · next hlater =>
        cases h
        rcases List.mem_cons.mp hv with rfl | hv
        · exact .inl rfl
        -- the first task is not due later than the next one, which is not due later than the others
        · have hle : next.1.due ≤ v.1.due := by
            rcases hnext v hv with rfl | hprecedes
            · exact Int64.le_refl _
            · exact hprecedes.le
          exact .inr (precedes_of_le (Int64.le_trans (Int64.not_lt.mp hlater) hle) (hfirst v hv))

theorem mem_due_iff :
    (u, k) ∈ q.tasks.zipIdx.filter (fun t => t.1.isDue limit) ↔ q.Awaits k u ∧ u.due ≤ limit := by
  rw [List.mem_filter, List.mem_zipIdx_iff_getElem?, ScheduledTask.isDue, Bool.and_eq_true, decide_eq_true_eq,
    Awaits, and_assoc]

/-- The task that starts precedes all that go on waiting. -/
theorem precedes_of_firstDue? (h : q.firstDue? limit = some (t, n)) (hu : q.Awaits k u) (hne : k ≠ n) :
    Precedes (n, t.due) (k, u.due) := by
  obtain ⟨-, -, hdue⟩ := firstDue?_eq_some h
  by_cases hlimit : u.due ≤ limit
  · have hnumbers : (q.tasks.zipIdx.map Prod.snd).Pairwise (· < ·) := by
      rw [List.zipIdx_map_snd]
      exact List.pairwise_lt_range'
    have hsorted := (List.pairwise_map.mp hnumbers).filter fun t => t.1.isDue limit
    rcases precedes_of_earliest? hsorted h (u, k) (mem_due_iff.mpr ⟨hu, hlimit⟩) with heq | hprecedes
    · exact absurd (congrArg Prod.snd heq) hne
    · exact hprecedes
  · exact .inl (Int64.lt_of_le_of_lt hdue (Int64.not_le.mp hlimit))

/-- When no task is to start, none that waits is due. -/
theorem lt_due_of_firstDue? (h : q.firstDue? limit = none) (hu : q.Awaits k u) : limit < u.due := by
  refine Int64.not_le.mp fun hlimit => ?_
  have hmem := mem_due_iff.mpr ⟨hu, hlimit⟩
  rw [earliest?_eq_none h] at hmem
  cases hmem

/-- The due time of the earliest task is the smallest one. -/
theorem map_due_earliest? (ts : List (ScheduledTask α × Nat)) :
    (earliest? ts).map (·.1.due) = (ts.map (·.1.due)).min? := by
  induction ts with
  | nil => rfl
  | cons first ts ih =>
    rw [List.map_cons, List.min?_cons, ← ih, earliest?]
    cases earliest? ts with
    | none => rfl
    | some next =>
      have hmin : min first.1.due next.1.due
          = if first.1.due ≤ next.1.due then first.1.due else next.1.due := rfl
      simp only [Option.map_some, Option.elim_some, hmin]
      split
      · next hearlier => rw [Option.map_some, if_neg (Int64.not_le.mpr hearlier)]
      · next hlater => rw [Option.map_some, if_pos (Int64.not_lt.mp hlater)]

/-! ## Settled tasks -/

theorem not_isSettled_iff (h : n < q.nextNumber) : ¬ q.IsSettled n ↔ ∃ t, q.Awaits n t := by
  rw [IsSettled, not_and, Classical.not_forall]
  simp only [Classical.not_not, h, forall_const]

theorem isSettled_schedule_iff {now : Timestamp} {delay : Duration} {job : α} :
    (q.schedule now delay job).IsSettled n ↔ q.IsSettled n := by
  constructor
  · rintro ⟨hlt, hnone⟩
    rw [nextNumber_schedule] at hlt
    have hne : n ≠ q.nextNumber := fun heq => hnone _ (awaits_schedule.mpr (.inr ⟨heq, rfl⟩))
    exact ⟨by omega, fun t ht => hnone t (awaits_schedule.mpr (.inl ht))⟩
  · exact fun h => h.schedule now delay job

theorem isSettled_settle_iff {status : TaskStatus} (hstatus : status ≠ .pending) :
    (q.settle k status).IsSettled n ↔ q.IsSettled n ∨ n = k ∧ k < q.nextNumber := by
  simp only [IsSettled, nextNumber_settle, awaits_settle hstatus, not_and]
  constructor
  · rintro ⟨hlt, hnone⟩
    by_cases hk : n = k
    · exact .inr ⟨hk, hk ▸ hlt⟩
    · exact .inl ⟨hlt, fun t => hnone t hk⟩
  · rintro (⟨hlt, hnone⟩ | ⟨rfl, hlt⟩)
    · exact ⟨hlt, fun t _ => hnone t⟩
    · exact ⟨hlt, fun t hne => absurd rfl hne⟩

/-- Starting or cancelling a task leaves all due times as they are. -/
theorem map_due_settle (k : Nat) (status : TaskStatus) :
    (q.settle k status).tasks.map (·.due) = q.tasks.map (·.due) := by
  refine List.ext_getElem? fun i => ?_
  rw [settle, List.getElem?_map, List.getElem?_map, List.getElem?_modify]
  cases q.tasks[i]? with
  | none => rfl
  | some t =>
    simp only [Option.map_eq_map, Option.map_some]
    split
    · split <;> rfl
    · rfl

end Queue

end BookmarkSync
