import BookmarkSync.Proofs.Merge.Laws

/-!
# `BookmarkSync.Proofs.Merge.Expiry` — what a merge loses over time

A merge decides in one pass which record an id has and whether this record has expired. The two are
independent: the choice does not look at the clock, so the joined collection is the collection of the chosen
records (`joined`) less those that have expired (`bookmarks_eq_filter`). A record that has expired never makes
room for another one of its id. Moving the cutoff on only takes tombstones away, and leaves every active
record where it is.
-/

namespace BookmarkSync

namespace Merge

/-! ## Choosing without a clock -/

/-- The record that an id of the far side has in the end, if it does not expire. -/
def chosen (ours : List Bookmark) (theirs : Bookmark) : Option Bookmark :=
  match lookup theirs.id ours with
  | none => if theirs.isActive then some theirs else none
  | some ours => some (winner ours theirs)

/-- The joined collection with everything in it that expires. -/
def joined (ours theirs : List Bookmark) : List Bookmark :=
  (firsts theirs).filterMap (chosen ours) ++ localOnly ours theirs

variable (cutoff : Timestamp) (ours theirs : List Bookmark)

theorem retained_of_isActive {b : Bookmark} (h : b.isActive = true) : retained cutoff b = true := by
  rw [retained, h, Bool.true_or]

theorem resolve_eq_filter (r : Bookmark) :
    resolve cutoff ours r = (chosen ours r).filter (retained cutoff) := by
  unfold resolve chosen
  cases lookup r.id ours with
  | some l => rfl
  | none =>
    -- a record that was never seen here is taken only if it is active, and then it does not expire
    cases hactive : r.isActive with
    | false => rfl
    | true =>
      show some r = (some r).filter (retained cutoff)
      rw [Option.filter_some, if_pos (retained_of_isActive cutoff hactive)]

/-- **A merge chooses first and lets expire afterwards.** -/
theorem bookmarks_eq_filter : bookmarks cutoff ours theirs = (joined ours theirs).filter (retained cutoff) := by
  have hresolve : resolve cutoff ours = fun r => (chosen ours r).filter (retained cutoff) :=
    funext (resolve_eq_filter cutoff ours)
  rw [bookmarks, joined, List.filter_append, List.filter_filterMap, hresolve]

/-! ## Moving the cutoff -/

theorem cutoff_le {now₁ now₂ : Timestamp} {ret₁ ret₂ : Duration} (hnow : now₁ ≤ now₂)
    (hret : ret₂.millis ≤ ret₁.millis) : Merge.cutoff now₁ ret₁ ≤ Merge.cutoff now₂ ret₂ := by
  have hnow' := Int64.le_iff_toInt_le.mp hnow
  rw [Int64.le_iff_toInt_le, Merge.cutoff, Merge.cutoff, Timestamp.toInt_before, Timestamp.toInt_before]
  omega

/-- What is kept up to a cutoff is kept up to an earlier one. -/
theorem retained_of_le {c₁ c₂ : Timestamp} (hle : c₁ ≤ c₂) {b : Bookmark} (h : retained c₂ b = true) :
    retained c₁ b = true := by
  unfold retained at h ⊢
  rw [Bool.or_eq_true, decide_eq_true_eq] at h ⊢
  exact h.imp_right (Int64.lt_of_le_of_lt hle)

/-- What is sorted out first does not matter if it would be sorted out in the end. -/
theorem filter_filter_of_imp {α : Type} {p q : α → Bool} (h : ∀ a, p a = true → q a = true) (as : List α) :
    (as.filter q).filter p = as.filter p := by
  rw [List.filter_filter]
  apply List.filter_congr
  intro a _
  cases hp : p a with
  | false => rfl
  | true => rw [h a hp, Bool.and_self]

/-- **Merging with a later cutoff only sorts out of what an earlier one keeps.** -/
theorem bookmarks_of_le {c₁ c₂ : Timestamp} (hle : c₁ ≤ c₂) :
    bookmarks c₂ ours theirs = (bookmarks c₁ ours theirs).filter (retained c₂) := by
  rw [bookmarks_eq_filter, bookmarks_eq_filter, filter_filter_of_imp fun _ => retained_of_le hle]

/-- The active records of a merge are those that were chosen, whatever the cutoff. -/
theorem active_bookmarks_eq : active (bookmarks cutoff ours theirs) = active (joined ours theirs) := by
  rw [bookmarks_eq_filter, active, filter_filter_of_imp fun _ => retained_of_isActive cutoff]
  rfl

/-- A tombstone is younger than the retention exactly if it is so in integers, as long as these fit. -/
theorem outlives_iff_of_fits {now : Timestamp} {retention : Duration} {b : Bookmark}
    (hdeleted : b.isDeleted = true) (hret : (retention.millis : Int) ≤ Int64.maxValue.toInt)
    (hfits : Int64.minValue.toInt ≤ now.toInt - retention.millis) :
    Outlives now retention b ↔ now.toInt - retention.millis < b.modifiedAt.toInt := by
  rw [Outlives, hdeleted, Int.min_eq_left hret, Int.max_eq_right hfits]
  simp

end Merge

/-- **Expiry only sorts out, and only tombstones.** Merged later or with a shorter retention, two snapshots
give what they give before, in the same order, less the tombstones outside the second window. Their active
records, and the order of these, are the same at all times and with all retentions. Unless a limit of the
clock is in the way, the window is exact: a tombstone is in it if it is younger than the retention. -/
theorem Snapshot.expiry_sorts_out (ours theirs : Snapshot) {now₁ now₂ : Timestamp} {ret₁ ret₂ : Duration}
    (hnow : now₁ ≤ now₂) (hret : ret₂.millis ≤ ret₁.millis) :
    (ours.merge (some theirs) now₂ ret₂).bookmarks
        = (ours.merge (some theirs) now₁ ret₁).bookmarks.filter (fun b => decide (Merge.Outlives now₂ ret₂ b)) ∧
      (∀ now ret now' ret', Merge.active (ours.merge (some theirs) now ret).bookmarks
        = Merge.active (ours.merge (some theirs) now' ret').bookmarks) ∧
      (∀ (now : Timestamp) (ret : Duration) (b : Bookmark), b.isDeleted = true →
        (Merge.retained (Merge.cutoff now ret) b = true ↔ Merge.Outlives now ret b) ∧
        ((ret.millis : Int) ≤ Int64.maxValue.toInt → Int64.minValue.toInt ≤ now.toInt - ret.millis →
          (Merge.Outlives now ret b ↔ now.toInt - ret.millis < b.modifiedAt.toInt))) := by
  refine ⟨?_, ?_, ?_⟩
  · have hkept : Merge.retained (Merge.cutoff now₂ ret₂) = fun b => decide (Merge.Outlives now₂ ret₂ b) :=
      funext (Merge.retained_cutoff now₂ ret₂)
    rw [← hkept]
    exact Merge.bookmarks_of_le ours.bookmarks theirs.bookmarks (Merge.cutoff_le hnow hret)
  · -- the cutoff is asked about deletions only, so any two agree on the active records
    intro now ret now' ret'
    have hactive (c : Timestamp) := Merge.active_bookmarks_eq c ours.bookmarks theirs.bookmarks
    exact (hactive _).trans (hactive _).symm
  · intro now ret b hdeleted
    refine ⟨?_, Merge.outlives_iff_of_fits hdeleted⟩
    rw [Merge.retained_cutoff, decide_eq_true_iff]

/-- The deletion of `y` wins, and expires between the two merges. Neither the bookmark that lost against it
nor the later deletion, which only repeats the id, comes in for it. -/
theorem Snapshot.expiry_sorts_out_winning_deletion :
    let a : Snapshot := ⟨[Merge.changedAt "x" 5, (Merge.changedAt "y" 2).tombstoned 50,
      (Merge.changedAt "y" 2).tombstoned 90, (Merge.changedAt "v" 2).tombstoned 80], .create "a" 0⟩
    let b : Snapshot := ⟨[Merge.changedAt "w" 1, Merge.changedAt "y" 45], .create "b" 0⟩
    (100 : Timestamp) ≤ 120 ∧ (⟨50⟩ : Duration).millis ≤ (⟨60⟩ : Duration).millis ∧
      (a.merge (some b) 100 ⟨60⟩).bookmarks = [Merge.changedAt "w" 1, (Merge.changedAt "y" 2).tombstoned 50,
        Merge.changedAt "x" 5, (Merge.changedAt "v" 2).tombstoned 80] ∧
      (a.merge (some b) 120 ⟨50⟩).bookmarks = [Merge.changedAt "w" 1, Merge.changedAt "x" 5,
        (Merge.changedAt "v" 2).tombstoned 80] := by
  intro a b
  have hnow : (100 : Timestamp) ≤ 120 := by decide
  have hret : (⟨50⟩ : Duration).millis ≤ (⟨60⟩ : Duration).millis := by decide
  have hfirst : (a.merge (some b) 100 ⟨60⟩).bookmarks = [Merge.changedAt "w" 1,
      (Merge.changedAt "y" 2).tombstoned 50, Merge.changedAt "x" 5, (Merge.changedAt "v" 2).tombstoned 80] := by
    decide
  refine ⟨hnow, hret, hfirst, ?_⟩
  rw [(Snapshot.expiry_sorts_out a b hnow hret).1, hfirst]
  decide

end BookmarkSync
