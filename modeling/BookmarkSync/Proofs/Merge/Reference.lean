import BookmarkSync.Proofs.Merge.Kept
import BookmarkSync.Proofs.Time

/-!
# `BookmarkSync.Proofs.Merge.Reference` — what a merge is meant to give

The meaning of a merge is stated one id at a time, from the first record that each side has for the id,
and without the lists of ids that the definition goes through. Repeated ids, tombstones that win, lose,
expire or were never seen, and equal change times are all cases of it.
-/

namespace BookmarkSync

namespace Merge

/-- Whether a record outlives a merge at `now`: it is active, or a tombstone younger than the retention.
The cutoff is exact but for its two limits: a retention counts for at most the largest reading, and the
cutoff is not before the first one. -/
def Outlives (now : Timestamp) (retention : Duration) (b : Bookmark) : Prop :=
  b.isDeleted = false ∨
    max Int64.minValue.toInt (now.toInt - min (retention.millis : Int) Int64.maxValue.toInt) <
      b.modifiedAt.toInt

instance (now : Timestamp) (retention : Duration) (b : Bookmark) : Decidable (Outlives now retention b) :=
  inferInstanceAs (Decidable (_ ∨ _))

/-- The test of the definition, on clamped times, is the condition on integers. -/
theorem retained_cutoff (now : Timestamp) (retention : Duration) (b : Bookmark) :
    retained (cutoff now retention) b = decide (Outlives now retention b) := by
  have hlt : cutoff now retention < b.modifiedAt ↔
      max Int64.minValue.toInt (now.toInt - min (retention.millis : Int) Int64.maxValue.toInt)
        < b.modifiedAt.toInt := by
    rw [Int64.lt_iff_toInt_lt, cutoff, Timestamp.toInt_before]
  rw [Bool.eq_iff_iff, retained, Bool.or_eq_true, decide_eq_true_iff, decide_eq_true_iff, hlt]
  exact or_congr_left (Bool.not_eq_true' b.isDeleted).to_iff

/-- Only a tombstone can fail to outlive a merge. -/
theorem outlives_iff {now : Timestamp} {retention : Duration} {b : Bookmark} :
    Outlives now retention b ↔ (b.isDeleted = true → cutoff now retention < b.modifiedAt) := by
  have hretained := retained_cutoff now retention b
  rw [retained, Bookmark.isActive] at hretained
  rw [← decide_eq_true_iff (p := Outlives now retention b), ← hretained]
  cases b.isDeleted <;> simp

theorem isDeleted_of_not_outlives {now : Timestamp} {retention : Duration} {b : Bookmark}
    (h : ¬ Outlives now retention b) : b.isDeleted = true := by
  cases hb : b.isDeleted with
  | true => rfl
  | false => exact absurd (.inl hb) h

/-- What a merge of the local collection `ours` and the remote collection `theirs` is meant to give. The
record of an id on one side is the first one there. -/
structure Reference (now : Timestamp) (retention : Duration) (ours theirs merged : List Bookmark) : Prop where
  unique : (ids merged).Nodup
  neither : ∀ x, lookup x ours = none → lookup x theirs = none → lookup x merged = none
  theirsOnly : ∀ x r, lookup x ours = none → lookup x theirs = some r →
    lookup x merged = if r.isDeleted then none else some r
  oursOnly : ∀ x l, lookup x ours = some l → lookup x theirs = none →
    lookup x merged = if Outlives now retention l then some l else none
  theirsLater : ∀ x l r, lookup x ours = some l → lookup x theirs = some r →
    l.modifiedAt.toInt < r.modifiedAt.toInt →
    lookup x merged = if Outlives now retention r then some r else none
  theirsNotLater : ∀ x l r, lookup x ours = some l → lookup x theirs = some r →
    r.modifiedAt.toInt ≤ l.modifiedAt.toInt →
    lookup x merged = if Outlives now retention l then some l else none
  /-- The remote ids come first, then those that only this side has, each where it first appears. -/
  inOrder : ids merged =
    ((ids theirs).eraseDups ++ ((ids ours).filter (· ∉ ids theirs)).eraseDups).filter
      fun x => (lookup x merged).isSome

/-- The definition gives each id the record it is meant to have; each field is one case of `kept`. -/
theorem reference_bookmarks (now : Timestamp) (retention : Duration) (ours theirs : List Bookmark) :
    Reference now retention ours theirs (bookmarks (cutoff now retention) ours theirs) where
  unique := nodup_ids_bookmarks _ ours theirs
  neither x hl hr := by
    rw [lookup_bookmarks, kept, hr, hl]
    rfl
  theirsOnly x r hl hr := by
    have hid : lookup r.id ours = none := (id_of_lookup hr).symm ▸ hl
    rw [lookup_bookmarks, kept, hr]
    simp only [resolve, hid]
    by_cases hdeleted : r.isDeleted = true
    · rw [if_pos hdeleted, if_neg (by simp [Bookmark.isActive, hdeleted])]
    · rw [if_neg hdeleted, if_pos (by simp [Bookmark.isActive, hdeleted])]
  oursOnly x l hl hr := by
    rw [lookup_bookmarks, kept, hr, hl]
    simp only [Option.filter_some, retained_cutoff, decide_eq_true_eq]
  theirsLater x l r hl hr hlater := by
    have hid : lookup r.id ours = some l := (id_of_lookup hr).symm ▸ hl
    rw [lookup_bookmarks, kept, hr]
    simp only [resolve, hid, winner, if_pos (Int64.lt_iff_toInt_lt.mpr hlater), retained_cutoff,
      decide_eq_true_eq]
  theirsNotLater x l r hl hr hnot := by
    have hid : lookup r.id ours = some l := (id_of_lookup hr).symm ▸ hl
    have hlater : ¬ l.modifiedAt < r.modifiedAt := fun h => Int.not_lt.mpr hnot (Int64.lt_iff_toInt_lt.mp h)
    rw [lookup_bookmarks, kept, hr]
    simp only [resolve, hid, winner, if_neg hlater, retained_cutoff, decide_eq_true_eq]
  -- their ids first, then those of ours that are new
  inOrder := by
    have hids := newIds_append (ids theirs) (ids ours)
    rw [newIds_nil, newIds] at hids
    simp only [ids_bookmarks, lookup_bookmarks, hids]

end Merge

/-- **A merge is what it is meant to be.** Without a remote snapshot the local one stays as it is. With
one, each id gets the record it is meant to have, in the order described, and the local metadata changes
now and takes the later version. -/
theorem Snapshot.merge_meets_reference (ours : Snapshot) (now : Timestamp) (retention : Duration) :
    ours.merge none now retention = ours ∧
    ∀ theirs : Snapshot,
      Merge.Reference now retention ours.bookmarks theirs.bookmarks
        (ours.merge (some theirs) now retention).bookmarks ∧
      (ours.merge (some theirs) now retention).metadata =
        { ours.metadata with
          lastModifiedTime := now
          version := max ours.metadata.version theirs.metadata.version } := by
  refine ⟨rfl, fun theirs => ⟨?_, rfl⟩⟩
  exact Merge.reference_bookmarks now retention ours.bookmarks theirs.bookmarks

end BookmarkSync
