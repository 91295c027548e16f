import BookmarkSync.Proofs.Sync.Exchange

/-!
# `BookmarkSync.Proofs.Sync.Deletions` — how far a deletion gets

A tombstone in the shared place keeps older active records of its id from coming back, for as long as it is
there. It is carried on by every device that has some record of the id. A device that has none drops it, by
design, since it has nothing to delete; an older active record that comes after that is taken for a new one
(`not_deletions_always_propagate`). So a deletion propagates as long as no device with an active record comes
at such a moment (`deletions_propagate`).
-/

namespace BookmarkSync.Exchange

open Merge (lookup Outlives)

variable {ι : Type} [DecidableEq ι]

/-! ## Deletions in the shared place -/

/-- The collection has no active first record of `x`; and while the deletion is `carried`, it has a tombstone
that is not older than `t`. -/
structure Withholds (x : String) (t : Timestamp) (carried : Bool) (bs : List Bookmark) : Prop where
  deleted : ∀ r, lookup x bs = some r → r.isDeleted = true
  carries : carried = true → ∃ d, lookup x bs = some d ∧ t ≤ d.modifiedAt

section Withholds

variable {x : String} {t now : Timestamp} {retention : Duration} {carried : Bool} {ours theirs : Snapshot}

/-- A merge that comes to a tombstone, as a commit leaves it. -/
theorem withholds_of_tombstone {c : Bookmark} {bs : List Bookmark} (hcutoff : Merge.cutoff now retention < t)
    (hdeleted : c.isDeleted = true) (hcarries : carried = true → t ≤ c.modifiedAt)
    (hbs : lookup x bs = if Outlives now retention c then some c else none) :
    Withholds x t carried (bs.map Bookmark.normalized) := by
  refine ⟨fun r hr => ?_, fun hcarried => ?_⟩
  · rw [Merge.lookup_map_normalized, hbs] at hr
    split at hr
    · cases hr
      exact hdeleted
    · cases hr
  · have hle := hcarries hcarried
    have hout : Outlives now retention c :=
      Merge.outlives_iff.mpr fun _ => Int64.lt_of_lt_of_le hcutoff hle
    refine ⟨c.normalized, ?_, Int64.le_trans hle c.modifiedAt_le_normalized⟩
    rw [Merge.lookup_map_normalized, hbs, if_pos hout, Option.map_some]

/-- A device without any record of the id drops the tombstone. -/
theorem withholds_of_unknown (h : Withholds x t carried theirs.bookmarks)
    (hours : lookup x ours.bookmarks = none) :
    Withholds x t false (ours.exchanged (some theirs) now retention).bookmarks := by
  have href := Merge.reference_bookmarks now retention ours.bookmarks theirs.bookmarks
  have hnone : lookup x (Merge.bookmarks (Merge.cutoff now retention) ours.bookmarks theirs.bookmarks)
      = none := by
    cases htheirs : lookup x theirs.bookmarks with
    | none => exact href.neither x hours htheirs
    | some d => rw [href.theirsOnly x d hours htheirs, if_pos (h.deleted d htheirs)]
  refine ⟨fun r hr => ?_, nofun⟩
  rw [show (ours.exchanged (some theirs) now retention).bookmarks
    = (Merge.bookmarks (Merge.cutoff now retention) ours.bookmarks theirs.bookmarks).map
      Bookmark.normalized from rfl, Merge.lookup_map_normalized, hnone] at hr
  cases hr

/-- An active record that is older than the tombstone loses against it. -/
theorem withholds_of_active {r : Bookmark} (h : Withholds x t true theirs.bookmarks)
    (hcutoff : Merge.cutoff now retention < t) (hours : lookup x ours.bookmarks = some r)
    (holder : r.modifiedAt < t) :
    Withholds x t true (ours.exchanged (some theirs) now retention).bookmarks := by
  have href := Merge.reference_bookmarks now retention ours.bookmarks theirs.bookmarks
  obtain ⟨d, hd, hle⟩ := h.carries rfl
  have hlater : r.modifiedAt.toInt < d.modifiedAt.toInt :=
    Int64.lt_iff_toInt_lt.mp (Int64.lt_of_lt_of_le holder hle)
  exact withholds_of_tombstone hcutoff (h.deleted d hd) (fun _ => hle) (href.theirsLater x r d hours hd hlater)

/-- A tombstone on a device leaves the later of the two tombstones. -/
theorem withholds_of_deleted {r : Bookmark} (h : Withholds x t carried theirs.bookmarks)
    (hcutoff : Merge.cutoff now retention < t) (hours : lookup x ours.bookmarks = some r)
    (hdeleted : r.isDeleted = true) :
    Withholds x t (carried || decide (t ≤ r.modifiedAt))
      (ours.exchanged (some theirs) now retention).bookmarks := by
  have href := Merge.reference_bookmarks now retention ours.bookmarks theirs.bookmarks
  -- the files may have lost the record; if not, the later of the two deletions stays
  cases htheirs : lookup x theirs.bookmarks with
  | none =>
    refine withholds_of_tombstone hcutoff hdeleted (fun hcarried => ?_) (href.oursOnly x r hours htheirs)
    rcases Bool.or_eq_true_iff.mp hcarried with hcarried | hle
    · obtain ⟨d, hd, -⟩ := h.carries hcarried
      rw [htheirs] at hd
      cases hd
    · exact of_decide_eq_true hle
  | some d =>
    have hcarries : carried = true → t ≤ d.modifiedAt := by
      intro hcarried
      obtain ⟨d', hd', hle⟩ := h.carries hcarried
      rw [htheirs] at hd'
      cases hd'
      exact hle
    by_cases hlater : r.modifiedAt < d.modifiedAt
    · refine withholds_of_tombstone hcutoff (h.deleted d htheirs) (fun hcarried => ?_)
        (href.theirsLater x r d hours htheirs (Int64.lt_iff_toInt_lt.mp hlater))
      rcases Bool.or_eq_true_iff.mp hcarried with hcarried | hle
      · exact hcarries hcarried
      · exact Int64.le_of_lt (Int64.lt_of_le_of_lt (of_decide_eq_true hle) hlater)
    · have hle := Int64.not_lt.mp hlater
      refine withholds_of_tombstone hcutoff hdeleted (fun hcarried => ?_)
        (href.theirsNotLater x r d hours htheirs (Int64.le_iff_toInt_le.mp hle))
      rcases Bool.or_eq_true_iff.mp hcarried with hcarried | hle'
      · exact Int64.le_trans (hcarries hcarried) hle
      · exact of_decide_eq_true hle'

/-- What a cycle leaves repeats no id, so its first records are all that it has. -/
theorem Withholds.all_deleted
    (h : Withholds x t carried (ours.exchanged (some theirs) now retention).bookmarks) :
    ∀ b ∈ (ours.exchanged (some theirs) now retention).bookmarks, b.id = x → b.isDeleted = true := by
  rintro b hb rfl
  exact h.deleted b (Merge.lookup_of_mem (nodup_ids_exchanged ours theirs now retention) hb)

end Withholds

/-! ## Who may come when -/

/-- Steps in which the deletion of `x` at `t` is safe. The tombstone is `carried` on until a device comes that
has no record of `x`, and again from when a device brings a tombstone that is not older. A device may come
with an active record only while the tombstone is carried, and only with an older one. -/
inductive Safe (retention : Duration) (x : String) (t : Timestamp) : Bool → Exchange ι → List (Step ι) → Prop
  | nil {carried : Bool} {w : Exchange ι} : Safe retention x t carried w []
  | edit {carried : Bool} {w : Exchange ι} {i : ι} {snapshot : Snapshot} {steps : List (Step ι)} :
      Safe retention x t carried ((Step.edit i snapshot).apply retention w) steps →
      Safe retention x t carried w (.edit i snapshot :: steps)
  /-- A device comes that has no record of `x`. -/
  | unknown {carried : Bool} {w : Exchange ι} {i : ι} {now : Timestamp} {steps : List (Step ι)} :
      Merge.cutoff now retention < t → lookup x (w.device i).bookmarks = none →
      Safe retention x t false (w.cycle retention i now) steps →
      Safe retention x t carried w (.cycle i now :: steps)
  /-- A device comes with an active record. -/
  | active {w : Exchange ι} {i : ι} {now : Timestamp} {r : Bookmark} {steps : List (Step ι)} :
      Merge.cutoff now retention < t → lookup x (w.device i).bookmarks = some r → r.isActive = true →
      r.modifiedAt < t → Safe retention x t true (w.cycle retention i now) steps →
      Safe retention x t true w (.cycle i now :: steps)
  /-- A device comes with a tombstone. -/
  | deleted {carried : Bool} {w : Exchange ι} {i : ι} {now : Timestamp} {r : Bookmark} {steps : List (Step ι)} :
      Merge.cutoff now retention < t → lookup x (w.device i).bookmarks = some r → r.isDeleted = true →
      Safe retention x t (carried || decide (t ≤ r.modifiedAt)) (w.cycle retention i now) steps →
      Safe retention x t carried w (.cycle i now :: steps)

/-- While the steps are safe, the shared place withholds the record. -/
theorem Safe.all_deleted {retention : Duration} {x : String} {t : Timestamp} {carried : Bool} {w : Exchange ι}
    {steps : List (Step ι)} (h : Safe retention x t carried w steps) {shared : Snapshot}
    (hshared : w.shared = some shared) (hwithholds : Withholds x t carried shared.bookmarks) :
    ∀ left ∈ w.results retention steps, ∀ b ∈ left.bookmarks, b.id = x → b.isDeleted = true := by
  -- what a cycle leaves withholds the record, so nothing active is in it, and the rest goes on from it
  have hcycle {w : Exchange ι} {i : ι} {now : Timestamp} {steps : List (Step ι)} {shared : Snapshot}
      {carried : Bool}
      (hshared : w.shared = some shared)
      (hleft : Withholds x t carried ((w.device i).exchanged (some shared) now retention).bookmarks)
      (hrest : ∀ left ∈ (w.cycle retention i now).results retention steps, ∀ b ∈ left.bookmarks,
        b.id = x → b.isDeleted = true) :
      ∀ left ∈ w.results retention (.cycle i now :: steps), ∀ b ∈ left.bookmarks,
        b.id = x → b.isDeleted = true := by
    intro left hmem
    rcases List.mem_cons.mp hmem with rfl | hmem
    · rw [hshared]
      exact hleft.all_deleted
    · exact hrest left hmem
  induction h generalizing shared with
  | nil => nofun
  | edit _ ih => exact ih hshared hwithholds
  | @unknown carried w i now steps hcutoff hours _ ih =>
    have hleft : Withholds x t false ((w.device i).exchanged (some shared) now retention).bookmarks :=
      withholds_of_unknown hwithholds hours
    refine hcycle hshared hleft (ih ?_ hleft)
    rw [shared_cycle, hshared]
  | @active w i now r steps hcutoff hours _ holder _ ih =>
    have hleft := withholds_of_active hwithholds hcutoff hours holder
    refine hcycle hshared hleft (ih ?_ hleft)
    rw [shared_cycle, hshared]
  | @deleted carried w i now r steps hcutoff hours hdeleted _ ih =>
    have hleft := withholds_of_deleted hwithholds hcutoff hours hdeleted
    refine hcycle hshared hleft (ih ?_ hleft)
    rw [shared_cycle, hshared]

/-- **Deletions propagate.** Once the shared place has a tombstone, no later cycle leaves an active record of
its id, as long as the steps are safe. -/
theorem deletions_propagate {retention : Duration} {w : Exchange ι} {shared : Snapshot} {x : String}
    {d : Bookmark}
    (hshared : w.shared = some shared) (hd : lookup x shared.bookmarks = some d) (hdeleted : d.isDeleted = true)
    {steps : List (Step ι)} (hsafe : Safe retention x d.modifiedAt true w steps) :
    ∀ left ∈ w.results retention steps, ∀ b ∈ left.bookmarks, b.id = x → b.isDeleted = true := by
  refine hsafe.all_deleted hshared ⟨fun r hr => ?_, fun _ => ⟨d, hd, Int64.le_refl _⟩⟩
  rw [hd] at hr
  cases hr
  exact hdeleted

/-! ## A device that does not know the record -/

/-- A bookmark as it was before its deletion. -/
def remembered : Bookmark := .create "x" "n" "/n" false 5

def snapshotOf (bs : List Bookmark) : Snapshot := ⟨bs, .create "m" 0⟩

/-- The first device has deleted the bookmark, the second has never had it, and the third still has it. -/
def threeDevices : Exchange (Fin 3) where
  device := fun
    | 0 => snapshotOf [remembered.tombstoned 10]
    | 1 => snapshotOf []
    | 2 => snapshotOf [remembered]
  shared := some (snapshotOf [remembered])

/-- The deletion reaches the third device when it comes right after the first one, and takes its record. -/
theorem deletions_propagate_directly :
    ∃ left ∈ (threeDevices.cycle Merge.defaultRetention 0 20).results Merge.defaultRetention [.cycle 2 21],
      left.bookmarks ≠ [] ∧ ∀ b ∈ left.bookmarks, b.id = "x" → b.isDeleted = true := by
  have hsafe : Safe Merge.defaultRetention "x" (remembered.tombstoned 10).modifiedAt true
      (threeDevices.cycle Merge.defaultRetention 0 20) [.cycle 2 21] :=
    .active (by decide) rfl rfl (by decide) .nil
  have hall := deletions_propagate rfl rfl rfl hsafe
  exact ⟨_, .head _, by decide, hall _ (.head _)⟩

/-- **A deletion need not propagate**, though no device comes with an active record that is not older, and
the tombstone does not expire: when the second device comes between the first and the third one, the bookmark
is back. -/
theorem not_deletions_always_propagate :
    ¬ ∀ (retention : Duration) (w : Exchange (Fin 3)) (first : Fin 3) (start : Timestamp) (d : Bookmark)
      (steps : List (Step (Fin 3))),
      d ∈ ((w.device first).exchanged w.shared start retention).bookmarks → d.isDeleted = true →
      EachCycle (fun w i now => Merge.cutoff now retention < d.modifiedAt ∧
        ∀ r ∈ (w.device i).bookmarks, r.id = d.id → r.isActive = true → r.modifiedAt < d.modifiedAt)
        retention (w.cycle retention first start) steps →
      ∀ left ∈ (w.cycle retention first start).results retention steps, ∀ b ∈ left.bookmarks,
        b.id = d.id → b.isDeleted = true := by
  intro h
  have hall := h Merge.defaultRetention threeDevices 0 20 (remembered.tombstoned 10) [.cycle 1 21, .cycle 2 22]
    (by decide) rfl ⟨by decide, by decide, trivial⟩
  exact absurd hall (by decide)

end BookmarkSync.Exchange
