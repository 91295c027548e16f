import BookmarkSync.Proofs.Merge.Active
import Mathlib.Data.List.Nodup

/-!
# `BookmarkSync.Proofs.Merge.Laws` — merging again, and from the other side

When the upload after a merge fails, the far side is as it was, and the next sync merges the joined
collection with the same remote one. What is then kept for an id is what was kept before, with one
exception. An expired tombstone that wins against an active remote record is dropped and leaves nothing
behind, so the second merge takes the remote record for one that was never seen here. Such an id resurfaces
(`lookup_again_iff` says that no other one does), and without one the second merge changes nothing, the order
included (`bookmarks_again`). A collection that has reached the far side is merged with itself, and loses its
expired tombstones and nothing else (`bookmarks_self`).

A merge prefers one side in what it does with ties, with tombstones that the other side has never seen, and
in its order. None of this shows in the active records (`active_lookup_swap`).
-/

namespace BookmarkSync

namespace Merge

/-! ## Metadata -/

theorem toNat_max_version (v w : UInt32) : (max v w).toNat = max v.toNat w.toNat := by
  have hmax : max v w = if v ≤ w then w else v := rfl
  rw [hmax]
  split
  · next h =>
    have := UInt32.le_iff_toNat_le.mp h
    omega
  · next h =>
    have := mt UInt32.le_iff_toNat_le.mpr h
    omega

/-- A version that is no newer is absorbed. -/
theorem metadata_absorbs (now : Timestamp) {m m' m'' : SyncMetadata}
    (h : m''.version.toNat ≤ max m.version.toNat m'.version.toNat) :
    metadata now (metadata now m m') m'' = metadata now m m' := by
  have hversion : max (max m.version m'.version) m''.version = max m.version m'.version := by
    apply UInt32.toNat.inj
    rw [toNat_max_version, toNat_max_version, Nat.max_eq_left h]
  simp only [metadata, hversion]

/-! ## Merging with itself -/

section Self

variable {bs : List Bookmark}

theorem resolve_self (cutoff : Timestamp) {b : Bookmark} (h : lookup b.id bs = some b) :
    resolve cutoff bs b = if retained cutoff b then some b else none := by
  rw [resolve, h]
  show (if retained cutoff (winner b b) then some (winner b b) else none) = _
  rw [winner_self]

theorem localOnly_self (hnodup : (ids bs).Nodup) : localOnly bs bs = [] := by
  rw [localOnly, firsts_of_nodup hnodup, List.filter_eq_nil_iff]
  intro b hb
  rw [lookup_of_mem hnodup hb]
  exact Bool.false_ne_true

/-- **Merged with itself, a collection loses its expired tombstones**, if it repeats no id. -/
theorem bookmarks_self (cutoff : Timestamp) (hnodup : (ids bs).Nodup) :
    bookmarks cutoff bs bs = bs.filter (retained cutoff) := by
  have hresolve : bs.filterMap (resolve cutoff bs) = bs.filter (retained cutoff) := by
    rw [← List.filterMap_eq_filter]
    refine List.filterMap_congr fun b hb => ?_
    rw [resolve_self cutoff (lookup_of_mem hnodup hb)]
    rfl
  rw [bookmarks, firsts_of_nodup hnodup, localOnly_self hnodup, hresolve, List.filter_nil, List.append_nil]

end Self

/-! ## Merging with the same remote collection -/

/-- The first record of `x` here is an expired tombstone that wins against the first one there, which is
active. -/
def Resurfaces (now : Timestamp) (retention : Duration) (ours theirs : List Bookmark) (x : String) : Prop :=
  ∃ l r, lookup x ours = some l ∧ lookup x theirs = some r ∧ l.isDeleted = true ∧
    ¬ Outlives now retention l ∧ r.modifiedAt ≤ l.modifiedAt ∧ r.isDeleted = false

section Again

variable (now : Timestamp) (retention : Duration) (ours theirs : List Bookmark)

/-- What a merge keeps has not expired, and is not earlier than what the remote side has. -/
theorem outlives_of_lookup {x : String} {b : Bookmark}
    (h : lookup x (bookmarks (cutoff now retention) ours theirs) = some b) :
    Outlives now retention b ∧ ∀ r, lookup x theirs = some r → r.modifiedAt.toInt ≤ b.modifiedAt.toInt := by
  have href := reference_bookmarks now retention ours theirs
  have hkept {c : Bookmark} (hc : (if Outlives now retention c then some c else none) = some b) :
      Outlives now retention b ∧ c = b := by
    obtain ⟨hlive, hcb⟩ := Option.ite_none_right_eq_some.mp hc
    obtain rfl := Option.some.inj hcb
    exact ⟨hlive, rfl⟩
  -- the reference has one clause for each combination of the two sides
  cases hl : lookup x ours with
  | none =>
    cases hr : lookup x theirs with
    | none =>
      rw [href.neither x hl hr] at h
      cases h
    | some r =>
      rw [href.theirsOnly x r hl hr] at h
      obtain ⟨hactive, hrb⟩ := Option.ite_none_left_eq_some.mp h
      obtain rfl := Option.some.inj hrb
      exact ⟨.inl (Bool.eq_false_iff.mpr hactive), fun _ h => Option.some.inj h ▸ Int.le_refl _⟩
  | some l =>
    cases hr : lookup x theirs with
    | none => exact ⟨(hkept ((href.oursOnly x l hl hr).symm.trans h)).1, nofun⟩
    | some r =>
      by_cases hlater : l.modifiedAt.toInt < r.modifiedAt.toInt
      · obtain ⟨hlive, rfl⟩ := hkept ((href.theirsLater x l r hl hr hlater).symm.trans h)
        exact ⟨hlive, fun _ h => Option.some.inj h ▸ Int.le_refl _⟩
      · have hnot := Int.not_lt.mp hlater
        obtain ⟨hlive, rfl⟩ := hkept ((href.theirsNotLater x l r hl hr hnot).symm.trans h)
        exact ⟨hlive, fun _ h => Option.some.inj h ▸ hnot⟩

theorem lookup_of_resurfaces {x : String} (h : Resurfaces now retention ours theirs x) :
    lookup x (bookmarks (cutoff now retention) ours theirs) = none := by
  obtain ⟨l, r, hl, hr, -, hexpired, hnot, -⟩ := h
  rw [(reference_bookmarks now retention ours theirs).theirsNotLater x l r hl hr
    (Int64.le_iff_toInt_le.mp hnot), if_neg hexpired]

/-- An active remote record is dropped only when it is to resurface. -/
theorem resurfaces_of_lookup {x : String} {r : Bookmark} (hr : lookup x theirs = some r)
    (hactive : r.isDeleted = false)
    (h : lookup x (bookmarks (cutoff now retention) ours theirs) = none) :
    Resurfaces now retention ours theirs x := by
  have href := reference_bookmarks now retention ours theirs
  cases hl : lookup x ours with
  | none =>
    rw [href.theirsOnly x r hl hr, hactive] at h
    cases h
  | some l =>
    by_cases hlater : l.modifiedAt.toInt < r.modifiedAt.toInt
    · rw [href.theirsLater x l r hl hr hlater, if_pos (.inl hactive)] at h
      cases h
    · have hnot := Int.not_lt.mp hlater
      rw [href.theirsNotLater x l r hl hr hnot] at h
      have hexpired : ¬ Outlives now retention l := fun hlive => by simp [hlive] at h
      exact ⟨l, r, hl, hr, isDeleted_of_not_outlives hexpired, hexpired,
        Int64.le_iff_toInt_le.mpr hnot, hactive⟩

/-- **Merged again with the same remote collection, an id keeps its record or stays away**, unless it
resurfaces. -/
theorem lookup_again_iff (x : String) :
    let merged := bookmarks (cutoff now retention) ours theirs
    lookup x (bookmarks (cutoff now retention) merged theirs) = lookup x merged ↔
      ¬ Resurfaces now retention ours theirs x := by
  intro merged
  have hsecond := reference_bookmarks now retention merged theirs
  cases hm : lookup x merged with
  | some b =>
    obtain ⟨hlive, hnot⟩ := outlives_of_lookup now retention ours theirs hm
    refine iff_of_true ?_ fun h => ?_
    · cases hr : lookup x theirs with
      | none => rw [hsecond.oursOnly x b hm hr, if_pos hlive]
      | some r => rw [hsecond.theirsNotLater x b r hm hr (hnot r hr), if_pos hlive]
    · rw [lookup_of_resurfaces now retention ours theirs h] at hm
      cases hm
  | none =>
    -- to the second merge the id looks as if it had never been seen here
    cases hr : lookup x theirs with
    | none =>
      refine iff_of_true (hsecond.neither x hm hr) ?_
      rintro ⟨l, r, -, hr', -⟩
      rw [hr] at hr'
      cases hr'
    | some r =>
      rw [hsecond.theirsOnly x r hm hr]
      cases hdeleted : r.isDeleted with
      | true =>
        refine iff_of_true rfl ?_
        rintro ⟨l, r', -, hr', -, -, -, hactive⟩
        obtain rfl := Option.some.inj (hr.symm.trans hr')
        exact Bool.false_ne_true (hactive.symm.trans hdeleted)
      | false =>
        refine iff_of_false (fun h => by cases h) fun h => ?_
        exact h (resurfaces_of_lookup now retention ours theirs hr hdeleted hm)

variable (cutoff : Timestamp)

theorem resolve_eq_lookup {r : Bookmark} (hr : lookup r.id theirs = some r) :
    resolve cutoff ours r = lookup r.id (bookmarks cutoff ours theirs) := by
  rw [lookup_bookmarks, kept, hr]

theorem lookup_of_mem_firsts {bs : List Bookmark} {b : Bookmark} (h : b ∈ firsts bs) :
    lookup b.id bs = some b := by
  rw [firsts_eq_filterMap] at h
  obtain ⟨x, -, hx⟩ := List.mem_filterMap.mp h
  rw [id_of_lookup hx, hx]

/-- Of the joined collection only this side has what only this side had, but for what has expired. -/
theorem localOnly_again :
    localOnly (bookmarks cutoff ours theirs) theirs = (localOnly ours theirs).filter (retained cutoff) := by
  have hshared :
      ((firsts theirs).filterMap (resolve cutoff ours)).filter (fun b => (lookup b.id theirs).isNone) = [] := by
    refine List.filter_eq_nil_iff.mpr fun b hb => ?_
    obtain ⟨r, hr, hb⟩ := List.mem_filterMap.mp hb
    rw [id_of_resolve hb, lookup_of_mem_firsts hr]
    exact Bool.false_ne_true
  have hlocal : ((localOnly ours theirs).filter (retained cutoff)).filter (fun b => (lookup b.id theirs).isNone)
      = (localOnly ours theirs).filter (retained cutoff) :=
    List.filter_eq_self.mpr fun b hb => (List.mem_filter.mp (List.mem_filter.mp hb).1).2
  rw [localOnly, firsts_of_nodup (nodup_ids_bookmarks cutoff ours theirs)]
  nth_rewrite 1 [bookmarks]
  rw [List.filter_append, hshared, hlocal, List.nil_append]

/-- The order of a merge that is done again is that of the first one. -/
theorem bookmarks_again (h : ∀ x, lookup x (bookmarks cutoff (bookmarks cutoff ours theirs) theirs)
    = lookup x (bookmarks cutoff ours theirs)) :
    bookmarks cutoff (bookmarks cutoff ours theirs) theirs = bookmarks cutoff ours theirs := by
  have hresolve : (firsts theirs).filterMap (resolve cutoff (bookmarks cutoff ours theirs))
      = (firsts theirs).filterMap (resolve cutoff ours) := by
    refine List.filterMap_congr fun r hr => ?_
    have hlookup := lookup_of_mem_firsts hr
    rw [resolve_eq_lookup _ theirs cutoff hlookup, h, resolve_eq_lookup ours theirs cutoff hlookup]
  rw [bookmarks, hresolve, localOnly_again, List.filter_filter]
  simp only [Bool.and_self]
  rfl

end Again

end Merge

/-- **Done again with the same remote snapshot, a merge changes nothing unless an id resurfaces; done with its
own outcome, it never does.** The joined collection, merged with the same remote snapshot at the same time, is
as it was in its records, its order and its metadata exactly if there is no id whose local record was an
expired tombstone that won against an active remote record. Merged with itself it always is. -/
theorem Snapshot.merge_again_eq_iff (ours theirs : Snapshot) (now : Timestamp) (retention : Duration) :
    let merged := ours.merge (some theirs) now retention
    (merged.merge (some theirs) now retention = merged ↔
      ¬ ∃ x, Merge.Resurfaces now retention ours.bookmarks theirs.bookmarks x) ∧
    merged.merge (some merged) now retention = merged := by
  intro merged
  have hlookup := Merge.lookup_again_iff now retention ours.bookmarks theirs.bookmarks
  refine ⟨⟨?_, ?_⟩, ?_⟩
  · rintro h ⟨x, hx⟩
    have hsame := congrArg (Merge.lookup x) (congrArg Snapshot.bookmarks h)
    exact (hlookup x).mp hsame hx
  · intro h
    have hbookmarks :=
      Merge.bookmarks_again ours.bookmarks theirs.bookmarks (Merge.cutoff now retention) fun x =>
        (hlookup x).mpr fun hx => h ⟨x, hx⟩
    -- the first merge has already taken the larger version and the last stamp
    have hmetadata :=
      Merge.metadata_absorbs now (Nat.le_max_right ours.metadata.version.toNat theirs.metadata.version.toNat)
    exact congrArg₂ Snapshot.mk hbookmarks hmetadata
  · have hnodup := Merge.nodup_ids_bookmarks (Merge.cutoff now retention) ours.bookmarks theirs.bookmarks
    -- what has survived the cutoff once survives it again
    have hlive : merged.bookmarks.filter (Merge.retained (Merge.cutoff now retention)) = merged.bookmarks := by
      refine List.filter_eq_self.mpr fun b hb => ?_
      have hfirst := Merge.lookup_of_mem hnodup hb
      rw [Merge.retained_cutoff, decide_eq_true_eq]
      exact (Merge.outlives_of_lookup now retention ours.bookmarks theirs.bookmarks hfirst).1
    have hbookmarks := (Merge.bookmarks_self (Merge.cutoff now retention) hnodup).trans hlive
    have hversion := Nat.le_of_eq (Merge.toNat_max_version ours.metadata.version theirs.metadata.version)
    have hmetadata : Merge.metadata now merged.metadata merged.metadata = merged.metadata :=
      Merge.metadata_absorbs now hversion
    exact congrArg₂ Snapshot.mk hbookmarks hmetadata

/-! ### A deletion that has expired -/

namespace Merge

/-- A bookmark as one side has it, changed at this time. -/
def changedAt (id : String) (modifiedAt : Timestamp) : Bookmark :=
  { Bookmark.create id "n" "/n" false 1 with modifiedAt }

/-- The deletion of `y` wins and is dropped, so the next merge takes the bookmark up again. -/
example : bookmarks (cutoff 100 ⟨10⟩) [(changedAt "y" 2).tombstoned 3] [changedAt "y" 2] = [] ∧
    bookmarks (cutoff 100 ⟨10⟩) [] [changedAt "y" 2] = [changedAt "y" 2] := by decide

/-! ## Merging from the other side -/

/-- An id has the same active record, or none, whichever side is the local one, if its two first records are one
record when they changed at once. -/
theorem active_lookup_swap (now : Timestamp) (retention : Duration) (as bs : List Bookmark) {x : String}
    (hagree : ∀ p q, lookup x as = some p → lookup x bs = some q → p.modifiedAt = q.modifiedAt → p = q) :
    (lookup x (bookmarks (cutoff now retention) as bs)).filter Bookmark.isActive
      = (lookup x (bookmarks (cutoff now retention) bs as)).filter Bookmark.isActive := by
  have hab := reference_bookmarks now retention as bs
  have hba := reference_bookmarks now retention bs as
  -- a record that only one side has is active in the outcome if it is active
  have honly (b : Bookmark) : (if b.isDeleted then none else some b).filter Bookmark.isActive
      = (if Outlives now retention b then some b else none).filter Bookmark.isActive := by
    cases hb : b.isDeleted with
    | true =>
      by_cases hlive : Outlives now retention b <;> simp [hlive, isActive_of_isDeleted hb, Option.filter_some]
    | false => simp [Outlives, hb]
  cases hp : lookup x as with
  | none =>
    cases hq : lookup x bs with
    | none => rw [hab.neither x hp hq, hba.neither x hq hp]
    | some q => rw [hab.theirsOnly x q hp hq, hba.oursOnly x q hq hp, honly]
  | some p =>
    cases hq : lookup x bs with
    | none => rw [hab.oursOnly x p hp hq, hba.theirsOnly x p hq hp, honly]
    | some q =>
      rcases Int.lt_trichotomy p.modifiedAt.toInt q.modifiedAt.toInt with hlt | heq | hgt
      · rw [hab.theirsLater x p q hp hq hlt, hba.theirsNotLater x q p hq hp (Int.le_of_lt hlt)]
      · obtain rfl : p = q := hagree p q hp hq (Int64.toInt.inj heq)
        rw [hab.theirsNotLater x p p hp hq (Int.le_refl _), hba.theirsNotLater x p p hq hp (Int.le_refl _)]
      · rw [hab.theirsNotLater x p q hp hq (Int.le_of_lt hgt), hba.theirsLater x q p hq hp hgt]

theorem mem_active_iff {bs : List Bookmark} (hnodup : (ids bs).Nodup) {b : Bookmark} :
    b ∈ active bs ↔ (lookup b.id bs).filter Bookmark.isActive = some b := by
  rw [active, List.mem_filter, Option.filter_eq_some_iff]
  exact and_congr_left fun _ => ⟨lookup_of_mem hnodup, mem_of_lookup⟩

theorem nodup_active {bs : List Bookmark} (hnodup : (ids bs).Nodup) : (active bs).Nodup :=
  (List.Nodup.of_map _ hnodup).filter _

end Merge

/-- **Which side is the local one does not show in the active records.** If, for each id that both sides have,
their first records are the same record whenever they changed at once, then the two merges have the same active
records, each of them once, and agree in version and time of change. -/
theorem Snapshot.active_merge_swap {a b : Snapshot}
    (hagree : ∀ x p q, Merge.lookup x a.bookmarks = some p → Merge.lookup x b.bookmarks = some q →
      p.modifiedAt = q.modifiedAt → p = q)
    (now : Timestamp) (retention : Duration) :
    let ab := a.merge (some b) now retention
    let ba := b.merge (some a) now retention
    (Merge.active ab.bookmarks).Perm (Merge.active ba.bookmarks) ∧
      ab.metadata.version = ba.metadata.version ∧
      ab.metadata.lastModifiedTime = ba.metadata.lastModifiedTime := by
  intro ab ba
  have hab := Merge.nodup_ids_bookmarks (Merge.cutoff now retention) a.bookmarks b.bookmarks
  have hba := Merge.nodup_ids_bookmarks (Merge.cutoff now retention) b.bookmarks a.bookmarks
  refine ⟨?_, ?_, rfl⟩
  · -- without repeated ids a permutation is the same membership, which is decided id by id
    refine (List.perm_ext_iff_of_nodup (Merge.nodup_active hab) (Merge.nodup_active hba)).mpr fun r => ?_
    rw [Merge.mem_active_iff hab, Merge.mem_active_iff hba]
    have hswap := Merge.active_lookup_swap now retention a.bookmarks b.bookmarks (x := r.id) (hagree r.id)
    exact hswap ▸ Iff.rfl
  · apply UInt32.toNat.inj
    show (max a.metadata.version b.metadata.version).toNat = (max b.metadata.version a.metadata.version).toNat
    rw [Merge.toNat_max_version, Merge.toNat_max_version, Nat.max_comm]

/-- Both sides have `x` as it is, one of them twice; the deletion of `y` has expired, and `z` was deleted where
nobody else has seen it. What only one side has stands before the other's in one merge, and behind it in the
other. -/
theorem Snapshot.active_merge_swap_reordered :
    let a : Snapshot := ⟨[Merge.changedAt "x" 5, Merge.changedAt "x" 7, (Merge.changedAt "y" 2).tombstoned 3,
      Merge.changedAt "v" 4], .create "a" 0⟩
    let b : Snapshot := ⟨[Merge.changedAt "x" 5, Merge.changedAt "y" 2, (Merge.changedAt "z" 2).tombstoned 95,
      Merge.changedAt "w" 1], .create "b" 0⟩
    let ab := a.merge (some b) 100 ⟨10⟩
    let ba := b.merge (some a) 100 ⟨10⟩
    (Merge.active ab.bookmarks).Perm (Merge.active ba.bookmarks) ∧
      Merge.active ab.bookmarks = [Merge.changedAt "x" 5, Merge.changedAt "w" 1, Merge.changedAt "v" 4] ∧
      Merge.active ba.bookmarks = [Merge.changedAt "x" 5, Merge.changedAt "v" 4, Merge.changedAt "w" 1] := by
  intro a b ab ba
  have hagree : Merge.Agree (a.bookmarks ++ b.bookmarks) := by decide
  refine ⟨?_, by decide, by decide⟩
  refine (Snapshot.active_merge_swap (fun x p q hp hq heq => ?_) 100 ⟨10⟩).1
  exact hagree p (List.mem_append_left _ (Merge.mem_of_lookup hp)) q
    (List.mem_append_right _ (Merge.mem_of_lookup hq))
      ((Merge.id_of_lookup hp).trans (Merge.id_of_lookup hq).symm) heq

end BookmarkSync
