import BookmarkSync.Proofs.Merge.Reference
import BookmarkSync.Proofs.Store.NormalForm

/-!
# `BookmarkSync.Proofs.Merge.Active` — when a merge shows what the far side shows

A local collection yields to a remote one when no record of it can win against the remote one, tombstones
apart, and when it has no active record that the remote one lacks. The merge of two such collections shows
the active records of the remote one, in their order (`active_bookmarks`). Two cases of this matter to
devices that take turns: a collection yields to one that it has just been merged into
(`yields_to_merged`), and to one with the same active records (`yields_of_active_eq`).
-/

namespace BookmarkSync.Merge

/-- The active records of a collection, in its order. -/
def active (bs : List Bookmark) : List Bookmark := bs.filter Bookmark.isActive

/-- No record here, tombstones apart, wins against the far side's or is missing there. -/
def Yields (ours theirs : List Bookmark) : Prop :=
  ∀ x l, lookup x ours = some l →
    (∀ r, lookup x theirs = some r → winner l r = r ∨ l.isDeleted = true ∧ r.isDeleted = true) ∧
    (lookup x theirs = none → l.isDeleted = true)

theorem isActive_of_isDeleted {b : Bookmark} (h : b.isDeleted = true) : b.isActive = false := by
  rw [Bookmark.isActive, h]
  rfl

theorem isDeleted_of_not_isActive {b : Bookmark} (h : b.isActive = false) : b.isDeleted = true := by
  rwa [Bookmark.isActive, Bool.not_eq_false'] at h

/-! ## Merging into a collection that is yielded to -/

theorem firstsAfter_of_nodup {seen : List String} {bs : List Bookmark} (hnodup : (ids bs).Nodup)
    (hseen : ∀ x ∈ ids bs, x ∉ seen) : firstsAfter seen bs = bs := by
  induction bs generalizing seen with
  | nil => rfl
  | cons b bs ih =>
    obtain ⟨hb, hnodup⟩ : b.id ∉ ids bs ∧ (ids bs).Nodup := List.nodup_cons.mp hnodup
    have hrest : ∀ x ∈ ids bs, x ∉ b.id :: seen := by
      intro x hx hmem
      rcases List.mem_cons.mp hmem with rfl | hmem
      · exact hb hx
      · exact hseen x (.tail _ hx) hmem
    rw [firstsAfter, if_neg (hseen b.id (.head _)), ih hnodup hrest]

/-- In a collection without repeated ids every record is a first one. -/
theorem firsts_of_nodup {bs : List Bookmark} (hnodup : (ids bs).Nodup) : firsts bs = bs :=
  firstsAfter_of_nodup hnodup fun _ _ => List.not_mem_nil

variable {ours theirs : List Bookmark}

theorem isDeleted_of_winner {l r b : Bookmark} (h : winner l r = b) (hl : l.isDeleted = true)
    (hr : r.isDeleted = true) : b.isDeleted = true := by
  rw [← h, winner]
  split
  · exact hr
  · exact hl

/-- What becomes of a remote record that is yielded to: it stays if it is active, and is not shown
otherwise. -/
theorem filter_resolve (cutoff : Timestamp) (h : Yields ours theirs) {r : Bookmark}
    (hr : lookup r.id theirs = some r) :
    (resolve cutoff ours r).filter Bookmark.isActive = if r.isActive then some r else none := by
  unfold resolve
  cases hl : lookup r.id ours with
  | none =>
    cases hactive : r.isActive with
    | true => simp [hactive]
    | false => simp
  | some l =>
    -- the winner is their record, or a deletion, which is not active in either case
    rcases (h r.id l hl).1 r hr with hwinner | ⟨hdeleted, hr'⟩
    · simp only [hwinner]
      cases hactive : r.isActive with
      | true => simp [retained, hactive]
      | false => by_cases hret : retained cutoff r = true <;> simp [hret, hactive]
    · have hwinner := isActive_of_isDeleted (isDeleted_of_winner rfl hdeleted hr')
      rw [isActive_of_isDeleted hr']
      by_cases hret : retained cutoff (winner l r) = true <;> simp [hret, hwinner]

theorem active_localOnly (cutoff : Timestamp) (h : Yields ours theirs) :
    active ((localOnly ours theirs).filter (retained cutoff)) = [] := by
  rw [active, List.filter_filter, List.filter_eq_nil_iff]
  intro l hl
  rw [localOnly_eq_filterMap] at hl
  obtain ⟨x, hx, hlookup⟩ := List.mem_filterMap.mp hl
  have hnone : lookup x theirs = none := lookup_eq_none_iff.mpr (mem_newIds.mp hx).2
  simp [isActive_of_isDeleted ((h x l hlookup).2 hnone)]

/-- **Where everything here yields, a merge shows what the far side shows**, in the same order. -/
theorem active_bookmarks (cutoff : Timestamp) (hnodup : (ids theirs).Nodup) (h : Yields ours theirs) :
    active (bookmarks cutoff ours theirs) = active theirs := by
  have htheirs : active ((firsts theirs).filterMap (resolve cutoff ours)) = active theirs := by
    rw [firsts_of_nodup hnodup, active, List.filter_filterMap, active, ← List.filterMap_eq_filter]
    refine List.filterMap_congr fun r hr => ?_
    exact filter_resolve cutoff h (lookup_of_mem hnodup hr)
  have happend : active (bookmarks cutoff ours theirs)
      = active ((firsts theirs).filterMap (resolve cutoff ours))
        ++ active ((localOnly ours theirs).filter (retained cutoff)) := List.filter_append ..
  rw [happend, htheirs, active_localOnly cutoff h, List.append_nil]

/-! ## Who yields -/

theorem winner_self (b : Bookmark) : winner b b = b := by
  rw [winner]
  split <;> rfl

theorem winner_of_lt {l r : Bookmark} (h : l.modifiedAt < r.modifiedAt) : winner l r = r := if_pos h

/-- A collection yields to one that shows the same. -/
theorem yields_of_active_eq (hours : (ids ours).Nodup) (htheirs : (ids theirs).Nodup)
    (h : active ours = active theirs) : Yields ours theirs := by
  -- an active record on one side is the first record of its id on the other
  have hshared {as bs : List Bookmark} (hbs : (ids bs).Nodup) (heq : active as = active bs) {x : String}
      {b : Bookmark} (hb : lookup x as = some b) (hactive : b.isActive = true) : lookup x bs = some b := by
    have hmem : b ∈ active bs := by
      rw [← heq]
      exact List.mem_filter.mpr ⟨mem_of_lookup hb, hactive⟩
    rw [← id_of_lookup hb]
    exact lookup_of_mem hbs (List.mem_filter.mp hmem).1
  intro x l hl
  refine ⟨fun r hr => ?_, fun hnone => ?_⟩
  · cases hactive : r.isActive with
    | true =>
      have hlr := hshared hours h.symm hr hactive
      rw [hl] at hlr
      cases hlr
      exact .inl (winner_self l)
    | false =>
      refine .inr ⟨isDeleted_of_not_isActive ?_, isDeleted_of_not_isActive hactive⟩
      by_contra hl'
      have hrl := hshared htheirs h hl (Bool.not_eq_false _ ▸ hl')
      rw [hr] at hrl
      cases hrl
      exact hl' hactive
  · refine isDeleted_of_not_isActive ?_
    by_contra hl'
    have hlookup := hshared htheirs h hl (Bool.not_eq_false _ ▸ hl')
    rw [hnone] at hlookup
    cases hlookup

/-- Records of one id that changed at once are the same record. -/
def Agree (bs : List Bookmark) : Prop :=
  ∀ p ∈ bs, ∀ q ∈ bs, p.id = q.id → p.modifiedAt = q.modifiedAt → p = q

instance (bs : List Bookmark) : Decidable (Agree bs) :=
  inferInstanceAs (Decidable (∀ p ∈ bs, ∀ q ∈ bs, p.id = q.id → p.modifiedAt = q.modifiedAt → p = q))

theorem Agree.mono {bs bs' : List Bookmark} (h : Agree bs) (hsub : ∀ b ∈ bs', b ∈ bs) : Agree bs' :=
  fun p hp q hq => h p (hsub p hp) q (hsub q hq)

/-- **The far side's collection yields to what it has just been merged into**, as a commit leaves it, if
no tombstone here has expired. -/
theorem yields_to_merged {now : Timestamp} {retention : Duration}
    (hagree : Agree (theirs ++ ours.map Bookmark.normalized)) (hnormal : InNormalForm theirs)
    (hlive : ∀ p ∈ ours, p.isDeleted = true → Outlives now retention p) :
    Yields theirs ((bookmarks (cutoff now retention) ours theirs).map Bookmark.normalized) := by
  have href := reference_bookmarks now retention ours theirs
  intro x l hl
  have hnormal' : l.normalized = l := hnormal l (mem_of_lookup hl)
  rw [lookup_map_normalized]
  cases hp : lookup x ours with
  | none =>
    rw [href.theirsOnly x l hp hl]
    cases hdeleted : l.isDeleted with
    | true => simp
    | false => simp [hnormal', winner_self]
  | some p =>
    by_cases hlater : p.modifiedAt < l.modifiedAt
    · rw [href.theirsLater x p l hp hl (Int64.lt_iff_toInt_lt.mp hlater)]
      by_cases hout : Outlives now retention l
      · simp [hout, hnormal', winner_self]
      · simp [hout, isDeleted_of_not_outlives hout]
    · have hle : l.modifiedAt ≤ p.modifiedAt := Int64.not_lt.mp hlater
      have hout : Outlives now retention p := by
        by_contra hnot
        exact hnot (hlive p (mem_of_lookup hp) (isDeleted_of_not_outlives hnot))
      rw [href.theirsNotLater x p l hp hl (Int64.le_iff_toInt_le.mp hle), if_pos hout, Option.map_some]
      refine ⟨?_, nofun⟩
      rintro r ⟨⟩
      -- the normal form of `p` is later than `l`, or both are the same record
      by_cases hlt : l.modifiedAt < p.normalized.modifiedAt
      · exact .inl (winner_of_lt hlt)
      · have heq : l.modifiedAt = p.normalized.modifiedAt :=
          Int64.le_antisymm (Int64.le_trans hle p.modifiedAt_le_normalized) (Int64.not_lt.mp hlt)
        have hid : l.id = p.normalized.id := (id_of_lookup hl).trans (id_of_lookup hp).symm
        have hsame : l = p.normalized :=
          hagree l (List.mem_append_left _ (mem_of_lookup hl)) p.normalized
            (List.mem_append_right _ (List.mem_map_of_mem (mem_of_lookup hp))) hid heq
        rw [← hsame]
        exact .inl (winner_self l)

end BookmarkSync.Merge
