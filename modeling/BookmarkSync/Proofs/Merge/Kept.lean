import BookmarkSync.Merge
import Mathlib.Data.List.Basic

/-!
# `BookmarkSync.Proofs.Merge.Kept` — a merge, id by id

What a merge keeps for an id depends only on the first record that each side has for it (`kept`), and the
joined collection is made of these records in the order in which the ids first appear, the remote
collection being looked through before the local one (`bookmarks_eq_filterMap`). Facts about a merge are
read off this form, so the list of ids already seen is dealt with here once.
-/

namespace BookmarkSync.Merge

/-- The ids of a collection, in its order. -/
def ids (bs : List Bookmark) : List String := bs.map (·.id)

/-! ## Looking records up -/

/-- What is found for an id has it. -/
theorem id_of_lookup {x : String} {bs : List Bookmark} {b : Bookmark} (h : lookup x bs = some b) :
    b.id = x := by
  have hx : (b.id == x) = true := List.find?_some (p := fun c : Bookmark => c.id == x) h
  exact eq_of_beq hx

/-- An id is looked up in vain if no record has it. -/
theorem lookup_eq_none_iff {x : String} {bs : List Bookmark} : lookup x bs = none ↔ x ∉ ids bs := by
  simp only [lookup, ids, List.find?_eq_none, List.mem_map, beq_iff_eq, not_exists, not_and]

/-- The first record of an id hides those after it. -/
theorem lookup_cons_self (b : Bookmark) (bs : List Bookmark) : lookup b.id (b :: bs) = some b := by
  unfold lookup
  exact List.find?_cons_of_pos (by simp)

theorem lookup_cons_of_ne {x : String} {b : Bookmark} (h : x ≠ b.id) (bs : List Bookmark) :
    lookup x (b :: bs) = lookup x bs := by
  unfold lookup
  exact List.find?_cons_of_neg (by simpa using h.symm)

theorem mem_of_lookup {x : String} {bs : List Bookmark} {b : Bookmark} (h : lookup x bs = some b) : b ∈ bs :=
  List.mem_of_find?_eq_some h

/-- In a collection without repeated ids every record is the first one of its id. -/
theorem lookup_of_mem {bs : List Bookmark} {b : Bookmark} (hnodup : (ids bs).Nodup) (h : b ∈ bs) :
    lookup b.id bs = some b := by
  induction bs with
  | nil => cases h
  | cons c bs ih =>
    obtain ⟨hc, hnodup⟩ : c.id ∉ ids bs ∧ (ids bs).Nodup := List.nodup_cons.mp hnodup
    rcases List.mem_cons.mp h with rfl | hb
    · exact lookup_cons_self b bs
    · have hid : b.id ∈ ids bs := List.mem_map_of_mem hb
      have hne : b.id ≠ c.id := fun heq => hc (heq ▸ hid)
      rw [lookup_cons_of_ne hne]
      exact ih hnodup hb

/-! ## First records -/

/-- The ids that are not in `seen`, each where it first appears. -/
def newIds (seen : List String) (xs : List String) : List String := (xs.filter (· ∉ seen)).eraseDups

/-- New ids are those that have not been seen. -/
theorem mem_newIds {seen xs : List String} {x : String} : x ∈ newIds seen xs ↔ x ∈ xs ∧ x ∉ seen := by
  rw [newIds, List.mem_eraseDups, List.mem_filter, decide_eq_true_iff]

/-- An id that has been seen adds nothing; a new one comes first, and has been seen from then on. -/
theorem newIds_cons_of_mem {seen : List String} {x : String} (h : x ∈ seen) (xs : List String) :
    newIds seen (x :: xs) = newIds seen xs := by
  rw [newIds, List.filter_cons_of_neg (by simpa using h), newIds]

theorem newIds_cons_of_not_mem {seen : List String} {x : String} (h : x ∉ seen) (xs : List String) :
    newIds seen (x :: xs) = x :: newIds (x :: seen) xs := by
  have hrest : (xs.filter (· ∉ seen)).filter (fun y => !y == x) = xs.filter (· ∉ x :: seen) := by
    rw [List.filter_filter]
    refine List.filter_congr fun y _ => ?_
    simp only [List.mem_cons, not_or, Bool.decide_and, ← bne_iff_ne, bne, Bool.decide_eq_true]
  rw [newIds, List.filter_cons_of_pos (by simpa using h), List.eraseDups_cons, hrest, newIds]

theorem newIds_nil (xs : List String) : newIds [] xs = xs.eraseDups := by
  rw [newIds, List.filter_eq_self.mpr fun _ _ => by simp]

/-- In which order ids were seen makes no difference. -/
theorem newIds_congr {seen seen' : List String} (h : ∀ x, x ∈ seen ↔ x ∈ seen') (xs : List String) :
    newIds seen xs = newIds seen' xs := by
  simp only [newIds, h]

/-- Leaving out ids from the new ones is having seen them before. -/
theorem filter_newIds (more seen xs : List String) :
    (newIds seen xs).filter (· ∉ more) = newIds (more ++ seen) xs := by
  induction xs generalizing seen with
  | nil => rfl
  | cons x xs ih =>
    by_cases hseen : x ∈ seen
    · rw [newIds_cons_of_mem hseen, newIds_cons_of_mem (List.mem_append_right more hseen), ih]
    · rw [newIds_cons_of_not_mem hseen]
      -- `x` is new, and is sorted out here or stays at the head
      by_cases hmore : x ∈ more
      · have hmem : ∀ y, y ∈ more ++ x :: seen ↔ y ∈ more ++ seen := by
          intro y
          have hy : y = x → y ∈ more := fun h => h ▸ hmore
          simp only [List.mem_append, List.mem_cons]
          exact ⟨fun h => h.elim .inl fun h => h.elim (.inl ∘ hy) .inr, fun h => h.elim .inl (.inr ∘ .inr)⟩
        rw [List.filter_cons_of_neg (by simpa using hmore), ih, newIds_congr hmem,
          newIds_cons_of_mem (List.mem_append_left seen hmore)]
      · have hmem : ∀ y, y ∈ more ++ x :: seen ↔ y ∈ x :: (more ++ seen) := by
          intro y
          simp only [List.mem_append, List.mem_cons, or_left_comm]
        rw [List.filter_cons_of_pos (by simpa using hmore), ih, newIds_congr hmem,
          newIds_cons_of_not_mem fun h => (List.mem_append.mp h).elim hmore hseen]

/-- The ids of two lists, each once: those of the first, and then what is new in the second. -/
theorem newIds_append (xs ys : List String) : (xs ++ ys).eraseDups = newIds [] xs ++ newIds xs ys := by
  have hremove : ys.removeAll xs = ys.filter (· ∉ xs) := by
    refine List.filter_congr fun y _ => ?_
    by_cases h : y ∈ xs <;> simp [h]
  rw [List.eraseDups_append, hremove, newIds_nil, newIds]

/-- No id is new twice. -/
theorem nodup_newIds (seen xs : List String) : (newIds seen xs).Nodup := by
  induction xs generalizing seen with
  | nil => exact .nil
  | cons x xs ih =>
    by_cases h : x ∈ seen
    · rw [newIds_cons_of_mem h]
      exact ih seen
    · rw [newIds_cons_of_not_mem h, List.nodup_cons]
      refine ⟨fun hx => ?_, ih (x :: seen)⟩
      exact (mem_newIds.mp hx).2 (.head _)

/-- The records that come first are the looked-up records of the new ids. -/
theorem firstsAfter_eq_filterMap (seen : List String) (bs : List Bookmark) :
    firstsAfter seen bs = (newIds seen (ids bs)).filterMap fun x => lookup x bs := by
  induction bs generalizing seen with
  | nil => rfl
  | cons b bs ih =>
    -- the head is looked up for no other id, and its own is seen from here on
    have hrest (seen : List String) (hb : b.id ∈ seen) : firstsAfter seen bs
        = (newIds seen (ids bs)).filterMap fun x => lookup x (b :: bs) := by
      rw [ih]
      refine List.filterMap_congr fun x hx => ?_
      have hne : x ≠ b.id := fun h => (mem_newIds.mp hx).2 (h ▸ hb)
      rw [lookup_cons_of_ne hne]
    by_cases h : b.id ∈ seen
    · rw [firstsAfter, if_pos h, hrest seen h]
      exact (newIds_cons_of_mem h (ids bs)) ▸ rfl
    · have hnew : newIds seen (ids (b :: bs)) = b.id :: newIds (b.id :: seen) (ids bs) :=
        newIds_cons_of_not_mem h (ids bs)
      rw [firstsAfter, if_neg h, hrest _ (.head _), hnew, List.filterMap_cons,
        lookup_cons_self]

/-- The first records of a list, in the order in which their ids come up. -/
theorem firsts_eq_filterMap (bs : List Bookmark) :
    firsts bs = (newIds [] (ids bs)).filterMap fun x => lookup x bs :=
  firstsAfter_eq_filterMap [] bs

/-- The local records that only this side has come first after the remote ids. -/
theorem localOnly_eq_filterMap (ours theirs : List Bookmark) :
    localOnly ours theirs = (newIds (ids theirs) (ids ours)).filterMap fun x => lookup x ours := by
  have hids : newIds (ids theirs) (ids ours) = (newIds [] (ids ours)).filter (· ∉ ids theirs) := by
    rw [filter_newIds, List.append_nil]
  rw [localOnly, firsts_eq_filterMap, hids, List.filterMap_filter, List.filter_filterMap]
  refine List.filterMap_congr fun x _ => ?_
  -- the record that stands for `x` has the id `x`, so both sides ask the same question
  cases hx : lookup x ours with
  | none => simp
  | some b =>
    rw [Option.filter_some, id_of_lookup hx]
    simp only [Option.isNone_iff_eq_none, lookup_eq_none_iff, decide_eq_true_eq]

/-! ## What is kept for an id -/

/-- The record that a merge keeps for an id, if it keeps one. -/
def kept (cutoff : Timestamp) (ours theirs : List Bookmark) (x : String) : Option Bookmark :=
  match lookup x theirs with
  | some r => resolve cutoff ours r
  | none => (lookup x ours).filter (retained cutoff)

/-- Whichever record wins, it has the id that is in question. -/
theorem id_of_resolve {cutoff : Timestamp} {ours : List Bookmark} {r b : Bookmark}
    (h : resolve cutoff ours r = some b) : b.id = r.id := by
  unfold resolve at h
  split at h
  · obtain ⟨-, h⟩ := Option.ite_none_right_eq_some.mp h
    rw [Option.some.inj h]
  · next l hl =>
    obtain ⟨-, h⟩ := Option.ite_none_right_eq_some.mp h
    rw [← Option.some.inj h, winner]
    split
    · rfl
    · exact id_of_lookup hl

/-- What is kept for an id has it. -/
theorem id_of_kept {cutoff : Timestamp} {ours theirs : List Bookmark} {x : String} {b : Bookmark}
    (h : kept cutoff ours theirs x = some b) : b.id = x := by
  unfold kept at h
  split at h
  · next r hr =>
    rw [id_of_resolve h]
    exact id_of_lookup hr
  · obtain ⟨hl, -⟩ := Option.filter_eq_some_iff.mp h
    exact id_of_lookup hl

/-- A merge keeps records as they are. -/
theorem mem_of_kept {cutoff : Timestamp} {ours theirs : List Bookmark} {x : String} {b : Bookmark}
    (h : kept cutoff ours theirs x = some b) : b ∈ ours ∨ b ∈ theirs := by
  unfold kept at h
  -- their record decides which branch of the merge was taken
  split at h
  · next r hr =>
    unfold resolve at h
    split at h
    · obtain ⟨-, h⟩ := Option.ite_none_right_eq_some.mp h
      exact .inr (Option.some.inj h ▸ mem_of_lookup hr)
    · next l hl =>
      obtain ⟨-, h⟩ := Option.ite_none_right_eq_some.mp h
      rw [← Option.some.inj h, winner]
      split
      · exact .inr (mem_of_lookup hr)
      · exact .inl (mem_of_lookup hl)
  · obtain ⟨hl, -⟩ := Option.filter_eq_some_iff.mp h
    exact .inl (mem_of_lookup hl)

/-- **A merge keeps one record for each id, in the order in which the ids first appear.** -/
theorem bookmarks_eq_filterMap (cutoff : Timestamp) (ours theirs : List Bookmark) :
    bookmarks cutoff ours theirs
      = (ids theirs ++ ids ours).eraseDups.filterMap (kept cutoff ours theirs) := by
  have htheirs : (firsts theirs).filterMap (resolve cutoff ours)
      = (newIds [] (ids theirs)).filterMap (kept cutoff ours theirs) := by
    rw [firsts_eq_filterMap, List.filterMap_filterMap]
    refine List.filterMap_congr fun x hx => ?_
    have hmem : lookup x theirs ≠ none := fun h => lookup_eq_none_iff.mp h (mem_newIds.mp hx).1
    obtain ⟨r, hr⟩ := Option.ne_none_iff_exists'.mp hmem
    rw [kept, hr]
    rfl
  -- none of these ids is one of the remote ones, so the second case of `kept` applies
  have hours : (localOnly ours theirs).filter (retained cutoff)
      = (newIds (ids theirs) (ids ours)).filterMap (kept cutoff ours theirs) := by
    rw [localOnly_eq_filterMap, ← List.filterMap_eq_filter, List.filterMap_filterMap]
    refine List.filterMap_congr fun x hx => ?_
    rw [kept, lookup_eq_none_iff.mpr (mem_newIds.mp hx).2]
    exact Option.bind_guard _ _
  rw [bookmarks, htheirs, hours, newIds_append, List.filterMap_append]

/-- A merge makes up no record: each comes from one of the two sides. -/
theorem mem_of_mem_bookmarks {cutoff : Timestamp} {ours theirs : List Bookmark} {b : Bookmark}
    (h : b ∈ bookmarks cutoff ours theirs) : b ∈ ours ∨ b ∈ theirs := by
  rw [bookmarks_eq_filterMap] at h
  obtain ⟨x, -, hx⟩ := List.mem_filterMap.mp h
  exact mem_of_kept hx

/-! ## Reading the merged collection -/

section Chosen

variable {f : String → Option Bookmark} (hf : ∀ x b, f x = some b → b.id = x)
include hf

/-- If what stands for an id has that id, the ids that are left are those for which something stands. -/
theorem ids_filterMap (xs : List String) : ids (xs.filterMap f) = xs.filter fun x => (f x).isSome := by
  induction xs with
  | nil => rfl
  | cons x xs ih =>
    cases hx : f x with
    | none => rw [List.filterMap_cons_none hx, List.filter_cons_of_neg (by simp [hx]), ih]
    | some b =>
      rw [List.filterMap_cons_some hx, List.filter_cons_of_pos (by simp [hx]), ← ih, ids,
        List.map_cons, hf x b hx]
      rfl

/-- What stands for an id is found for it. -/
theorem lookup_filterMap {xs : List String} {x : String} (hx : x ∈ xs) : lookup x (xs.filterMap f) = f x := by
  induction xs with
  | nil => cases hx
  | cons y ys ih =>
    cases hy : f y with
    | none =>
      -- nothing stands for `y`, so nothing has the id `y`
      rw [List.filterMap_cons_none hy]
      rcases List.mem_cons.mp hx with rfl | hx
      · rw [hy, lookup_eq_none_iff, ids_filterMap hf, List.mem_filter]
        simp [hy]
      · exact ih hx
    | some b =>
      rw [List.filterMap_cons_some hy]
      by_cases hxy : x = b.id
      · rw [hxy, lookup_cons_self, hf y b hy, hy]
      · rw [lookup_cons_of_ne hxy]
        exact ih ((List.mem_cons.mp hx).resolve_left fun h => hxy (h.trans (hf y b hy).symm))

/-- For ids that are not in the list, nothing stands. -/
theorem lookup_filterMap_of_not_mem {xs : List String} {x : String} (hx : x ∉ xs) :
    lookup x (xs.filterMap f) = none := by
  rw [lookup_eq_none_iff, ids_filterMap hf, List.mem_filter]
  exact fun h => hx h.1

end Chosen

section Merged

variable (cutoff : Timestamp) (ours theirs : List Bookmark)

/-- **A merge has exactly what is kept for each id.** -/
theorem lookup_bookmarks (x : String) :
    lookup x (bookmarks cutoff ours theirs) = kept cutoff ours theirs x := by
  have hid : ∀ y b, kept cutoff ours theirs y = some b → b.id = y := fun _ _ => id_of_kept
  rw [bookmarks_eq_filterMap]
  by_cases hx : x ∈ (ids theirs ++ ids ours).eraseDups
  · exact lookup_filterMap hid hx
  · rw [lookup_filterMap_of_not_mem hid hx]
    rw [List.mem_eraseDups, List.mem_append, not_or] at hx
    simp only [kept, lookup_eq_none_iff.mpr hx.1, lookup_eq_none_iff.mpr hx.2, Option.filter_none]

/-- The ids of a merge: those of the far side first, then those that only we have, without what has expired. -/
theorem ids_bookmarks : ids (bookmarks cutoff ours theirs)
    = (ids theirs ++ ids ours).eraseDups.filter fun x => (kept cutoff ours theirs x).isSome := by
  rw [bookmarks_eq_filterMap]
  exact ids_filterMap (fun _ _ => id_of_kept) _

/-- After a merge no id repeats, whatever the two sides were like. -/
theorem nodup_ids_bookmarks : (ids (bookmarks cutoff ours theirs)).Nodup := by
  rw [ids_bookmarks, ← newIds_nil]
  exact (nodup_newIds [] (ids theirs ++ ids ours)).filter _

end Merged

end BookmarkSync.Merge
