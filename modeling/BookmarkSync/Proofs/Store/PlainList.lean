import BookmarkSync.Proofs.Store.NormalForm

/-!
# `BookmarkSync.Proofs.Store.PlainList` — a store is a plain list

Seen from outside, a store is a list of records with metadata beside it, and a change of records does to
that list what its name says (`Snapshot.Steps`). A commit puts the whole collection into normal form, not
only the record that the change is about; the other records stay as they are because they are in normal
form already.
-/

namespace BookmarkSync

open Merge (ids)

/-! ## Plain lists -/

/-- `after` is `before` with `new` in the place of `old`, its first record of the id `x`. Nothing else is
different. -/
def ReplacesFirst (x : String) (old new : Bookmark) (before after : List Bookmark) : Prop :=
  ∃ front back, before = front ++ old :: back ∧ after = front ++ new :: back ∧
    old.id = x ∧ ∀ b ∈ front, b.id ≠ x

/-- What a change of records, made at `now`, answers and does to a plain list with metadata beside it. -/
inductive Snapshot.Steps (now : Timestamp) : (c : Store.Change) → c.Answer → Snapshot → Snapshot → Prop
  | add (b : Bookmark) (bs : List Bookmark) (m : SyncMetadata) :
      Steps now (.add b) b.normalized ⟨bs, m⟩ ⟨bs ++ [b.normalized], { m with lastModifiedTime := now }⟩
  /-- Creation and kind of the record stay. -/
  | update {b old new : Bookmark} {bs bs' : List Bookmark} (m : SyncMetadata) :
      new = { b with
        createdAt := old.createdAt
        isDirectory := old.isDirectory
        modifiedAt := max now old.createdAt }.normalized →
      ReplacesFirst b.id old new bs bs' →
      Steps now (.update b) (some new) ⟨bs, m⟩ ⟨bs', { m with lastModifiedTime := now }⟩
  | updateUnknown {b : Bookmark} {bs : List Bookmark} (m : SyncMetadata) : b.id ∉ ids bs →
      Steps now (.update b) none ⟨bs, m⟩ ⟨bs, m⟩
  | softDelete {x : String} {old : Bookmark} {bs bs' : List Bookmark} (m : SyncMetadata) :
      ReplacesFirst x old { old with isDeleted := true, modifiedAt := max now old.createdAt } bs bs' →
      Steps now (.softDelete x) true ⟨bs, m⟩ ⟨bs', { m with lastModifiedTime := now }⟩
  | softDeleteUnknown {x : String} {bs : List Bookmark} (m : SyncMetadata) : x ∉ ids bs →
      Steps now (.softDelete x) false ⟨bs, m⟩ ⟨bs, m⟩
  /-- Every record with the id goes, not only the first. -/
  | hardDelete {x : String} {bs : List Bookmark} (m : SyncMetadata) : x ∈ ids bs →
      Steps now (.hardDelete x) true ⟨bs, m⟩ ⟨bs.filter (·.id != x), { m with lastModifiedTime := now }⟩
  | hardDeleteUnknown {x : String} {bs : List Bookmark} (m : SyncMetadata) : x ∉ ids bs →
      Steps now (.hardDelete x) false ⟨bs, m⟩ ⟨bs, m⟩
  | save (new bs : List Bookmark) (m : SyncMetadata) :
      Steps now (.save new) () ⟨bs, m⟩ ⟨new.map Bookmark.normalized, { m with lastModifiedTime := now }⟩

namespace Store

/-- Whether the change is one of records that the store itself makes. -/
def Change.OfRecords : Change → Prop
  | add _ | update _ | softDelete _ | hardDelete _ | save _ => True
  | saveMetadata _ | replaceWith _ | importText _ => False

/-- A key that a commit writes is refused, because of `f`. -/
def Refuses (s : Store) (f : KeyFault) : Prop :=
  s.kv.writeFault? bookmarksKey = some f ∨ s.kv.writeFault? metadataKey = some f

/-! ## Changing the first record -/

theorem replacesFirst_modifyFirst {x : String} {f : Bookmark → Bookmark} {bs : List Bookmark} {old : Bookmark}
    (h : Merge.lookup x bs = some old) : ReplacesFirst x old (f old) bs (modifyFirst x f bs) := by
  induction bs with
  | nil => cases h
  | cons b bs ih =>
    by_cases hb : b.id = x
    · have hlookup : Merge.lookup x (b :: bs) = some b := by
        rw [← hb]
        exact Merge.lookup_cons_self b bs
      obtain rfl : b = old := Option.some.inj (hlookup.symm.trans h)
      rw [modifyFirst, if_pos hb]
      exact ⟨[], bs, rfl, rfl, hb, List.forall_mem_nil _⟩
    · have hne : x ≠ b.id := fun h => hb h.symm
      rw [Merge.lookup_cons_of_ne hne] at h
      rw [modifyFirst, if_neg hb]
      -- the record is further on, and `b` stands before it
      obtain ⟨front, back, hbefore, hafter, hold, hfront⟩ := ih h
      exact ⟨b :: front, back, congrArg (b :: ·) hbefore, congrArg (b :: ·) hafter, hold,
        List.forall_mem_cons.mpr ⟨hb, hfront⟩⟩

theorem inNormalForm_of_replacesFirst {x : String} {old new : Bookmark} {bs bs' : List Bookmark}
    (h : InNormalForm bs) (hbs : ReplacesFirst x old new bs bs') (hnew : old.IsNormal → new.IsNormal) :
    InNormalForm bs' := by
  obtain ⟨front, back, rfl, rfl, -, -⟩ := hbs
  obtain ⟨hfront, hold, hback⟩ : InNormalForm front ∧ old.normalized = old ∧ InNormalForm back := by
    simpa only [InNormalForm, List.forall_mem_append, List.forall_mem_cons] using h
  have hnormal : new.normalized = new := (new.normalized_eq_iff).mpr (hnew (old.normalized_eq_iff.mp hold))
  show ∀ b ∈ front ++ new :: back, b.normalized = b
  simp only [List.forall_mem_append, List.forall_mem_cons]
  exact ⟨hfront, hnormal, hback⟩

/-! ## The changes -/

/-- The outcome `r` of a change is that of the plain list, unless the entries refuse it. -/
def Refines (now : Timestamp) (s : Store) (c : Change) (r : Except StorageError c.Answer × Store) : Prop :=
  (∃ f, r = (.error (.backend f), s) ∧ s.Refuses f) ∨
  ∃ a, r.1 = .ok a ∧ Snapshot.Steps now c a s.snapshot r.2.snapshot

section Changes

variable {now : Timestamp} {s : Store}

/-- A change that commits `bs` refines a step of the plain list to what that is in normal form. -/
theorem refines_commit {c : Change} {a : c.Answer} {bs bs' : List Bookmark}
    (hbs : bs.map Bookmark.normalized = bs')
    (h : Snapshot.Steps now c a s.snapshot ⟨bs', { s.metadata with lastModifiedTime := now }⟩) :
    Refines now s c (answering a (s.commitStamped now bs)) := by
  subst hbs
  rcases commit_cases s bs (s.metadata.withLastModified now) with ⟨f, hrefused, hfault⟩ | hcommitted
  · refine .inl ⟨f, ?_, hfault⟩
    rw [commitStamped, hrefused]
    rfl
  · refine .inr ⟨a, ?_, ?_⟩
    · rw [commitStamped, hcommitted]
      rfl
    · rw [commitStamped, hcommitted]
      exact h

/-- What is found leaves nothing to change when there is no record of the id. -/
theorem get_eq_none_iff {x : String} : s.get x = none ↔ x ∉ ids s.bookmarks := Merge.lookup_eq_none_iff

theorem mem_ids_of_get {x : String} {b : Bookmark} (h : s.get x = some b) : x ∈ ids s.bookmarks := by
  by_contra hx
  rw [get_eq_none_iff.mpr hx] at h
  cases h

theorem refines_add (hnormal : InNormalForm s.bookmarks) (b : Bookmark) :
    Refines now s (.add b) (s.add now b) := by
  have hbs : (s.bookmarks ++ [b.normalized]).map Bookmark.normalized = s.bookmarks ++ [b.normalized] := by
    rw [List.map_append, hnormal.map_normalized, List.map_singleton, b.normalized_normalized]
  exact refines_commit hbs (.add b s.bookmarks s.metadata)

theorem refines_update (hnormal : InNormalForm s.bookmarks) (b : Bookmark) :
    Refines now s (.update b) (s.update now b) := by
  unfold update
  cases hget : s.get b.id with
  | none => exact .inr ⟨none, rfl, .updateUnknown s.metadata (get_eq_none_iff.mp hget)⟩
  | some old =>
    have hnew : (updated now b old).IsNormal :=
      (Bookmark.normalized_eq_iff _).mp (Bookmark.normalized_normalized _)
    have hstamp : updated now b old = { b with
        createdAt := old.createdAt
        isDirectory := old.isDirectory
        modifiedAt := max now old.createdAt }.normalized := by
      simp only [updated, Bookmark.normalized, Timestamp.max_max_right]
    have hreplaced := replacesFirst_modifyFirst (f := fun _ => updated now b old) hget
    have hbs := inNormalForm_of_replacesFirst hnormal hreplaced fun _ => hnew
    exact refines_commit hbs.map_normalized (.update s.metadata hstamp hreplaced)

theorem refines_softDelete (hnormal : InNormalForm s.bookmarks) (x : String) :
    Refines now s (.softDelete x) (s.softDelete now x) := by
  unfold softDelete
  cases hget : s.get x with
  | none => exact .inr ⟨false, rfl, .softDeleteUnknown s.metadata (get_eq_none_iff.mp hget)⟩
  | some old =>
    have hnew : old.IsNormal → (old.tombstoned now).IsNormal := by
      intro h
      exact ⟨Timestamp.le_max_right now old.createdAt, h.shown, h.notes⟩
    -- a tombstone is not put into normal form, but it keeps what is
    have hreplaced := replacesFirst_modifyFirst (f := (·.tombstoned now)) hget
    have hbs := inNormalForm_of_replacesFirst hnormal hreplaced hnew
    exact refines_commit hbs.map_normalized (.softDelete s.metadata hreplaced)

theorem refines_hardDelete (hnormal : InNormalForm s.bookmarks) (x : String) :
    Refines now s (.hardDelete x) (s.hardDelete now x) := by
  unfold hardDelete
  cases hget : s.get x with
  | none => exact .inr ⟨false, rfl, .hardDeleteUnknown s.metadata (get_eq_none_iff.mp hget)⟩
  | some old =>
    have hbs : InNormalForm (s.bookmarks.filter (·.id != x)) :=
      fun b hb => hnormal b (List.mem_of_mem_filter hb)
    exact refines_commit hbs.map_normalized (.hardDelete s.metadata (mem_ids_of_get hget))

theorem refines_save (bs : List Bookmark) : Refines now s (.save bs) (s.save now bs) := by
  have hsave : s.save now bs = answering () (s.commitStamped now bs) := by
    rw [save]
    rcases s.commitStamped now bs with ⟨r, t⟩
    cases r <;> rfl
  rw [hsave]
  exact refines_commit rfl (.save bs s.bookmarks s.metadata)

/-- What a change of records does to a collection in normal form. -/
theorem refines_run (hnormal : InNormalForm s.bookmarks) {c : Change} (hc : c.OfRecords) :
    Refines now s c (c.run now s) := by
  cases c with
  | add b => exact refines_add hnormal b
  | update b => exact refines_update hnormal b
  | softDelete x => exact refines_softDelete hnormal x
  | hardDelete x => exact refines_hardDelete hnormal x
  | save bs => exact refines_save bs
  | saveMetadata m => exact hc.elim
  | replaceWith f => exact hc.elim
  | importText text => exact hc.elim

end Changes

/-! ## The store -/

/-- **A store is a plain list.** In every state that a store gets into from any entries, a change of records
either is refused because a key cannot be written, and nothing has happened, or it does what it does to a
plain list. Whoever updates or deletes a record that is not there is told so, and nothing has happened
either, whether or not anything could be written. -/
theorem store_is_plain_list (kv : KeyValue) (opened : Timestamp) (freshId : String) (es : List Event) :
    let s := (openOn kv opened freshId).after es
    (∀ (now : Timestamp) (c : Change), c.OfRecords →
      (∃ f, c.run now s = (.error (.backend f), s) ∧ s.Refuses f) ∨
      ∃ a, (c.run now s).1 = .ok a ∧ Snapshot.Steps now c a s.snapshot (c.run now s).2.snapshot) ∧
    (∀ (now : Timestamp) (b : Bookmark), b.id ∉ ids s.bookmarks → s.update now b = (.ok none, s)) ∧
    (∀ (now : Timestamp) (x : String), x ∉ ids s.bookmarks →
      s.softDelete now x = (.ok false, s) ∧ s.hardDelete now x = (.ok false, s)) := by
  intro s
  -- records in normal form are not changed by being written again
  have hnormal : InNormalForm s.bookmarks := inNormalForm_reached kv opened freshId es
  refine ⟨?_, ?_, ?_⟩
  · intro now c hc
    exact refines_run hnormal hc
  · intro now b hb
    rw [update, get_eq_none_iff.mpr hb]
  · intro now x hx
    rw [softDelete, hardDelete, get_eq_none_iff.mpr hx]
    exact ⟨rfl, rfl⟩

/-- A store that holds two records of one id, made at 5. Its clock has gone back when the first of them is
deleted, and a record that it does not hold is updated and deleted. -/
theorem store_is_plain_list_repeated :
    let b := Bookmark.create "x" "notes" "/notes" false 5
    let s := (openOn .empty 0 "device").after [.change (.save [b, b]) 6]
    (∃ a, ((Change.softDelete "x").run 2 s).1 = .ok a ∧
      Snapshot.Steps 2 (.softDelete "x") a ⟨[b, b], ⟨0, "device", 1, 6⟩⟩
        ⟨[{ b with isDeleted := true }, b], ⟨0, "device", 1, 2⟩⟩) ∧
    s.update 2 { b with id := "y" } = (.ok none, s) ∧
    s.softDelete 2 "y" = (.ok false, s) ∧ s.hardDelete 2 "y" = (.ok false, s) := by
  intro b s
  obtain ⟨hstep, hupdate, hdelete⟩ := store_is_plain_list .empty 0 "device" [.change (.save [b, b]) 6]
  refine ⟨?_, hupdate 2 { b with id := "y" } (by decide), hdelete 2 "y" (by decide)⟩
  rcases hstep 2 (.softDelete "x") trivial with ⟨f, -, hrefused⟩ | hstepped
  · rcases hrefused with hfault | hfault <;> cases hfault
  · exact hstepped

end Store

end BookmarkSync
