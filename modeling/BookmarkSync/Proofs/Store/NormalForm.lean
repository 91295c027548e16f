import BookmarkSync.Device
import BookmarkSync.Proofs.Merge.Kept
import BookmarkSync.Proofs.Store.Atomic
import BookmarkSync.Proofs.Store.Reopen

/-!
# `BookmarkSync.Proofs.Store.NormalForm` — collections in normal form

A store holds records in normal form only, from its first moment on (`Device.inNormalForm_start`,
`Store.inNormalForm_apply`): a commit puts them into it, a load reads them into it, and nothing else writes
records. So the texts that commits write hold records in normal form only (`Store.normalEntry_after`).

An edit of a record leaves it, in normal form, with the time of the edit, or with that of its creation if
that is later (`Store.modifiedAt_of_edits`).
-/

namespace BookmarkSync

open Merge (lookup)

/-- Putting a record into normal form never makes it older. -/
theorem Bookmark.modifiedAt_le_normalized (b : Bookmark) : b.modifiedAt ≤ b.normalized.modifiedAt := by
  have hmax := Timestamp.toInt_max b.modifiedAt b.createdAt
  rw [Int64.le_iff_toInt_le]
  show b.modifiedAt.toInt ≤ (max b.modifiedAt b.createdAt).toInt
  omega

/-- What it is for a record to be in normal form. -/
structure Bookmark.IsNormal (b : Bookmark) : Prop where
  /-- The record has not changed before it was made. -/
  changed : b.createdAt ≤ b.modifiedAt
  /-- Only a directory is shown in the sidebar. -/
  shown : b.showInSidebar = true → b.isDirectory = true
  /-- Notes are absent, or there is something in them. -/
  notes : b.notes ≠ some ""

/-- **The records that normalizing leaves alone are the ones in normal form.** -/
theorem Bookmark.normalized_eq_iff (b : Bookmark) : b.normalized = b ↔ b.IsNormal := by
  obtain ⟨id, name, path, isDirectory, tags, notes, createdAt, modifiedAt, showInSidebar, isDeleted⟩ := b
  -- one condition for each of the three fields that are normalized
  have htime : max modifiedAt createdAt = modifiedAt ↔ createdAt ≤ modifiedAt := by
    have hmax := Timestamp.toInt_max modifiedAt createdAt
    rw [Int64.le_iff_toInt_le, ← Int64.toInt_inj]
    omega
  have hshown : (showInSidebar && isDirectory) = showInSidebar ↔
      (showInSidebar = true → isDirectory = true) := by
    cases showInSidebar <;> simp
  have hnotes : nonBlank notes = notes ↔ notes ≠ some "" := by
    rw [nonBlank_eq_ite]
    by_cases hn : notes = some "" <;> simp [hn]
  constructor
  · intro h
    simp only [normalized, Bookmark.mk.injEq, true_and, and_true] at h
    obtain ⟨hn, ht, hs⟩ := h
    exact ⟨htime.mp ht, hshown.mp hs, hnotes.mp hn⟩
  · rintro ⟨ht, hs, hn⟩
    simp only [normalized, Bookmark.mk.injEq, true_and, and_true]
    exact ⟨hnotes.mpr hn, htime.mpr ht, hshown.mpr hs⟩

/-! ## Collections -/

/-- Every record of the collection is in normal form. -/
def InNormalForm (bs : List Bookmark) : Prop := ∀ b ∈ bs, b.normalized = b

/-- Bringing a collection into normal form leaves it there. -/
theorem inNormalForm_map_normalized (bs : List Bookmark) : InNormalForm (bs.map Bookmark.normalized) := by
  intro b hb
  obtain ⟨b, -, rfl⟩ := List.mem_map.mp hb
  exact b.normalized_normalized

/-- A collection in normal form need not be brought into it. -/
theorem InNormalForm.map_normalized {bs : List Bookmark} (h : InNormalForm bs) :
    bs.map Bookmark.normalized = bs := by
  rw [List.map_congr_left h, List.map_id']

/-- Being in normal form can be said record by record. -/
theorem inNormalForm_iff {bs : List Bookmark} : InNormalForm bs ↔ ∀ b ∈ bs, b.IsNormal :=
  forall₂_congr fun b _ => b.normalized_eq_iff

/-- Records in normal form have no blank notes, so nothing of them is lost when they are written. -/
theorem InNormalForm.map_withoutBlankNotes {bs : List Bookmark} (h : InNormalForm bs) :
    bs.map Bookmark.withoutBlankNotes = bs := by
  have hsame := Bookmark.map_withoutBlankNotes_normalized bs
  rwa [h.map_normalized] at hsame

namespace Merge

/-- Normal forms keep their ids, so they are found for the same ids. -/
theorem lookup_map_normalized (x : String) (bs : List Bookmark) :
    lookup x (bs.map Bookmark.normalized) = (lookup x bs).map Bookmark.normalized := by
  unfold lookup
  rw [List.find?_map]
  rfl

theorem ids_map_normalized (bs : List Bookmark) : ids (bs.map Bookmark.normalized) = ids bs := by
  rw [ids, List.map_map]
  rfl

/-- A merge repeats no id, also in normal form. -/
theorem nodup_ids_normalized (cutoff : Timestamp) (ours theirs : List Bookmark) :
    (ids ((bookmarks cutoff ours theirs).map Bookmark.normalized)).Nodup := by
  rw [ids_map_normalized]
  exact nodup_ids_bookmarks cutoff ours theirs

end Merge

/-! ## Stores -/

namespace Store

/-- Whatever stands in an entry, what is read from it is in normal form. -/
theorem inNormalForm_readBookmarks (kv : KeyValue) : InNormalForm (readBookmarks kv) := by
  unfold readBookmarks
  split
  · split
    · exact inNormalForm_map_normalized _
    · nofun
  · nofun

/-- So is what is committed, whatever it was before. -/
theorem inNormalForm_committed (s : Store) (bs : List Bookmark) (m : SyncMetadata) :
    InNormalForm (s.committed bs m).bookmarks :=
  inNormalForm_map_normalized bs

/-- **No event takes a store out of normal form.** -/
theorem inNormalForm_apply (s : Store) (event : Event) (h : InNormalForm s.bookmarks) :
    InNormalForm (event.apply s).bookmarks := by
  cases event with
  | change c now =>
    exact Change.preserves
      (P := fun s => InNormalForm s.bookmarks) h (inNormalForm_committed s) (fun _ => h) now c
  | load now freshId => exact inNormalForm_readBookmarks s.kv
  | refuse readOnly failingKey => exact h

/-- **A store that was opened holds records in normal form**, whatever has happened to it since. -/
theorem inNormalForm_reached (kv : KeyValue) (opened : Timestamp) (freshId : String) (es : List Event) :
    InNormalForm ((openOn kv opened freshId).after es).bookmarks :=
  after_induction (P := fun s => InNormalForm s.bookmarks) inNormalForm_apply (inNormalForm_readBookmarks kv) es

/-! ### The entry -/

/-- The entry of the collection is the text of records in normal form. -/
def NormalEntry (kv : KeyValue) : Prop :=
  ∃ bs, InNormalForm bs ∧ kv.lookup bookmarksKey = some (Codec.bookmarksText bs)

/-- Whether an event is a change that goes through a commit and succeeds. -/
def Event.HasCommitted (s : Store) : Event → Prop
  | change c now => c.Commits s ∧ ∃ a, (c.run now s).1 = .ok a
  | load _ _ | refuse _ _ => False

/-- Whether some event of a run has committed something. -/
def HasCommitted (s : Store) : List Event → Prop
  | [] => False
  | e :: es => e.HasCommitted s ∨ HasCommitted (e.apply s) es

/-- A commit writes the entry of records in normal form, and no event writes another one. -/
theorem normalEntry_committed (s : Store) (bs : List Bookmark) (m : SyncMetadata) :
    NormalEntry (s.committed bs m).kv :=
  ⟨bs.map Bookmark.normalized, inNormalForm_map_normalized bs, lookup_bookmarks_committed s bs m⟩

theorem NormalEntry.apply {s : Store} (e : Event) (h : NormalEntry s.kv) : NormalEntry (e.apply s).kv := by
  cases e with
  | change c now =>
    refine c.preserves (P := fun s => NormalEntry s.kv) h (normalEntry_committed s) ?_ now
    intro m
    obtain ⟨bs, hbs, htext⟩ := h
    exact ⟨bs, hbs, (lookup_bookmarks_putMetadata s.kv m.text).trans htext⟩
  | load now freshId =>
    obtain ⟨bs, hbs, htext⟩ := h
    exact ⟨bs, hbs, (load_entries s now freshId).1.trans htext⟩
  | refuse readOnly failingKey => exact h

/-- Whatever the entry was before, it is that of records in normal form after a commit. -/
theorem normalEntry_of_hasCommitted {s : Store} {e : Event} (h : e.HasCommitted s) :
    NormalEntry (e.apply s).kv := by
  cases e with
  | change c now =>
    obtain ⟨hcommits, a, hok⟩ := h
    obtain ⟨bs, m, hs⟩ := run_of_commits hcommits hok
    show NormalEntry (c.run now s).2.kv
    rw [hs]
    exact normalEntry_committed s bs m
  | load now freshId => exact h.elim
  | refuse readOnly failingKey => exact h.elim

/-- Once something has been committed, the entry is the text of records in normal form. -/
theorem normalEntry_after {s : Store} {es : List Event} (h : NormalEntry s.kv ∨ s.HasCommitted es) :
    NormalEntry (s.after es).kv := by
  induction es generalizing s with
  | nil => exact h.resolve_right id
  | cons e es ih =>
    refine ih ?_
    rcases h with hnow | hfirst | hlater
    · exact .inl (hnow.apply e)
    · exact .inl (normalEntry_of_hasCommitted hfirst)
    · exact .inr hlater

end Store

/-- **A device starts with a collection in normal form.** -/
theorem Device.inNormalForm_start (kv : KeyValue) (clock : Timestamp) (ids : IdSupply) (loaded : Bool) :
    InNormalForm (Device.start kv clock ids loaded).store.bookmarks := by
  cases loaded with
  | true => exact Store.inNormalForm_readBookmarks _
  | false => exact List.forall_mem_nil _

/-! ## Edits -/

namespace Store

/-- The change is an edit of the record with the id `x`. -/
inductive Change.Edits : Change → String → Prop
  | update (b : Bookmark) : Edits (.update b) b.id
  | softDelete (x : String) : Edits (.softDelete x) x

/-- Changing the first record of an id, without changing the id, changes what is found for it. -/
theorem lookup_modifyFirst {x : String} {f : Bookmark → Bookmark} (hf : ∀ b, b.id = x → (f b).id = x)
    (bs : List Bookmark) : lookup x (modifyFirst x f bs) = (lookup x bs).map f := by
  induction bs with
  | nil => rfl
  | cons b bs ih =>
    by_cases hb : b.id = x
    · have hfb : lookup x (f b :: bs) = some (f b) := by
        rw [← hf b hb]
        exact Merge.lookup_cons_self (f b) bs
      have hlookup : lookup x (b :: bs) = some b := by
        rw [← hb]
        exact Merge.lookup_cons_self b bs
      rw [modifyFirst, if_pos hb, hfb, hlookup]
      rfl
    · have hne : x ≠ b.id := fun h => hb h.symm
      rw [modifyFirst, if_neg hb, Merge.lookup_cons_of_ne hne, Merge.lookup_cons_of_ne hne, ih]

/-- After a commit that answers, the first record of an id is that of the committed collection, in normal
form. -/
theorem lookup_of_answering_commit {α : Type} {a : α} {s : Store} {bs : List Bookmark} {m : SyncMetadata}
    (hok : ∃ b, (answering a (s.commit bs m)).1 = .ok b) (x : String) :
    lookup x (answering a (s.commit bs m)).2.bookmarks = (lookup x bs).map Bookmark.normalized := by
  rcases answering_commit_cases a s bs m with ⟨e, h⟩ | h
  · obtain ⟨b, hb⟩ := hok
    rw [h] at hb
    cases hb
  · rw [h]
    exact Merge.lookup_map_normalized x bs

/-- An edit stamps its record with the time, but not with one before the record was made. -/
theorem modifiedAt_normalized_tombstoned (b : Bookmark) (now : Timestamp) :
    (b.tombstoned now).normalized.modifiedAt = max now b.createdAt :=
  Timestamp.max_max_right now b.createdAt

theorem modifiedAt_normalized_updated (now : Timestamp) (b stored : Bookmark) :
    (updated now b stored).normalized.modifiedAt = max now stored.createdAt :=
  Timestamp.max_max_right now stored.createdAt

/-- After an update, and likewise after a deletion, the record has the time of the edit. -/
theorem modifiedAt_of_update {s : Store} {now : Timestamp} {b l : Bookmark}
    (hok : ∃ a, (s.update now b).1 = .ok a) (hl : lookup b.id (s.update now b).2.bookmarks = some l) :
    l.modifiedAt = max now l.createdAt := by
  unfold update at hok hl
  cases hget : s.get b.id with
  | none =>
    have hnone : lookup b.id s.bookmarks = none := hget
    simp only [hget, hnone] at hl
    cases hl
  | some stored =>
    have hstored : lookup b.id s.bookmarks = some stored := hget
    have hid : (updated now b stored).id = b.id := rfl
    simp only [hget] at hok hl
    rw [commitStamped, lookup_of_answering_commit hok, hid, lookup_modifyFirst fun _ _ => hid, hstored] at hl
    cases hl
    exact modifiedAt_normalized_updated now b stored

theorem modifiedAt_of_softDelete {s : Store} {now : Timestamp} {x : String} {l : Bookmark}
    (hok : ∃ a, (s.softDelete now x).1 = .ok a) (hl : lookup x (s.softDelete now x).2.bookmarks = some l) :
    l.modifiedAt = max now l.createdAt := by
  unfold softDelete at hok hl
  cases hget : s.get x with
  | none =>
    have hnone : lookup x s.bookmarks = none := hget
    simp only [hget, hnone] at hl
    cases hl
  | some stored =>
    have hstored : lookup x s.bookmarks = some stored := hget
    have hid : ∀ b : Bookmark, b.id = x → (b.tombstoned now).id = x := fun _ h => h
    simp only [hget] at hok hl
    rw [commitStamped, lookup_of_answering_commit hok, lookup_modifyFirst hid, hstored] at hl
    cases hl
    exact modifiedAt_normalized_tombstoned stored now

/-- **An edit stamps the record with its time**, or with that of its creation if that is later. -/
theorem modifiedAt_of_edits {s : Store} {c : Change} {x : String} (hedits : c.Edits x) {now : Timestamp}
    (hok : ∃ a, (c.run now s).1 = .ok a) {l : Bookmark} (hl : lookup x (c.run now s).2.bookmarks = some l) :
    l.modifiedAt = max now l.createdAt := by
  cases hedits with
  | update b => exact modifiedAt_of_update hok hl
  | softDelete x => exact modifiedAt_of_softDelete hok hl

end Store

end BookmarkSync
