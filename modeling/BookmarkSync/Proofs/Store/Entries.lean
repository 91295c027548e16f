import BookmarkSync.Proofs.Codec.RoundTrip
import BookmarkSync.Proofs.Store.Changes
import BookmarkSync.Proofs.Time

/-!
# `BookmarkSync.Proofs.Store.Entries` — what the entries say

The texts that a commit writes are read back as exactly what was committed, since a commit writes records
in normal form only, and these have no blank notes to lose. Other writes and all loads leave the entry of
the collection alone.
-/

namespace BookmarkSync

/-! ## Normal forms -/

namespace Bookmark

/-- A normal form is its own normal form, and has no blank notes. -/
theorem normalized_normalized (b : Bookmark) : b.normalized.normalized = b.normalized := by
  simp only [normalized, Bool.and_assoc, Bool.and_self, nonBlank_nonBlank, Timestamp.max_max_right]

theorem withoutBlankNotes_normalized (b : Bookmark) : b.normalized.withoutBlankNotes = b.normalized := by
  simp only [normalized, withoutBlankNotes_eq, nonBlank_nonBlank]

/-- So a collection in normal form is written as it is. -/
theorem map_withoutBlankNotes_normalized (bs : List Bookmark) :
    (bs.map normalized).map withoutBlankNotes = bs.map normalized := by
  rw [List.map_map]
  exact List.map_congr_left fun b _ => withoutBlankNotes_normalized b

theorem map_normalized_normalized (bs : List Bookmark) :
    (bs.map normalized).map normalized = bs.map normalized := by
  rw [List.map_map]
  exact List.map_congr_left fun b _ => normalized_normalized b

end Bookmark

namespace Store

/-! ## Entries that hold what is meant -/

/-- The entry of the collection is read as these bookmarks. -/
def HoldsBookmarks (kv : KeyValue) (bs : List Bookmark) : Prop :=
  ∃ text, kv.lookup bookmarksKey = some text ∧ Codec.bookmarksOfText text = .ok bs

/-- The entry of the metadata is read as this metadata. -/
def HoldsMetadata (kv : KeyValue) (m : SyncMetadata) : Prop :=
  ∃ text, kv.lookup metadataKey = some text ∧ SyncMetadata.ofText text = .ok m

/-- An entry with the text of the metadata holds it, since the text is read back. -/
theorem HoldsMetadata.of_text {kv : KeyValue} {m : SyncMetadata} (h : kv.lookup metadataKey = some m.text) :
    HoldsMetadata kv m :=
  ⟨m.text, h, m.ofText_text⟩

/-- The two entries do not get in each other's way. -/
theorem bookmarksKey_ne_metadataKey : bookmarksKey ≠ metadataKey := by decide

/-! ## The entries after a write -/

section Writes

variable (s : Store) (bs : List Bookmark) (m : SyncMetadata)

/-- A commit writes both entries, and each holds what was committed. -/
theorem lookup_bookmarks_committed :
    (s.committed bs m).kv.lookup bookmarksKey = some (Codec.bookmarksText (bs.map Bookmark.normalized)) := by
  rw [KeyValue.lookup_eq_textOf, committed, KeyValue.insertAll, List.foldl_cons, List.foldl_cons,
    List.foldl_nil, KeyValue.textOf_insert_of_ne bookmarksKey_ne_metadataKey, KeyValue.textOf_insert_self]

theorem lookup_metadata_committed : (s.committed bs m).kv.lookup metadataKey = some m.text := by
  rw [KeyValue.lookup_eq_textOf, committed, KeyValue.insertAll, List.foldl_cons, List.foldl_cons,
    List.foldl_nil, KeyValue.textOf_insert_self]

theorem holdsBookmarks_committed : HoldsBookmarks (s.committed bs m).kv (s.committed bs m).bookmarks := by
  refine ⟨_, lookup_bookmarks_committed s bs m, ?_⟩
  rw [Codec.bookmarksOfText_bookmarksText, Bookmark.map_withoutBlankNotes_normalized]
  rfl

theorem holdsMetadata_committed : HoldsMetadata (s.committed bs m).kv m :=
  .of_text (lookup_metadata_committed s bs m)

/-- Writing the metadata alone leaves the other entry. -/
theorem lookup_bookmarks_putMetadata (kv : KeyValue) (text : String) :
    KeyValue.lookup { kv with entries := KeyValue.insertAll [(metadataKey, text)] kv.entries } bookmarksKey
      = kv.lookup bookmarksKey :=
  KeyValue.textOf_insert_of_ne bookmarksKey_ne_metadataKey text kv.entries

theorem lookup_metadata_putMetadata (kv : KeyValue) (text : String) :
    KeyValue.lookup { kv with entries := KeyValue.insertAll [(metadataKey, text)] kv.entries } metadataKey
      = some text :=
  KeyValue.textOf_insert_self metadataKey text kv.entries

/-- A store whose metadata was saved has it in its entry. -/
theorem holdsMetadata_withMetadata : HoldsMetadata (s.withMetadata m).kv m :=
  .of_text (lookup_metadata_putMetadata s.kv m.text)

end Writes

/-! ## Reading -/

/-- What is read depends on the entry, and on whether reading fails, and on nothing else. -/
theorem readBookmarks_congr {kv kv' : KeyValue} (hreads : kv.failingReads = kv'.failingReads)
    (h : kv.lookup bookmarksKey = kv'.lookup bookmarksKey) : readBookmarks kv = readBookmarks kv' := by
  simp only [readBookmarks, KeyValue.get, hreads, h]

/-- What an entry holds is read back in normal form. -/
theorem readBookmarks_of_holds {kv : KeyValue} (hreads : kv.failingReads = false) {bs : List Bookmark}
    (h : HoldsBookmarks kv bs) : readBookmarks kv = bs.map Bookmark.normalized := by
  obtain ⟨text, htext, hread⟩ := h
  simp only [readBookmarks, KeyValue.get, hreads, htext, hread, Bool.false_eq_true, if_false]

/-- Metadata that an entry holds is read back, and no fresh one is written. -/
theorem readMetadata_of_holds {kv : KeyValue} (hreads : kv.failingReads = false) {m : SyncMetadata}
    (h : HoldsMetadata kv m) (now : Timestamp) (freshId : String) : readMetadata kv now freshId = (m, kv) := by
  obtain ⟨text, htext, hread⟩ := h
  simp only [readMetadata, KeyValue.get, hreads, htext, hread, Bool.false_eq_true, if_false]

/-- Reading metadata makes an entry for it when there is none and it can be written. -/
theorem readMetadata_of_missing {kv : KeyValue} (hreads : kv.failingReads = false)
    (hmissing : kv.lookup metadataKey = none) (hfault : kv.writeFault? metadataKey = none) (now : Timestamp)
    (freshId : String) :
    readMetadata kv now freshId =
      (.create freshId now,
        { kv with
          entries :=
            KeyValue.insertAll [(metadataKey, (SyncMetadata.create freshId now).text)] kv.entries }) := by
  simp only [readMetadata, KeyValue.get, hreads, hmissing, Bool.false_eq_true, if_false, KeyValue.put,
    KeyValue.putAll, List.findSome?_cons, List.findSome?_nil, hfault]

/-- Reading metadata changes the entries only to make that of the metadata. -/
theorem readMetadata_kv (kv : KeyValue) (now : Timestamp) (freshId : String) :
    (readMetadata kv now freshId).2 = kv ∨
    kv.lookup metadataKey = none ∧ (readMetadata kv now freshId).2 =
      { kv with
        entries := KeyValue.insertAll [(metadataKey, (SyncMetadata.create freshId now).text)] kv.entries } := by
  unfold readMetadata
  -- the entry is there, readable or not; it is missing; or reading fails
  split
  · split <;> exact .inl rfl
  · next hget =>
    have hmissing : kv.lookup metadataKey = none := by
      unfold KeyValue.get at hget
      split at hget
      · cases hget
      · exact Except.ok.inj hget
    rcases KeyValue.putAll_cases kv [(metadataKey, (SyncMetadata.create freshId now).text)]
      with ⟨f, hput, -⟩ | ⟨hput, -⟩
    · refine .inl ?_
      simp only [KeyValue.put, hput]
    · refine .inr ⟨hmissing, ?_⟩
      simp only [KeyValue.put, hput]
  · exact .inl rfl

end Store

end BookmarkSync
