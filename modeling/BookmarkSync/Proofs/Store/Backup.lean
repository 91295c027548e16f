import BookmarkSync.Proofs.Store.NormalForm

/-!
# `BookmarkSync.Proofs.Store.Backup` — what a backup brings back

The text of a backup is read as the document that was written, but for blank notes, and an import commits
what it has read in normal form. Neither loses anything of a store's own collection, because that is in
normal form already. So the text carries the whole state over, to any store that can be written.
-/

namespace BookmarkSync.Store

/-- The store shows the snapshot, in memory and on both streams. -/
structure Shows (s : Store) (x : Snapshot) : Prop where
  memory : s.snapshot = x
  bookmarkStream : s.bookmarkStream.value = x.bookmarks
  metadataStream : s.metadataStream.value = x.metadata

/-- The store shows the snapshot, and so does whoever opens a store over its entries, once these can be
read, whatever they then refuse to write. -/
structure Keeps (s : Store) (x : Snapshot) : Prop where
  shows : s.Shows x
  reopened : ∀ (readOnly : Bool) (failingKey : Option String) (now : Timestamp) (freshId : String),
    (openOn { s.kv with readOnly, failingKey, failingReads := false } now freshId).Shows x

/-- What is opened over entries that can be read is what they hold. -/
theorem shows_openOn {kv : KeyValue} (hreads : kv.failingReads = false) {x : Snapshot}
    (hbookmarks : HoldsBookmarks kv x.bookmarks) (hnormal : InNormalForm x.bookmarks)
    (hmetadata : HoldsMetadata kv x.metadata) (now : Timestamp) (freshId : String) :
    (openOn kv now freshId).Shows x := by
  have hb : (openOn kv now freshId).bookmarks = x.bookmarks := by
    show readBookmarks kv = x.bookmarks
    rw [readBookmarks_of_holds hreads hbookmarks, hnormal.map_normalized]
  have hm : (openOn kv now freshId).metadata = x.metadata :=
    congrArg Prod.fst (readMetadata_of_holds hreads hmetadata now freshId)
  refine ⟨?_, hb, hm⟩
  rw [snapshot, hb, hm]

/-- **A commit is kept.** -/
theorem keeps_committed (s : Store) (bs : List Bookmark) (m : SyncMetadata) :
    (s.committed bs m).Keeps ⟨bs.map Bookmark.normalized, m⟩ := by
  refine ⟨⟨rfl, rfl, rfl⟩, ?_⟩
  intro readOnly failingKey now freshId
  -- neither writing nor reading looks at what may be written
  have hbookmarks : HoldsBookmarks { (s.committed bs m).kv with readOnly, failingKey, failingReads := false }
      (bs.map Bookmark.normalized) := holdsBookmarks_committed s bs m
  have hmetadata : HoldsMetadata { (s.committed bs m).kv with readOnly, failingKey, failingReads := false } m :=
    holdsMetadata_committed s bs m
  exact shows_openOn rfl hbookmarks (inNormalForm_map_normalized bs) hmetadata now freshId

/-- An import to a store that can be written commits the document that the text is read as. -/
theorem importText_of_writable {t : Store} (hwritable : t.IsWritable) {text : String} {doc : ExportDocument}
    (hread : ExportDocument.ofText text = .ok doc) (now : Timestamp) :
    t.importText now text =
      (.ok doc.bookmarks.length,
        t.committed doc.bookmarks (doc.syncMetadata.getD { t.metadata with lastModifiedTime := now })) := by
  simp only [importText, hread, commit_of_writable hwritable, answering, Except.map,
    SyncMetadata.withLastModified]

/-- **A backup carries the whole state over.** Of two stores in any states that they get into, the second of
which can be written, the second imports the backup of the first: it answers how many records there are, and
from then on it has the collection of the first store, tombstones included, and its metadata, in memory, on
both streams, and when it is opened again. A document without metadata brings its collection alone: of the
metadata only the time of the last change is a new one, which the clock tells. -/
theorem backup_carries_state (kv kv' : KeyValue) (opened opened' : Timestamp) (freshId freshId' : String)
    (es es' : List Event) (now : Timestamp) :
    let s := (openOn kv opened freshId).after es
    let t := (openOn kv' opened' freshId').after es'
    t.IsWritable →
      ((t.importText now s.exportText).1 = .ok s.bookmarks.length ∧
        (t.importText now s.exportText).2.Keeps s.snapshot) ∧
      ∀ (text : String) (doc : ExportDocument), ExportDocument.ofText text = .ok doc → doc.syncMetadata = none →
        (t.importText now text).1 = .ok doc.bookmarks.length ∧
        (t.importText now text).2.Keeps
          ⟨doc.bookmarks.map Bookmark.normalized, { t.metadata with lastModifiedTime := now }⟩ := by
  intro s t hwritable
  constructor
  · have hnormal : InNormalForm s.bookmarks := inNormalForm_reached kv opened freshId es
    -- the records are in normal form, so none has blank notes that the text would lose
    have hread : ExportDocument.ofText s.exportText = .ok ⟨s.bookmarks, some s.metadata⟩ := by
      rw [exportText, ExportDocument.ofText_text]
      simp only [hnormal.map_withoutBlankNotes]
    have hkept := keeps_committed t s.bookmarks s.metadata
    rw [hnormal.map_normalized] at hkept
    rw [importText_of_writable hwritable hread]
    exact ⟨rfl, hkept⟩
  · intro text doc hread hnone
    rw [importText_of_writable hwritable hread, hnone]
    exact ⟨rfl, keeps_committed t doc.bookmarks _⟩

/-- A store with a tombstone is carried over to one that holds something else, and a document without
metadata to the same. -/
theorem backup_carries_state_tombstone :
    let b := Bookmark.create "x" "notes" "/notes" false 5
    let s := (openOn .empty 0 "device").after [.change (.add b) 6, .change (.softDelete "x") 7]
    let t := (openOn .empty 0 "other").after [.change (.add { b with id := "y" }) 8]
    (t.importText 9 s.exportText).1 = .ok 1 ∧
    (t.importText 9 s.exportText).2.Keeps ⟨[b.tombstoned 7], ⟨0, "device", 1, 7⟩⟩ ∧
    (t.importText 9 (ExportDocument.mk [] none).text).2.Keeps ⟨[], ⟨0, "other", 1, 9⟩⟩ := by
  intro b s t
  obtain ⟨⟨hcount, hstate⟩, hcollection⟩ := backup_carries_state .empty .empty 0 0 "device" "other"
    [.change (.add b) 6, .change (.softDelete "x") 7] [.change (.add { b with id := "y" }) 8] 9 ⟨rfl, rfl⟩
  exact ⟨hcount, hstate, (hcollection _ ⟨[], none⟩ (ExportDocument.ofText_text ⟨[], none⟩) rfl).2⟩

end BookmarkSync.Store
