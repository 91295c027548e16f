import BookmarkSync.Codec.Formats
import BookmarkSync.Store.KeyValue
import BookmarkSync.Store.Watched

/-!
# `BookmarkSync.Store.Basic` — the bookmark store

The store holds the collection and its metadata in memory, keeps both as texts in a key-value store, and
publishes each new state. A change persists both texts in one write before it touches anything else, so
a refused write leaves memory, entries and publications as they were. Every committed record is in
normal form.

A stored collection that cannot be read counts as empty and is left as it is. Metadata is made when
there is none, and then persisted at once, so the device keeps its identity; unreadable metadata is
replaced in memory only.
-/

namespace BookmarkSync

structure Store where
  kv : KeyValue
  bookmarks : List Bookmark
  metadata : SyncMetadata
  /-- The collections published so far. -/
  bookmarkStream : Watched (List Bookmark)
  metadataStream : Watched SyncMetadata
deriving Repr

namespace Store

/-- The key of the collection. -/
def bookmarksKey : String := "bookmarks"

/-- The key of the metadata. -/
def metadataKey : String := "sync_metadata"

/-! ## Loading -/

/-- An empty store that has loaded nothing, on a new device. -/
def create (kv : KeyValue) (now : Timestamp) (freshId : String) : Store :=
  let metadata := SyncMetadata.create freshId now
  ⟨kv, [], metadata, { value := [] }, { value := metadata }⟩

/-- The collection that the entries hold; empty when it cannot be read. -/
def readBookmarks (kv : KeyValue) : List Bookmark :=
  match kv.get bookmarksKey with
  | .ok (some text) =>
    match Codec.bookmarksOfText text with
    | .ok bs => bs.map Bookmark.normalized
    | .error _ => []
  | _ => []

/-- The metadata that the entries hold, and the entries after new metadata has been persisted. -/
def readMetadata (kv : KeyValue) (now : Timestamp) (freshId : String) : SyncMetadata × KeyValue :=
  let new := SyncMetadata.create freshId now
  match kv.get metadataKey with
  | .ok (some text) =>
    match SyncMetadata.ofText text with
    | .ok m => (m, kv)
    | .error _ => (new, kv)
  | .ok none => (new, (kv.put metadataKey new.text).2)
  | .error _ => (new, kv)

/-- Reads both entries and publishes what they hold. -/
def load (s : Store) (now : Timestamp) (freshId : String) : Store :=
  let bookmarks := readBookmarks s.kv
  let (metadata, kv) := readMetadata s.kv now freshId
  { kv, bookmarks, metadata
    bookmarkStream := s.bookmarkStream.publish bookmarks
    metadataStream := s.metadataStream.publish metadata }

/-- A store over the entries, loaded. -/
def openOn (kv : KeyValue) (now : Timestamp) (freshId : String) : Store :=
  (create kv now freshId).load now freshId

/-! ## Questions -/

def snapshot (s : Store) : Snapshot := ⟨s.bookmarks, s.metadata⟩

def listActive (s : Store) : List Bookmark := s.bookmarks.filter Bookmark.isActive

/-- The first record with this id, tombstones included. -/
def get (s : Store) (id : String) : Option Bookmark := Merge.lookup id s.bookmarks

/-- The first active bookmark of a path. -/
def findActiveByPath (s : Store) (path : String) : Option Bookmark :=
  s.bookmarks.find? fun b => b.isActive && b.path == path

def sidebarDirectories (s : Store) : List Bookmark := s.bookmarks.filter Bookmark.isSidebarEntry

def fileBookmarks (s : Store) : List Bookmark := s.bookmarks.filter Bookmark.isActiveFile

def byTag (s : Store) (tag : String) : List Bookmark :=
  s.bookmarks.filter fun b => b.isActive && b.hasTag tag

/-- Inserts a text among texts in order, unless it is there. -/
def insertText (t : String) : List String → List String
  | [] => [t]
  | u :: us => if t < u then t :: u :: us else if t = u then u :: us else u :: insertText t us

/-- The tags of the active bookmarks, in order. -/
def allTags (s : Store) : List String :=
  (s.listActive.flatMap Bookmark.tags).foldl (fun acc t => insertText t acc) []

/-! ## Changes -/

/-- Persists, keeps and publishes a collection, in normal form, with metadata. -/
def commit (s : Store) (bookmarks : List Bookmark) (metadata : SyncMetadata) :
    Except StorageError Unit × Store :=
  let bookmarks := bookmarks.map Bookmark.normalized
  match s.kv.putAll [(bookmarksKey, Codec.bookmarksText bookmarks), (metadataKey, metadata.text)] with
  | (.error e, kv) => (.error e, { s with kv })
  | (.ok (), kv) =>
    (.ok (),
      { kv, bookmarks, metadata
        bookmarkStream := s.bookmarkStream.publish bookmarks
        metadataStream := s.metadataStream.publish metadata })

/-- Commits a collection changed at `now`. -/
def commitStamped (s : Store) (now : Timestamp) (bookmarks : List Bookmark) :
    Except StorageError Unit × Store :=
  s.commit bookmarks (s.metadata.withLastModified now)

/-- The outcome of a change that answers `a`. -/
def answering {α : Type} (a : α) (r : Except StorageError Unit × Store) : Except StorageError α × Store :=
  (r.1.map fun _ => a, r.2)

/-- Appends a bookmark, and answers its normal form. -/
def add (s : Store) (now : Timestamp) (b : Bookmark) : Except StorageError Bookmark × Store :=
  answering b.normalized (s.commitStamped now (s.bookmarks ++ [b.normalized]))

/-- Changes the first record with this id. -/
def modifyFirst (id : String) (f : Bookmark → Bookmark) : List Bookmark → List Bookmark
  | [] => []
  | b :: bs => if b.id = id then f b :: bs else b :: modifyFirst id f bs

/-- What an update makes of the stored record: creation and kind stay, and it changes at `now`. -/
def updated (now : Timestamp) (b stored : Bookmark) : Bookmark :=
  { b with
    createdAt := stored.createdAt
    isDirectory := stored.isDirectory
    modifiedAt := now }.normalized

/-- Replaces the first record with the id of `b`, and answers the stored record, if there is one. -/
def update (s : Store) (now : Timestamp) (b : Bookmark) : Except StorageError (Option Bookmark) × Store :=
  match s.get b.id with
  | none => (.ok none, s)
  | some stored =>
    let b := updated now b stored
    answering (some b) (s.commitStamped now (modifyFirst b.id (fun _ => b) s.bookmarks))

/-- Makes the first record with this id a tombstone, and answers whether there is one. -/
def softDelete (s : Store) (now : Timestamp) (id : String) : Except StorageError Bool × Store :=
  match s.get id with
  | none => (.ok false, s)
  | some _ =>
    answering true (s.commitStamped now (modifyFirst id (·.tombstoned now) s.bookmarks))

/-- Removes every record with this id, and answers whether there is one. -/
def hardDelete (s : Store) (now : Timestamp) (id : String) : Except StorageError Bool × Store :=
  match s.get id with
  | none => (.ok false, s)
  | some _ => answering true (s.commitStamped now (s.bookmarks.filter (·.id != id)))

/-- Replaces the collection. -/
def save (s : Store) (now : Timestamp) (bookmarks : List Bookmark) : Except StorageError Unit × Store :=
  s.commitStamped now bookmarks

/-- Persists, keeps and publishes metadata alone. -/
def saveMetadata (s : Store) (metadata : SyncMetadata) : Except StorageError Unit × Store :=
  match s.kv.put metadataKey metadata.text with
  | (.error e, kv) => (.error e, { s with kv })
  | (.ok (), kv) =>
    (.ok (), { s with kv, metadata, metadataStream := s.metadataStream.publish metadata })

/-- Commits the snapshot made from the current one, and answers what is then stored. -/
def replaceWith (s : Store) (f : Snapshot → Snapshot) : Except StorageError Snapshot × Store :=
  let new := f s.snapshot
  let (r, s) := s.commit new.bookmarks new.metadata
  (r.map fun _ => s.snapshot, s)

/-! ## Backups -/

/-- A backup of the collection and the metadata. -/
def exportText (s : Store) : String := (ExportDocument.mk s.bookmarks (some s.metadata)).text

/-- Replaces the collection by a backup, and the metadata too if the backup has it; answers the number of
bookmarks. -/
def importText (s : Store) (now : Timestamp) (text : String) : Except StorageError Nat × Store :=
  match ExportDocument.ofText text with
  | .error e => (.error (.codec e), s)
  | .ok doc =>
    let metadata := doc.syncMetadata.getD (s.metadata.withLastModified now)
    answering doc.bookmarks.length (s.commit doc.bookmarks metadata)

end Store

end BookmarkSync
