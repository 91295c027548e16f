import BookmarkSync.Merge
import BookmarkSync.Remote.Basic
import BookmarkSync.Sync.Settings

/-!
# `BookmarkSync.Sync.Cycle` — one sync, stage by stage

A sync cycle makes sure that the remote directory is there, reads the remote collection and its metadata,
joins them into the store, and writes the result back. Between two stages anything may happen to the
store, so a cycle holds only what it read itself.

A remote collection that is missing or unreadable counts as none at all; so does one whose metadata is
unreadable. Where only the metadata is missing, fresh metadata stands for it.
-/

namespace BookmarkSync

/-- What asked for a cycle. -/
inductive Origin
  /-- Someone who waits for the report. -/
  | caller
  /-- The scheduled task of this number. -/
  | task (number : Nat)
deriving DecidableEq, Repr

/-- What a cycle does next. -/
inductive Stage
  | checkDirectory
  | createDirectory
  | checkBookmarks
  | readBookmarks
  /-- Looks for the metadata of the collection that was read. -/
  | checkMetadata (bookmarks : List Bookmark)
  | readMetadata (bookmarks : List Bookmark)
  /-- Joins what was found into the store. -/
  | commit (found : Option Snapshot)
  | writeBookmarks (committed : Snapshot)
  | writeMetadata (committed : Snapshot)
deriving Repr

namespace Stage

/-- An upper bound for the number of stages still to come, this one included. -/
def rank : Stage → Nat
  | checkDirectory => 9
  | createDirectory => 8
  | checkBookmarks => 7
  | readBookmarks => 6
  | checkMetadata _ => 5
  | readMetadata _ => 4
  | commit _ => 3
  | writeBookmarks _ => 2
  | writeMetadata _ => 1

/-- Whether the stage is a file operation of the remote. -/
def isRemote : Stage → Bool
  | commit _ => false
  | _ => true

end Stage

structure Cycle where
  origin : Origin
  /-- The settings as they were when the cycle was asked for. -/
  settings : Settings
  endpoint : Endpoint
  stage : Stage := .checkDirectory
deriving Repr

namespace Cycle

/-- What the credential of a sync is called. -/
def credentialName : String := "Bookmark Sync"

/-- What the requests of the cycle log in with. -/
def credential (c : Cycle) : Credential :=
  ⟨c.endpoint.authority, c.settings.password, c.endpoint.basePath, credentialName⟩

/-- The directory of the sync files. -/
def directory (c : Cycle) : Location := c.endpoint.syncDir c.settings.effectiveSyncPath

def bookmarksFile (c : Cycle) (config : SyncConfig) : Location := c.directory.resolve config.bookmarksFile

def metadataFile (c : Cycle) (config : SyncConfig) : Location := c.directory.resolve config.metadataFile

end Cycle

/-- What a stage leads to. -/
inductive Turn
  | next (stage : Stage)
  | over (outcome : Except SyncError Unit)
deriving Repr

namespace Turn

/-- The turn after an answer of the remote. -/
def after {α : Type} (f : α → Turn) : Except SyncError α → Turn
  | .ok a => f a
  | .error e => .over (.error e)

/-- After asking for the directory. -/
def directoryFound (found : Bool) : Turn := .next (if found then .checkBookmarks else .createDirectory)

/-- After asking for the collection. -/
def bookmarksFound (found : Bool) : Turn := .next (if found then .readBookmarks else .commit none)

/-- After reading the collection. -/
def bookmarksRead (content : List UInt8) : Turn :=
  match RemoteDocument.ofBytes content with
  | .ok d => .next (.checkMetadata d.bookmarks)
  | .error _ => .next (.commit none)

/-- After reading the metadata of a collection. -/
def metadataRead (bookmarks : List Bookmark) (content : List UInt8) : Turn :=
  match SyncMetadata.ofText (Text.Utf8.lossy content) with
  | .ok m => .next (.commit (some ⟨bookmarks, m⟩))
  | .error _ => .next (.commit none)

end Turn

namespace Snapshot

/-- What a sync at `now` makes of the local snapshot. -/
def synced (ours : Snapshot) (found : Option Snapshot) (now : Timestamp) (retention : Duration) : Snapshot :=
  let merged := ours.merge found now retention
  { merged with metadata := merged.metadata.withLastSync now }

/-- The content of the remote bookmarks file. -/
def bookmarksContent (s : Snapshot) : List UInt8 := Text.Utf8.bytes (RemoteDocument.text ⟨s.bookmarks⟩)

/-- The content of the remote metadata file. -/
def metadataContent (s : Snapshot) : List UInt8 := Text.Utf8.bytes s.metadata.prettyText

end Snapshot

end BookmarkSync
