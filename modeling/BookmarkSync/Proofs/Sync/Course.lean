import BookmarkSync.Proofs.Store.Atomic
import BookmarkSync.Proofs.Sync.CycleRun

/-!
# `BookmarkSync.Proofs.Sync.Course` — the three ways in which a cycle may end

The course of a cycle is what can be seen of it: the store before and after, the calls of the far side
with their answers, and the report. Three descriptions of a course are given: the sync succeeded, nothing
happened to the store, or the store has the merge and the far side does not. No course fits two of them.
-/

namespace BookmarkSync

open Store (HoldsBookmarks HoldsMetadata Published)

/-! ## Reading the far side -/

/-- Calls that make sure of a directory. -/
inductive Ensured (directory : Location) : List FileCall → Prop
  | there : Ensured directory [.has directory (.ok true)]
  | made : Ensured directory [.has directory (.ok false), .createDirectories directory (.ok ())]

/-- Calls that read a remote collection, the first of them at stage `n`, and the snapshot that is found
by them: none when there is no bookmarks file, or it or an existing metadata file cannot be read as what it
should be. Fresh metadata stands for a metadata file that is missing. -/
inductive Found (bookmarksFile metadataFile : Location) (clock : Nat → Timestamp) (n : Nat) :
    List FileCall → Option Snapshot → Prop
  | missing : Found bookmarksFile metadataFile clock n [.has bookmarksFile (.ok false)] none
  | unreadable {content : List UInt8} {error : CodecError} : RemoteDocument.ofBytes content = .error error →
      Found bookmarksFile metadataFile clock n
        [.has bookmarksFile (.ok true), .read bookmarksFile (.ok content)] none
  | withoutMetadata {content : List UInt8} {d : RemoteDocument} (id : String) :
      RemoteDocument.ofBytes content = .ok d →
      Found bookmarksFile metadataFile clock n
        [.has bookmarksFile (.ok true), .read bookmarksFile (.ok content), .has metadataFile (.ok false)]
        (some ⟨d.bookmarks, .create id (clock (n + 2))⟩)
  | unreadableMetadata {content text : List UInt8} {d : RemoteDocument} {error : CodecError} :
      RemoteDocument.ofBytes content = .ok d → SyncMetadata.ofText (Text.Utf8.lossy text) = .error error →
      Found bookmarksFile metadataFile clock n
        [.has bookmarksFile (.ok true), .read bookmarksFile (.ok content), .has metadataFile (.ok true),
          .read metadataFile (.ok text)]
        none
  | whole {content text : List UInt8} {d : RemoteDocument} {m : SyncMetadata} :
      RemoteDocument.ofBytes content = .ok d → SyncMetadata.ofText (Text.Utf8.lossy text) = .ok m →
      Found bookmarksFile metadataFile clock n
        [.has bookmarksFile (.ok true), .read bookmarksFile (.ok content), .has metadataFile (.ok true),
          .read metadataFile (.ok text)]
        (some ⟨d.bookmarks, m⟩)

/-- Calls that a cycle makes before it commits, and the snapshot that it has found by them. -/
def Cycle.HasRead (c : Cycle) (config : SyncConfig) (clock : Nat → Timestamp) (reads : List FileCall)
    (found : Option Snapshot) : Prop :=
  ∃ ensuring reading, reads = ensuring ++ reading ∧ Ensured c.directory ensuring ∧
    Found (c.bookmarksFile config) (c.metadataFile config) clock ensuring.length reading found

/-! ## Merging into the store -/

/-- The store `after` is `before` with `found` merged into it at `now`: in memory, in both entries, and on
both streams. Of the metadata, the time of the last sync is `now`, and the rest is that of the merge. -/
structure Merged (found : Option Snapshot) (now : Timestamp) (retention : Duration) (before after : Store) :
    Prop where
  bookmarks : after.bookmarks = (before.snapshot.merge found now retention).bookmarks.map Bookmark.normalized
  lastSyncTime : after.metadata.lastSyncTime = now
  deviceId : after.metadata.deviceId = (before.snapshot.merge found now retention).metadata.deviceId
  version : after.metadata.version = (before.snapshot.merge found now retention).metadata.version
  lastModifiedTime :
    after.metadata.lastModifiedTime = (before.snapshot.merge found now retention).metadata.lastModifiedTime
  bookmarksEntry : HoldsBookmarks after.kv after.bookmarks
  metadataEntry : HoldsMetadata after.kv after.metadata
  published : Published after

/-! ## Courses -/

/-- What can be seen of a cycle. -/
structure Course where
  origin : Origin
  settings : Settings
  config : SyncConfig
  /-- The time of each stage. -/
  clock : Nat → Timestamp
  before : Store
  after : Store
  calls : List FileCall
  report : Report

namespace Course

/-- The cycle that the settings lead to, where their address can be read. -/
def Follows (k : Course) (c : Cycle) : Prop :=
  c.settings = k.settings ∧ Endpoint.parse k.settings.trimmedUrl k.settings.username = .ok c.endpoint

/-- The cycle has found something by `reads` and merged it into the store. -/
structure Committed (k : Course) (c : Cycle) (reads : List FileCall) (found : Option Snapshot) : Prop where
  follows : k.Follows c
  read : c.HasRead k.config k.clock reads found
  merged : Merged found (k.clock reads.length) k.config.retention k.before k.after

/-- The sync succeeded: the store has the merge, and both remote files are read as what it holds. -/
inductive Synced (k : Course) : Prop
  | intro {c : Cycle} {reads : List FileCall} {found : Option Snapshot} {bookmarks metadata : List UInt8} :
      k.Committed c reads found →
      k.calls = reads ++ [.write (c.bookmarksFile k.config) bookmarks (.ok ()),
        .write (c.metadataFile k.config) metadata (.ok ())] →
      RemoteDocument.ofBytes bookmarks = .ok ⟨k.after.bookmarks⟩ →
      SyncMetadata.ofText (Text.Utf8.lossy metadata) = .ok k.after.metadata →
      k.report = .succeeded → Synced k

/-- Why a cycle ends before its commit: its address cannot be read, a call fails, or the store refuses
what was merged. -/
inductive EndsEarly (k : Course) : Prop
  | noAddress (f : Endpoint.Fault) : Endpoint.parse k.settings.trimmedUrl k.settings.username = .error f →
      k.calls = [] → k.report = .failed (.invalidConfig f.message) → EndsEarly k
  | failedCall {earlier : List FileCall} {call : FileCall} {error : SyncError} : k.calls = earlier ++ [call] →
      (∀ x ∈ earlier, x.failure? = none) → call.failure? = some error → k.report = .failed error → EndsEarly k
  | refused {c : Cycle} {found : Option Snapshot} (f : KeyFault) : k.Follows c →
      c.HasRead k.config k.clock k.calls found →
      (k.before.kv.writeFault? Store.bookmarksKey = some f ∨
        k.before.kv.writeFault? Store.metadataKey = some f) →
      k.report = .failed (.storage (.backend f)) → EndsEarly k

/-- The sync failed before its commit: the store is as it was, and nothing was written. -/
structure Untouched (k : Course) : Prop where
  store : k.after = k.before
  unwritten : ∀ call ∈ k.calls, call.isWrite = false
  early : k.EndsEarly

/-- The sync failed after its commit: the store has the merge, and one of the two files was not written.
The metadata is not sent after the bookmarks have failed. -/
inductive UploadFailed (k : Course) : Prop
  | bookmarks {c : Cycle} {reads : List FileCall} {found : Option Snapshot} {content : List UInt8}
      {error : SyncError} :
      k.Committed c reads found →
      k.calls = reads ++ [.write (c.bookmarksFile k.config) content (.error error)] →
      k.report = .failed error → UploadFailed k
  | metadata {c : Cycle} {reads : List FileCall} {found : Option Snapshot} {bookmarks metadata : List UInt8}
      {error : SyncError} :
      k.Committed c reads found →
      k.calls = reads ++ [.write (c.bookmarksFile k.config) bookmarks (.ok ()),
        .write (c.metadataFile k.config) metadata (.error error)] →
      RemoteDocument.ofBytes bookmarks = .ok ⟨k.after.bookmarks⟩ →
      k.report = .failed error → UploadFailed k

/-! ## The endings exclude each other -/

variable {k : Course}

/-- The report tells a sync that succeeded from the other two, and what was written tells these apart. -/
theorem Synced.success (h : k.Synced) : k.report.success = true := by
  obtain ⟨-, -, -, -, hreport⟩ := h
  rw [hreport]
  rfl

theorem Untouched.no_success (h : k.Untouched) : k.report.success = false := by
  obtain ⟨-, -, ⟨f, -, -, hreport⟩ | ⟨-, -, -, hreport⟩ | ⟨f, -, -, -, hreport⟩⟩ := h
  all_goals
    rw [hreport]
    rfl

theorem UploadFailed.no_success (h : k.UploadFailed) : k.report.success = false := by
  obtain ⟨-, -, hreport⟩ | ⟨-, -, -, hreport⟩ := h
  all_goals
    rw [hreport]
    rfl

theorem UploadFailed.exists_write (h : k.UploadFailed) : ∃ call ∈ k.calls, call.isWrite = true := by
  obtain ⟨-, hcalls, -⟩ | ⟨-, hcalls, -, -⟩ := h
  all_goals
    rw [hcalls]
    exact ⟨_, List.mem_append_right _ (.head _), rfl⟩

theorem Untouched.not_uploadFailed (h : k.Untouched) : ¬ k.UploadFailed := by
  intro hfailed
  obtain ⟨call, hmem, hwrite⟩ := hfailed.exists_write
  exact absurd hwrite (by rw [h.unwritten call hmem]; decide)

end Course

end BookmarkSync
