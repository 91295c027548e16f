import BookmarkSync.Bookmark
import BookmarkSync.Metadata

/-!
# `BookmarkSync.Merge` — joining two collections

Two collections are joined record by record. Of two records with one id the later change wins, and the
local record when both changed at once. A remote tombstone of a record never seen here is dropped. Any
other tombstone is kept until it is older than the retention. Where one side repeats an id, only the
first record counts.
-/

namespace BookmarkSync

/-- A collection with its metadata: one side of a sync. -/
structure Snapshot where
  bookmarks : List Bookmark
  metadata : SyncMetadata
deriving DecidableEq, Repr

namespace Merge

/-- How long tombstones are kept unless something else is configured: thirty days. -/
def defaultRetention : Duration := .ofSeconds (30 * 24 * 60 * 60)

/-- The time up to which tombstones have expired. -/
def cutoff (now : Timestamp) (retention : Duration) : Timestamp := now.before retention

/-- Whether the record is active, or a tombstone that has not expired. -/
def retained (cutoff : Timestamp) (b : Bookmark) : Bool := b.isActive || cutoff < b.modifiedAt

/-- The records whose id is neither in `seen` nor that of an earlier record. -/
def firstsAfter (seen : List String) : List Bookmark → List Bookmark
  | [] => []
  | b :: bs => if b.id ∈ seen then firstsAfter seen bs else b :: firstsAfter (b.id :: seen) bs

/-- The first record of every id. -/
def firsts (bs : List Bookmark) : List Bookmark := firstsAfter [] bs

/-- The first record with this id. -/
def lookup (id : String) (bs : List Bookmark) : Option Bookmark := bs.find? (·.id == id)

/-- The later of two records of one id, `ours` when they changed at once. -/
def winner (ours theirs : Bookmark) : Bookmark :=
  if ours.modifiedAt < theirs.modifiedAt then theirs else ours

/-- What becomes of a remote record. -/
def resolve (cutoff : Timestamp) (ours : List Bookmark) (theirs : Bookmark) : Option Bookmark :=
  match lookup theirs.id ours with
  | none => if theirs.isActive then some theirs else none
  | some ours =>
    let b := winner ours theirs
    if retained cutoff b then some b else none

/-- The local records whose id the remote collection does not have. -/
def localOnly (ours theirs : List Bookmark) : List Bookmark :=
  (firsts ours).filter fun b => (lookup b.id theirs).isNone

/-- The joined collection: what becomes of the remote records, in their order, then the local records
that only this side has, in theirs. -/
def bookmarks (cutoff : Timestamp) (ours theirs : List Bookmark) : List Bookmark :=
  (firsts theirs).filterMap (resolve cutoff ours) ++ (localOnly ours theirs).filter (retained cutoff)

/-- The joined metadata: the local record, changed now, with the later version. -/
def metadata (now : Timestamp) (ours theirs : SyncMetadata) : SyncMetadata :=
  { ours with lastModifiedTime := now, version := max ours.version theirs.version }

end Merge

/-- Joins `theirs` into `ours` as of `now`. Without a remote snapshot nothing changes. -/
def Snapshot.merge (ours : Snapshot) (theirs : Option Snapshot) (now : Timestamp)
    (retention : Duration) : Snapshot :=
  match theirs with
  | none => ours
  | some theirs =>
    ⟨Merge.bookmarks (Merge.cutoff now retention) ours.bookmarks theirs.bookmarks,
      Merge.metadata now ours.metadata theirs.metadata⟩

end BookmarkSync
