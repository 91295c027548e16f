import BookmarkSync.Time

/-!
# `BookmarkSync.Metadata` — how fresh a store is

Every store has one metadata record: which device it belongs to, when its content last changed, and when
it was last synchronized.
-/

namespace BookmarkSync

structure SyncMetadata where
  /-- When the last successful sync ran; zero before the first one. -/
  lastSyncTime : Timestamp
  /-- Made once for the store, and kept. -/
  deviceId : String
  version : UInt32
  lastModifiedTime : Timestamp
deriving DecidableEq, Repr

namespace SyncMetadata

/-- The version of the format that new metadata carries. -/
def currentVersion : UInt32 := 1

/-- The metadata of a new store. -/
def create (deviceId : String) (now : Timestamp) : SyncMetadata := ⟨0, deviceId, currentVersion, now⟩

def hasSynced (m : SyncMetadata) : Bool := 0 < m.lastSyncTime

def withLastModified (m : SyncMetadata) (now : Timestamp) : SyncMetadata :=
  { m with lastModifiedTime := now }

def withLastSync (m : SyncMetadata) (now : Timestamp) : SyncMetadata := { m with lastSyncTime := now }

section WithLastSync

variable (m : SyncMetadata) (now : Timestamp)

@[simp] theorem lastSyncTime_withLastSync : (m.withLastSync now).lastSyncTime = now := rfl

@[simp] theorem deviceId_withLastSync : (m.withLastSync now).deviceId = m.deviceId := rfl

@[simp] theorem version_withLastSync : (m.withLastSync now).version = m.version := rfl

@[simp] theorem lastModifiedTime_withLastSync :
    (m.withLastSync now).lastModifiedTime = m.lastModifiedTime := rfl

end WithLastSync

end SyncMetadata

end BookmarkSync
