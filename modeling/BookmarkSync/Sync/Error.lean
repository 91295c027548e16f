import BookmarkSync.Store.Error

/-!
# `BookmarkSync.Sync.Error` — why a sync fails, and the report of a sync
-/

namespace BookmarkSync

/-- Why a sync is refused without a fault. -/
inductive Refusal
  | disabled
  | noUrl
  /-- A cause given in words. -/
  | other (detail : String)
deriving DecidableEq, Repr

def Refusal.message : Refusal → String
  | disabled => "Sync is not enabled"
  | noUrl => "WebDAV URL is not configured"
  | other detail => detail

inductive SyncError
  /-- The settings do not ask for a sync. -/
  | declined (r : Refusal)
  | invalidConfig (detail : String)
  | transport (detail : String)
  | storage (e : StorageError)
  | codec (e : CodecError)
  /-- A text that should be JSON is none. -/
  | serialization (e : Codec.ReadError)
  | busy
  /-- A background task ended abnormally. -/
  | task (detail : String)
deriving Repr

/-- A coarse class of sync errors. -/
inductive FailureKind
  | declined
  | invalidConfig
  | transport
  | storage
  | busy
  | internal
deriving DecidableEq, Repr

namespace SyncError

def kind : SyncError → FailureKind
  | declined _ => .declined
  | invalidConfig _ => .invalidConfig
  | transport _ => .transport
  | storage _ => .storage
  | codec _ => .internal
  | serialization _ => .internal
  | busy => .busy
  | task _ => .internal

def message : SyncError → String
  | declined r => r.message
  | invalidConfig detail => "invalid configuration: " ++ detail
  | transport detail => "transport error: " ++ detail
  | storage e => "storage error: " ++ e.message
  | codec e => "codec error: " ++ e.message
  | serialization e => "serialization error: " ++ e.message
  | busy => "a sync is already in progress"
  | task detail => "background task failed: " ++ detail

end SyncError

/-- How a sync ended. -/
structure Report where
  success : Bool
  message : Option String
  kind : Option FailureKind
deriving DecidableEq, Repr

namespace Report

def succeeded : Report := ⟨true, none, none⟩

def failed (e : SyncError) : Report := ⟨false, some e.message, some e.kind⟩

/-- Whether the sync was refused without a fault. -/
def isDeclined (r : Report) : Bool := r.kind = some .declined

/-- The report of an outcome. -/
def ofOutcome : Except SyncError Unit → Report
  | .ok () => succeeded
  | .error e => failed e

end Report

end BookmarkSync
