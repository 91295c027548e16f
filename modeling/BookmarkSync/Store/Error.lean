import BookmarkSync.Codec.Error

/-!
# `BookmarkSync.Store.Error` — why persisting or loading fails
-/

namespace BookmarkSync

/-- Why a key-value store refuses a call. -/
inductive KeyFault
  /-- Nothing can be written. -/
  | readOnly (key : String)
  /-- This key cannot be written. -/
  | rejected (key : String)
  /-- Nothing can be read. -/
  | unreadable (key : String)
  /-- A cause given in words. -/
  | other (detail : String)
deriving DecidableEq, Repr

def KeyFault.message : KeyFault → String
  | readOnly key => s!"store is read-only, cannot write {key}"
  | rejected key => s!"write to {key} rejected"
  | unreadable key => s!"cannot read {key}"
  | other detail => detail

inductive StorageError
  /-- The database file cannot be used. -/
  | database
  | codec (e : CodecError)
  | backend (f : KeyFault)
deriving Repr

def StorageError.message : StorageError → String
  | database => "database error"
  | codec e => "codec error: " ++ e.message
  | backend f => "key-value backend error: " ++ f.message

end BookmarkSync
