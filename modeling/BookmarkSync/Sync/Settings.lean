import BookmarkSync.Codec.Formats
import BookmarkSync.Sync.Error
import BookmarkSync.Text.Ranges

/-!
# `BookmarkSync.Sync.Settings` — what the user sets up

The settings say whether to sync, where to, and as whom. The password is kept out of every description.
-/

namespace BookmarkSync

open Codec

structure Settings where
  enabled : Bool := false
  /-- The address of the server. -/
  webdavUrl : String := ""
  username : String := ""
  password : String := ""
  /-- The directory of the sync files below the address. -/
  syncPath : String := ""
deriving DecidableEq, Repr

namespace Settings

/-- The directory used when none is set. -/
def defaultSyncPath : String := "/bookmarks/"

/-- What stands for a password in descriptions. -/
def redacted : String := "<redacted>"

/-- The address without white space around it. -/
def trimmedUrl (s : Settings) : String := Text.trim s.webdavUrl

/-- Whether sync is enabled and has an address. -/
def isConfigured (s : Settings) : Bool := s.enabled && s.trimmedUrl != ""

def effectiveSyncPath (s : Settings) : String := if s.syncPath = "" then defaultSyncPath else s.syncPath

/-- Why these settings do not ask for a sync, if they do not. -/
def refusal? (s : Settings) : Option Refusal :=
  if !s.enabled then some .disabled
  else if s.trimmedUrl = "" then some .noUrl
  else none

/-- The settings in words. -/
def describe (s : Settings) : String :=
  "SyncSettings \x7b enabled: " ++ toString s.enabled ++
  ", webdav_url: " ++ Text.quoted s.webdavUrl ++
  ", username: " ++ Text.quoted s.username ++
  ", password: " ++ Text.quoted redacted ++
  ", sync_path: " ++ Text.quoted s.syncPath ++ " \x7d"

/-! ## Settings as JSON -/

def toJson (s : Settings) : Json.Value :=
  .object
    [("enabled", .bool s.enabled), ("webdav_url", .text s.webdavUrl), ("username", .text s.username),
      ("password", .text s.password), ("sync_path", .text s.syncPath)]

def text (s : Settings) : String := s.toJson.toCompact

def format {σ : Type} [Source σ] : RecordFormat σ Settings where
  name := "SyncSettings"
  blank := {}
  fields :=
    [.optional "enabled" flag fun enabled s => { s with enabled },
      .optional "webdav_url" Codec.text fun webdavUrl s => { s with webdavUrl },
      .optional "username" Codec.text fun username s => { s with username },
      .optional "password" Codec.text fun password s => { s with password },
      .optional "sync_path" Codec.text fun syncPath s => { s with syncPath }]

/-- Reads settings. -/
def ofText (s : String) : Except ReadError Settings :=
  readText format (Text.Symbol.ofChars s.toList)

end Settings

/-- How the engine is tuned. -/
structure SyncConfig where
  /-- The least time between the starts of automatic syncs. -/
  debounce : Duration := .ofSeconds 5
  /-- How long tombstones are kept. -/
  retention : Duration := Merge.defaultRetention
  bookmarksFile : String := "bookmarks.json"
  metadataFile : String := ".sync_metadata.json"
deriving DecidableEq, Repr

end BookmarkSync
