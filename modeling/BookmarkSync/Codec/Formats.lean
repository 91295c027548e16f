import BookmarkSync.Codec.Record
import BookmarkSync.Json.Printer
import BookmarkSync.Merge

/-!
# `BookmarkSync.Codec.Formats` — bookmarks, metadata and documents as JSON

A bookmark is one object of ten members; absent or null tags, notes and flags have their defaults, and
blank notes are neither written nor read. A store keeps its collection as a bare list. The remote file
holds an object with the list, and a backup the same with the metadata beside it.
-/

namespace BookmarkSync

open Codec

/-- The content of the remote bookmarks file. -/
structure RemoteDocument where
  bookmarks : List Bookmark
deriving DecidableEq, Repr

/-- A backup of a store. -/
structure ExportDocument where
  bookmarks : List Bookmark
  syncMetadata : Option SyncMetadata
deriving DecidableEq, Repr

/-! ## Writing -/

/-- An integer as a JSON value. -/
def Json.Value.ofInt64 (n : Int64) : Json.Value := .number (.integer n.toInt)

def Bookmark.toJson (b : Bookmark) : Json.Value :=
  .object <|
    [("id", .text b.id), ("name", .text b.name), ("path", .text b.path),
      ("isDirectory", .bool b.isDirectory), ("tags", .list (b.tags.map .text))] ++
    ((Bookmark.nonBlank b.notes).map fun notes => ("notes", Json.Value.text notes)).toList ++
    [("createdAt", .ofInt64 b.createdAt), ("modifiedAt", .ofInt64 b.modifiedAt),
      ("showInSidebar", .bool b.showInSidebar), ("isDeleted", .bool b.isDeleted)]

def SyncMetadata.toJson (m : SyncMetadata) : Json.Value :=
  .object
    [("lastSyncTime", .ofInt64 m.lastSyncTime), ("deviceId", .text m.deviceId),
      ("version", .number (.integer m.version.toNat)), ("lastModifiedTime", .ofInt64 m.lastModifiedTime)]

/-- A collection as a list. -/
def Codec.bookmarksToJson (bs : List Bookmark) : Json.Value := .list (bs.map Bookmark.toJson)

def RemoteDocument.toJson (d : RemoteDocument) : Json.Value :=
  .object [("bookmarks", bookmarksToJson d.bookmarks)]

def ExportDocument.toJson (d : ExportDocument) : Json.Value :=
  .object <| ("bookmarks", bookmarksToJson d.bookmarks) ::
    (d.syncMetadata.map fun m => ("sync_metadata", m.toJson)).toList

/-- The text that a store keeps for a collection. -/
def Codec.bookmarksText (bs : List Bookmark) : String := (bookmarksToJson bs).toCompact

/-- The text that a store keeps for its metadata. -/
def SyncMetadata.text (m : SyncMetadata) : String := m.toJson.toCompact

/-- The content of the remote metadata file. -/
def SyncMetadata.prettyText (m : SyncMetadata) : String := m.toJson.toPretty

def RemoteDocument.text (d : RemoteDocument) : String := d.toJson.toPretty

def ExportDocument.text (d : ExportDocument) : String := d.toJson.toPretty

/-! ## Formats -/

section Formats

variable {σ : Type} [Source σ]

def Bookmark.format : RecordFormat σ Bookmark where
  name := "Bookmark"
  blank := ⟨"", "", "", false, [], none, 0, 0, false, false⟩
  fields :=
    [.needed "id" Codec.text fun id b => { b with id },
      .needed "name" Codec.text fun name b => { b with name },
      .needed "path" Codec.text fun path b => { b with path },
      .needed "isDirectory" flag fun isDirectory b => { b with isDirectory },
      .optional "tags" (orDefault (listOf Codec.text)) fun tags b => { b with tags },
      .optional "notes" (nullable Codec.text) fun notes b => { b with notes := nonBlank notes },
      .needed "createdAt" int64 fun createdAt b => { b with createdAt },
      .needed "modifiedAt" int64 fun modifiedAt b => { b with modifiedAt },
      .optional "showInSidebar" (orDefault flag) fun showInSidebar b => { b with showInSidebar },
      .optional "isDeleted" (orDefault flag) fun isDeleted b => { b with isDeleted }]

def SyncMetadata.format : RecordFormat σ SyncMetadata where
  name := "SyncMetadata"
  blank := ⟨0, "", 0, 0⟩
  fields :=
    [.needed "lastSyncTime" int64 fun lastSyncTime m => { m with lastSyncTime },
      .needed "deviceId" Codec.text fun deviceId m => { m with deviceId },
      .needed "version" nat32 fun version m => { m with version },
      .optional "lastModifiedTime" int64 fun lastModifiedTime m => { m with lastModifiedTime }]

/-- Reads the list of bookmarks of a document. -/
def Codec.bookmarkList (v : σ) : Except ReadError (List Bookmark) := listOf Bookmark.format.read v

def RemoteDocument.format : RecordFormat σ RemoteDocument where
  name := "RemoteBookmarks"
  blank := ⟨[]⟩
  fields := [.needed "bookmarks" bookmarkList fun bookmarks d => { d with bookmarks }]

def ExportDocument.format : RecordFormat σ ExportDocument where
  name := "ExportDocument"
  blank := ⟨[], none⟩
  fields :=
    [.needed "bookmarks" bookmarkList fun bookmarks d => { d with bookmarks },
      .optional "sync_metadata" (nullable SyncMetadata.format.read)
        fun syncMetadata d => { d with syncMetadata }]

end Formats

/-! ## Reading -/

/-- The kind of a value. -/
def Codec.kindOf : Json.Value → Kind
  | .null => .null
  | .bool _ => .bool
  | .number _ => .number
  | .text _ => .text
  | .list _ => .list
  | .object _ => .object

/-- Reads one bookmark, which must be an object. -/
def Bookmark.ofJson (v : Json.Value) : Except CodecError Bookmark :=
  match v with
  | .object _ => (Bookmark.format.read v).mapError .unreadable
  | _ => .error (.notABookmark (kindOf v))

/-- Reads a list of bookmarks. -/
def Codec.bookmarksOfJson (v : Json.Value) : Except CodecError (List Bookmark) :=
  match v with
  | .list vs => vs.mapM Bookmark.ofJson
  | _ => .error (.notAList (kindOf v))

def SyncMetadata.ofJson (v : Json.Value) : Except CodecError SyncMetadata :=
  (SyncMetadata.format.read v).mapError .unreadable

/-- The JSON value that a text writes. -/
def Codec.valueOfText (s : String) : Except CodecError Json.Value :=
  (Json.Value.parse s).mapError fun f => .unreadable (.notJson f)

/-- Reads the text that a store keeps for a collection. -/
def Codec.bookmarksOfText (s : String) : Except CodecError (List Bookmark) := do
  bookmarksOfJson (← valueOfText s)

/-- Reads a text of metadata. -/
def SyncMetadata.ofText (s : String) : Except CodecError SyncMetadata := do
  SyncMetadata.ofJson (← valueOfText s)

/-- Reads the remote bookmarks file. -/
def RemoteDocument.ofBytes (bytes : List UInt8) : Except CodecError RemoteDocument :=
  (readText RemoteDocument.format (Text.Utf8.read bytes)).mapError .unreadable

/-- Reads a backup. -/
def ExportDocument.ofText (s : String) : Except CodecError ExportDocument :=
  (readText ExportDocument.format (Text.Symbol.ofChars s.toList)).mapError .unreadable

end BookmarkSync
