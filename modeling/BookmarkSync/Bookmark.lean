import BookmarkSync.Text.Lowercase
import BookmarkSync.Text.Split
import BookmarkSync.Time

/-!
# `BookmarkSync.Bookmark` — saved places of a file system

A bookmark is deleted softly: the record stays as a tombstone, so that the deletion can reach other
devices. A record is in normal form when its change is not older than its creation, only a directory
is shown in the sidebar, and notes are either absent or not blank.
-/

namespace BookmarkSync

structure Bookmark where
  id : String
  name : String
  /-- The place itself; two bookmarks of one path are the same place. -/
  path : String
  isDirectory : Bool
  tags : List String
  notes : Option String
  createdAt : Timestamp
  modifiedAt : Timestamp
  showInSidebar : Bool
  /-- Whether the record is a tombstone. -/
  isDeleted : Bool
deriving DecidableEq, Repr

namespace Bookmark

/-- Notes, unless they are empty. -/
def nonBlank (notes : Option String) : Option String := notes.filter (· != "")

/-! ## Making and changing bookmarks -/

/-- A new active bookmark, created and changed at `now`. -/
def create (id name path : String) (isDirectory : Bool) (now : Timestamp) : Bookmark where
  id := id
  name := name
  path := path
  isDirectory := isDirectory
  tags := []
  notes := none
  createdAt := now
  modifiedAt := now
  showInSidebar := false
  isDeleted := false

def withTags (b : Bookmark) (tags : List String) : Bookmark := { b with tags }

/-- The bookmark with these notes; empty ones take the notes away. -/
def withNotes (b : Bookmark) (notes : String) : Bookmark := { b with notes := nonBlank (some notes) }

/-- The bookmark shown in the sidebar or not; a file is never shown. -/
def withSidebar (b : Bookmark) (shown : Bool) : Bookmark :=
  { b with showInSidebar := shown && b.isDirectory }

/-- The bookmark in normal form. -/
def normalized (b : Bookmark) : Bookmark :=
  { b with
    showInSidebar := b.showInSidebar && b.isDirectory
    modifiedAt := max b.modifiedAt b.createdAt
    notes := nonBlank b.notes }

/-- The tombstone of the bookmark, deleted at `now`. -/
def tombstoned (b : Bookmark) (now : Timestamp) : Bookmark :=
  { b with isDeleted := true, modifiedAt := max now b.createdAt }

/-! ## Questions about bookmarks -/

def isActive (b : Bookmark) : Bool := !b.isDeleted

def hasTag (b : Bookmark) (tag : String) : Bool := b.tags.contains tag

/-- Whether the bookmark is an active directory shown in the sidebar. -/
def isSidebarEntry (b : Bookmark) : Bool := b.isActive && b.isDirectory && b.showInSidebar

/-- Whether the bookmark is an active file. -/
def isActiveFile (b : Bookmark) : Bool := b.isActive && !b.isDirectory

/-- The texts that a search looks at. -/
def searchedTexts (b : Bookmark) : List String := b.name :: b.path :: b.tags ++ b.notes.toList

/-- Whether the query, in lower case, occurs in one of the searched texts in lower case. -/
def matchesQuery (b : Bookmark) (query : String) : Bool :=
  let needle := (Text.lowercase query).toList
  b.searchedTexts.any fun s => Text.occursIn needle (Text.lowercase s).toList

end Bookmark

/-- A choice of bookmarks to show. Tombstones are never shown. -/
inductive Filter
  | all
  | files
  | directories
  | tagged (tag : String)
deriving DecidableEq, Repr

/-- Whether the filter shows the bookmark. -/
def Filter.shows (f : Filter) (b : Bookmark) : Bool :=
  b.isActive &&
    match f with
    | all => true
    | files => !b.isDirectory
    | directories => b.isDirectory
    | tagged tag => b.hasTag tag

end BookmarkSync
