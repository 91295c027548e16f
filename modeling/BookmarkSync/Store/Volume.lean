import BookmarkSync.Store.KeyValue

/-!
# `BookmarkSync.Store.Volume` — databases in files

A database file keeps the entries of a key-value store from one opening to the next. Opening fails on a
directory, on a file that is no database, and in a directory that does not exist. The log of an unclean
shutdown can stand in the way of opening, so after a failure the log beside the file is removed, if
there is one, and the opening is tried once more.
-/

namespace BookmarkSync

/-- What a path of a volume leads to. -/
inductive VolumeItem
  | directory
  /-- A file with this content, which no database has written. -/
  | raw (text : String)
  | database (kv : KeyValue)
deriving Repr

/-- A file system, and the database file that is open. -/
structure Volume where
  items : List (String × VolumeItem) := []
  opened : Option String := none
deriving Repr, Inhabited

namespace Volume

def item? (v : Volume) (path : String) : Option VolumeItem :=
  (v.items.find? (·.1 == path)).map Prod.snd

def exists? (v : Volume) (path : String) : Bool := (v.item? path).isSome

/-- Takes a path away. -/
def remove (v : Volume) (path : String) : Volume :=
  { v with items := v.items.filter (·.1 != path) }

/-- Puts something at a path. -/
def place (v : Volume) (path : String) (item : VolumeItem) : Volume :=
  { v with items := (path, item) :: (v.remove path).items }

/-- The directory part of a path with its slash, and the name. -/
def splitName (path : List Char) : List Char × List Char :=
  let name := (path.reverse.takeWhile (· != '/')).reverse
  (path.take (path.length - name.length), name)

/-- The directory that holds a path; the volume itself for a bare name. -/
def parent? (path : String) : Option String :=
  match (splitName path.toList).1 with
  | [] => none
  | dir => some (String.ofList dir.dropLast)

/-- The name of the log that belongs to a name: the extension `x` becomes `x.wal`, and a name without
extension gets `.wal`. A name that starts with its only point has no extension. -/
def logName (name : List Char) : List Char :=
  name ++ ['.', 'w', 'a', 'l']

/-- The path of the log beside a file. -/
def logPath (path : String) : String :=
  let (dir, name) := splitName path.toList
  String.ofList (dir ++ logName name)

/-- The database at a path, if it can be opened; a file that does not exist is a new database. -/
def openable? (v : Volume) (path : String) : Option KeyValue :=
  let parentExists := match parent? path with
    | none => true
    | some dir => v.item? dir matches some .directory
  match v.item? path with
  | none => if parentExists then some .empty else none
  | some (.database kv) => some kv
  | some (.raw text) => if text.isEmpty then some .empty else none
  | some .directory => none

/-- The volume without the log beside a file, if there is one. -/
def removeLog (v : Volume) (path : String) : Volume :=
  match v.item? (logPath path) with
  | none | some .directory => v
  | _ => v.remove (logPath path)

def close (v : Volume) : Volume := { v with opened := none }

/-- Closes the open database and opens the one at `path`. -/
def openAt (v : Volume) (path : String) : Except StorageError Unit × Volume :=
  let v := v.close
  match v.openable? path with
  | some kv => (.ok (), { v.place path (.database kv) with opened := some path })
  | none =>
    let v := v.removeLog path
    match v.openable? path with
    | some kv => (.ok (), { v.place path (.database kv) with opened := some path })
    | none => (.error .database, v)

/-- The open database with its path. -/
def current? (v : Volume) : Option (String × KeyValue) := do
  let path ← v.opened
  match v.item? path with
  | some (.database kv) => some (path, kv)
  | _ => none

/-- The volume with a new content of the open database. -/
def update (v : Volume) (path : String) (kv : KeyValue) : Volume := v.place path (.database kv)

/-- The nonempty beginnings of a path that end before a slash or at its end. -/
def ancestors (before : List Char) : List Char → List String
  | [] => [String.ofList before.reverse]
  | c :: rest =>
    let deeper := ancestors (c :: before) rest
    if c = '/' && !before.isEmpty then String.ofList before.reverse :: deeper else deeper

/-- Makes a directory together with the ones above it. -/
def makeDirectory (v : Volume) (path : String) : Volume :=
  (ancestors [] path.toList).foldl (fun v p => if v.exists? p then v else v.place p .directory) v

/-- Writes a raw file. -/
def writeFile (v : Volume) (path text : String) : Volume := v.place path (.raw text)

end Volume

end BookmarkSync
