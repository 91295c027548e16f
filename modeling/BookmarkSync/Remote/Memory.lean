import BookmarkSync.Remote.Basic
import BookmarkSync.Text.Utf8

/-!
# `BookmarkSync.Remote.Memory` — a remote in memory

Files and directories are kept under the paths of their locations, whatever the authority. Operations
can be made to fail, all of one kind or only those on one path. A record of what happened is kept.
-/

namespace BookmarkSync

/-- The kinds of file operations. -/
inductive FileOperation
  | exists
  | mkdirs
  | read
  | write
deriving DecidableEq, Repr

def FileOperation.name : FileOperation → String
  | .exists => "exists"
  | mkdirs => "mkdirs"
  | read => "read"
  | write => "write"

/-- What happened to a remote. -/
inductive RemoteEvent
  | opened (c : Credential)
  | closed (a : Authority)
  | looked (path : String) (found : Bool)
  | created (path : String)
  /-- A file was asked for; it had this many bytes, if it was there. -/
  | read (path : String) (size : Option Nat)
  | wrote (path : String) (content : List UInt8)
  | refused (operation : FileOperation) (path : String)
deriving DecidableEq, Repr

structure Memory where
  files : List (String × List UInt8) := []
  directories : List String := []
  /-- The operations that fail, on one path or on all of them. -/
  refusals : List (FileOperation × Option String) := []
  events : List RemoteEvent := []
deriving DecidableEq, Repr

namespace Memory

def note (m : Memory) (e : RemoteEvent) : Memory := { m with events := m.events ++ [e] }

def file? (m : Memory) (path : String) : Option (List UInt8) := (m.files.find? (·.1 == path)).map Prod.snd

def contains (m : Memory) (path : String) : Bool := (m.file? path).isSome || m.directories.contains path

def putFile (m : Memory) (path : String) (content : List UInt8) : Memory :=
  { m with files := (path, content) :: m.files.filter (·.1 != path) }

/-- Removes a file or directory, and answers whether there was one. -/
def erase (m : Memory) (path : String) : Bool × Memory :=
  (m.contains path,
    { m with files := m.files.filter (·.1 != path), directories := m.directories.filter (· != path) })

/-- Makes operations fail, or no longer fail. -/
def refuse (m : Memory) (operation : FileOperation) (path : Option String) (on : Bool) : Memory :=
  let others := m.refusals.filter (· != (operation, path))
  { m with refusals := if on then (operation, path) :: others else others }

def refuses (m : Memory) (operation : FileOperation) (path : String) : Bool :=
  m.refusals.contains (operation, none) || m.refusals.contains (operation, some path)

/-- Carries an operation out unless it is made to fail. -/
def attempt {α : Type} (m : Memory) (operation : FileOperation) (l : Location)
    (act : Memory → Except SyncError α × Memory) : Except SyncError α × Memory :=
  if m.refuses operation l.path then
    (.error (.transport s!"{operation.name} {l.url} refused"), m.note (.refused operation l.path))
  else act m

def has (m : Memory) (l : Location) : Except SyncError Bool × Memory :=
  m.attempt .exists l fun m => (.ok (m.contains l.path), m.note (.looked l.path (m.contains l.path)))

def createDirectories (m : Memory) (l : Location) : Except SyncError Unit × Memory :=
  m.attempt .mkdirs l fun m =>
    let made := l.path :: l.ancestorsAndSelf.map Location.path
    (.ok (), { m with directories := m.directories ++ made }.note (.created l.path))

def read (m : Memory) (l : Location) : Except SyncError (List UInt8) × Memory :=
  m.attempt .read l fun m =>
    match m.file? l.path with
    | none => (.error (.transport s!"{l.url} not found"), m.note (.read l.path none))
    | some content => (.ok content, m.note (.read l.path (some content.length)))

def write (m : Memory) (l : Location) (content : List UInt8) : Except SyncError Unit × Memory :=
  m.attempt .write l fun m => (.ok (), (m.putFile l.path content).note (.wrote l.path content))

/-- Memory as the far side of a sync. -/
def remote : Remote Memory where
  opened c m := m.note (.opened c)
  closed a m := m.note (.closed a)
  has _ l m := m.has l
  createDirectories _ l m := m.createDirectories l
  read _ l m := m.read l
  write _ l content m := m.write l content

end Memory

end BookmarkSync
