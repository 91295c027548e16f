import BookmarkSync.Proofs.Remote.Seen

/-!
# `BookmarkSync.Proofs.Remote.Recorded` — a remote that is listened to

What a sync asks of the far side, in which order, and what it is answered, is written down by a remote that
stands in front of another one. It passes every operation on, so a cycle of an engine starts in the same way
with it as without it (`begin_recorded`), and carries out each of its stages in the same way
(`proceed_recorded`).
-/

namespace BookmarkSync

/-- A file operation of a remote with its answer. -/
inductive FileCall
  | has (l : Location) (answer : Except SyncError Bool)
  | createDirectories (l : Location) (answer : Except SyncError Unit)
  | read (l : Location) (answer : Except SyncError (List UInt8))
  | write (l : Location) (content : List UInt8) (answer : Except SyncError Unit)

namespace FileCall

/-- The cause of a failure, if the answer is one. -/
def cause? {α : Type} : Except SyncError α → Option SyncError
  | .ok _ => none
  | .error error => some error

/-- Why the operation failed, if it did. -/
def failure? : FileCall → Option SyncError
  | has _ a => cause? a
  | createDirectories _ a => cause? a
  | read _ a => cause? a
  | write _ _ a => cause? a

def isWrite : FileCall → Bool
  | write .. => true
  | _ => false

end FileCall

variable {ρ : Type}

/-- A remote that passes everything on, and writes down the file operations. -/
def Remote.recorded (remote : Remote ρ) : Remote (ρ × List FileCall) where
  opened c far := (remote.opened c far.1, far.2)
  closed a far := (remote.closed a far.1, far.2)
  has reg l far :=
    let (a, next) := remote.has reg l far.1
    (a, next, far.2 ++ [.has l a])
  createDirectories reg l far :=
    let (a, next) := remote.createDirectories reg l far.1
    (a, next, far.2 ++ [.createDirectories l a])
  read reg l far :=
    let (a, next) := remote.read reg l far.1
    (a, next, far.2 ++ [.read l a])
  write reg l content far :=
    let (a, next) := remote.write reg l content far.1
    (a, next, far.2 ++ [.write l content a])

/-! ## Nothing else changes -/

theorem Remote.recorded_seenAs (remote : Remote ρ) : remote.recorded.SeenAs Prod.fst remote where
  opened _ _ := rfl
  closed _ _ := rfl
  has _ _ _ := rfl
  createDirectories _ _ _ := rfl
  read _ _ _ := rfl
  write _ _ _ _ := rfl

namespace Engine

/-- The engine without what has been written down. -/
def unrecorded (e : Engine (ρ × List FileCall)) : Engine ρ :=
  { e with far := e.far.1 }

/-- A stage of a cycle is the same with a remote that is listened to as with the remote behind it. -/
theorem proceed_recorded (remote : Remote ρ) (e : Engine (ρ × List FileCall)) :
    e.unrecorded.proceed remote =
      ((e.proceed remote.recorded).1, (e.proceed remote.recorded).2.unrecorded) :=
  (proceed_seen remote.recorded_seenAs e).trans (map_seen _)

/-- So is the start of a cycle. -/
theorem begin_recorded (remote : Remote ρ) (e : Engine (ρ × List FileCall)) (origin : Origin)
    (settings : Settings) :
    e.unrecorded.begin remote origin settings =
      ((e.begin remote.recorded origin settings).1, (e.begin remote.recorded origin settings).2.unrecorded) :=
  (begin_seen remote.recorded_seenAs e origin settings).trans (map_seen _)

end Engine

end BookmarkSync
