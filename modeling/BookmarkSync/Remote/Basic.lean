import BookmarkSync.Remote.Location
import BookmarkSync.Remote.Registry
import BookmarkSync.Sync.Error

/-!
# `BookmarkSync.Remote.Basic` — the far side of a sync

A remote keeps files and directories under locations. It is known only by what it answers: every
operation may fail, and every operation may change the remote. An operation that fails answers any of the
causes for which a sync fails, and the sync that asked for it fails for the same cause. Operations are given
the registry, in which they find the credential to log in with. A remote is told when a credential comes and
when it goes.
-/

namespace BookmarkSync

structure Remote (ρ : Type) where
  /-- Told when a credential has been registered. -/
  opened : Credential → ρ → ρ
  /-- Told when the credential of an authority has been taken out. -/
  closed : Authority → ρ → ρ
  /-- Whether a file or directory is there. -/
  has : Registry → Location → ρ → Except SyncError Bool × ρ
  /-- Makes a directory and those above it that are missing. -/
  createDirectories : Registry → Location → ρ → Except SyncError Unit × ρ
  /-- Reads a whole file. -/
  read : Registry → Location → ρ → Except SyncError (List UInt8) × ρ
  /-- Replaces a whole file. -/
  write : Registry → Location → List UInt8 → ρ → Except SyncError Unit × ρ

end BookmarkSync
