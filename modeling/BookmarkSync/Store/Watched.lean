/-!
# `BookmarkSync.Store.Watched` — published values

A watched value is published by setting it. Watchers compare a publication's number with the last one they
have seen, so setting an equal value counts as news too.
-/

namespace BookmarkSync

structure Watched (α : Type) where
  value : α
  /-- How often a value has been published. -/
  version : Nat := 0
deriving DecidableEq, Repr

namespace Watched

variable {α : Type}

/-- Publishes a value. -/
def publish (w : Watched α) (a : α) : Watched α := ⟨a, w.version + 1⟩

/-- Publishes a changed value. -/
def modify (w : Watched α) (f : α → α) : Watched α := w.publish (f w.value)

/-- Whether a watcher who has seen publication `seen` has missed a later one. -/
def changedSince (w : Watched α) (seen : Nat) : Bool := w.version != seen

end Watched

end BookmarkSync
