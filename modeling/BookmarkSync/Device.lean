import BookmarkSync.Identity
import BookmarkSync.Store.Basic

/-!
# `BookmarkSync.Device` — a store at work

A device is a store together with the clock it reads and the supply of fresh identifiers. Whatever
happens on a device happens at the time its clock shows.
-/

namespace BookmarkSync

structure Device where
  store : Store
  clock : Timestamp
  ids : IdSupply
deriving Repr

namespace Device

/-- A device over these entries. A store that is not loaded starts empty, whatever the entries hold. -/
def start (kv : KeyValue) (clock : Timestamp) (ids : IdSupply) (loaded : Bool) : Device :=
  let (first, ids) := ids.fresh
  let store := Store.create kv clock first
  if loaded then
    let (second, ids) := ids.fresh
    ⟨store.load clock second, clock, ids⟩
  else ⟨store, clock, ids⟩

/-- Starts again over the entries that are there. -/
def restart (d : Device) (loaded : Bool) : Device := start d.store.kv d.clock d.ids loaded

/-- Reads the entries again. -/
def load (d : Device) : Device :=
  let (id, ids) := d.ids.fresh
  { d with store := d.store.load d.clock id, ids }

/-- Changes the store at the time of the clock. -/
def change {α : Type} (d : Device) (f : Store → Timestamp → α × Store) : α × Device :=
  let (a, store) := f d.store d.clock
  (a, { d with store })

/-- Turns the clock forward. -/
def advance (d : Device) (span : Duration) : Device := { d with clock := d.clock.turned span }

/-- A new bookmark with a fresh id, not stored yet. -/
def newBookmark (d : Device) (name path : String) (isDirectory : Bool) : Bookmark × Device :=
  let (id, ids) := d.ids.fresh
  (Bookmark.create id name path isDirectory d.clock, { d with ids })

/-- Replaces what the key-value store holds or refuses. -/
def withKeyValue (d : Device) (kv : KeyValue) : Device := { d with store := { d.store with kv } }

end Device

end BookmarkSync
