import BookmarkSync.Sync.Engine

/-!
# `BookmarkSync.Sync.Editor` — editing the collection

An editor changes the collection for the user. Every change that reaches the store asks the engine for an
automatic sync, if the editor is attached to it. A wish that ends in a fault takes the answer of the change
with it, but not the change.
-/

namespace BookmarkSync

/-- A change of some fields of a bookmark; absent ones stay as they are. Empty notes clear the notes. -/
structure Patch where
  name : Option String := none
  tags : Option (List String) := none
  notes : Option String := none
  showInSidebar : Option Bool := none
deriving DecidableEq, Repr

/-- The bookmark with the fields that the patch names. -/
def Patch.apply (p : Patch) (b : Bookmark) : Bookmark :=
  { b with
    name := p.name.getD b.name
    tags := p.tags.getD b.tags
    notes := p.notes.or b.notes
    showInSidebar := p.showInSidebar.getD b.showInSidebar }

/-- Why a change by an editor does not answer. -/
inductive EditError
  /-- The store refuses the change. -/
  | storage (e : StorageError)
  /-- The change is made, and the wish for a sync that follows it ends in a fault. -/
  | trigger (f : TriggerFault)
deriving Repr

structure Editor (ρ : Type) where
  engine : Engine ρ
  attached : Bool := true

namespace Editor

variable {ρ : Type}

def store (ed : Editor ρ) : Store := ed.engine.device.store

/-- Asks for an automatic sync, if the editor is attached. -/
def requestSync (ed : Editor ρ) : Except TriggerFault Unit × Editor ρ :=
  if ed.attached then
    let (r, engine) := ed.engine.trigger
    (r.map fun _ => (), { ed with engine })
  else (.ok (), ed)

/-- Changes the store, and asks for a sync if the outcome is a change. -/
def change {α : Type} (ed : Editor ρ) (isChange : α → Bool)
    (f : Store → Timestamp → Except StorageError α × Store) : Except EditError α × Editor ρ :=
  let (r, engine) := ed.engine.onDevice fun d => d.change f
  let ed := { ed with engine }
  match r with
  | .error e => (.error (.storage e), ed)
  | .ok a =>
    if isChange a then
      let (asked, ed) := ed.requestSync
      ((asked.mapError .trigger).map fun _ => a, ed)
    else (.ok a, ed)

/-! ## Changes -/

def addBookmark (ed : Editor ρ) (b : Bookmark) : Except EditError Bookmark × Editor ρ :=
  ed.change (fun _ => true) fun store now => store.add now b

/-- Adds a new bookmark. -/
def add (ed : Editor ρ) (name path : String) (isDirectory showInSidebar : Bool) :
    Except EditError Bookmark × Editor ρ :=
  let (b, engine) := ed.engine.onDevice fun d => d.newBookmark name path isDirectory
  { ed with engine }.addBookmark (b.withSidebar showInSidebar)

def updateBookmark (ed : Editor ρ) (b : Bookmark) : Except EditError (Option Bookmark) × Editor ρ :=
  ed.change Option.isSome fun store now => store.update now b

/-- Applies a patch to the bookmark with this id, as it is stored when the patch comes. -/
def update (ed : Editor ρ) (id : String) (p : Patch) : Except EditError (Option Bookmark) × Editor ρ :=
  match ed.store.get id with
  | none => (.ok none, ed)
  | some b => ed.updateBookmark (p.apply b)

/-- Makes a bookmark a tombstone, so that the deletion reaches other devices. -/
def delete (ed : Editor ρ) (id : String) : Except EditError Bool × Editor ρ :=
  ed.change (fun deleted => deleted) fun store now => store.softDelete now id

/-- Adds a bookmark of a path, or deletes the one there is. Answers whether the path is bookmarked then. -/
def toggle (ed : Editor ρ) (name path : String) (isDirectory showInSidebar : Bool) :
    Except EditError Bool × Editor ρ :=
  match ed.store.findActiveByPath path with
  | some b =>
    let (r, ed) := ed.delete b.id
    (r.map fun _ => false, ed)
  | none =>
    let (r, ed) := ed.add name path isDirectory showInSidebar
    (r.map fun _ => true, ed)

/-- Replaces the collection by a backup. -/
def importText (ed : Editor ρ) (text : String) : Except EditError Nat × Editor ρ :=
  ed.change (fun _ => true) fun store now => store.importText now text

/-! ## Questions -/

def isBookmarked (ed : Editor ρ) (path : String) : Bool := (ed.store.findActiveByPath path).isSome

/-- The bookmarks that a filter shows. -/
def filtered (ed : Editor ρ) (f : Filter) : List Bookmark := ed.store.bookmarks.filter f.shows

/-- The active bookmarks that match a query. -/
def search (ed : Editor ρ) (query : String) : List Bookmark :=
  ed.store.bookmarks.filter fun b => b.isActive && b.matchesQuery query

end Editor

end BookmarkSync
