import BookmarkSync.Proofs.Store.KeyValue
import BookmarkSync.Store.Basic

/-!
# `BookmarkSync.Proofs.Store.Changes` — everything that can happen to a store

A store goes on by changes, by loading, and by writes being refused from some point on. A change does one
of four things, whatever it is (`run_cases`): it fails and leaves the store, it has nothing to do, it
replaces the metadata, or it commits. Facts about all runs of a store rest on these four.
-/

namespace BookmarkSync.Store

/-! ## Changes -/

/-- A change of a store, with its arguments. -/
inductive Change
  | add (b : Bookmark)
  | update (b : Bookmark)
  | softDelete (id : String)
  | hardDelete (id : String)
  | save (bookmarks : List Bookmark)
  | saveMetadata (metadata : SyncMetadata)
  | replaceWith (f : Snapshot → Snapshot)
  | importText (text : String)

namespace Change

/-- What a change answers when it succeeds. -/
def Answer : Change → Type
  | add _ => Bookmark
  | update _ => Option Bookmark
  | softDelete _ | hardDelete _ => Bool
  | save _ | saveMetadata _ => Unit
  | replaceWith _ => Snapshot
  | importText _ => Nat

/-- Carries out a change at `now`. -/
def run (now : Timestamp) (s : Store) : (c : Change) → Except StorageError c.Answer × Store
  | add b => s.add now b
  | update b => s.update now b
  | softDelete id => s.softDelete now id
  | hardDelete id => s.hardDelete now id
  | save bookmarks => s.save now bookmarks
  | saveMetadata metadata => s.saveMetadata metadata
  | replaceWith f => s.replaceWith f
  | importText text => s.importText now text

/-- Whether the change goes through a commit in this store: it is not one of metadata alone, and the
record that it looks for is there. -/
def Commits (s : Store) : Change → Prop
  | update b => s.get b.id ≠ none
  | softDelete id | hardDelete id => s.get id ≠ none
  | saveMetadata _ => False
  | add _ | save _ | replaceWith _ | importText _ => True

/-- Whether the change writes to the entries in this store, if it succeeds. -/
def Persists (s : Store) : Change → Prop
  | saveMetadata _ => True
  | c => c.Commits s

end Change

/-! ## What a change does -/

/-- The store after a commit that was not refused. -/
def committed (s : Store) (bookmarks : List Bookmark) (metadata : SyncMetadata) : Store where
  kv := { s.kv with
    entries := KeyValue.insertAll
      [(bookmarksKey, Codec.bookmarksText (bookmarks.map Bookmark.normalized)), (metadataKey, metadata.text)]
      s.kv.entries }
  bookmarks := bookmarks.map Bookmark.normalized
  metadata := metadata
  bookmarkStream := s.bookmarkStream.publish (bookmarks.map Bookmark.normalized)
  metadataStream := s.metadataStream.publish metadata

/-- The store after a write of metadata that was not refused. -/
def withMetadata (s : Store) (metadata : SyncMetadata) : Store :=
  { s with
    kv := { s.kv with entries := KeyValue.insertAll [(metadataKey, metadata.text)] s.kv.entries }
    metadata := metadata
    metadataStream := s.metadataStream.publish metadata }

/-- The store takes writes of both its entries. -/
def IsWritable (s : Store) : Prop :=
  s.kv.writeFault? bookmarksKey = none ∧ s.kv.writeFault? metadataKey = none

/-- A store that can be written to can be written to again. -/
theorem IsWritable.committed {s : Store} (h : s.IsWritable) (bs : List Bookmark) (m : SyncMetadata) :
    (s.committed bs m).IsWritable := h

/-- **A commit is refused for one of its two keys, or carried out.** -/
theorem commit_cases (s : Store) (bs : List Bookmark) (m : SyncMetadata) :
    (∃ f, s.commit bs m = (.error (.backend f), s) ∧
      (s.kv.writeFault? bookmarksKey = some f ∨ s.kv.writeFault? metadataKey = some f)) ∨
    s.commit bs m = (.ok (), s.committed bs m) := by
  rcases KeyValue.putAll_cases s.kv
    [(bookmarksKey, Codec.bookmarksText (bs.map Bookmark.normalized)), (metadataKey, m.text)]
    with ⟨f, hput, hfault⟩ | ⟨hput, -⟩
  · refine .inl ⟨f, ?_, by simpa using hfault⟩
    simp only [commit, hput]
  · refine .inr ?_
    simp only [commit, hput, committed]

/-- A commit to such a store goes through. -/
theorem commit_of_writable {s : Store} (h : s.IsWritable) (bs : List Bookmark) (m : SyncMetadata) :
    s.commit bs m = (.ok (), s.committed bs m) := by
  rcases commit_cases s bs m with ⟨f, -, hfault⟩ | hcommit
  · rw [h.1, h.2] at hfault
    rcases hfault with hfault | hfault <;> cases hfault
  · exact hcommit

/-- A commit goes through, or is refused and changes nothing; so does everything that is made of one. -/
theorem answering_commit_cases {α : Type} (a : α) (s : Store) (bs : List Bookmark) (m : SyncMetadata) :
    (∃ e, answering a (s.commit bs m) = (.error e, s)) ∨
    answering a (s.commit bs m) = (.ok a, s.committed bs m) := by
  rcases commit_cases s bs m with ⟨f, h, -⟩ | h
  · exact .inl ⟨.backend f, by rw [h]; rfl⟩
  · exact .inr (by rw [h]; rfl)

theorem replaceWith_cases (s : Store) (f : Snapshot → Snapshot) :
    (∃ fault, s.replaceWith f = (.error (.backend fault), s) ∧
      (s.kv.writeFault? bookmarksKey = some fault ∨ s.kv.writeFault? metadataKey = some fault)) ∨
    s.replaceWith f =
      (.ok (s.committed (f s.snapshot).bookmarks (f s.snapshot).metadata).snapshot,
        s.committed (f s.snapshot).bookmarks (f s.snapshot).metadata) := by
  rcases commit_cases s (f s.snapshot).bookmarks (f s.snapshot).metadata with ⟨fault, h, hfault⟩ | h
  · refine .inl ⟨fault, ?_, hfault⟩
    simp only [replaceWith, h, Except.map]
  · refine .inr ?_
    simp only [replaceWith, h, Except.map]

theorem saveMetadata_cases (s : Store) (m : SyncMetadata) :
    (∃ e, s.saveMetadata m = (.error e, s)) ∨ s.saveMetadata m = (.ok (), s.withMetadata m) := by
  rcases KeyValue.putAll_cases s.kv [(metadataKey, m.text)] with ⟨f, hput, -⟩ | ⟨hput, -⟩
  · refine .inl ⟨.backend f, ?_⟩
    simp only [saveMetadata, KeyValue.put, hput]
  · refine .inr ?_
    simp only [saveMetadata, KeyValue.put, hput, withMetadata]

/-- **What a change can do to a store**, and what it then answers. -/
inductive Outcome {α : Type} (s : Store) (c : Change) : Except StorageError α × Store → Prop
  /-- It failed, and the store is as it was. -/
  | failed (e : StorageError) : Outcome s c (.error e, s)
  /-- There was nothing to change. -/
  | nothing (a : α) : ¬ c.Persists s → Outcome s c (.ok a, s)
  | savedMetadata (a : α) (m : SyncMetadata) : c = .saveMetadata m → Outcome s c (.ok a, s.withMetadata m)
  | committed (a : α) (bs : List Bookmark) (m : SyncMetadata) : c.Commits s →
      Outcome s c (.ok a, s.committed bs m)

namespace Outcome

variable {s : Store} {now : Timestamp}

/-- An edit that ends in a commit has the outcome of its commit. The other changes are of this kind, except that
some of them may find nothing to change. -/
theorem of_commit {α : Type} {c : Change} {r : Except StorageError α × Store} {a : α} {bs : List Bookmark}
    {m : SyncMetadata} (hc : c.Commits s) (h : (∃ e, r = (.error e, s)) ∨ r = (.ok a, s.committed bs m)) :
    Outcome s c r := by
  rcases h with ⟨e, rfl⟩ | rfl
  · exact .failed e
  · exact .committed a bs m hc

theorem add (b : Bookmark) : Outcome s (.add b) (s.add now b) :=
  of_commit trivial (answering_commit_cases _ _ _ _)

theorem update (b : Bookmark) : Outcome s (.update b) (s.update now b) := by
  unfold Store.update
  cases hget : s.get b.id with
  | none => exact .nothing none fun h => h hget
  | some stored =>
    have hfound : s.get b.id ≠ none := by simp [hget]
    exact of_commit hfound (answering_commit_cases _ _ _ _)

theorem softDelete (id : String) : Outcome s (.softDelete id) (s.softDelete now id) := by
  unfold Store.softDelete
  cases hget : s.get id with
  | none => exact .nothing false fun h => h hget
  | some stored =>
    have hfound : s.get id ≠ none := by simp [hget]
    exact of_commit hfound (answering_commit_cases _ _ _ _)

theorem hardDelete (id : String) : Outcome s (.hardDelete id) (s.hardDelete now id) := by
  unfold Store.hardDelete
  cases hget : s.get id with
  | none => exact .nothing false fun h => h hget
  | some stored =>
    have hfound : s.get id ≠ none := by simp [hget]
    exact of_commit hfound (answering_commit_cases _ _ _ _)

theorem save (bs : List Bookmark) : Outcome s (.save bs) (s.save now bs) := by
  unfold Store.save Store.commitStamped
  rcases commit_cases s bs (s.metadata.withLastModified now) with ⟨f, h, -⟩ | h
  · rw [h]
    exact .failed (.backend f)
  · exact of_commit trivial (.inr h)

theorem saveMetadata (m : SyncMetadata) : Outcome s (.saveMetadata m) (s.saveMetadata m) := by
  rcases saveMetadata_cases s m with ⟨e, h⟩ | h
  · rw [h]
    exact .failed e
  · rw [h]
    exact .savedMetadata () m rfl

theorem replaceWith (f : Snapshot → Snapshot) : Outcome s (.replaceWith f) (s.replaceWith f) := by
  rcases replaceWith_cases s f with ⟨fault, h, -⟩ | h
  · rw [h]
    exact .failed (.backend fault)
  · exact of_commit trivial (.inr h)

theorem importText (text : String) : Outcome s (.importText text) (s.importText now text) := by
  unfold Store.importText
  cases ExportDocument.ofText text with
  | error e => exact .failed (.codec e)
  | ok doc => exact of_commit trivial (answering_commit_cases _ _ _ _)

end Outcome

/-- **Every change fails, has nothing to do, saves metadata or commits.** -/
theorem Change.outcome_run (now : Timestamp) (s : Store) (c : Change) : Outcome s c (c.run now s) := by
  cases c with
  | add b => exact .add b
  | update b => exact .update b
  | softDelete id => exact .softDelete id
  | hardDelete id => exact .hardDelete id
  | save bs => exact .save bs
  | saveMetadata m => exact .saveMetadata m
  | replaceWith f => exact .replaceWith f
  | importText text => exact .importText text

/-! ## Runs -/

/-- What can happen to a store. -/
inductive Event
  | change (c : Change) (now : Timestamp)
  | load (now : Timestamp) (freshId : String)
  /-- From now on writes are refused like this. -/
  | refuse (readOnly : Bool) (failingKey : Option String)

/-- The store after an event. -/
def Event.apply (s : Store) : Event → Store
  | change c now => (c.run now s).2
  | load now freshId => s.load now freshId
  | refuse readOnly failingKey => { s with kv := { s.kv with readOnly, failingKey } }

/-- The store after some events, one after the other. -/
def after (s : Store) (es : List Event) : Store := es.foldl Event.apply s

theorem after_cons (s : Store) (e : Event) (es : List Event) : s.after (e :: es) = (e.apply s).after es := rfl

/-- What every event preserves holds after every run. -/
theorem after_induction {P : Store → Prop} (hstep : ∀ s e, P s → P (Event.apply s e)) {s : Store} (h : P s)
    (es : List Event) : P (s.after es) := by
  induction es generalizing s with
  | nil => exact h
  | cons e es ih => exact ih (hstep s e h)

/-- A property is kept by a change when it is kept by commits and by writes of metadata. -/
theorem Change.preserves {P : Store → Prop} {s : Store} (h : P s) (hcommit : ∀ bs m, P (s.committed bs m))
    (hmetadata : ∀ m, P (s.withMetadata m)) (now : Timestamp) (c : Change) : P (c.run now s).2 := by
  have hrun := c.outcome_run now s
  generalize c.run now s = r at hrun
  cases hrun with
  | failed e => exact h
  | nothing a _ => exact h
  | savedMetadata a m _ => exact hmetadata m
  | committed a bs m _ => exact hcommit bs m

end BookmarkSync.Store
