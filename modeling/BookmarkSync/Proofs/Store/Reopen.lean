import BookmarkSync.Proofs.Store.Entries

/-!
# `BookmarkSync.Proofs.Store.Reopen` — a store that is opened again

What a store holds in memory is what its entries say, at every moment of every run: for the collection
always, and for the metadata from the moment on at which its entry is readable. So a second store over the
same entries starts from the same state, however many writes were refused in between.
-/

namespace BookmarkSync.Store

/-! ## What loading does to the entries -/

theorem load_kv (s : Store) (now : Timestamp) (freshId : String) :
    (s.load now freshId).kv = (readMetadata s.kv now freshId).2 := rfl

/-- Loading changes the entries at most by making one for metadata, where there is none. -/
theorem load_entries (s : Store) (now : Timestamp) (freshId : String) :
    (s.load now freshId).kv.lookup bookmarksKey = s.kv.lookup bookmarksKey ∧
    ((s.load now freshId).kv = s.kv ∨ s.kv.lookup metadataKey = none) ∧
    (s.load now freshId).kv.failingReads = s.kv.failingReads := by
  rw [load_kv]
  rcases readMetadata_kv s.kv now freshId with h | ⟨hmissing, h⟩
  · rw [h]
    exact ⟨rfl, .inl rfl, rfl⟩
  · rw [h]
    exact ⟨lookup_bookmarks_putMetadata s.kv _, .inr hmissing, rfl⟩

/-! ## The collection -/

/-- Memory holds the collection that the entries hold, and these can be read. -/
structure InStep (s : Store) : Prop where
  reads : s.kv.failingReads = false
  bookmarks : readBookmarks s.kv = s.bookmarks

theorem InStep.load {s : Store} (hreads : s.kv.failingReads = false) (now : Timestamp) (freshId : String) :
    InStep (s.load now freshId) := by
  obtain ⟨hbookmarks, -, hkv⟩ := load_entries s now freshId
  exact ⟨hkv.trans hreads, readBookmarks_congr hkv hbookmarks⟩

theorem InStep.committed {s : Store} (h : InStep s) (bs : List Bookmark) (m : SyncMetadata) :
    InStep (s.committed bs m) := by
  have hreads : (s.committed bs m).kv.failingReads = false := h.reads
  refine ⟨hreads, ?_⟩
  rw [readBookmarks_of_holds hreads (holdsBookmarks_committed s bs m)]
  exact Bookmark.map_normalized_normalized bs

theorem InStep.withMetadata {s : Store} (h : InStep s) (m : SyncMetadata) : InStep (s.withMetadata m) := by
  have hsame : readBookmarks (s.withMetadata m).kv = readBookmarks s.kv :=
    readBookmarks_congr rfl (lookup_bookmarks_putMetadata s.kv m.text)
  exact ⟨h.reads, hsame.trans h.bookmarks⟩

theorem InStep.apply (s : Store) (e : Event) (h : InStep s) : InStep (e.apply s) := by
  cases e with
  | change c now => exact c.preserves h h.committed h.withMetadata now
  | load now freshId => exact .load h.reads now freshId
  | refuse readOnly failingKey => exact ⟨h.reads, h.bookmarks⟩

/-! ## The metadata -/

/-- Whether an event writes the entry of the metadata: a change that succeeds and has something to write,
or a load that finds no entry and can make one. -/
def Event.WritesMetadata (s : Store) : Event → Prop
  | change c now => c.Persists s ∧ ∃ a, (c.run now s).1 = .ok a
  | load _ _ => s.kv.lookup metadataKey = none ∧ s.kv.writeFault? metadataKey = none
  | refuse _ _ => False

/-- Whether some event of a run writes the entry of the metadata. -/
def WritesMetadata (s : Store) : List Event → Prop
  | [] => False
  | e :: es => e.WritesMetadata s ∨ WritesMetadata (e.apply s) es

/-- The entry of the metadata is read as what is in memory. -/
def MetadataInStep (s : Store) : Prop := HoldsMetadata s.kv s.metadata

theorem MetadataInStep.load {s : Store} (hreads : s.kv.failingReads = false) {m : SyncMetadata}
    (h : HoldsMetadata s.kv m) (now : Timestamp) (freshId : String) : MetadataInStep (s.load now freshId) := by
  have hread := readMetadata_of_holds hreads h now freshId
  show HoldsMetadata (readMetadata s.kv now freshId).2 (readMetadata s.kv now freshId).1
  rw [hread]
  exact h

theorem MetadataInStep.apply {s : Store} (e : Event) (hs : InStep s) (h : MetadataInStep s) :
    MetadataInStep (e.apply s) := by
  cases e with
  | change c now => exact c.preserves h (holdsMetadata_committed s) (holdsMetadata_withMetadata s) now
  | load now freshId => exact .load hs.reads h now freshId
  | refuse readOnly failingKey => exact h

theorem MetadataInStep.of_writes {s : Store} (e : Event) (hreads : s.kv.failingReads = false)
    (h : e.WritesMetadata s) : MetadataInStep (e.apply s) := by
  cases e with
  | change c now =>
    obtain ⟨hpersists, a, hok⟩ := h
    show HoldsMetadata (c.run now s).2.kv (c.run now s).2.metadata
    have hrun := c.outcome_run now s
    generalize c.run now s = r at hok hrun
    -- a refused change writes nothing, and the others leave what they wrote
    cases hrun with
    | failed e => cases hok
    | nothing a hnot => exact absurd hpersists hnot
    | savedMetadata a m _ => exact holdsMetadata_withMetadata s m
    | committed a bs m _ => exact holdsMetadata_committed s bs m
  | load now freshId =>
    have hread := readMetadata_of_missing hreads h.1 h.2 now freshId
    show HoldsMetadata (readMetadata s.kv now freshId).2 (readMetadata s.kv now freshId).1
    rw [hread]
    exact .of_text (lookup_metadata_putMetadata s.kv _)
  | refuse readOnly failingKey => exact h.elim

/-- Once the entry of the metadata is readable or written, it says what is in memory. -/
theorem metadataInStep_after {s : Store} {es : List Event} (hs : InStep s)
    (h : MetadataInStep s ∨ WritesMetadata s es) : MetadataInStep (s.after es) := by
  -- the events are taken from the front, so that what is still to be written is looked for in the rest
  induction es generalizing s with
  | nil => exact h.resolve_right id
  | cons e es ih =>
    refine ih (hs.apply s e) ?_
    rcases h with hnow | hfirst | hlater
    · exact .inl (hnow.apply e hs)
    · exact .inl (.of_writes e hs.reads hfirst)
    · exact .inr hlater

/-! ## Opening again -/

/-- **A store that is opened again starts from what was in memory.** A store is opened over any entries,
readable or not, and runs on in any way, with writes refused at any time. Whoever then opens a second store
over its entries finds the same collection, and the same metadata if its entry was readable at first or has
been written since. Opening and loading leave the entry of the collection alone, and make an entry for the
metadata only where there is none. -/
theorem reopen_agrees_with_memory (entries : List (String × String)) (readOnly : Bool)
    (failingKey : Option String) (now : Timestamp) (freshId : String) (es : List Event) :
    let kv : KeyValue := { entries, readOnly, failingKey }
    let s := (openOn kv now freshId).after es
    (∀ (readOnly' : Bool) (failingKey' : Option String) (now' : Timestamp) (freshId' : String),
      let again := openOn { s.kv with readOnly := readOnly', failingKey := failingKey' } now' freshId'
      again.bookmarks = s.bookmarks ∧
      ((∃ m, HoldsMetadata kv m) ∨ WritesMetadata (create kv now freshId) (.load now freshId :: es) →
        again.metadata = s.metadata)) ∧
    ((openOn kv now freshId).kv.lookup bookmarksKey = kv.lookup bookmarksKey ∧
      (kv.lookup metadataKey ≠ none → (openOn kv now freshId).kv = kv)) ∧
    (∀ (now' : Timestamp) (freshId' : String),
      (s.load now' freshId').kv.lookup bookmarksKey = s.kv.lookup bookmarksKey ∧
      (s.kv.lookup metadataKey ≠ none → (s.load now' freshId').kv = s.kv)) := by
  intro kv s
  have hopened : InStep (openOn kv now freshId) := .load rfl now freshId
  have hs : InStep s := after_induction InStep.apply hopened es
  refine ⟨?_, ?_, ?_⟩
  · intro readOnly' failingKey' now' freshId'
    refine ⟨hs.bookmarks, fun h => ?_⟩
    have hmetadata : MetadataInStep s := by
      refine metadataInStep_after hopened ?_
      rcases h with ⟨m, hm⟩ | hfirst | hlater
      · exact .inl (.load rfl hm now freshId)
      · exact .inl (.of_writes (.load now freshId) rfl hfirst)
      · exact .inr hlater
    -- refusing writes does not change what is read
    let kv' : KeyValue := { s.kv with readOnly := readOnly', failingKey := failingKey' }
    have hreads : kv'.failingReads = false := hs.reads
    have hholds : HoldsMetadata kv' s.metadata := hmetadata
    exact congrArg Prod.fst (readMetadata_of_holds hreads hholds now' freshId')
  · obtain ⟨hbookmarks, hkv, -⟩ := load_entries (create kv now freshId) now freshId
    exact ⟨hbookmarks, hkv.resolve_right⟩
  · intro now' freshId'
    obtain ⟨hbookmarks, hkv, -⟩ := load_entries s now' freshId'
    exact ⟨hbookmarks, hkv.resolve_right⟩

/-- A store opened over nothing, to which one save is refused and another is not, and a store opened over
metadata that is unreadable. -/
theorem reopen_agrees_with_memory_refused :
    (let s := (openOn { entries := [] } 0 "device").after
      [.refuse true none, .change (.save []) 1, .refuse false none, .change (.save []) 2]
    (openOn s.kv 3 "other").metadata = s.metadata) ∧
    (let kv : KeyValue := { entries := [(metadataKey, "unreadable")] }
    (openOn kv 0 "device").kv = kv ∧ ((openOn kv 0 "device").load 3 "other").kv = kv) := by
  have hnothing := reopen_agrees_with_memory [] false none 0 "device"
    [.refuse true none, .change (.save []) 1, .refuse false none, .change (.save []) 2]
  obtain ⟨-, ⟨-, hopen⟩, hload⟩ :=
    reopen_agrees_with_memory [(metadataKey, "unreadable")] false none 0 "device" []
  have hkv : (openOn { entries := [(metadataKey, "unreadable")] } 0 "device").kv
      = { entries := [(metadataKey, "unreadable")] } := hopen (by decide)
  have hloaded := (hload 3 "other").2
  rw [after, List.foldl_nil, hkv] at hloaded
  refine ⟨(hnothing.1 false none 3 "other").2 (.inr (.inl ⟨rfl, rfl⟩)), hkv, ?_⟩
  exact hloaded (by decide)

end BookmarkSync.Store
