import BookmarkSync.Proofs.Store.Entries

/-!
# `BookmarkSync.Proofs.Store.Atomic` — changes happen as a whole or not at all

A store keeps its state four times over: in memory, in two entries, and on two streams. A change that
fails leaves all of them, and a change that commits brings all of them to the same new state.
-/

namespace BookmarkSync.Store

/-! ## Streams -/

/-- Both streams show what is in memory. -/
structure Published (s : Store) : Prop where
  bookmarks : s.bookmarkStream.value = s.bookmarks
  metadata : s.metadataStream.value = s.metadata

theorem published_create (kv : KeyValue) (now : Timestamp) (freshId : String) :
    Published (create kv now freshId) :=
  ⟨rfl, rfl⟩

theorem Published.apply (s : Store) (e : Event) (h : Published s) : Published (e.apply s) := by
  cases e with
  | change c now =>
    refine c.preserves h ?_ ?_ now
    · intro bs m
      exact ⟨rfl, rfl⟩
    · intro m
      exact ⟨h.bookmarks, rfl⟩
  | load now freshId => exact ⟨rfl, rfl⟩
  | refuse readOnly failingKey => exact ⟨h.bookmarks, h.metadata⟩

/-! ## Changes -/

theorem run_of_error {s : Store} {c : Change} {now : Timestamp} {e : StorageError}
    (h : (c.run now s).1 = .error e) : (c.run now s).2 = s := by
  have hrun := c.outcome_run now s
  generalize c.run now s = r at h hrun
  cases hrun with
  | failed e => rfl
  | nothing a _ => cases h
  | savedMetadata a m _ => cases h
  | committed a bs m _ => cases h

/-- A change that goes through a commit and succeeds has committed something. -/
theorem run_of_commits {s : Store} {c : Change} {now : Timestamp} {a : c.Answer} (hc : c.Commits s)
    (h : (c.run now s).1 = .ok a) : ∃ bs m, (c.run now s).2 = s.committed bs m := by
  have hrun := c.outcome_run now s
  generalize c.run now s = r at h hrun
  cases hrun with
  | failed e => cases h
  | nothing a hnot =>
    -- what commits writes to the entries as well
    cases c with
    | saveMetadata m => exact hc.elim
    | _ => exact absurd hc hnot
  | savedMetadata a m hm =>
    subst hm
    exact hc.elim
  | committed a bs m _ => exact ⟨bs, m, rfl⟩

/-- **A failed change changes nothing, and a successful one changes everything together.** A change that
fails leaves the entries, the memory and both streams as they were; in particular a write of several
entries writes none when one of its keys is refused, wherever it stands. In every state that a store gets
into, its streams show what is in memory, and after a commit both entries are read as what is in memory. -/
theorem changes_all_or_nothing :
    (∀ (s : Store) (c : Change) (now : Timestamp) (e : StorageError),
      (c.run now s).1 = .error e → (c.run now s).2 = s) ∧
    (∀ (kv : KeyValue) (new : List (String × String)),
      (∃ e ∈ new, kv.writeFault? e.1 ≠ none) → ∃ f, kv.putAll new = (.error f, kv)) ∧
    (∀ (kv : KeyValue) (now : Timestamp) (freshId : String) (es : List Event),
      Published ((create kv now freshId).after es)) ∧
    (∀ (s : Store) (c : Change) (now : Timestamp) (a : c.Answer),
      c.Commits s → (c.run now s).1 = .ok a →
        HoldsBookmarks (c.run now s).2.kv (c.run now s).2.bookmarks ∧
        HoldsMetadata (c.run now s).2.kv (c.run now s).2.metadata) := by
  refine ⟨?_, ?_, ?_, ?_⟩
  · intro s c now e h
    exact run_of_error h
  · rintro kv new ⟨e, he, hfault⟩
    obtain ⟨f, hput⟩ := KeyValue.putAll_refused he hfault
    exact ⟨.backend f, hput⟩
  · intro kv now freshId es
    exact after_induction Published.apply (published_create kv now freshId) es
  · intro s c now a hc h
    -- a change that commits ends in one write of both documents
    obtain ⟨bs, m, hs⟩ := run_of_commits hc h
    rw [hs]
    exact ⟨holdsBookmarks_committed s bs m, holdsMetadata_committed s bs m⟩

/-- Saving to a store whose metadata cannot be written, and to one where everything can. -/
theorem changes_all_or_nothing_save :
    let refusing := create { entries := [], failingKey := some metadataKey } 0 "device"
    let writable := create { entries := [] } 0 "device"
    let saved := ((Change.save []).run 1 writable).2
    ((Change.save []).run 1 refusing).2 = refusing ∧
    (∃ f, refusing.kv.putAll [(bookmarksKey, ""), (metadataKey, "")] = (.error f, refusing.kv)) ∧
    Published (writable.after [.change (.save []) 1]) ∧
    HoldsBookmarks saved.kv saved.bookmarks ∧ HoldsMetadata saved.kv saved.metadata := by
  obtain ⟨hfailed, hput, hpublished, hheld⟩ := changes_all_or_nothing
  refine ⟨?_, ?_, hpublished _ 0 "device" _, hheld _ (.save []) 1 () trivial rfl⟩
  · exact hfailed _ (.save []) 1 (.backend (.rejected metadataKey)) rfl
  · exact hput _ _ ⟨(metadataKey, ""), by simp, by decide⟩

end BookmarkSync.Store
