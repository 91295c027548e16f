import BookmarkSync.Proofs.Remote.Seen
import BookmarkSync.Proofs.Store.PlainList
import BookmarkSync.Proofs.Sync.Plan

/-!
# `BookmarkSync.Proofs.Sync.Toggling` — what a toggle leaves behind

A toggle looks for a bookmark by its path and deletes it by its id. Neither is unique in a collection: two
devices may have bookmarked one place, and a backup may repeat an id. So a toggle that answers that the
place is not bookmarked any more is right exactly if it was bookmarked once (`BookmarkedOnce`). In every
other respect a toggle does what it answers: it adds where nothing is found, and a refused toggle changes
nothing. A toggle that is made answers unless the wish for a sync that follows it ends in a fault.
-/

namespace BookmarkSync

/-- Whether the record is an active bookmark of the path. -/
def Bookmark.isAt (path : String) (b : Bookmark) : Bool := b.isActive && b.path == path

theorem Bookmark.isAt_tombstoned (path : String) (b : Bookmark) (now : Timestamp) :
    (b.tombstoned now).isAt path = false := rfl

/-- Exactly one active bookmark of the collection is one of the path, and it is the first record of its id. -/
def BookmarkedOnce (path : String) (bs : List Bookmark) : Prop :=
  ∃ b, bs.filter (Bookmark.isAt path) = [b] ∧ Merge.lookup b.id bs = some b

/-! ## Collections -/

section Collections

variable {path : String} {bs : List Bookmark}

/-- A place is bookmarked if some active record is a bookmark of it. -/
theorem Store.isSome_findActiveByPath (s : Store) :
    (s.findActiveByPath path).isSome = s.bookmarks.any (Bookmark.isAt path) :=
  List.isSome_find?

theorem any_map_normalized :
    (bs.map Bookmark.normalized).any (Bookmark.isAt path) = bs.any (Bookmark.isAt path) := by
  rw [List.any_map]
  rfl

theorem exists_lookup_of_mem {b : Bookmark} (h : b ∈ bs) : ∃ c, Merge.lookup b.id bs = some c := by
  apply Option.ne_none_iff_exists'.mp
  intro hnone
  exact Merge.lookup_eq_none_iff.mp hnone (List.mem_map_of_mem h)

/-- **Deleting the first bookmark of a path by its id** takes the path out of the collection exactly if the
path was bookmarked once. -/
theorem any_modifyFirst_eq_false_iff {b : Bookmark} (hb : bs.find? (Bookmark.isAt path) = some b)
    (now : Timestamp) :
    (Store.modifyFirst b.id (·.tombstoned now) bs).any (Bookmark.isAt path) = false ↔
    BookmarkedOnce path bs := by
  have hmem : b ∈ bs.filter (Bookmark.isAt path) :=
    List.mem_filter.mpr ⟨List.mem_of_find?_eq_some hb, List.find?_some hb⟩
  -- what is deleted is the first record with the id, which need not be the one that was found
  obtain ⟨c, hc⟩ := exists_lookup_of_mem (List.mem_of_find?_eq_some hb)
  obtain ⟨front, back, hbefore, hafter, -, -⟩ :=
    Store.replacesFirst_modifyFirst (f := (·.tombstoned now)) hc
  have hany : (Store.modifyFirst b.id (·.tombstoned now) bs).any (Bookmark.isAt path) = false
      ↔ front.filter (Bookmark.isAt path) = [] ∧ back.filter (Bookmark.isAt path) = [] := by
    simp [hafter, Bookmark.isAt_tombstoned]
  have hfilter : bs.filter (Bookmark.isAt path)
      = front.filter (Bookmark.isAt path) ++ [c].filter (Bookmark.isAt path)
        ++ back.filter (Bookmark.isAt path) := by
    rw [hbefore, ← List.filter_append, ← List.filter_append, List.append_assoc, List.singleton_append]
  rw [hany]
  constructor
  · rintro ⟨hfront, hback⟩
    rw [hfront, hback, List.nil_append, List.append_nil] at hfilter
    rw [hfilter] at hmem
    obtain rfl : b = c := List.mem_singleton.mp (List.mem_of_mem_filter hmem)
    refine ⟨b, ?_, hc⟩
    rw [hfilter, List.filter_cons_of_pos (List.find?_some hb), List.filter_nil]
  · rintro ⟨d, honce, hd⟩
    rw [honce] at hmem
    obtain rfl : b = d := List.mem_singleton.mp hmem
    obtain rfl : c = b := Option.some.inj (hc.symm.trans hd)
    rw [honce, List.filter_cons_of_pos (List.find?_some hb), List.filter_nil] at hfilter
    have hlength := congrArg List.length hfilter
    simp only [List.length_append, List.length_singleton] at hlength
    constructor <;> exact List.eq_nil_of_length_eq_zero (by omega)

end Collections

/-! ## Stores -/

section Stores

variable {s : Store} (now : Timestamp)

theorem Store.softDelete_cases {x : String} {b : Bookmark} (h : s.get x = some b) :
    (∃ e, s.softDelete now x = (.error e, s)) ∨
    s.softDelete now x = (.ok true,
      s.committed (modifyFirst x (·.tombstoned now) s.bookmarks) (s.metadata.withLastModified now)) := by
  rw [Store.softDelete, h]
  exact answering_commit_cases _ _ _ _

theorem Store.add_cases (b : Bookmark) :
    (∃ e, s.add now b = (.error e, s)) ∨
    s.add now b = (.ok b.normalized,
      s.committed (s.bookmarks ++ [b.normalized]) (s.metadata.withLastModified now)) :=
  answering_commit_cases _ _ _ _

end Stores

/-! ## Editors -/

namespace Editor

variable {ρ : Type} (ed : Editor ρ)

/-- What an editor answers when the store has answered a change: the same, unless the change is made and the
wish for a sync that follows it ends in a fault. -/
inductive Answered {α : Type} : Except StorageError α → Except EditError α → Prop
  | refused (e : StorageError) : Answered (.error e) (.error (.storage e))
  | made (a : α) : Answered (.ok a) (.ok a)
  | faulted (a : α) (f : TriggerFault) : Answered (.ok a) (.error (.trigger f))

theorem Answered.map {α β : Type} {r : Except StorageError α} {r' : Except EditError α} (h : Answered r r')
    (g : α → β) : Answered (r.map g) (r'.map g) := by
  cases h with
  | refused e => exact .refused e
  | made a => exact .made (g a)
  | faulted a f => exact .faulted (g a) f

theorem Answered.of_error {α : Type} {e : StorageError} {r : Except EditError α} (h : Answered (.error e) r) :
    r = .error (.storage e) := by
  cases h
  rfl

theorem Answered.of_ok {α : Type} {a : α} {r : Except EditError α} (h : Answered (.ok a) r) :
    r = .ok a ∨ ∃ f, r = .error (.trigger f) := by
  cases h with
  | made => exact .inl rfl
  | faulted _ f => exact .inr ⟨f, rfl⟩

theorem Answered.eq_of_ok {α : Type} {a a' : α} {r : Except EditError α} (h : Answered (.ok a) r)
    (hr : r = .ok a') : a = a' := by
  cases h with
  | made => exact Except.ok.inj hr
  | faulted => cases hr

/-- What was made is not refused. -/
theorem Answered.ne_storage {α : Type} {a : α} {r : Except EditError α} (h : Answered (.ok a) r)
    (e : StorageError) : r ≠ .error (.storage e) := by
  cases h <;> exact nofun

theorem store_requestSync : ed.requestSync.2.store = ed.store := by
  unfold requestSync
  split
  · exact congrArg Device.store ed.engine.device_trigger
  · rfl

/-- A change by an editor is answered by the store, and does to it what it does without an editor. -/
theorem change_spec {α : Type} (isChange : α → Bool) (f : Store → Timestamp → Except StorageError α × Store) :
    Answered (f ed.store ed.engine.now).1 (ed.change isChange f).1 ∧
      (ed.change isChange f).2.store = (f ed.store ed.engine.now).2 := by
  rcases hf : f ed.store ed.engine.now with ⟨answer, store⟩
  have hclock : f ed.engine.device.store ed.engine.device.clock = (answer, store) := hf
  simp only [change, Engine.onDevice, Device.change, hclock]
  cases answer with
  | error e => exact ⟨.refused e, rfl⟩
  | ok a =>
    by_cases hchange : isChange a = true
    · -- the change is made, whatever comes of the wish
      let changed : Editor ρ :=
        { ed with engine := { ed.engine with device := { ed.engine.device with store } } }
      have hstore : changed.requestSync.2.store = store := changed.store_requestSync
      simp only [hchange, if_true]
      refine ⟨?_, hstore⟩
      show Answered (.ok a) ((changed.requestSync.1.mapError .trigger).map fun _ => a)
      cases changed.requestSync.1 with
      | error f => exact .faulted a f
      | ok done => exact .made a
    · simp only [hchange]
      exact ⟨.made a, rfl⟩

/-- What a toggle of a path answers, and what it makes of the collection. -/
inductive Toggled (path : String) : Except EditError Bool × Editor ρ → Prop
  /-- The store refuses the change. -/
  | refused (e : StorageError) {ed' : Editor ρ} : ed'.store = ed.store → Toggled path (.error (.storage e), ed')
  | added (b : Bookmark) {answer : Except EditError Bool} {ed' : Editor ρ} : Answered (.ok true) answer →
      ed.isBookmarked path = false → b.isAt path = true →
      ed'.store.bookmarks = (ed.store.bookmarks ++ [b]).map Bookmark.normalized → Toggled path (answer, ed')
  /-- The first record with the id of the bookmark that was found is deleted. -/
  | deleted (b : Bookmark) {answer : Except EditError Bool} {ed' : Editor ρ} : Answered (.ok false) answer →
      ed.store.findActiveByPath path = some b →
      ed'.store.bookmarks
        = (Store.modifyFirst b.id (·.tombstoned ed.engine.now) ed.store.bookmarks).map Bookmark.normalized →
      Toggled path (answer, ed')

/-- **Every toggle is refused, adds a bookmark, or deletes one.** -/
theorem toggled_toggle (name path : String) (isDirectory showInSidebar : Bool) :
    ed.Toggled path (ed.toggle name path isDirectory showInSidebar) := by
  unfold toggle
  cases hfound : ed.store.findActiveByPath path with
  | some b =>
    show ed.Toggled path ((ed.delete b.id).1.map fun _ => false, (ed.delete b.id).2)
    obtain ⟨hanswer, hstore⟩ :=
      ed.change_spec (fun deleted => deleted) fun store now => store.softDelete now b.id
    obtain ⟨c, hc⟩ : ∃ c, ed.store.get b.id = some c := exists_lookup_of_mem (List.mem_of_find?_eq_some hfound)
    replace hanswer := hanswer.map fun _ => false
    rcases Store.softDelete_cases ed.engine.now hc with ⟨e, hrefused⟩ | hcommitted
    · rw [hrefused] at hanswer hstore
      exact hanswer.of_error ▸ .refused e hstore
    · rw [hcommitted] at hanswer hstore
      exact .deleted b hanswer hfound (congrArg Store.bookmarks hstore)
  | none =>
    -- the identifier of the new bookmark is taken before the store is changed
    let ready : Editor ρ :=
      { ed with engine := (ed.engine.onDevice fun d => d.newBookmark name path isDirectory).2 }
    let new := (ed.engine.device.newBookmark name path isDirectory).1.withSidebar showInSidebar
    show ed.Toggled path ((ready.addBookmark new).1.map fun _ => true, (ready.addBookmark new).2)
    obtain ⟨hanswer, hstore⟩ := ready.change_spec (fun _ => true) fun store now => store.add now new
    have hready : ready.store = ed.store := rfl
    have hunknown : ed.isBookmarked path = false := by
      rw [isBookmarked, hfound]
      rfl
    have hnew : new.isAt path = true := by
      show (true && path == path) = true
      simp
    replace hanswer := hanswer.map fun _ => true
    rcases Store.add_cases (s := ready.store) ready.engine.now new with ⟨e, hrefused⟩ | hcommitted
    · rw [hrefused] at hanswer hstore
      exact hanswer.of_error ▸ .refused e hstore
    · rw [hcommitted, hready] at hanswer hstore
      exact .added new.normalized hanswer hunknown hnew (congrArg Store.bookmarks hstore)

theorem isBookmarked_eq_any (path : String) :
    ed.isBookmarked path = ed.store.bookmarks.any (Bookmark.isAt path) :=
  ed.store.isSome_findActiveByPath

/-- **A toggle reports the state that it leaves, unless it deletes one of several bookmarks of the place.** In
whatever state a collection is, the answer of a toggle says whether the path is bookmarked afterwards exactly
if the path was not bookmarked before, or was so once; and a toggle that is refused leaves every path
bookmarked or not as it was. A toggle that is made answers, or the wish for a sync ends in a fault. -/
theorem toggle_reports_iff (name path : String) (isDirectory showInSidebar : Bool) :
    (∀ answer, (ed.toggle name path isDirectory showInSidebar).1 = .ok answer →
      ((ed.toggle name path isDirectory showInSidebar).2.isBookmarked path = answer ↔
        (ed.isBookmarked path = true → BookmarkedOnce path ed.store.bookmarks))) ∧
    (∀ e, (ed.toggle name path isDirectory showInSidebar).1 = .error (.storage e) →
      ∀ other, (ed.toggle name path isDirectory showInSidebar).2.isBookmarked other
        = ed.isBookmarked other) := by
  have htoggled := ed.toggled_toggle name path isDirectory showInSidebar
  generalize ed.toggle name path isDirectory showInSidebar = r at htoggled
  constructor
  · intro answer hanswer
    -- a toggle is refused, adds a record, or deletes the first one of the path
    cases htoggled with
    | refused e _ => cases hanswer
    | @added b _ ed' hanswered hunknown hb hbookmarks =>
      obtain rfl := hanswered.eq_of_ok hanswer
      have hadded : ed'.isBookmarked path = true := by
        rw [isBookmarked_eq_any, hbookmarks, any_map_normalized, List.any_append, List.any_cons, hb]
        simp
      simp [hadded, hunknown]
    | @deleted b _ ed' hanswered hfound hbookmarks =>
      obtain rfl := hanswered.eq_of_ok hanswer
      have hknown : ed.isBookmarked path = true := by
        rw [isBookmarked, hfound]
        rfl
      -- the path is left free exactly if it was bookmarked once
      have hleft := any_modifyFirst_eq_false_iff hfound ed.engine.now
      rw [← any_map_normalized, ← hbookmarks, ← isBookmarked_eq_any] at hleft
      simp [hleft, hknown]
  · intro e herror other
    cases htoggled with
    | refused e hstore => rw [isBookmarked_eq_any, hstore, ← isBookmarked_eq_any]
    | added _ hanswered _ _ _ | deleted _ hanswered _ _ => exact absurd herror (hanswered.ne_storage e)

/-! ### A place that is bookmarked twice -/

/-- An editor of a new device, whose engine does not sync. -/
def fresh : Editor Unit := ⟨Engine.new (.start .empty 100 default true) {} {} (), true⟩

/-- A toggle adds a bookmark, and a toggle of a place that is bookmarked once takes it out. -/
theorem toggle_reports_iff_once :
    let once := (fresh.toggle "n" "/n" false false).2
    once.isBookmarked "/n" = true ∧ (once.toggle "n" "/n" false false).2.isBookmarked "/n" = false := by
  intro once
  have hadded := (fresh.toggle_reports_iff "n" "/n" false false).1 true rfl
  have hdeleted := (once.toggle_reports_iff "n" "/n" false false).1 false rfl
  exact ⟨hadded.mpr nofun, hdeleted.mpr fun _ => ⟨_, rfl, rfl⟩⟩

/-- A place can be bookmarked after a toggle has answered that it is not: here it was added twice before. -/
theorem not_toggle_always_reports :
    ¬ ∀ (edits : List Edit) (path : String) (answer : Bool),
      let ed : Editor Unit := edits.foldl Edit.run fresh
      (ed.toggle "n" path false false).1 = .ok answer →
        (ed.toggle "n" path false false).2.isBookmarked path = answer := by
  intro hreports
  have htwice := hreports [.add "n" "/n" false false, .add "n" "/n" false false] "/n" false rfl
  revert htwice
  decide

end Editor

end BookmarkSync
