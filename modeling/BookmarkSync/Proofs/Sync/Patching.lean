import BookmarkSync.Proofs.Store.NormalForm
import BookmarkSync.Proofs.Sync.Toggling

/-!
# `BookmarkSync.Proofs.Sync.Patching` — what a patch writes back

A patch is applied in two steps: the record is read, and then the whole record is written, with the fields that
the patch names changed in it. The engine may go on between the two, and a sync may commit or another edit may
be made. The fields that the patch does not name are then written back as they were read, and whatever has
become of them in between is undone. So the patch changes only what it names exactly if nothing else has
changed (`Patch.changesOnly_iff`).
-/

namespace BookmarkSync

open Merge (lookup)

/-! ## Records -/

namespace Patch

/-- The record that was stored for the patch has what the patch names, and otherwise what `base` has, both as
far as normal form lets them. -/
structure ChangesOnly (p : Patch) (base stored : Bookmark) : Prop where
  name : stored.name = p.name.getD base.name
  path : stored.path = base.path
  tags : stored.tags = p.tags.getD base.tags
  notes : stored.notes = Bookmark.nonBlank (p.notes.or base.notes)
  showInSidebar : stored.showInSidebar = (p.showInSidebar.getD base.showInSidebar && stored.isDirectory)
  isDeleted : stored.isDeleted = base.isDeleted

/-- What the patch does not name was read from `b` as it was left in `l`, as far as normal form goes. -/
structure MissesNothing (p : Patch) (b l : Bookmark) : Prop where
  name : p.name = none → b.name = l.name
  path : b.path = l.path
  tags : p.tags = none → b.tags = l.tags
  notes : p.notes = none → Bookmark.nonBlank b.notes = Bookmark.nonBlank l.notes
  showInSidebar : p.showInSidebar = none → l.isDirectory = true → b.showInSidebar = l.showInSidebar
  isDeleted : b.isDeleted = l.isDeleted

variable (p : Patch) (now : Timestamp) (b l : Bookmark)

/-- A patched record is stored with what was read. -/
theorem changesOnly_updated : p.ChangesOnly b (Store.updated now (p.apply b) l) :=
  ⟨rfl, rfl, rfl, rfl, rfl, rfl⟩

/-- A field that the patch may name is as it should be exactly if it is named, or was read as it was left. -/
theorem getD_eq_iff {α : Type} (wish : Option α) (a a' : α) :
    wish.getD a = wish.getD a' ↔ (wish = none → a = a') := by
  cases wish with
  | none => simp
  | some c => simp

/-- **A patch changes only what it names exactly if it misses nothing.** -/
theorem changesOnly_iff : p.ChangesOnly l (Store.updated now (p.apply b) l) ↔ p.MissesNothing b l := by
  -- a field that the patch names is the same on both sides, so only the others are compared
  have hnotes : Bookmark.nonBlank (p.notes.or b.notes) = Bookmark.nonBlank (p.notes.or l.notes)
      ↔ (p.notes = none → Bookmark.nonBlank b.notes = Bookmark.nonBlank l.notes) := by
    cases p.notes with
    | none => simp
    | some n => simp
  have hshown : (p.showInSidebar.getD b.showInSidebar && l.isDirectory)
        = (p.showInSidebar.getD l.showInSidebar && l.isDirectory)
      ↔ (p.showInSidebar = none → l.isDirectory = true → b.showInSidebar = l.showInSidebar) := by
    cases l.isDirectory with
    | false => simp
    | true => simp only [Bool.and_true, getD_eq_iff, forall_const]
  constructor
  · rintro ⟨hname, hpath, htags, hn, hs, hdeleted⟩
    exact ⟨(getD_eq_iff _ _ _).mp hname, hpath, (getD_eq_iff _ _ _).mp htags, hnotes.mp hn,
      hshown.mp hs, hdeleted⟩
  · rintro ⟨hname, hpath, htags, hn, hs, hdeleted⟩
    exact ⟨(getD_eq_iff _ _ _).mpr hname, hpath, (getD_eq_iff _ _ _).mpr htags, hnotes.mpr hn,
      hshown.mpr hs, hdeleted⟩

end Patch

/-! ## Stores -/

/-- An update of a record that is there is refused, or stored under its id. -/
theorem Store.update_cases {s : Store} (now : Timestamp) {b l : Bookmark} (h : s.get b.id = some l) :
    (∃ e, s.update now b = (.error e, s)) ∨
    (s.update now b).1 = .ok (some (updated now b l)) ∧
    (s.update now b).2.get b.id = some (updated now b l) := by
  have hupdate : s.update now b = answering (some (updated now b l))
      (s.commit (modifyFirst b.id (fun _ => updated now b l) s.bookmarks)
        (s.metadata.withLastModified now)) := by
    rw [update, h]
    rfl
  rw [hupdate]
  rcases answering_commit_cases (some (updated now b l)) s
    (modifyFirst b.id (fun _ => updated now b l) s.bookmarks)
      (s.metadata.withLastModified now) with hrefused | hcommitted
  · exact .inl hrefused
  · refine .inr ⟨by rw [hcommitted], ?_⟩
    have hid : ∀ c : Bookmark, c.id = b.id → (updated now b l).id = b.id := fun _ _ => rfl
    have hlookup : lookup b.id s.bookmarks = some l := h
    rw [get, lookup_of_answering_commit ⟨_, congrArg Prod.fst hcommitted⟩, lookup_modifyFirst hid, hlookup]
    exact congrArg some (Bookmark.normalized_normalized _)

/-! ## Editors -/

namespace Editor

variable {ρ : Type} (remote : Remote ρ) (ed : Editor ρ)

/-- The editor when its engine has gone on by some events. -/
def meanwhile (events : List Engine.Event) : Editor ρ := { ed with engine := ed.engine.after remote events }

/-- Applies a patch to the bookmark with this id. The events happen between the reading of the record and the
writing. -/
def updateAround (between : List Engine.Event) (id : String) (p : Patch) :
    Except EditError (Option Bookmark) × Editor ρ :=
  match ed.store.get id with
  | none => (.ok none, ed)
  | some b => (ed.meanwhile remote between).updateBookmark (p.apply b)

/-- An update is one with nothing in between. -/
theorem updateAround_nil (id : String) (p : Patch) : ed.updateAround remote [] id p = ed.update id p := rfl

variable {remote ed} {x : String} {b l : Bookmark}

/-- **A patch writes back what it has read.** Whatever happens between reading and writing, if the record is
still there then, a patch that is not refused stores what it names and, in the fields that it does not name,
what it has read; creation and kind are those of the record that is there. So it changes only the fields that
it names exactly if the others were left as they had been read. It answers with what is stored, unless the
wish for a sync ends in a fault. -/
theorem patch_writes_back_what_it_read {between : List Engine.Event} (hread : ed.store.get x = some b)
    (hleft : (ed.meanwhile remote between).store.get x = some l) (p : Patch) :
    let later := ed.meanwhile remote between
    let outcome := ed.updateAround remote between x p
    (∃ e, outcome.1 = .error (.storage e) ∧ outcome.2.store = later.store) ∨
    ∃ stored, (outcome.1 = .ok (some stored) ∨ ∃ f, outcome.1 = .error (.trigger f)) ∧
      outcome.2.store.get x = some stored ∧
      p.ChangesOnly b stored ∧ (p.ChangesOnly l stored ↔ p.MissesNothing b l) ∧
      stored.createdAt = l.createdAt ∧ stored.isDirectory = l.isDirectory ∧
      stored.modifiedAt = max later.engine.now l.createdAt := by
  intro later outcome
  obtain rfl : b.id = x := Merge.id_of_lookup hread
  -- whatever happens in between, the record that is written is the one that was read
  have houtcome : outcome = later.updateBookmark (p.apply b) := by
    show ed.updateAround remote between b.id p = _
    rw [updateAround, hread]
  obtain ⟨hanswer, hstore⟩ := later.change_spec Option.isSome fun store now => store.update now (p.apply b)
  have hthere : later.store.get (p.apply b).id = some l := hleft
  rw [houtcome]
  rcases Store.update_cases later.engine.now hthere with ⟨e, hrefused⟩ | ⟨hok, hstored⟩
  · rw [hrefused] at hanswer hstore
    exact .inl ⟨e, hanswer.of_error, hstore⟩
  · rw [hok] at hanswer
    refine .inr ⟨Store.updated later.engine.now (p.apply b) l, hanswer.of_ok, ?_, ?_⟩
    · rw [updateBookmark, hstore]
      exact hstored
    · exact ⟨p.changesOnly_updated _ b l, p.changesOnly_iff _ b l, rfl, rfl, rfl⟩

/-! ### A bookmark that is changed while it is patched -/

/-- A bookmark, as it is read for a patch. -/
def plainBookmark : Bookmark := .create "x" "n" "/n" false 100

/-- An editor of a new device that has the bookmark. -/
def holding : Editor Unit := fresh.meanwhile .obliging [.change (.add plainBookmark)]

/-- The bookmark gets another name before its tags are written. They are written with the name that was read. -/
theorem patch_writes_back_what_it_read_renamed :
    let renamed : List Engine.Event := [.change (.update { plainBookmark with name := "m" })]
    let tagged : Patch := { tags := some ["t"] }
    holding.store.get "x" = some plainBookmark ∧
      (holding.meanwhile .obliging renamed).store.get "x" = some { plainBookmark with name := "m" } ∧
      ∃ stored, (holding.updateAround .obliging renamed "x" tagged).1 = .ok (some stored) ∧
        stored.name = "n" ∧ stored.tags = ["t"] ∧
        ¬ tagged.ChangesOnly { plainBookmark with name := "m" } stored := by
  intro renamed tagged
  have hread : holding.store.get "x" = some plainBookmark := rfl
  have hleft : (holding.meanwhile .obliging renamed).store.get "x"
      = some { plainBookmark with name := "m" } := rfl
  refine ⟨hread, hleft, ?_⟩
  have hanswer : (holding.updateAround .obliging renamed "x" tagged).1
      = .ok (some { plainBookmark with tags := ["t"] }) := rfl
  rcases patch_writes_back_what_it_read hread hleft tagged with
    ⟨e, herror, -⟩ | ⟨stored, hok | ⟨f, hfault⟩, -, honly, hiff, -⟩
  · rw [hanswer] at herror
    cases herror
  · refine ⟨stored, hok, honly.name, honly.tags, fun hnamed => ?_⟩
    -- the new name was not in the patch, and the record that was read has the old one
    have hname := (hiff.mp hnamed).name rfl
    revert hname
    decide
  · rw [hanswer] at hfault
    cases hfault

/-- A patch can change what it does not name: here the bookmark is deleted while its name is changed, and is
there again afterwards. -/
theorem not_patch_always_changes_only_what_it_names :
    ¬ ∀ (before : List Engine.Event) (c : Store.Change) (x : String) (p : Patch) (l stored : Bookmark),
      let ed : Editor Unit := fresh.meanwhile .obliging before
      (ed.meanwhile .obliging [.change c]).store.get x = some l →
        (ed.updateAround .obliging [.change c] x p).1 = .ok (some stored) → p.ChangesOnly l stored := by
  intro h
  have hchanged := h [.change (.add plainBookmark)] (.softDelete "x") "x" { name := some "m" }
    (plainBookmark.tombstoned 100) { plainBookmark with name := "m" } rfl rfl
  exact Bool.false_ne_true hchanged.isDeleted

end Editor

end BookmarkSync
