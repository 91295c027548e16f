import BookmarkSync.Proofs.Codec.RoundTrip
import BookmarkSync.Proofs.Sequence

/-!
# `BookmarkSync.Proofs.Codec.Texts` — the texts that are stored, and those that are shared

A store writes its collection and its metadata on one line each; the remote files and backups are written
over several lines. All of these texts are read back as what was written, but for blank notes.

Texts from elsewhere say more than what is read of them: members that no field asks for, notes that are
blank. Reading is settled after one round all the same, because no record that was read has blank notes.
That is an invariant of the reader: each field that is set keeps it, in whatever order the fields come
(`RecordFormat.read_induction`).
-/

namespace BookmarkSync

namespace Codec

/-! ## What all records of a format have in common -/

section Invariant

variable {σ ρ : Type} {P : ρ → Prop}

/-- Setting the field keeps `P`. -/
def Field.Keeps (P : ρ → Prop) (field : Field σ ρ) : Prop := ∀ v r r', field.set v r = .ok r' → P r → P r'

theorem Field.keeps_put {α : Type} {name : String} {required : Bool} {item : σ → Except ReadError α}
    {put : α → ρ → ρ} (h : ∀ a r, P r → P (put a r)) :
    (⟨name, required, fun v r => (item v).map fun a => put a r⟩ : Field σ ρ).Keeps P := by
  intro v r r' hset hr
  cases hitem : item v with
  | error e => simp [hitem, Except.map] at hset
  | ok a =>
    simp only [hitem, Except.map, Except.ok.injEq] at hset
    rw [← hset]
    exact h a r hr

namespace RecordFormat

/-- Reading items by position keeps `P`. -/
theorem readItems_induction {format : RecordFormat σ ρ} {close : Option Json.Fault} {index : Nat}
    {fields : List (Field σ ρ)} (hkeeps : ∀ field ∈ fields, field.Keeps P) {items : List σ} {r r' : ρ}
    (h : readItems format close index fields items r = .ok r') (hr : P r) : P r' := by
  -- each field is set from the next item or left at its default, so the items shrink with the fields
  induction fields generalizing index items r with
  | nil =>
    cases h
    exact hr
  | cons field fields ih =>
    have hfields : ∀ f ∈ fields, f.Keeps P := fun f hf => hkeeps f (List.mem_cons_of_mem field hf)
    cases items with
    | nil =>
      simp only [readItems, bind, Except.bind] at h
      split at h
      · cases h
      · split at h
        · cases h
        · exact ih hfields h hr
    | cons v items =>
      simp only [readItems, bind, Except.bind] at h
      split at h
      · cases h
      · next r₁ hset => exact ih hfields h (hkeeps field List.mem_cons_self v r r₁ hset hr)

variable [Source σ]

/-- Whichever members an object has, and in whichever order, reading them keeps `P`. -/
theorem readMembers_induction {fields : List (Field σ ρ)} (hkeeps : ∀ field ∈ fields, field.Keeps P)
    {members : List (Except Json.Fault String × σ)} {seen seen' : List String} {r r' : ρ}
    (h : readMembers fields members seen r = .ok (seen', r')) (hr : P r) : P r' := by
  induction members generalizing seen r with
  | nil =>
    cases h
    exact hr
  | cons member rest ih =>
    obtain ⟨key, v⟩ := member
    simp only [readMembers, bind, Except.bind] at h
    split at h
    · cases h
    · split at h
      · -- a member that no field asks for
        split at h
        · cases h
        · exact ih h hr
      · next field hfield =>
        split at h
        · cases h
        · split at h
          · cases h
          · next r₁ hset =>
            have hmem := List.mem_of_find?_eq_some hfield
            exact ih h (hkeeps field hmem v r r₁ hset hr)

/-- **A property of records that the blank one has, and that every field keeps, holds of all records that
are read.** -/
theorem read_induction {format : RecordFormat σ ρ} (hblank : P format.blank)
    (hkeeps : ∀ field ∈ format.fields, field.Keeps P) {v : σ} {r : ρ} (h : format.read v = .ok r) : P r := by
  simp only [read, bind, Except.bind] at h
  split at h
  · cases h
  · split at h
    · -- an object, by the names of its members
      split at h
      · cases h
      · next hmembers =>
        split at h
        · cases h
        · split at h
          · cases h
          · cases h
            exact readMembers_induction hkeeps hmembers hblank
    · -- a list, by position
      split at h
      · cases h
      · next hitems =>
        split at h
        · cases h
        · cases h
          exact readItems_induction hkeeps hitems hblank

end RecordFormat

end Invariant

/-! ## No blank notes -/

/-- **A bookmark that was read has no blank notes.** -/
theorem nonBlank_of_read {σ : Type} [Source σ] {v : σ} {b : Bookmark} (h : Bookmark.format.read v = .ok b) :
    Bookmark.nonBlank b.notes = b.notes := by
  let P (b : Bookmark) : Prop := Bookmark.nonBlank b.notes = b.notes
  have hkeeps : ∀ field ∈ (Bookmark.format (σ := σ)).fields, field.Keeps P := by
    simp only [Bookmark.format, List.forall_mem_cons]
    -- only the field of the notes touches them, and it takes blank ones away itself
    refine ⟨?_, ?_, ?_, ?_, ?_, ?notes, ?_, ?_, ?_, ?_, List.forall_mem_nil _⟩
    case notes => exact Field.keeps_put fun notes _ _ => Bookmark.nonBlank_nonBlank notes
    all_goals exact Field.keeps_put fun _ _ hb => hb
  exact RecordFormat.read_induction (P := P) rfl hkeeps h

theorem nonBlank_of_ofJson {v : Json.Value} {b : Bookmark} (h : Bookmark.ofJson v = .ok b) :
    Bookmark.nonBlank b.notes = b.notes := by
  cases v with
  | object members =>
    rw [Bookmark.ofJson] at h
    cases hread : Bookmark.format.read (Json.Value.object members) with
    | error e =>
      rw [hread] at h
      cases h
    | ok b' =>
      rw [hread] at h
      cases h
      exact nonBlank_of_read hread
  | _ => cases h

/-- A collection that was read is the one that its written form has. -/
theorem map_withoutBlankNotes_of_read {s : String} {bs : List Bookmark} (h : bookmarksOfText s = .ok bs) :
    bs.map Bookmark.withoutBlankNotes = bs := by
  have hnotes : ∀ b ∈ bs, Bookmark.nonBlank b.notes = b.notes := by
    simp only [bookmarksOfText, bind, Except.bind] at h
    split at h
    · cases h
    · unfold bookmarksOfJson at h
      split at h
      · intro b hb
        obtain ⟨v, -, hv⟩ := exists_of_forall₂ (mapM_eq_ok_iff.mp h) hb
        exact nonBlank_of_ofJson hv
      · cases h
  have hsame : ∀ b ∈ bs, b.withoutBlankNotes = b := by
    intro b hb
    rw [Bookmark.withoutBlankNotes_eq, hnotes b hb]
  rw [List.map_congr_left hsame, List.map_id']

/-! ## The texts of a store -/

/-- **What a store keeps as text is read back.** A collection comes back as it was but for blank notes,
whatever its texts hold and however many there are of them; metadata comes back as it was; and a collection
that was read from any text at all comes back unchanged from its own text. -/
theorem stored_texts_round_trip :
    (∀ bs : List Bookmark, bookmarksOfText (bookmarksText bs) = .ok (bs.map Bookmark.withoutBlankNotes)) ∧
    (∀ m : SyncMetadata, SyncMetadata.ofText m.text = .ok m) ∧
    (∀ (s : String) (bs : List Bookmark), bookmarksOfText s = .ok bs →
      bookmarksOfText (bookmarksText bs) = .ok bs) := by
  refine ⟨bookmarksOfText_bookmarksText, SyncMetadata.ofText_text, ?_⟩
  intro s bs h
  rw [bookmarksOfText_bookmarksText, map_withoutBlankNotes_of_read h]

/-- A bookmark with blank notes, a name that has to be escaped, and the ends of the range of times. -/
def awkward : Bookmark :=
  ⟨"", "\"\\\x01😀", "/a\tb", false, ["", "é"], some "", Int64.minValue, Int64.maxValue, true, true⟩

/-- It comes back without its notes, and unchanged from then on. -/
theorem stored_texts_round_trip_awkward :
    bookmarksOfText (bookmarksText [awkward]) = .ok [{ awkward with notes := none }] ∧
      bookmarksOfText (bookmarksText [{ awkward with notes := none }])
        = .ok [{ awkward with notes := none }] := by
  have hread : bookmarksOfText (bookmarksText [awkward]) = .ok [{ awkward with notes := none }] :=
    stored_texts_round_trip.1 [awkward]
  exact ⟨hread, stored_texts_round_trip.2.2 (bookmarksText [awkward]) [{ awkward with notes := none }] hread⟩

/-! ## The files that are shared -/

/-- **What is shared as a file is read back.** The bytes of a remote bookmarks file are read as the document
that was written, and so is the text of a backup, with or without metadata, each but for blank notes. The
bytes of a remote metadata file are read as the metadata. -/
theorem shared_files_round_trip :
    (∀ d : RemoteDocument, RemoteDocument.ofBytes (Text.Utf8.bytes d.text)
      = .ok ⟨d.bookmarks.map Bookmark.withoutBlankNotes⟩) ∧
    (∀ d : ExportDocument, ExportDocument.ofText d.text
      = .ok ⟨d.bookmarks.map Bookmark.withoutBlankNotes, d.syncMetadata⟩) ∧
    (∀ m : SyncMetadata, SyncMetadata.ofText (Text.Utf8.lossy (Text.Utf8.bytes m.prettyText)) = .ok m) := by
  refine ⟨RemoteDocument.ofBytes_text, ExportDocument.ofText_text, ?_⟩
  intro m
  rw [Text.Utf8.lossy_bytes, SyncMetadata.ofText_prettyText]

/-- Of two bookmarks in one file, the one with empty notes comes back without them, and the other one with its
notes, which look like lines of the file. -/
theorem shared_files_round_trip_awkward :
    let noted : Bookmark := { awkward with notes := some "\n    ]\n\x7d" }
    let m : SyncMetadata := ⟨Int64.minValue, "\"", 0xffffffff, Int64.maxValue⟩
    RemoteDocument.ofBytes (Text.Utf8.bytes (RemoteDocument.text ⟨[awkward, noted]⟩))
        = .ok ⟨[{ awkward with notes := none }, noted]⟩ ∧
      ExportDocument.ofText (ExportDocument.text ⟨[awkward, noted], some m⟩)
        = .ok ⟨[{ awkward with notes := none }, noted], some m⟩ ∧
      SyncMetadata.ofText (Text.Utf8.lossy (Text.Utf8.bytes m.prettyText)) = .ok m := by
  intro noted m
  exact ⟨shared_files_round_trip.1 ⟨[awkward, noted]⟩, shared_files_round_trip.2.1 ⟨[awkward, noted], some m⟩,
    shared_files_round_trip.2.2 m⟩

end Codec

end BookmarkSync
