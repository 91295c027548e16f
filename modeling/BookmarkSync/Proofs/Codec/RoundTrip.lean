import BookmarkSync.Codec.Formats
import BookmarkSync.Proofs.Json.RoundTrip
import BookmarkSync.Proofs.Text.Utf8

/-!
# `BookmarkSync.Proofs.Codec.RoundTrip` — written records are read back

A bookmark or a metadata record is written as one object, and comes back from it unchanged but for blank
notes, which are not written. The readers see an object in one of two forms: a tree shows the members in
the order of the text, and a value shows them in the order of their keys. Both forms show what the written
value says (`Faithful`), so single fields are read once for both, and only the order of a record's members
is looked at twice.
-/

namespace BookmarkSync

open BookmarkSync.Json (Value Tree Fault)

namespace Bookmark

/-- The bookmark as its written form has it: empty notes are none, and all others are as they were. -/
def withoutBlankNotes (b : Bookmark) : Bookmark :=
  { b with notes := if b.notes = some "" then none else b.notes }

/-- Notes that are not blank are those that are not empty. -/
theorem nonBlank_eq_ite (notes : Option String) : nonBlank notes = if notes = some "" then none else notes := by
  cases notes with
  | none => rfl
  | some s => by_cases hs : s = "" <;> simp [nonBlank, Option.filter, hs]

/-- What is said by cases of notes is how the codec filters them. -/
theorem withoutBlankNotes_eq (b : Bookmark) : b.withoutBlankNotes = { b with notes := nonBlank b.notes } := by
  rw [withoutBlankNotes, nonBlank_eq_ite]

/-- Notes that have been filtered stay as they are. -/
theorem nonBlank_nonBlank (notes : Option String) : nonBlank (nonBlank notes) = nonBlank notes := by
  simp [nonBlank]

end Bookmark

theorem mapError_ok {ε ε' α : Type} (f : ε → ε') (a : α) : (Except.ok a : Except ε α).mapError f = .ok a := rfl

/-! ## Members in the order of their keys -/

/-- A bookmark's members in the order of their keys. Notes are among them only if they are not blank. -/
theorem Bookmark.toJson_inOrder (b : Bookmark) :
    b.toJson.inOrder = .object
      ([("createdAt", .ofInt64 b.createdAt), ("id", .text b.id), ("isDeleted", .bool b.isDeleted),
          ("isDirectory", .bool b.isDirectory), ("modifiedAt", .ofInt64 b.modifiedAt),
          ("name", .text b.name)] ++
        ((Bookmark.nonBlank b.notes).map fun notes => ("notes", Value.text notes)).toList ++
        [("path", .text b.path), ("showInSidebar", .bool b.showInSidebar),
          ("tags", .list (b.tags.map .text))]) := by
  have htags : Value.itemsInOrder (b.tags.map .text) = b.tags.map .text := by
    rw [Value.itemsInOrder_eq_map, List.map_map]
    rfl
  -- whether there are notes decides how many members are sorted
  cases hn : Bookmark.nonBlank b.notes <;>
    simp only [Bookmark.toJson, hn, Value.inOrder, Value.ofInt64, Value.membersInOrder, Value.sorted,
      Value.setMember, htags, Option.map, Option.toList, List.cons_append, List.nil_append, List.foldl_cons,
      List.foldl_nil, String.reduceLT, String.reduceEq, if_true, if_false]

/-- The members of metadata in the order of their keys. -/
theorem SyncMetadata.toJson_inOrder (m : SyncMetadata) :
    m.toJson.inOrder = .object
      [("deviceId", .text m.deviceId), ("lastModifiedTime", .ofInt64 m.lastModifiedTime),
        ("lastSyncTime", .ofInt64 m.lastSyncTime), ("version", .number (.integer m.version.toNat))] := by
  simp only [SyncMetadata.toJson, Value.inOrder, Value.ofInt64, Value.membersInOrder, Value.sorted,
    Value.setMember, List.foldl_cons, List.foldl_nil, String.reduceLT, String.reduceEq, if_true, if_false]

namespace Codec

/-! ## Sources that show a value as it is -/

/-- A view of values as a source: whatever is read from the view of a value is what the value says. -/
structure Faithful {σ : Type} [Source σ] (view : Value → σ) : Prop where
  isNull : ∀ v, v ≠ .null → Source.isNull (view v) = false
  text : ∀ s, Source.text (view (.text s)) = .ok s
  flag : ∀ b, Source.flag (view (.bool b)) = .ok b
  integer : ∀ wanted n, Source.integer wanted (view (.number (.integer n))) = .ok n
  list : ∀ vs, Source.list (view (.list vs)) = .ok (vs.map view, none)
  record : ∀ name ms, Source.record name (view (.object ms))
    = .ok (.named (ms.map fun m => (.ok m.1, view m.2)) none)

/-- A value shows itself. -/
theorem faithful_value : Faithful (id : Value → Value) where
  isNull v hv := by cases v <;> first | exact absurd rfl hv | rfl
  text _ := rfl
  flag _ := rfl
  integer _ _ := rfl
  list vs := by rw [List.map_id]; rfl
  record _ _ := rfl

/-- The tree of a value shows the value, with its members as they were written. -/
theorem faithful_tree : Faithful Value.tree where
  isNull v hv := by cases v <;> first | exact absurd rfl hv | rfl
  text _ := rfl
  flag _ := rfl
  integer _ _ := rfl
  list vs := by rw [Value.tree, Value.trees_eq_map]; rfl
  record name ms := by
    rw [Value.tree, Value.memberTrees_eq_map]
    simp only [Source.record, List.map_map]
    rfl

/-! ## Fields -/

section Fields

variable {σ : Type} [Source σ] {view : Value → σ} (hf : Faithful view) {α β : Type}
include hf

theorem text_view (s : String) : Codec.text (view (.text s)) = .ok s := hf.text s

theorem flag_view (b : Bool) : Codec.flag (view (.bool b)) = .ok b := hf.flag b

/-- Every integer of 64 bits is in the range that is checked. -/
theorem int64_view (n : Int64) : int64 (view (.ofInt64 n)) = .ok n := by
  have hlow : Int64.minValue.toInt ≤ n.toInt := n.minValue_le_toInt
  have hhigh : n.toInt ≤ Int64.maxValue.toInt := n.toInt_le
  simp only [int64, Value.ofInt64, hf.integer, bind, Except.bind, decide_eq_true hlow, decide_eq_true hhigh,
    Bool.and_self, if_true, Int64.ofInt_toInt]
  rfl

theorem nat32_view (n : UInt32) : nat32 (view (.number (.integer n.toNat))) = .ok n := by
  have hlow : (0 : Int) ≤ n.toNat := Int.natCast_nonneg _
  have hhigh : (n.toNat : Int) < 0x100000000 := by
    have := n.toNat_lt
    omega
  simp only [nat32, hf.integer, bind, Except.bind, decide_eq_true hlow, decide_eq_true hhigh, Bool.and_self,
    if_true, Int.toNat_natCast, UInt32.ofNat_toNat]
  rfl

/-- A value that is not null is read as it would be if null were not allowed; the same holds where null stands
for a default. -/
theorem nullable_view {item : σ → Except ReadError α} {v : Value} {a : α} (hv : v ≠ .null)
    (h : item (view v) = .ok a) : nullable item (view v) = .ok (some a) := by
  rw [nullable, hf.isNull v hv, if_neg (by decide), h]
  rfl

theorem orDefault_view [Inhabited α] {item : σ → Except ReadError α} {v : Value} {a : α} (hv : v ≠ .null)
    (h : item (view v) = .ok a) : orDefault item (view v) = .ok a := by
  rw [orDefault, nullable_view hf hv h]
  rfl

/-- The items of a list are read one after the other. -/
theorem listOf_list (item : σ → Except ReadError β) (vs : List Value) :
    listOf item (view (.list vs)) = (vs.map view).mapM item := by
  simp only [listOf, hf.list, bind, Except.bind]
  cases (vs.map view).mapM item <;> rfl

/-- A list is read back if each of its items is. -/
theorem listOf_view {item : σ → Except ReadError β} {write : α → Value} {f : α → β} (as : List α)
    (h : ∀ a, item (view (write a)) = .ok (f a)) :
    listOf item (view (.list (as.map write))) = .ok (as.map f) := by
  rw [listOf_list hf, List.map_map]
  -- the reader goes through the items as `mapM` does
  induction as with
  | nil => rfl
  | cons a as ih =>
    rw [List.map_cons, List.mapM_cons, ih]
    simp only [Function.comp, h, bind, Except.bind]
    rfl

/-- Tags are always written as a list, so it does not matter that they may be null. -/
theorem tags_view (tags : List String) :
    orDefault (listOf Codec.text) (view (.list (tags.map .text))) = .ok tags := by
  have hlist := listOf_view hf tags (text_view hf)
  rw [List.map_id'] at hlist
  exact orDefault_view hf (by simp) hlist

theorem notes_view (s : String) : nullable Codec.text (view (.text s)) = .ok (some s) :=
  nullable_view hf (by simp) (text_view hf s)

theorem shown_view (b : Bool) : orDefault Codec.flag (view (.bool b)) = .ok b :=
  orDefault_view hf (by simp) (flag_view hf b)

end Fields

/-! ## Records

A record is read member by member. Which fields its members name is known, so the readers are followed
through them; what the members hold is read by the lemmas on fields. -/

section Records

attribute [local simp] RecordFormat.read RecordFormat.readMembers RecordFormat.missing? Field.needed
  Field.optional
  Source.read Fault.check mapError_ok Except.map Except.bind Except.pure

variable {σ : Type} [Source σ] {view : Value → σ} (hf : Faithful view)
include hf

/-- **A bookmark is read from its written form**, whether its members stand in the order of writing or in
the order of their keys. -/
theorem read_bookmark (b : Bookmark) {v : Value} (hv : v = b.toJson ∨ v = b.toJson.inOrder) :
    Bookmark.format.read (view v) = .ok b.withoutBlankNotes := by
  rw [Bookmark.toJson_inOrder] at hv
  -- blank notes are no member at all, so the reader meets one member fewer
  have hblank := Bookmark.nonBlank_nonBlank b.notes
  rw [Bookmark.withoutBlankNotes_eq]
  cases hn : Bookmark.nonBlank b.notes with
  | none =>
    rcases hv with rfl | rfl <;>
      simp [Bookmark.toJson, Bookmark.format, hn, hf.record, bind, pure, int64_view hf, text_view hf,
        flag_view hf, tags_view hf, shown_view hf]
  | some notes =>
    rw [hn] at hblank
    rcases hv with rfl | rfl <;>
      simp [Bookmark.toJson, Bookmark.format, hn, hblank, hf.record, bind, pure, int64_view hf, text_view hf,
        flag_view hf, tags_view hf, notes_view hf, shown_view hf]

/-- A collection is read from its written form. -/
theorem read_bookmarkList (bs : List Bookmark) :
    bookmarkList (view (bookmarksToJson bs)) = .ok (bs.map Bookmark.withoutBlankNotes) :=
  listOf_view hf bs fun b => read_bookmark hf b (.inl rfl)

/-- **A metadata record is read from its written form**, in either order of its members. -/
theorem read_metadata (m : SyncMetadata) {v : Value} (hv : v = m.toJson ∨ v = m.toJson.inOrder) :
    SyncMetadata.format.read (view v) = .ok m := by
  rw [SyncMetadata.toJson_inOrder] at hv
  rcases hv with rfl | rfl <;>
    simp [SyncMetadata.toJson, SyncMetadata.format, hf.record, bind, pure, int64_view hf, text_view hf,
      nat32_view hf]

/-- The remote bookmarks file is read from its written form, and a backup likewise. -/
theorem read_remoteDocument (d : RemoteDocument) :
    RemoteDocument.format.read (view d.toJson) = .ok ⟨d.bookmarks.map Bookmark.withoutBlankNotes⟩ := by
  simp [RemoteDocument.toJson, RemoteDocument.format, hf.record, bind, pure, read_bookmarkList hf]

theorem read_exportDocument (d : ExportDocument) :
    ExportDocument.format.read (view d.toJson)
      = .ok ⟨d.bookmarks.map Bookmark.withoutBlankNotes, d.syncMetadata⟩ := by
  -- metadata that is not there is no member of the document
  cases hm : d.syncMetadata with
  | none =>
    simp [ExportDocument.toJson, ExportDocument.format, hm, hf.record, bind, pure, read_bookmarkList hf]
  | some m =>
    have hmetadata : nullable SyncMetadata.format.read (view m.toJson) = .ok (some m) :=
      nullable_view hf (by simp [SyncMetadata.toJson]) (read_metadata hf m (.inl rfl))
    simp [ExportDocument.toJson, ExportDocument.format, hm, hf.record, bind, pure,
      read_bookmarkList hf, hmetadata]

end Records

/-! ## What is written can be carried by a text -/

/-- Integers of 64 bits are small enough to be written with all their digits. -/
theorem isWord_toInt (n : Int64) : (Json.Number.integer n.toInt).IsWord := by
  have hlow : Int64.minValue.toInt ≤ n.toInt := n.minValue_le_toInt
  have hhigh : n.toInt ≤ Int64.maxValue.toInt := n.toInt_le
  have hmin : Int64.minValue.toInt = -0x8000000000000000 := by decide
  have hmax : Int64.maxValue.toInt < 0x10000000000000000 := by decide
  exact ⟨hmin ▸ hlow, Int.lt_of_le_of_lt hhigh hmax⟩

theorem plain_ofInt64 (n : Int64) (d : Nat) : (Value.ofInt64 n).Plain d := .number (isWord_toInt n)

theorem plain_nat32 (n : UInt32) (d : Nat) : (Value.number (.integer n.toNat)).Plain d := by
  have hlt := n.toNat_lt
  exact .number ⟨by omega, by omega⟩

/-- A bookmark is nested two deep: it is an object, and its tags are a list. -/
theorem plain_bookmark (b : Bookmark) (d : Nat) : b.toJson.Plain (d + 2) := by
  have htags : (Value.list (b.tags.map .text)).Plain (d + 1) := by
    refine .list fun v hv => ?_
    obtain ⟨s, -, rfl⟩ := List.mem_map.mp hv
    exact .text s
  refine .object ?_
  cases hn : Bookmark.nonBlank b.notes <;>
    simp [plain_ofInt64, htags, Value.Plain.text, Value.Plain.bool]

/-- Metadata is an object of texts and numbers. -/
theorem plain_metadata (m : SyncMetadata) (d : Nat) : m.toJson.Plain (d + 1) := by
  refine .object ?_
  simp [plain_ofInt64, plain_nat32, Value.Plain.text]

/-- A collection is one level deeper than its bookmarks. -/
theorem plain_bookmarks (bs : List Bookmark) (d : Nat) : (bookmarksToJson bs).Plain (d + 3) := by
  refine .list fun v hv => ?_
  obtain ⟨b, -, rfl⟩ := List.mem_map.mp hv
  exact plain_bookmark b d

/-! ## Texts -/

/-- A record that is read from the tree of a value is read from the value's text over several lines. -/
theorem readText_toPretty {ρ : Type} {format : RecordFormat Tree ρ} {d : Nat} {v : Value} {r : ρ}
    (h : v.Plain d)
    (hread : format.read v.tree = .ok r) : readText format (Text.Symbol.ofChars v.toPretty.toList) = .ok r := by
  -- indentation is white space, so it leaves no tokens
  have htokens : Json.Token.all (Text.Symbol.ofChars v.toPretty.toList) = v.tokens := by
    rw [Value.toPretty, String.toList_ofList, (Json.spells_pretty h 0).all_eq]
  simp only [readText, htokens, Tree.ofTokens_tokens v, hread, bind, Except.bind, Bool.false_eq_true,
    if_false, pure, Except.pure]

/-- The reader of single bookmarks reads one from its value. -/
theorem ofJson_inOrder (b : Bookmark) : Bookmark.ofJson b.toJson.inOrder = .ok b.withoutBlankNotes := by
  have hread : Bookmark.format.read b.toJson.inOrder = .ok b.withoutBlankNotes :=
    read_bookmark faithful_value b (.inr rfl)
  -- the reader of single records asks for an object first
  rw [Bookmark.toJson_inOrder] at hread ⊢
  simp only [Bookmark.ofJson, hread, mapError_ok]

/-- The reader of collections reads one from its value, bookmark by bookmark. -/
theorem bookmarksOfJson_inOrder (bs : List Bookmark) :
    bookmarksOfJson (bookmarksToJson bs).inOrder = .ok (bs.map Bookmark.withoutBlankNotes) := by
  rw [bookmarksToJson, Value.inOrder, Value.itemsInOrder_eq_map, List.map_map, bookmarksOfJson]
  induction bs with
  | nil => rfl
  | cons b bs ih =>
    rw [List.map_cons, List.mapM_cons, ih]
    simp only [Function.comp, ofJson_inOrder, bind, Except.bind]
    rfl

/-- **The text that a store keeps for a collection is read back**, without blank notes. -/
theorem bookmarksOfText_bookmarksText (bs : List Bookmark) :
    bookmarksOfText (bookmarksText bs) = .ok (bs.map Bookmark.withoutBlankNotes) := by
  -- three levels of a collection are far below the depth that a parser allows
  have hparse := Value.parse_toCompact (plain_bookmarks bs 124)
  simp only [bookmarksOfText, bookmarksText, valueOfText, hparse, mapError_ok, bind, Except.bind,
    bookmarksOfJson_inOrder]

end Codec

namespace SyncMetadata

open Codec

/-- The reader of metadata reads it from its value. -/
theorem ofJson_inOrder (m : SyncMetadata) : ofJson m.toJson.inOrder = .ok m := by
  have hread : SyncMetadata.format.read m.toJson.inOrder = .ok m :=
    read_metadata faithful_value m (.inr rfl)
  simp only [ofJson, hread, mapError_ok]

/-- **The text that a store keeps for its metadata is read back.** -/
theorem ofText_text (m : SyncMetadata) : ofText m.text = .ok m := by
  have hparse := Value.parse_toCompact (plain_metadata m 126)
  simp only [ofText, text, valueOfText, hparse, mapError_ok, bind, Except.bind, ofJson_inOrder]

/-- Metadata is read back from its text over several lines, too, by the same reader. -/
theorem ofText_prettyText (m : SyncMetadata) : ofText m.prettyText = .ok m := by
  have hparse := Value.parse_toPretty (plain_metadata m 126)
  simp only [ofText, prettyText, valueOfText, hparse, mapError_ok, bind, Except.bind, ofJson_inOrder]

end SyncMetadata

namespace RemoteDocument

open Codec

/-- **The remote bookmarks file is read back** from the bytes of its text. -/
theorem ofBytes_text (d : RemoteDocument) :
    ofBytes (Text.Utf8.bytes d.text) = .ok ⟨d.bookmarks.map Bookmark.withoutBlankNotes⟩ := by
  have hplain : d.toJson.Plain 4 := by
    refine .object ?_
    simpa using plain_bookmarks d.bookmarks 0
  have hread := readText_toPretty hplain (read_remoteDocument faithful_tree d)
  rw [ofBytes, text, Text.Utf8.read_bytes, hread, mapError_ok]

end RemoteDocument

namespace ExportDocument

open Codec

/-- **A backup is read back**, with or without metadata in it. -/
theorem ofText_text (d : ExportDocument) :
    ofText d.text = .ok ⟨d.bookmarks.map Bookmark.withoutBlankNotes, d.syncMetadata⟩ := by
  have hplain : d.toJson.Plain 4 := by
    refine .object ?_
    have hbookmarks := plain_bookmarks d.bookmarks 0
    cases d.syncMetadata with
    | none => simpa using hbookmarks
    | some m => simpa using ⟨hbookmarks, plain_metadata m 2⟩
  have hread := readText_toPretty hplain (read_exportDocument faithful_tree d)
  rw [ofText, text, hread, mapError_ok]

end ExportDocument

end BookmarkSync
