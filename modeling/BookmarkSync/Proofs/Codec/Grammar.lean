import BookmarkSync.Proofs.Codec.Members

/-!
# `BookmarkSync.Proofs.Codec.Grammar` — which values are records

A bookmark is described by its members (`Bookmark.IsGivenBy`), and so is metadata; the readers of records
accept what is so described and nothing else. A bookmark that is refused is refused for the member that comes
first in the order of keys among those that are wrong (`Bookmark.memberFault?`), and if none is wrong, for the
first field that is missing.
-/

namespace BookmarkSync

open BookmarkSync.Json (Value Numeral)
open Codec

namespace Codec

/-! ## What single values are read as -/

section Values

variable {v : Value}

/-- Of all values only a text is read as a text, and as itself; so it is with booleans. -/
theorem text_eq_ok_iff {s : String} : Codec.text v = .ok s ↔ v = .text s := by
  cases v <;> simp [Codec.text, Source.text]

theorem flag_eq_ok_iff {b : Bool} : flag v = .ok b ↔ v = .bool b := by
  cases v <;> simp [flag, Source.flag]

/-- What is read as an integer of 64 bits is a number without a point that lies in its range. -/
theorem int64_eq_ok_iff {n : Int64} : int64 v = .ok n ↔ v = .ofInt64 n := by
  constructor
  · intro h
    -- only an integer without a point gets as far as the check of its range
    cases v with
    | number x =>
      cases x with
      | integer m =>
        simp only [int64, Source.integer, integerOf, bind, Except.bind] at h
        split at h
        · next hrange =>
          cases h
          simp only [Bool.and_eq_true, decide_eq_true_eq] at hrange
          have hmin : Int64.minValue.toInt = -2 ^ 63 := by decide
          have hmax : Int64.maxValue.toInt < 2 ^ 63 := by decide
          rw [Value.ofInt64, Int64.toInt_ofInt_of_le (hmin ▸ hrange.1) (Int.lt_of_le_of_lt hrange.2 hmax)]
        · cases h
      | float f => cases h
    | _ => cases h
  · rintro rfl
    exact int64_view faithful_value n

/-- The same for natural numbers of 32 bits. -/
theorem nat32_eq_ok_iff {n : UInt32} : nat32 v = .ok n ↔ v = .number (.integer n.toNat) := by
  constructor
  · intro h
    cases v with
    | number x =>
      cases x with
      | integer m =>
        -- only an integer gets as far as the range check
        simp only [nat32, Source.integer, integerOf, bind, Except.bind] at h
        split at h
        · next hrange =>
          cases h
          simp only [Bool.and_eq_true, decide_eq_true_eq] at hrange
          have hsize : m.toNat < 2 ^ 32 := by omega
          rw [UInt32.toNat_ofNat', Nat.mod_eq_of_lt hsize, Int.toNat_of_nonneg hrange.1]
        · cases h
      | float f => cases h
    | _ => cases h
  · rintro rfl
    exact nat32_view faithful_value n

/-- Lists that match item by item match by any relation that is the same on their items. -/
theorem forall₂_congr_of_mem {α β : Type} {R S : α → β → Prop} {as : List α} {bs : List β}
    (h : ∀ a ∈ as, ∀ b, R a b ↔ S a b) : List.Forall₂ R as bs ↔ List.Forall₂ S as bs := by
  induction as generalizing bs with
  | nil => rw [List.forall₂_nil_left_iff, List.forall₂_nil_left_iff]
  | cons a as ih =>
    rw [List.forall_mem_cons] at h
    simp only [List.forall₂_cons_left_iff, h.1, ih h.2]

/-- The value of a list shows its items as they are. -/
theorem listOf_value {α : Type} (item : Value → Except ReadError α) (vs : List Value) :
    listOf item (.list vs) = vs.mapM item := by
  have hread := listOf_list faithful_value item vs
  rwa [List.map_id] at hread

/-- A list is read if each of its items is, and as what they are read as. -/
theorem listOf_eq_ok_iff {α : Type} {item : Value → Except ReadError α} {as : List α} :
    listOf item v = .ok as ↔ ∃ vs, v = .list vs ∧ List.Forall₂ (fun v a => item v = .ok a) vs as := by
  cases v with
  | list vs =>
    rw [listOf_value, mapM_eq_ok_iff]
    simp
  | _ => simp [listOf, Source.list, bind, Except.bind]

/-- A list of texts is read as these texts. -/
theorem texts_eq_ok_iff {ts : List String} : listOf Codec.text v = .ok ts ↔ v = .list (ts.map .text) := by
  have hitems : ∀ vs : List Value, List.Forall₂ (fun v t => Codec.text v = .ok t) vs ts ↔
      vs = ts.map .text := by
    intro vs
    simp only [text_eq_ok_iff]
    rw [← List.forall₂_map_right_iff (f := Value.text), List.forall₂_eq_eq_eq]
  simp only [listOf_eq_ok_iff, hitems, exists_eq_right]

/-- Of all values only null counts as null. -/
theorem isNull_eq_false (h : v ≠ .null) : Source.isNull v = false := faithful_value.isNull v h

/-- Where null is allowed, it is read as nothing, and every other value as it would be anyway. -/
theorem nullable_eq_ok_iff {α : Type} {item : Value → Except ReadError α} {o : Option α} :
    nullable item v = .ok o ↔ v = .null ∧ o = none ∨ v ≠ .null ∧ ∃ a, item v = .ok a ∧ o = some a := by
  by_cases hv : v = .null
  · subst hv
    show Except.ok none = Except.ok o ↔ _
    simp [eq_comm]
  · rw [nullable, isNull_eq_false hv]
    cases item v with
    | error e => simp [hv, Except.map]
    | ok a => simp [hv, Except.map, eq_comm]

/-- Where null stands for the default, every other value is read as it would be anyway. -/
theorem orDefault_eq_ok_iff {α : Type} [Inhabited α] {item : Value → Except ReadError α} {a : α} :
    orDefault item v = .ok a ↔ v = .null ∧ a = default ∨ v ≠ .null ∧ item v = .ok a := by
  by_cases hv : v = .null
  · subst hv
    show Except.ok default = Except.ok a ↔ _
    simp [eq_comm]
  · rw [orDefault, nullable, isNull_eq_false hv]
    cases item v with
    | error e => simp [hv, Except.map]
    | ok a => simp [hv, Except.map]

end Values

/-! ## What records are read from -/

/-- An object shows its members in its own order, and all of their keys can be read. -/
theorem record_object (name : String) (ms : List (String × Value)) :
    Source.record name (Value.object ms) = .ok (.named (named ms) none) := rfl

/-- A list is read by position, and must not be longer than the record. -/
theorem read_list_eq_ok_iff {ρ : Type} {format : RecordFormat Value ρ} {vs : List Value} {r : ρ} :
    format.read (.list vs) = .ok r ↔
      format.readItems none 0 format.fields vs format.blank = .ok r ∧ vs.length ≤ format.fields.length := by
  simp only [RecordFormat.read, Source.record, Source.leave, bind, Except.bind]
  cases format.readItems none 0 format.fields vs format.blank with
  | error e => simp
  | ok r' => by_cases hlength : vs.length ≤ format.fields.length <;> simp [hlength, pure, Except.pure]

/-! ## What members give -/

/-- The member is absent, or null. -/
def IsAbsent (o : Option Value) : Prop := o = none ∨ o = some .null

section Members

variable {o : Option Value}

/-- A required member of each type is there with a value of that type. What is read is what the value says, so a
record that has been read says which members it was read from. -/
theorem given_text_iff {s : String} : (∃ v, o = some v ∧ Codec.text v = .ok s) ↔ o = some (.text s) := by
  simp only [text_eq_ok_iff, exists_eq_right]

theorem given_flag_iff {b : Bool} : (∃ v, o = some v ∧ flag v = .ok b) ↔ o = some (.bool b) := by
  simp only [flag_eq_ok_iff, exists_eq_right]

theorem given_int64_iff {n : Int64} : (∃ v, o = some v ∧ int64 v = .ok n) ↔ o = some (.ofInt64 n) := by
  simp only [int64_eq_ok_iff, exists_eq_right]

theorem given_nat32_iff {n : UInt32} :
    (∃ v, o = some v ∧ nat32 v = .ok n) ↔ o = some (.number (.integer n.toNat)) := by
  simp only [nat32_eq_ok_iff, exists_eq_right]

/-- A member that may be absent or null, and has its default then. -/
theorem given_orDefault_iff {α : Type} [Inhabited α] {item : Value → Except ReadError α} {a : α} {w : Value}
    (h : ∀ v, item v = .ok a ↔ v = w) (hw : w ≠ .null) :
    (o = none ∧ a = default ∨ ∃ v, o = some v ∧ orDefault item v = .ok a) ↔
      IsAbsent o ∧ a = default ∨ o = some w := by
  simp only [orDefault_eq_ok_iff, h, IsAbsent]
  constructor
  · -- absent, null, or there
    rintro (⟨hnone, ha⟩ | ⟨v, hv, ⟨rfl, ha⟩ | ⟨-, rfl⟩⟩)
    · exact .inl ⟨.inl hnone, ha⟩
    · exact .inl ⟨.inr hv, ha⟩
    · exact .inr hv
  · rintro (⟨hnone | hnull, ha⟩ | hsome)
    · exact .inl ⟨hnone, ha⟩
    · exact .inr ⟨.null, hnull, .inl ⟨rfl, ha⟩⟩
    · exact .inr ⟨w, hsome, .inr ⟨hw, rfl⟩⟩

/-- Tags, which may be absent or null, and are none then. -/
theorem given_tags_iff {tags : List String} :
    (o = none ∧ tags = [] ∨ ∃ v, o = some v ∧ orDefault (listOf Codec.text) v = .ok tags) ↔
      IsAbsent o ∧ tags = [] ∨ o = some (.list (tags.map .text)) :=
  given_orDefault_iff (fun _ => texts_eq_ok_iff) nofun

/-- A flag that may be absent or null, and is down then. -/
theorem given_shown_iff {b : Bool} :
    (o = none ∧ b = false ∨ ∃ v, o = some v ∧ orDefault flag v = .ok b) ↔
      IsAbsent o ∧ b = false ∨ o = some (.bool b) :=
  given_orDefault_iff (fun _ => flag_eq_ok_iff) nofun

/-- A text that may be absent or null. -/
theorem given_nullable_iff {notes : Option String} :
    (o = none ∧ notes = none ∨ ∃ v, o = some v ∧ nullable Codec.text v = .ok notes) ↔
      IsAbsent o ∧ notes = none ∨ ∃ s, o = some (.text s) ∧ notes = some s := by
  simp only [nullable_eq_ok_iff, text_eq_ok_iff, IsAbsent]
  constructor
  · rintro (⟨hnone, ha⟩ | ⟨v, hv, ⟨rfl, ha⟩ | ⟨-, s, rfl, ha⟩⟩)
    · exact .inl ⟨.inl hnone, ha⟩
    · exact .inl ⟨.inr hv, ha⟩
    · exact .inr ⟨s, hv, ha⟩
  · rintro (⟨hnone | hnull, ha⟩ | ⟨s, hs, ha⟩)
    · exact .inl ⟨hnone, ha⟩
    · exact .inr ⟨.null, hnull, .inl ⟨rfl, ha⟩⟩
    · exact .inr ⟨.text s, hs, .inr ⟨nofun, s, rfl, ha⟩⟩

/-- Notes that may be absent or null, and that do not count if they are empty. -/
theorem nonBlank_given_iff {notes : Option String} :
    (∃ read, (IsAbsent o ∧ read = none ∨ ∃ s, o = some (.text s) ∧ read = some s) ∧
      notes = Bookmark.nonBlank read) ↔
      IsAbsent o ∧ notes = none ∨ ∃ s, o = some (.text s) ∧ notes = if s = "" then none else some s := by
  have hblank : ∀ s : String, Bookmark.nonBlank (some s) = if s = "" then none else some s := by
    intro s
    rw [Bookmark.nonBlank_eq_ite]
    by_cases hs : s = "" <;> simp [hs]
  constructor
  · rintro ⟨read, ⟨habsent, rfl⟩ | ⟨s, hs, rfl⟩, rfl⟩
    · exact .inl ⟨habsent, rfl⟩
    · exact .inr ⟨s, hs, hblank s⟩
  · rintro (⟨habsent, rfl⟩ | ⟨s, hs, rfl⟩)
    · exact ⟨none, .inl ⟨habsent, rfl⟩, rfl⟩
    · exact ⟨some s, .inr ⟨s, hs, rfl⟩, (hblank s).symm⟩

end Members

end Codec

/-! ## Bookmarks -/

namespace Bookmark

/-- The members of an object describe the bookmark. What is required stands there as it is; tags and flags that
are absent or null have their defaults, and so have notes, also if they are empty. -/
structure IsGivenBy (get : String → Option Value) (b : Bookmark) : Prop where
  id : get "id" = some (.text b.id)
  name : get "name" = some (.text b.name)
  path : get "path" = some (.text b.path)
  isDirectory : get "isDirectory" = some (.bool b.isDirectory)
  tags : IsAbsent (get "tags") ∧ b.tags = [] ∨ get "tags" = some (.list (b.tags.map .text))
  notes : IsAbsent (get "notes") ∧ b.notes = none ∨
    ∃ s, get "notes" = some (.text s) ∧ b.notes = if s = "" then none else some s
  createdAt : get "createdAt" = some (.ofInt64 b.createdAt)
  modifiedAt : get "modifiedAt" = some (.ofInt64 b.modifiedAt)
  showInSidebar : IsAbsent (get "showInSidebar") ∧ b.showInSidebar = false ∨
    get "showInSidebar" = some (.bool b.showInSidebar)
  isDeleted : IsAbsent (get "isDeleted") ∧ b.isDeleted = false ∨ get "isDeleted" = some (.bool b.isDeleted)

/-- No two fields of a bookmark have the same name, and they are kept in different places. -/
theorem independent_fields {σ : Type} [Source σ] : Independent (format (σ := σ)).fields where
  names := by
    show List.Nodup ["id", "name", "path", "isDirectory", "tags", "notes", "createdAt", "modifiedAt",
      "showInSidebar", "isDeleted"]
    decide
  commute := by
    simp only [format, List.pairwise_cons, List.forall_mem_cons, List.not_mem_nil, false_implies, implies_true,
      List.Pairwise.nil, and_true]
    -- no two of the fields are kept in the same place
    repeat' apply And.intro
    all_goals exact Field.commutes_put fun _ _ _ => rfl

/-- Looking up the fields of a bookmark one by one finds exactly the bookmarks that the members describe. -/
theorem readGiven_iff {get : String → Option Value} {b : Bookmark} :
    readGiven get (format (σ := Value)).fields (format (σ := Value)).blank = .ok b ↔ b.IsGivenBy get := by
  constructor
  · intro h
    -- field by field, in the order of declaration
    obtain ⟨id, hid, h⟩ := readGiven_needed.mp h
    obtain ⟨name, hname, h⟩ := readGiven_needed.mp h
    obtain ⟨path, hpath, h⟩ := readGiven_needed.mp h
    obtain ⟨isDirectory, hisDirectory, h⟩ := readGiven_needed.mp h
    obtain ⟨tags, htags, h⟩ := (readGiven_optional (d := []) rfl).mp h
    obtain ⟨notes, hnotes, h⟩ := (readGiven_optional (d := none) rfl).mp h
    obtain ⟨createdAt, hcreatedAt, h⟩ := readGiven_needed.mp h
    obtain ⟨modifiedAt, hmodifiedAt, h⟩ := readGiven_needed.mp h
    obtain ⟨showInSidebar, hshowInSidebar, h⟩ := (readGiven_optional (d := false) rfl).mp h
    obtain ⟨isDeleted, hisDeleted, h⟩ := (readGiven_optional (d := false) rfl).mp h
    cases h
    exact
      { id := given_text_iff.mp hid
        name := given_text_iff.mp hname
        path := given_text_iff.mp hpath
        isDirectory := given_flag_iff.mp hisDirectory
        tags := given_tags_iff.mp htags
        notes := nonBlank_given_iff.mp ⟨notes, given_nullable_iff.mp hnotes, rfl⟩
        createdAt := given_int64_iff.mp hcreatedAt
        modifiedAt := given_int64_iff.mp hmodifiedAt
        showInSidebar := given_shown_iff.mp hshowInSidebar
        isDeleted := given_shown_iff.mp hisDeleted }
  · intro h
    -- the notes that were read may be empty, though those of the bookmark are not
    obtain ⟨notes, hnotes, hblank⟩ := nonBlank_given_iff.mpr h.notes
    refine readGiven_needed.mpr ⟨b.id, given_text_iff.mpr h.id, ?_⟩
    refine readGiven_needed.mpr ⟨b.name, given_text_iff.mpr h.name, ?_⟩
    refine readGiven_needed.mpr ⟨b.path, given_text_iff.mpr h.path, ?_⟩
    refine readGiven_needed.mpr ⟨b.isDirectory, given_flag_iff.mpr h.isDirectory, ?_⟩
    refine (readGiven_optional (d := []) rfl).mpr ⟨b.tags, given_tags_iff.mpr h.tags, ?_⟩
    refine (readGiven_optional (d := none) rfl).mpr ⟨notes, given_nullable_iff.mpr hnotes, ?_⟩
    refine readGiven_needed.mpr ⟨b.createdAt, given_int64_iff.mpr h.createdAt, ?_⟩
    refine readGiven_needed.mpr ⟨b.modifiedAt, given_int64_iff.mpr h.modifiedAt, ?_⟩
    refine (readGiven_optional (d := false) rfl).mpr ⟨b.showInSidebar, given_shown_iff.mpr h.showInSidebar, ?_⟩
    refine (readGiven_optional (d := false) rfl).mpr ⟨b.isDeleted, given_shown_iff.mpr h.isDeleted, ?_⟩
    show Except.ok ({ b with notes := nonBlank notes } : Bookmark) = .ok b
    rw [← hblank]

end Bookmark

/-! ## What is wrong with single members -/

namespace Codec

/-- What is wrong with a value that should be a text. -/
def textFault? : Value → Option ReadError
  | .text _ => none
  | v => some (.wrongType (Source.foundValue v) .text)

/-- What is wrong with a value that should be a boolean. -/
def flagFault? : Value → Option ReadError
  | .bool _ => none
  | v => some (.wrongType (Source.foundValue v) .flag)

/-- What is wrong with a value that should be an integer of 64 bits: its type, or its range. -/
def int64Fault? : Value → Option ReadError
  | .number (.integer n) =>
    if Int64.minValue.toInt ≤ n ∧ n ≤ Int64.maxValue.toInt then none else some (.outOfRange n .int64)
  | v => some (.wrongType (Source.foundValue v) .int64)

/-- What is wrong with a value that should be a list of texts: its type, or that of its first item that is no
text. -/
def textsFault? : Value → Option ReadError
  | .list vs => vs.findSome? textFault?
  | v => some (.wrongType (Source.foundValue v) .list)

/-- Null is not wrong. -/
def unlessNull (fault? : Value → Option ReadError) : Value → Option ReadError
  | .null => none
  | v => fault? v

section Faults

variable (v : Value)

theorem faultOf_text : faultOf (Codec.text v) = textFault? v := by cases v <;> rfl

theorem faultOf_flag : faultOf (flag v) = flagFault? v := by cases v <;> rfl

/-- A number that is no integer has the wrong type, and one that is too large is out of range. -/
theorem faultOf_int64 : faultOf (int64 v) = int64Fault? v := by
  cases v with
  | number x =>
    cases x with
    | integer n =>
      simp only [int64, Source.integer, integerOf, bind, Except.bind, int64Fault?]
      simp only [Bool.and_eq_true, decide_eq_true_eq]
      by_cases hrange : Int64.minValue.toInt ≤ n ∧ n ≤ Int64.maxValue.toInt
      · rw [if_pos hrange, if_pos hrange]
        rfl
      · rw [if_neg hrange, if_neg hrange]
        rfl
    | float f => rfl
  | _ => rfl

/-- Reading one item after the other fails with the first fault. -/
theorem faultOf_mapM {α β : Type} (f : α → Except ReadError β) (as : List α) :
    faultOf (as.mapM f) = as.findSome? fun a => faultOf (f a) := by
  induction as with
  | nil => rfl
  | cons a as ih =>
    rw [List.mapM_cons, List.findSome?_cons, ← ih]
    -- the first fault ends the reading, whatever comes after it
    cases f a with
    | error e => rfl
    | ok b => cases as.mapM f <;> rfl

/-- A list of texts is refused for its type, or else for its first item that is no text. -/
theorem faultOf_texts : faultOf (listOf Codec.text v) = textsFault? v := by
  cases v with
  | list vs =>
    have hitems := faultOf_mapM Codec.text vs
    simp only [faultOf_text] at hitems
    rw [textsFault?, listOf_value, hitems]
  | _ => rfl

/-- Where null is allowed, only other values can be wrong, and they are wrong in the same way; so it is with a
default for null. -/
theorem faultOf_nullable {α : Type} {item : Value → Except ReadError α} {fault? : Value → Option ReadError}
    (h : ∀ v, faultOf (item v) = fault? v) : faultOf (nullable item v) = unlessNull fault? v := by
  have hmap : faultOf ((item v).map some) = fault? v := by
    rw [← h v]
    cases item v <;> rfl
  cases v <;> first | rfl | exact hmap

theorem faultOf_orDefault {α : Type} [Inhabited α] {item : Value → Except ReadError α}
    {fault? : Value → Option ReadError} (h : ∀ v, faultOf (item v) = fault? v) :
    faultOf (orDefault item v) = unlessNull fault? v := by
  rw [← faultOf_nullable v h, orDefault]
  cases nullable item v <;> rfl

end Faults

end Codec

namespace Bookmark

/-- What is wrong with one member of a bookmark, if anything is. -/
def memberFault? : String → Value → Option ReadError
  | "id", v | "name", v | "path", v => textFault? v
  | "isDirectory", v => flagFault? v
  | "tags", v => unlessNull textsFault? v
  | "notes", v => unlessNull textFault? v
  | "createdAt", v | "modifiedAt", v => int64Fault? v
  | "showInSidebar", v | "isDeleted", v => unlessNull flagFault? v
  | _, _ => none

/-- The fields that must be there, in the order of declaration. -/
def required : List String := ["id", "name", "path", "isDirectory", "createdAt", "modifiedAt"]

/-- Whether a member of a bookmark is wrong can be seen from its key and its value, before anything else is
read. -/
theorem toldBy_memberFault? : RecordFormat.ToldBy memberFault? (format (σ := Value)).fields where
  known := by
    simp only [format, List.forall_mem_cons, List.not_mem_nil, false_implies, implies_true, and_true]
    refine ⟨?_, ?_, ?_, ?_, ?_, ?_, ?_, ?_, ?_, ?_⟩
    · exact Field.told_put faultOf_text
    · exact Field.told_put faultOf_text
    · exact Field.told_put faultOf_text
    · exact Field.told_put faultOf_flag
    · exact Field.told_put fun v => faultOf_orDefault v faultOf_texts
    · exact Field.told_put fun v => faultOf_nullable v faultOf_text
    · exact Field.told_put faultOf_int64
    · exact Field.told_put faultOf_int64
    · exact Field.told_put fun v => faultOf_orDefault v faultOf_flag
    · exact Field.told_put fun v => faultOf_orDefault v faultOf_flag
  unknown := by
    intro k hk v
    simp only [format, List.forall_mem_cons, Field.needed, Field.optional] at hk
    unfold memberFault?
    split
    case h_11 => rfl
    -- every other key is the name of a field
    all_goals simp at hk

/-- The member with the least key among those that are wrong, by the bytes of their keys, has this fault. -/
def IsFirstFault (ms : List (String × Value)) (e : ReadError) : Prop :=
  ∃ m ∈ ms, memberFault? m.1 m.2 = some e ∧
    ∀ n ∈ ms, memberFault? n.1 n.2 ≠ none → Text.Utf8.bytes m.1 ≤ Text.Utf8.bytes n.1

/-- What an object without the bookmark's members is refused for: its first fault, or else the first required
field that is missing. -/
def IsRefusedFor (ms : List (String × Value)) (e : ReadError) : Prop :=
  IsFirstFault ms e ∨ (∀ m ∈ ms, memberFault? m.1 m.2 = none) ∧
    ∃ name, (required.find? fun name => (List.lookup name ms).isNone) = some name ∧ e = .missingField name

/-- The names of all fields. -/
def names : List String := (format (σ := Value)).fields.map Field.name

/-- Only members with the name of a field can be wrong. -/
theorem mem_names_of_fault {k : String} {v : Value} (h : memberFault? k v ≠ none) : k ∈ names := by
  refine Decidable.byContradiction fun hk => h (toldBy_memberFault?.unknown k ?_ v)
  rintro field hfield rfl
  exact hk (List.mem_map_of_mem hfield)

/-- The names of fields are in the order of their bytes. -/
theorem names_le_iff : ∀ k ∈ names, ∀ l ∈ names, k ≤ l ↔ Text.Utf8.bytes k ≤ Text.Utf8.bytes l := by
  decide +kernel

variable {ms : List (String × Value)}

/-- Members stand in the order of their keys, so the first fault is that of the least key. -/
theorem isFirstFault_iff (h : Value.Ascending ms) {e : ReadError} :
    (ms.findSome? fun m => memberFault? m.1 m.2) = some e ↔ IsFirstFault ms e := by
  rw [h.findSome?_eq_some_iff, IsFirstFault]
  -- both sides name the same member; they differ in how its key is compared
  refine exists_congr fun m => and_congr_right fun _ => and_congr_right fun hm => ?_
  refine forall_congr' fun n => forall_congr' fun _ => forall_congr' fun hn => ?_
  have hne : memberFault? m.1 m.2 ≠ none := by simp [hm]
  exact names_le_iff m.1 (mem_names_of_fault hne) n.1 (mem_names_of_fault hn)

/-- **Which objects are bookmarks.** -/
theorem ofJson_object_eq_ok_iff (h : Value.Ascending ms) {b : Bookmark} :
    ofJson (.object ms) = .ok b ↔ b.IsGivenBy (List.lookup · ms) := by
  have hread := RecordFormat.read_eq_ok_iff (r := b) independent_fields
    (record_object _ ms) h.nodup fun _ _ => rfl
  rw [ofJson, SameOk.mapError _ _ b, hread, readGiven_iff]

/-- **What is wrong with other objects.** -/
theorem ofJson_object_eq_error_iff (h : Value.Ascending ms) {e : CodecError} :
    ofJson (.object ms) = .error e ↔ ∃ f, IsRefusedFor ms f ∧ e = .unreadable f := by
  have hread := fun f => RecordFormat.read_eq_error_iff (e := f) toldBy_memberFault?
    (record_object _ ms) h.nodup
    fun _ _ => rfl
  have hrequired : ((format (σ := Value)).fields.filter Field.required).map Field.name = required := rfl
  -- a reader's first fault and its first missing field, in the words of `IsRefusedFor`
  simp only [isFirstFault_iff h, List.findSome?_eq_none_iff, missingGiven?_eq_find?, hrequired] at hread
  rw [ofJson]
  simp only [IsRefusedFor, ← hread]
  cases format.read (Value.object ms) with
  | error f => simp [Except.mapError, eq_comm]
  | ok b => simp [mapError_ok]

/-- Only objects are bookmarks. -/
theorem ofJson_eq_ok_iff {v : Value} (h : v.InKeyOrder) {b : Bookmark} :
    ofJson v = .ok b ↔ ∃ ms, v = .object ms ∧ b.IsGivenBy (List.lookup · ms) := by
  cases v with
  | object ms =>
    rw [ofJson_object_eq_ok_iff h.ascending]
    simp
  | _ => simp [ofJson]

end Bookmark

/-- **Which values are collections.** -/
theorem Codec.bookmarksOfJson_eq_ok_iff {v : Value} (h : v.InKeyOrder) {bs : List Bookmark} :
    bookmarksOfJson v = .ok bs ↔ ∃ vs, v = .list vs ∧
      List.Forall₂ (fun v b => ∃ ms, v = .object ms ∧ Bookmark.IsGivenBy (List.lookup · ms) b) vs bs := by
  cases v with
  | list vs =>
    -- the items of a value in order are in order themselves
    have hitem : ∀ v ∈ vs, ∀ b, Bookmark.ofJson v = .ok b ↔
        ∃ ms, v = .object ms ∧ b.IsGivenBy (List.lookup · ms) :=
          fun v hv b => Bookmark.ofJson_eq_ok_iff (h.items v hv)
    rw [bookmarksOfJson, mapM_eq_ok_iff, forall₂_congr_of_mem hitem]
    simp
  | _ => simp [bookmarksOfJson]

/-! ## Metadata -/

namespace SyncMetadata

/-- The members of an object describe the metadata. Only the time of the last change may be absent, and it must
not be null. -/
structure IsGivenBy (get : String → Option Value) (m : SyncMetadata) : Prop where
  lastSyncTime : get "lastSyncTime" = some (.ofInt64 m.lastSyncTime)
  deviceId : get "deviceId" = some (.text m.deviceId)
  version : get "version" = some (.number (.integer m.version.toNat))
  lastModifiedTime : get "lastModifiedTime" = none ∧ m.lastModifiedTime = 0 ∨
    get "lastModifiedTime" = some (.ofInt64 m.lastModifiedTime)

/-- The items of a list describe the metadata: its fields in order, of which the last may be left out. -/
def IsListedBy (vs : List Value) (m : SyncMetadata) : Prop :=
  let listed := [.ofInt64 m.lastSyncTime, .text m.deviceId, .number (.integer m.version.toNat)]
  vs = listed ∧ m.lastModifiedTime = 0 ∨ vs = listed ++ [.ofInt64 m.lastModifiedTime]

/-- The fields of metadata are as independent as those of a bookmark. -/
theorem independent_fields {σ : Type} [Source σ] : Independent (format (σ := σ)).fields where
  names := by
    show List.Nodup ["lastSyncTime", "deviceId", "version", "lastModifiedTime"]
    decide
  commute := by
    simp only [format, List.pairwise_cons, List.forall_mem_cons, List.not_mem_nil, false_implies, implies_true,
      List.Pairwise.nil, and_true]
    repeat' apply And.intro
    all_goals exact Field.commutes_put fun _ _ _ => rfl

/-- Looking up the fields of metadata one by one finds exactly the metadata that the members describe. -/
theorem readGiven_iff {get : String → Option Value} {m : SyncMetadata} :
    readGiven get (format (σ := Value)).fields (format (σ := Value)).blank = .ok m ↔ m.IsGivenBy get := by
  constructor
  · intro h
    -- the fields are read in declaration order, and only the last has a default
    obtain ⟨lastSyncTime, hlastSyncTime, h⟩ := readGiven_needed.mp h
    obtain ⟨deviceId, hdeviceId, h⟩ := readGiven_needed.mp h
    obtain ⟨version, hversion, h⟩ := readGiven_needed.mp h
    obtain ⟨lastModifiedTime, hlastModifiedTime, h⟩ := (readGiven_optional (d := 0) rfl).mp h
    cases h
    refine
      { lastSyncTime := given_int64_iff.mp hlastSyncTime
        deviceId := given_text_iff.mp hdeviceId
        version := given_nat32_iff.mp hversion
        lastModifiedTime := ?_ }
    exact hlastModifiedTime.imp_right given_int64_iff.mp
  · intro h
    refine readGiven_needed.mpr ⟨m.lastSyncTime, given_int64_iff.mpr h.lastSyncTime, ?_⟩
    refine readGiven_needed.mpr ⟨m.deviceId, given_text_iff.mpr h.deviceId, ?_⟩
    refine readGiven_needed.mpr ⟨m.version, given_nat32_iff.mpr h.version, ?_⟩
    refine (readGiven_optional (d := 0) rfl).mpr ⟨m.lastModifiedTime, ?_, rfl⟩
    exact h.lastModifiedTime.imp_right given_int64_iff.mpr

/-- Metadata can also be read from a list: its first three items are required, and at most one may follow. -/
theorem read_list_iff {vs : List Value} {m : SyncMetadata} :
    format.read (Value.list vs) = .ok m ↔ m.IsListedBy vs := by
  rw [read_list_eq_ok_iff]
  constructor
  · rintro ⟨h, hlength⟩
    obtain ⟨v₀, vs, lastSyncTime, rfl, h₀, h⟩ := readItems_needed.mp h
    obtain ⟨v₁, vs, deviceId, rfl, h₁, h⟩ := readItems_needed.mp h
    obtain ⟨v₂, vs, version, rfl, h₂, h⟩ := readItems_needed.mp h
    obtain ⟨lastModifiedTime, h₃, rfl⟩ := (readItems_optional (d := 0) rfl).mp h
    rw [int64_eq_ok_iff] at h₀
    rw [text_eq_ok_iff] at h₁
    rw [nat32_eq_ok_iff] at h₂
    subst h₀ h₁ h₂
    rcases h₃ with ⟨rfl, rfl⟩ | ⟨v₃, vs, rfl, h₃⟩
    · exact .inl ⟨rfl, rfl⟩
    · rw [int64_eq_ok_iff] at h₃
      subst h₃
      -- no item may follow
      have hshort : vs.length + 4 ≤ 4 := hlength
      have hnil : vs = [] := List.length_eq_zero_iff.mp (by omega)
      subst hnil
      exact .inr rfl
  · intro h
    -- what comes after the third item decides about the last field
    have hlast : (vs.drop 3 = [] ∧ m.lastModifiedTime = 0 ∨
        ∃ v vs', vs.drop 3 = v :: vs' ∧ int64 v = .ok m.lastModifiedTime) := by
      rcases h with ⟨rfl, hzero⟩ | rfl
      · exact .inl ⟨rfl, hzero⟩
      · exact .inr ⟨_, _, rfl, int64_eq_ok_iff.mpr rfl⟩
    have hvs : vs = .ofInt64 m.lastSyncTime :: .text m.deviceId :: .number (.integer m.version.toNat) ::
        vs.drop 3 := by
      rcases h with ⟨rfl, -⟩ | rfl <;> rfl
    have hlength : vs.length ≤ 4 := by rcases h with ⟨rfl, -⟩ | rfl <;> simp
    refine ⟨?_, hlength⟩
    rw [hvs]
    refine readItems_needed.mpr ⟨_, _, m.lastSyncTime, rfl, int64_eq_ok_iff.mpr rfl, ?_⟩
    refine readItems_needed.mpr ⟨_, _, m.deviceId, rfl, text_eq_ok_iff.mpr rfl, ?_⟩
    refine readItems_needed.mpr ⟨_, _, m.version, rfl, nat32_eq_ok_iff.mpr rfl, ?_⟩
    exact (readItems_optional (d := 0) rfl).mpr ⟨m.lastModifiedTime, hlast, rfl⟩

/-- **Which values are metadata.** -/
theorem ofJson_eq_ok_iff {v : Value} (h : v.InKeyOrder) {m : SyncMetadata} :
    ofJson v = .ok m ↔ (∃ ms, v = .object ms ∧ m.IsGivenBy (List.lookup · ms)) ∨
      ∃ vs, v = .list vs ∧ m.IsListedBy vs := by
  rw [ofJson, SameOk.mapError _ _ m]
  cases v with
  | object ms =>
    have hread := RecordFormat.read_eq_ok_iff (r := m) independent_fields (record_object _ ms)
      h.ascending.nodup fun _ _ => rfl
    rw [hread, readGiven_iff]
    simp
  | list vs =>
    rw [read_list_iff]
    simp
  | _ => simp [RecordFormat.read, Source.record, bind, Except.bind]

end SyncMetadata

/-! ## All readers of values -/

namespace Codec

/-- **The readers accept their grammar and nothing else**, of values with their members in order, as every
text has them (`Value.inKeyOrder_of_parse`). Which objects are bookmarks is told by their known members,
whatever else is in them; an object that is none is refused for the wrong member with the least key, or else
for the first required field that is missing. Collections are lists of bookmarks, and metadata is an object or
a list. Integers are the numerals without point and exponent, except for a zero with a sign. -/
theorem readers_accept_grammar (v : Value) (h : v.InKeyOrder) :
    (∀ b, Bookmark.ofJson v = .ok b ↔ ∃ ms, v = .object ms ∧ b.IsGivenBy (List.lookup · ms)) ∧
    (∀ ms e, v = .object ms →
      (Bookmark.ofJson v = .error e ↔ ∃ f, Bookmark.IsRefusedFor ms f ∧ e = .unreadable f)) ∧
    (∀ bs, bookmarksOfJson v = .ok bs ↔ ∃ vs, v = .list vs ∧
      List.Forall₂ (fun v b => ∃ ms, v = .object ms ∧ Bookmark.IsGivenBy (List.lookup · ms) b) vs bs) ∧
    (∀ m, SyncMetadata.ofJson v = .ok m ↔
      (∃ ms, v = .object ms ∧ m.IsGivenBy (List.lookup · ms)) ∨ ∃ vs, v = .list vs ∧ m.IsListedBy vs) ∧
    ∀ (x : Numeral) (n : Int64), x.value = .ok (.integer n.toInt) ↔ x.fraction = [] ∧ x.exponent = none ∧
      if x.negative then n.toInt ≠ 0 ∧ n.toInt = -(Numeral.ofDigits x.whole : Int)
      else n.toInt = Numeral.ofDigits x.whole := by
  refine ⟨fun b => Bookmark.ofJson_eq_ok_iff h, ?_, fun bs => bookmarksOfJson_eq_ok_iff h,
    fun m => SyncMetadata.ofJson_eq_ok_iff h, ?_⟩
  · rintro ms e rfl
    exact Bookmark.ofJson_object_eq_error_iff h.ascending
  · intro x n
    rw [Numeral.value_eq_integer_iff]
    exact and_congr_right fun _ => and_congr_right fun _ => and_iff_right (isWord_toInt n)

/-- An unknown member, null tags and empty notes do no harm, and of two wrong members the first one is told. -/
theorem readers_accept_grammar_bookmark :
    let given : List (String × Value) :=
      [("createdAt", .ofInt64 1), ("icon", .null), ("id", .text "a"), ("isDirectory", .bool false),
        ("modifiedAt", .ofInt64 2), ("name", .text "docs"), ("notes", .text ""), ("path", .text "/docs"),
        ("tags", .null)]
    let wrong : List (String × Value) := [("createdAt", .bool true), ("name", .null)]
    (Value.object given).InKeyOrder ∧ (Value.object wrong).InKeyOrder ∧
    Bookmark.ofJson (.object given) = .ok ⟨"a", "docs", "/docs", false, [], none, 1, 2, false, false⟩ ∧
    Bookmark.ofJson (.object wrong) = .error (.unreadable (.wrongType (.flag true) .int64)) := by
  intro given wrong
  have hgiven : (Value.object given).InKeyOrder := by
    refine .object (by unfold Value.Ascending; decide +kernel) ?_
    intro m hm
    simp only [given, List.mem_cons, List.not_mem_nil, or_false] at hm
    rcases hm with rfl | rfl | rfl | rfl | rfl | rfl | rfl | rfl | rfl
    exacts [.number _, .null, .text _, .bool _, .number _, .text _, .text _, .text _, .null]
  have hwrong : (Value.object wrong).InKeyOrder := by
    refine .object (by unfold Value.Ascending; decide +kernel) ?_
    intro m hm
    simp only [wrong, List.mem_cons, List.not_mem_nil, or_false] at hm
    rcases hm with rfl | rfl
    exacts [.bool _, .null]
  refine ⟨hgiven, hwrong, ?_, ?_⟩
  · refine ((readers_accept_grammar _ hgiven).1 _).mpr ⟨given, rfl, ?_⟩
    exact
      { id := rfl
        name := rfl
        path := rfl
        isDirectory := rfl
        tags := .inl ⟨.inr rfl, rfl⟩
        notes := .inr ⟨"", rfl, rfl⟩
        createdAt := rfl
        modifiedAt := rfl
        showInSidebar := .inl ⟨.inl rfl, rfl⟩
        isDeleted := .inl ⟨.inl rfl, rfl⟩ }
  · -- the first key in byte order is the one that is blamed
    refine ((readers_accept_grammar _ hwrong).2.1 wrong _ rfl).mpr ⟨_, .inl ?_, rfl⟩
    refine ⟨("createdAt", .bool true), List.mem_cons_self, rfl, ?_⟩
    intro n hn _
    simp only [wrong, List.mem_cons, List.not_mem_nil, or_false] at hn
    rcases hn with rfl | rfl <;> decide +kernel

end Codec

end BookmarkSync
