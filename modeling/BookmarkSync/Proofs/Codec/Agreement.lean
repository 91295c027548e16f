import BookmarkSync.Proofs.Codec.Grammar
import BookmarkSync.Proofs.Json.Within

/-!
# `BookmarkSync.Proofs.Codec.Agreement` — the readers of a list agree

A store reads its collection from a value, and a document gives the same list to a reader that goes through the
tree of the text. The value has the members of its objects in order and the tree has them as the text gives
them, so both are views of one written value, `inOrder` and `tree`. Readers agree if they make the same of the
two views (`Agree`), unless both fail. Single values are read alike, fields are looked up alike where no key
repeats, and so a list of objects is read alike by all three readers (`readers_agree`).
-/

namespace BookmarkSync

open BookmarkSync.Json (Value Tree Token Spells)
open BookmarkSync.Text (Symbol)

namespace Codec

/-! ## Single values -/

section Values

variable {α : Type} {item : Value → Except ReadError α} {item' : Tree → Except ReadError α}

/-- The two readers make the same of the two views of the written value, unless both fail. -/
def AgreeOn (w : Value) (item : Value → Except ReadError α) (item' : Tree → Except ReadError α) : Prop :=
  SameOk (item w.inOrder) (item' w.tree)

/-- The two readers agree on all values that repeat no key. -/
def Agree (item : Value → Except ReadError α) (item' : Tree → Except ReadError α) : Prop :=
  ∀ w : Value, w.tree.RepeatsNoKey → AgreeOn w item item'

theorem agree_text : Agree Codec.text Codec.text := by
  intro w _
  cases w with
  | text s => exact .ok s
  | _ => exact .errors _ _

theorem agree_flag : Agree flag flag := by
  intro w _
  cases w with
  | bool b => exact .ok b
  | _ => exact .errors _ _

theorem agree_integer (wanted : Wanted) : Agree (Source.integer wanted) (Source.integer wanted) := by
  intro w _
  cases w with
  | number n => exact .refl (integerOf wanted n)
  | _ => exact .errors _ _

theorem agree_int64 : Agree int64 int64 := fun w hw => (agree_integer .int64 w hw).bind fun _ => .refl _

theorem agree_nullable (h : Agree item item') : Agree (nullable item) (nullable item') := by
  intro w hw
  by_cases hnull : w = .null
  · subst hnull
    exact .ok none
  · have hinOrder : w.inOrder ≠ .null := by cases w <;> first | exact absurd rfl hnull | nofun
    rw [AgreeOn, nullable, nullable, isNull_eq_false hinOrder, faithful_tree.isNull w hnull]
    exact (h w hw).map some

theorem agree_orDefault [Inhabited α] (h : Agree item item') : Agree (orDefault item) (orDefault item') :=
  fun w hw => (agree_nullable h w hw).map _

/-- Items that are read alike are read alike in a list. -/
theorem agree_mapM {vs : List Value} (h : ∀ v ∈ vs, AgreeOn v item item') :
    SameOk ((vs.map Value.inOrder).mapM item) ((vs.map Value.tree).mapM item') := by
  intro as
  rw [mapM_eq_ok_iff, mapM_eq_ok_iff, List.forall₂_map_left_iff, List.forall₂_map_left_iff]
  exact forall₂_congr_of_mem h

theorem agree_listOf (h : Agree item item') : Agree (listOf item) (listOf item') := by
  intro w hw
  cases w with
  | list vs =>
    rw [AgreeOn, listOf_list faithful_tree, Value.inOrder, Value.itemsInOrder_eq_map, listOf_value]
    exact agree_mapM fun v hv => h v (Tree.repeatsNoKey_list_iff.mp hw v hv)
  | _ => exact .errors _ _

end Values

/-! ## Records -/

section Records

variable {ρ α : Type} {item : Value → Except ReadError α} {item' : Tree → Except ReadError α}

/-- The two fields have one name, and make the same of a member. -/
structure AgreeingFields (f : Field Value ρ) (g : Field Tree ρ) : Prop where
  name : f.name = g.name
  required : f.required = g.required
  set : ∀ w : Value, w.tree.RepeatsNoKey → ∀ r, SameOk (f.set w.inOrder r) (g.set w.tree r)

theorem agree_put (h : Agree item item') (name : String) (required : Bool) (put : α → ρ → ρ) :
    AgreeingFields ⟨name, required, fun v r => (item v).map fun a => put a r⟩
      ⟨name, required, fun v r => (item' v).map fun a => put a r⟩ where
  name := rfl
  required := rfl
  set w hw _ := (h w hw).map _

/-- Fields that agree are looked up alike. -/
theorem agree_readGiven {fields : List (Field Value ρ)} {fields' : List (Field Tree ρ)}
    (h : List.Forall₂ AgreeingFields fields fields') {get : String → Option Value}
    (hget : ∀ name w, get name = some w → w.tree.RepeatsNoKey) (r : ρ) :
    SameOk (readGiven (fun name => (get name).map Value.inOrder) fields r)
      (readGiven (fun name => (get name).map Value.tree) fields' r) := by
  induction h generalizing r with
  | nil => exact .ok r
  | @cons f g fs gs hfg _ ih =>
    rw [readGiven, readGiven, hfg.name, hfg.required]
    cases hw : get g.name with
    | none =>
      cases g.required with
      | true => exact .errors _ _
      | false => exact ih r
    | some w => exact (hfg.set w (hget _ w hw) r).bind ih

variable {format : RecordFormat Value ρ} {format' : RecordFormat Tree ρ}

/-- **Objects are read alike**, if the fields of their formats agree. -/
theorem agree_read (hblank : format.blank = format'.blank) (hind : Independent format.fields)
    (hind' : Independent format'.fields) (hfields : List.Forall₂ AgreeingFields format.fields format'.fields)
    {ms : List (String × Value)} (hms : (Value.object ms).tree.RepeatsNoKey) :
    AgreeOn (.object ms) format.read format'.read := by
  obtain ⟨hkeys, hmembers⟩ := Tree.repeatsNoKey_object_iff.mp hms
  intro r
  -- both readers find a member by name: the sorted form looks up what the text has under it
  have hlookup : (List.lookup · (Value.sorted (Value.membersInOrder ms)))
      = fun name => (List.lookup name ms).map Value.inOrder := by
    funext name
    rw [Value.membersInOrder_eq_map, Value.lookup_sorted, Json.lookup_map]
    rwa [List.map_map]
  have hlookup' : (List.lookup · (ms.map fun m => (m.1, m.2.tree)))
      = fun name => (List.lookup name ms).map Value.tree := by
    funext name
    exact Json.lookup_map Value.tree name ms
  -- each reader succeeds exactly when its fields can be filled from that look-up
  have hread := RecordFormat.read_eq_ok_iff (r := r) hind (record_object _ _)
    (Value.ascending_sorted (Value.membersInOrder ms)).nodup fun _ _ => rfl
  have hrecord : Source.record format'.name (Value.object ms).tree
      = .ok (.named (named (ms.map fun m => (m.1, m.2.tree))) none) := by
    rw [faithful_tree.record, named, List.map_map]
    rfl
  have hread' := RecordFormat.read_eq_ok_iff (r := r) hind' hrecord (by rwa [List.map_map]) fun m hm => by
    obtain ⟨n, -, rfl⟩ := List.mem_map.mp hm
    exact congrArg Source.read (Tree.skip_tree n.2)
  rw [Value.inOrder, hread, hread', hlookup, hlookup', hblank]
  exact agree_readGiven hfields (fun name w hw => hmembers _ (Json.mem_of_lookup hw)) _ r

end Records

/-- **Bookmarks are read alike**, whatever the order of their members. -/
theorem agree_bookmark {ms : List (String × Value)} (hms : (Value.object ms).tree.RepeatsNoKey) :
    AgreeOn (.object ms) Bookmark.format.read Bookmark.format.read := by
  refine agree_read rfl Bookmark.independent_fields Bookmark.independent_fields ?_ hms
  refine .cons (agree_put agree_text ..) <| .cons (agree_put agree_text ..) <|
    .cons (agree_put agree_text ..) <|
    .cons (agree_put agree_flag ..) <| .cons (agree_put (agree_orDefault (agree_listOf agree_text)) ..) <|
    .cons (agree_put (agree_nullable agree_text) ..) <| .cons (agree_put agree_int64 ..) <|
    .cons (agree_put agree_int64 ..) <| .cons (agree_put (agree_orDefault agree_flag) ..) <|
    .cons (agree_put (agree_orDefault agree_flag) ..) .nil

/-! ## Lists of bookmarks -/

/-- **Lists of objects are read alike.** -/
theorem bookmarksOfJson_sameOk {w : Value} (hw : w.tree.RepeatsNoKey)
    (hitems : ∀ vs, w.inOrder = .list vs → ∀ v ∈ vs, ∃ ms, v = .object ms) :
    SameOk (bookmarksOfJson w.inOrder) (bookmarkList w.tree) := by
  cases w with
  | list vs =>
    rw [Value.inOrder, Value.itemsInOrder_eq_map] at hitems ⊢
    rw [bookmarksOfJson, bookmarkList, listOf_list faithful_tree]
    intro bs
    rw [mapM_eq_ok_iff, mapM_eq_ok_iff, List.forall₂_map_left_iff, List.forall₂_map_left_iff]
    refine forall₂_congr_of_mem fun v hv b => ?_
    obtain ⟨ms, hms⟩ := hitems _ rfl _ (List.mem_map_of_mem hv)
    cases v with
    | object ms' => exact (SameOk.mapError _ _).trans (agree_bookmark (Tree.repeatsNoKey_list_iff.mp hw _ hv)) b
    | _ => cases hms
  | _ => exact .errors _ _

/-! ## Documents -/

/-- The text of a document that holds the list. -/
def asDocument (t : String) : String := "\x7b\"bookmarks\":" ++ t ++ "\x7d"

section Documents

variable {t : String} {w : Value}

/-- The document of a written list is a written document. -/
theorem tokens_asDocument (h : Token.all (Symbol.ofChars t.toList) = w.tokens) :
    Token.all (Symbol.ofChars (asDocument t).toList) = (Value.object [("bookmarks", w)]).tokens := by
  have hlist : Spells (':' :: (t.toList ++ ['}'])) (.colon :: (w.tokens ++ [.closeObject])) :=
    ((Json.spells_of_tokens h).before rfl Json.spells_closeObject).start rfl fun _ => rfl
  have hdocument := (hlist.text "bookmarks").start (c := '{') (t := .openObject) rfl fun _ => rfl
  have htext : (asDocument t).toList
      = '{' :: (Value.textLiteral "bookmarks" ++ ':' :: (t.toList ++ ['}'])) := by
    rw [asDocument, String.toList_append, String.toList_append]
    rfl
  rw [htext, hdocument.all_eq]
  rfl

/-- A document is read as its members are looked up. -/
theorem readText_asDocument {ρ : Type} {format : RecordFormat Tree ρ} (hind : Independent format.fields)
    (h : Token.all (Symbol.ofChars t.toList) = w.tokens) {r : ρ} :
    readText format (Symbol.ofChars (asDocument t).toList) = .ok r ↔
      readGiven (List.lookup · [("bookmarks", w.tree)]) format.fields format.blank = .ok r := by
  have hrecord : Source.record format.name (Value.object [("bookmarks", w)]).tree
      = .ok (.named (named [("bookmarks", w.tree)]) none) := rfl
  have hread := RecordFormat.read_eq_ok_iff (r := r) hind hrecord (by simp) fun m hm => by
    rw [List.mem_singleton.mp hm]
    exact congrArg Source.read (Tree.skip_tree w)
  rw [← hread, readText, tokens_asDocument h, Tree.ofTokens_tokens]
  simp only [bind, Except.bind]
  cases format.read (Value.object [("bookmarks", w)]).tree <;> simp [pure, Except.pure]

theorem remoteDocument_asDocument (h : Token.all (Symbol.ofChars t.toList) = w.tokens) {bs : List Bookmark} :
    RemoteDocument.ofBytes (Text.Utf8.bytes (asDocument t)) = .ok ⟨bs⟩ ↔ bookmarkList w.tree = .ok bs := by
  have hind : Independent (RemoteDocument.format (σ := Tree)).fields :=
    ⟨by decide, List.pairwise_singleton _ _⟩
  rw [RemoteDocument.ofBytes, Text.Utf8.read_bytes, SameOk.mapError _ _ _, readText_asDocument hind h]
  refine readGiven_needed.trans ?_
  simp [readGiven]

theorem exportDocument_asDocument (h : Token.all (Symbol.ofChars t.toList) = w.tokens) {bs : List Bookmark} :
    ExportDocument.ofText (asDocument t) = .ok ⟨bs, none⟩ ↔ bookmarkList w.tree = .ok bs := by
  have hind : Independent (ExportDocument.format (σ := Tree)).fields := by
    refine ⟨by decide, ?_⟩
    simp only [ExportDocument.format, List.pairwise_cons, List.forall_mem_cons, List.not_mem_nil, false_implies,
      implies_true, List.Pairwise.nil, and_true]
    exact Field.commutes_put fun _ _ _ => rfl
  rw [ExportDocument.ofText, SameOk.mapError _ _ _, readText_asDocument hind h]
  refine readGiven_needed.trans ?_
  simp [readGiven, Field.optional, ExportDocument.format, Json.lookup_cons_of_ne]

end Documents

/-! ## All readers of a list -/

/-- Written bookmarks repeat no key. -/
theorem repeatsNoKey_bookmarks (bs : List Bookmark) : (bookmarksToJson bs).tree.RepeatsNoKey := by
  refine Tree.repeatsNoKey_list_iff.mpr (List.forall_mem_map.mpr fun b _ => ?_)
  have htext : ∀ s, (Value.text s).tree.RepeatsNoKey := fun s => .text _
  have hbool : ∀ b, (Value.bool b).tree.RepeatsNoKey := fun b => .bool b
  have hnumber : ∀ n, (Value.ofInt64 n).tree.RepeatsNoKey := fun n => .number _
  have htags : (Value.list (b.tags.map .text)).tree.RepeatsNoKey :=
    Tree.repeatsNoKey_list_iff.mpr (List.forall_mem_map.mpr fun s _ => htext s)
  refine Tree.repeatsNoKey_object_iff.mpr ?_
  cases Bookmark.nonBlank b.notes <;> simp [htext, hbool, hnumber, htags]

/-- **The readers of a store, of the remote file and of a backup agree on lists.** A text that repeats no key,
and that is no list or a list of objects, is read as a collection just if a document with it is read as one
that holds the same collection. -/
theorem readers_agree {t : String} {v : Value} (hparse : Value.parse t = .ok v)
    (hkeys : (Tree.ofTokens (Token.all (Symbol.ofChars t.toList))).1.RepeatsNoKey)
    (hitems : ∀ vs, v = .list vs → ∀ w ∈ vs, ∃ ms, w = .object ms) (bs : List Bookmark) :
    (bookmarksOfText t = .ok bs ↔ RemoteDocument.ofBytes (Text.Utf8.bytes (asDocument t)) = .ok ⟨bs⟩) ∧
    (bookmarksOfText t = .ok bs ↔ ExportDocument.ofText (asDocument t) = .ok ⟨bs, none⟩) := by
  obtain ⟨w, htokens, rfl⟩ := Value.exists_written_of_parse hparse
  rw [htokens, Tree.ofTokens_tokens] at hkeys
  have hread : bookmarksOfText t = bookmarksOfJson w.inOrder := by
    simp only [bookmarksOfText, valueOfText, hparse, mapError_ok, bind, Except.bind]
  rw [hread, remoteDocument_asDocument htokens, exportDocument_asDocument htokens]
  have hlist := bookmarksOfJson_sameOk hkeys hitems bs
  exact ⟨hlist, hlist⟩

/-- The members of a written bookmark do not stand in the order of their keys. -/
theorem readers_agree_bookmark :
    let b : Bookmark := ⟨"a", "docs", "/docs", true, ["work"], some "later", 1, 2, true, false⟩
    let t := bookmarksText [b]
    Value.parse t = .ok (.list [b.toJson.inOrder]) ∧
    (Tree.ofTokens (Token.all (Symbol.ofChars t.toList))).1.RepeatsNoKey ∧
    (∀ w ∈ [b.toJson.inOrder], ∃ ms, w = .object ms) ∧
    RemoteDocument.ofBytes (Text.Utf8.bytes (asDocument t)) = .ok ⟨[b]⟩ ∧
    ExportDocument.ofText (asDocument t) = .ok ⟨[b], none⟩ := by
  intro b t
  have hplain := plain_bookmarks [b] 124
  have hparse : Value.parse t = .ok (.list [b.toJson.inOrder]) := Value.parse_toCompact hplain
  -- the printer's tokens are those the streaming readers scan
  have htokens : Token.all (Symbol.ofChars t.toList) = (bookmarksToJson [b]).tokens := by
    show Token.all (Symbol.ofChars (bookmarksToJson [b]).toCompact.toList) = _
    rw [Value.toCompact, String.toList_ofList, (Json.spells_compact hplain).all_eq]
  have hkeys : (Tree.ofTokens (Token.all (Symbol.ofChars t.toList))).1.RepeatsNoKey := by
    rw [htokens, Tree.ofTokens_tokens]
    exact repeatsNoKey_bookmarks [b]
  have hitems : ∀ w ∈ [b.toJson.inOrder], ∃ ms, w = .object ms := by
    rw [List.forall_mem_singleton]
    exact ⟨_, rfl⟩
  have hread : bookmarksOfText t = .ok [b] := bookmarksOfText_bookmarksText [b]
  obtain ⟨hremote, hexport⟩ := readers_agree hparse hkeys (fun vs heq => Value.list.inj heq ▸ hitems) [b]
  exact ⟨hparse, hkeys, hitems, hremote.mp hread, hexport.mp hread⟩

end Codec

end BookmarkSync
