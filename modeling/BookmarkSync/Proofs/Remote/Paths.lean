import BookmarkSync.Proofs.Remote.ReadBack
import Mathlib.Data.List.Infix

/-!
# `BookmarkSync.Proofs.Remote.Paths` — going down and writing paths

A location that is reached from the top of a server has segments that are not empty and have no slash in them
(`Plain`): going down cuts texts at their slashes, and leaves nothing else out. So it does not matter whether
one goes down in two steps or in one, and the path of such a location can be cut at its slashes and decoded to
get its segments back. Which locations are plain is shown by induction on the way down. The rest needs nothing
else.
-/

namespace BookmarkSync

open Text Text.Percent
open Url (Path.render)

namespace Location

/-! ## Going down -/

/-- No segment of the location is empty or has a slash in it. -/
def Plain (l : Location) : Prop := ∀ s ∈ l.segments, s ≠ "" ∧ '/' ∉ s.toList

variable {l l' : Location}

/-- The root has no segments that could be wrong. -/
theorem plain_root (a : Authority) : (root a).Plain := nofun

/-- Resolving a text adds plain segments only, since it is cut at its slashes and empty pieces are left out. -/
theorem Plain.resolve (h : l.Plain) (text : String) : (l.resolve text).Plain := by
  intro s hs
  rcases List.mem_append.mp hs with hs | hs
  · exact h s hs
  · exact ⟨ne_empty_of_mem_pieces hs, not_slash_of_mem_pieces hs⟩

theorem Plain.foldl_resolve (h : l.Plain) (texts : List String) : (texts.foldl Location.resolve l).Plain := by
  induction texts generalizing l with
  | nil => exact h
  | cons text texts ih => exact ih (h.resolve text)

/-- The pieces of a text with a slash in it are those before the slash and those after it. -/
theorem pieces_append_slash (p q : String) : pieces (p ++ "/" ++ q) = pieces p ++ pieces q := by
  have hchars : (p ++ "/" ++ q).toList = p.toList ++ '/' :: q.toList := by
    simp only [String.toList_append, List.append_assoc]
    rfl
  have hsplit : splitSlashes (p ++ "/" ++ q).toList = splitSlashes p.toList ++ splitSlashes q.toList := by
    rw [hchars]
    exact splitWhere_append rfl _ _
  rw [pieces, hsplit, List.filter_append, List.map_append, ← pieces, ← pieces]

/-- Only slashes lead nowhere. -/
theorem pieces_eq_nil_iff {text : String} : pieces text = [] ↔ ∀ c ∈ text.toList, c = '/' := by
  -- the pieces are all empty exactly if they are so when put together
  have hkept : (splitSlashes text.toList).flatten = [] ↔ ∀ c ∈ text.toList, c = '/' := by
    rw [splitSlashes, flatten_splitWhere, List.filter_eq_nil_iff]
    simp
  rw [← hkept, pieces, List.map_eq_nil_iff, List.filter_eq_nil_iff, List.flatten_eq_nil_iff]
  simp

/-- **Resolving one text after the other is resolving both with a slash between them.** -/
theorem resolve_resolve (l : Location) (p q : String) :
    (l.resolve p).resolve q = l.resolve (p ++ "/" ++ q) := by
  simp only [resolve, pieces_append_slash, List.append_assoc]

/-- A text leads nowhere if it has nothing but slashes. -/
theorem resolve_eq_self_iff {text : String} : l.resolve text = l ↔ ∀ c ∈ text.toList, c = '/' := by
  rw [← pieces_eq_nil_iff]
  constructor
  · intro heq
    exact List.append_right_eq_self.mp (congrArg segments heq)
  · intro hnil
    rw [resolve, hnil, List.append_nil]

theorem resolve_resolve_eq_self_iff {p q : String} :
    (l.resolve p).resolve q = l ↔ (∀ c ∈ p.toList, c = '/') ∧ ∀ c ∈ q.toList, c = '/' := by
  rw [resolve_resolve, resolve_eq_self_iff, ← pieces_eq_nil_iff, pieces_append_slash, List.append_eq_nil_iff,
    pieces_eq_nil_iff, pieces_eq_nil_iff]

/-! ## Levels -/

/-- **The levels of a location are the prefixes of its segments but the empty one**, the shortest first. -/
theorem ancestorsAndSelf_eq_inits (l : Location) :
    l.ancestorsAndSelf = l.segments.inits.tail.map (Location.mk l.authority) := by
  apply List.ext_getElem
  · simp [ancestorsAndSelf]
  · intro n h h'
    simp [ancestorsAndSelf]

/-- The last of the ancestors is the location itself, unless it is the root, which has none. -/
theorem getLast_ancestorsAndSelf (l : Location) :
    l.ancestorsAndSelf.getLast? = if l.segments = [] then none else some l := by
  rw [ancestorsAndSelf, List.getLast?_map, List.getLast?_range]
  by_cases hnil : l.segments = []
  · simp [hnil]
  · have hlength : l.segments.length - 1 + 1 = l.segments.length :=
      Nat.sub_add_cancel (List.length_pos_iff.mpr hnil)
    rw [if_neg hnil, if_neg (mt List.length_eq_zero_iff.mp hnil), Option.map_some, hlength, List.take_length]

/-! ## The texts of paths -/

/-- The digits that bytes are written with. -/
def hexDigits : List Char := "0123456789ABCDEF".toList

/-- Texts of slashes, of letters and digits of ASCII and the signs `-`, `_`, `.` and `~`, and of bytes that are
written as a percent sign and two digits. -/
inductive IsPathText : List Char → Prop
  | nil : IsPathText []
  | slash {cs : List Char} : IsPathText cs → IsPathText ('/' :: cs)
  | plain {c : Char} {cs : List Char} : isUnreserved c = true → IsPathText cs → IsPathText (c :: cs)
  | escape {high low : Char} {cs : List Char} : high ∈ hexDigits → low ∈ hexDigits → IsPathText cs →
    IsPathText ('%' :: high :: low :: cs)

/-- Texts of paths can be joined, and what is made of their characters is one, too. -/
theorem IsPathText.append {cs ds : List Char} (hcs : IsPathText cs) (hds : IsPathText ds) :
    IsPathText (cs ++ ds) := by
  induction hcs with
  | nil => exact hds
  | slash _ ih => exact .slash ih
  | plain hc _ ih => exact .plain hc ih
  | escape hhigh hlow _ ih => exact .escape hhigh hlow ih

theorem isPathText_flatMap {α : Type} {f : α → List Char} {xs : List α} (h : ∀ x ∈ xs, IsPathText (f x)) :
    IsPathText (xs.flatMap f) := by
  induction xs with
  | nil => exact .nil
  | cons x xs ih => exact (h x (.head _)).append (ih fun y hy => h y (.tail _ hy))

theorem digit_mem_hexDigits {n : Nat} (h : n < 16) : digit n ∈ hexDigits := by
  revert n
  decide

/-- An encoded name is made of unreserved characters and of escapes. -/
theorem isPathText_encodeComponent (s : String) : IsPathText (encodeComponent s) := by
  unfold encodeComponent encode
  apply isPathText_flatMap
  intro c _
  by_cases hc : isUnreserved c = true
  · rw [if_pos hc]
    exact .plain hc .nil
  · rw [if_neg hc]
    -- one escape for each byte of the character
    apply isPathText_flatMap
    intro b _
    have hb : b.toNat < 256 := b.toNat_lt
    exact .escape (digit_mem_hexDigits (by omega)) (digit_mem_hexDigits (by omega)) .nil

/-- So is every path, with slashes between its names. -/
theorem isPathText_path (l : Location) : IsPathText l.path.toList := by
  rw [path_eq, String.toList_ofList]
  apply isPathText_flatMap
  intro cs hcs
  refine .slash ?_
  by_cases hnil : l.segments = []
  · rw [encoded, if_pos hnil] at hcs
    rw [List.mem_singleton.mp hcs]
    exact .nil
  · rw [encoded, if_neg hnil] at hcs
    obtain ⟨s, -, rfl⟩ := List.mem_map.mp hcs
    exact isPathText_encodeComponent s

/-! ## Reading paths -/

/-- A path cut at its slashes: an empty piece before the first slash, and the encoded segments. -/
theorem splitSlashes_path (l : Location) : splitSlashes l.path.toList = [] :: l.encoded := by
  have hslash : (fun c => decide (c = '/')) = Url.isSlash false := by
    funext c
    simp [Url.isSlash]
  have hcomponents : ∀ cs ∈ [] :: l.encoded, IsComponent cs :=
    List.forall_mem_cons.mpr ⟨List.forall_mem_nil _, fun _ => isComponent_of_mem_encoded⟩
  rw [splitSlashes, hslash, path_eq, String.toList_ofList]
  exact Url.Path.splitWhere_render hcomponents

/-- **Cut at its slashes and decoded piece by piece, the path of a location gives its segments.** -/
theorem Plain.decode_path (h : l.Plain) :
    ((splitSlashes l.path.toList).filter (!·.isEmpty)).mapM Endpoint.decodeSegment
      = .ok (l.segments.map String.toList) := by
  rw [splitSlashes_path, List.filter_cons_of_neg (by simp)]
  exact mapM_decodeSegment_encoded fun s hs => (h s hs).1

/-- **Plain locations with the same path have the same segments**, since the path can be decoded. -/
theorem Plain.path_eq_iff (h : l.Plain) (h' : l'.Plain) : l.path = l'.path ↔ l.segments = l'.segments := by
  constructor
  · intro hpath
    have hread := h.decode_path
    rw [hpath, h'.decode_path, Except.ok.injEq] at hread
    exact (List.map_injective_iff.mpr (fun _ _ => String.toList_injective) hread).symm
  · intro hsegments
    rw [path, path, hsegments]

/-- The URL of a collection ends with one slash, which the root has anyway. -/
theorem Plain.collectionUrl_eq (h : l.Plain) :
    l.collectionUrl = if l.segments = [] then l.url else l.url ++ "/" := by
  rw [collectionUrl]
  simp only [getLast_url_of_nonempty fun s hs => (h s hs).1]

/-! ## The laws of locations -/

/-- What holds of a location, of the ways down from it, and of its path. -/
structure Lawful (l : Location) : Prop where
  plain : l.Plain
  resolve_resolve : ∀ p q, (l.resolve p).resolve q = l.resolve (p ++ "/" ++ q)
  resolve_resolve_eq_self_iff : ∀ p q,
    (l.resolve p).resolve q = l ↔ (∀ c ∈ p.toList, c = '/') ∧ ∀ c ∈ q.toList, c = '/'
  decode_path : ((splitSlashes l.path.toList).filter (!·.isEmpty)).mapM Endpoint.decodeSegment
    = .ok (l.segments.map String.toList)
  isPathText : IsPathText l.path.toList
  ancestorsAndSelf : l.ancestorsAndSelf = l.segments.inits.tail.map (Location.mk l.authority)
  getLast : l.ancestorsAndSelf.getLast? = if l.segments = [] then none else some l
  collectionUrl : l.collectionUrl = if l.segments = [] then l.url else l.url ++ "/"

/-- A plain location obeys all the laws. -/
theorem Plain.lawful (h : l.Plain) : l.Lawful where
  plain := h
  resolve_resolve := l.resolve_resolve
  resolve_resolve_eq_self_iff _ _ := l.resolve_resolve_eq_self_iff
  decode_path := h.decode_path
  isPathText := l.isPathText_path
  ancestorsAndSelf := l.ancestorsAndSelf_eq_inits
  getLast := l.getLast_ancestorsAndSelf
  collectionUrl := h.collectionUrl_eq

/-- **The paths of locations are faithful.** Whatever texts lead down from the top of a server, the location
that is reached is lawful, and has the path of another such location exactly if it has the same segments. -/
theorem reached_lawful (a a' : Authority) (texts texts' : List String) :
    let l := texts.foldl resolve (root a)
    let l' := texts'.foldl resolve (root a')
    l.Lawful ∧ (l.path = l'.path ↔ l.segments = l'.segments) := by
  intro l l'
  have hplain : l.Plain := (plain_root a).foldl_resolve texts
  have hplain' : l'.Plain := (plain_root a').foldl_resolve texts'
  exact ⟨hplain.lawful, hplain.path_eq_iff hplain'⟩

/-- Slashes at the ends and between the pieces do not count, and a percent sign stands for itself. -/
example : ((["/a//b%", "/", "%2F"].foldl resolve (root ⟨.dav, "h", 80, ""⟩)).ancestorsAndSelf.map path)
    = ["/a", "/a/b%25", "/a/b%25/%252F"] := by decide

end Location

end BookmarkSync
