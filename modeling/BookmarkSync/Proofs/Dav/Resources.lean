import BookmarkSync.Dav.Tree
import BookmarkSync.Proofs.Url.Reading
import Mathlib.Data.List.Basic
import Mathlib.Data.List.Induction

/-!
# `BookmarkSync.Proofs.Dav.Resources` — servers of files and collections

What a server is expected to do is said of its resources, which its states show: which requests are about
which resource, what is answered about it, and what becomes of it (`Conforms`). A tree of files and
collections is such a server (`Tree.conforms_reply`).
-/

namespace BookmarkSync.Dav

open Text.Percent
open Url (Path.render)

/-! ## Resources -/

inductive Resource
  | collection
  | file (content : List UInt8)
deriving DecidableEq, Repr

/-- The resources of a server, by the segments of their paths. -/
abbrev Resources := List String → Option Resource

namespace Resources

/-- The top is a collection, and whatever is there lies in a collection. -/
structure IsTree (rs : Resources) : Prop where
  root : rs [] = some .collection
  inCollection : ∀ path name, rs (path ++ [name]) ≠ none → rs path = some .collection

/-- The resources with a collection at every level of a path. -/
def withLevels (rs : Resources) (path : List String) : Resources :=
  fun p => if p <+: path then some .collection else rs p

variable {rs : Resources} {path : List String}

/-- The levels of a path are collections afterwards, and nothing else has changed. -/
theorem withLevels_level {p : List String} (h : p <+: path) : rs.withLevels path p = some .collection :=
  if_pos h

theorem withLevels_other {p : List String} (h : ¬ p <+: path) : rs.withLevels path p = rs p :=
  if_neg h

/-- Making a level and then one below it is making the one below it. -/
theorem withLevels_withLevels {p q : List String} (h : p <+: q) :
    (rs.withLevels p).withLevels q = rs.withLevels q := by
  funext path
  by_cases hpath : path <+: q
  · rw [withLevels_level hpath, withLevels_level hpath]
  · rw [withLevels_other hpath, withLevels_other hpath, withLevels_other fun hp => hpath (hp.trans h)]

/-- One more level. -/
theorem update_withLevels (name : String) :
    Function.update (rs.withLevels path) (path ++ [name]) (some .collection)
      = rs.withLevels (path ++ [name]) := by
  funext p
  by_cases hself : p = path ++ [name]
  · rw [hself, Function.update_self, withLevels_level List.prefix_rfl]
  rw [Function.update_of_ne hself]
  by_cases hp : p <+: path
  · rw [withLevels_level hp, withLevels_level (hp.trans (List.prefix_append _ _))]
  · rw [withLevels_other hp, withLevels_other fun hlevel => (List.prefix_concat_iff.mp hlevel).elim hself hp]

/-- Above what is there, everything is a collection. -/
theorem IsTree.above (h : rs.IsTree) {p q : List String} (hq : rs (p ++ q) ≠ none) (hne : q ≠ []) :
    rs p = some .collection := by
  induction q using List.reverseRecOn with
  | nil => exact absurd rfl hne
  | append_singleton q name ih =>
    rw [← List.append_assoc] at hq
    have hparent := h.inCollection _ _ hq
    by_cases hnil : q = []
    · rw [hnil, List.append_nil] at hparent
      exact hparent
    · exact ih (by rw [hparent]; exact nofun) hnil

/-- Where a directory is there, so are its levels. -/
theorem IsTree.withLevels_of_collection (h : rs.IsTree) (hpath : rs path = some .collection) :
    rs.withLevels path = rs := by
  funext p
  by_cases hp : p <+: path
  · obtain ⟨q, rfl⟩ := hp
    rw [withLevels_level (List.prefix_append p q)]
    by_cases hnil : q = []
    · rw [hnil, List.append_nil] at hpath
      exact hpath.symm
    · exact (h.above (by rw [hpath]; exact nofun) hnil).symm
  · exact withLevels_other hp

end Resources

/-! ## Conforming servers -/

/-- The request is about the resource at a path: its URL has the encoded segments, and maybe a slash behind
them. -/
structure Request.Addresses (r : Request) (path : List String) : Prop where
  nonempty : ∀ s ∈ path, s ≠ ""
  url : r.url.path = some (path.map encodeComponent) ∨ r.url.path = some (path.map encodeComponent ++ [[]])

section Conforming

variable {σ : Type}

/-- A server gives a whole answer to a request, with a status and a body that fit, and shows the resources
`after` from then on. -/
def Answers (server : Server σ) (resources : σ → Resources) (r : Request) (s : σ)
    (fits : Status → List UInt8 → Prop) (after : Resources) : Prop :=
  ∃ status body s', server r s = (.answer status body, s') ∧ fits status body ∧ resources s' = after

/-- The server keeps resources as a server of files and collections does. -/
structure Conforms (server : Server σ) (resources : σ → Resources) : Prop where
  found : ∀ {r path s}, r.method = .propfind → r.Addresses path → resources s path ≠ none →
    Answers server resources r s (fun status _ => status = 207) (resources s)
  notFound : ∀ {r path s}, r.method = .propfind → r.Addresses path → resources s path = none →
    Answers server resources r s (fun status _ => status = 404) (resources s)
  made : ∀ {r path name s}, r.method = .mkcol → r.Addresses (path ++ [name]) →
    resources s path = some .collection → resources s (path ++ [name]) = none →
    Answers server resources r s (fun status _ => status = 201)
      (Function.update (resources s) (path ++ [name]) (some .collection))
  taken : ∀ {r path s}, r.method = .mkcol → r.Addresses path → resources s path ≠ none →
    Answers server resources r s (fun status _ => status = 405) (resources s)
  orphan : ∀ {r path name s}, r.method = .mkcol → r.Addresses (path ++ [name]) → resources s path = none →
    resources s (path ++ [name]) = none →
    Answers server resources r s (fun status _ => status = 409) (resources s)
  content : ∀ {r path content s}, r.method = .get → r.Addresses path → resources s path = some (.file content) →
    Answers server resources r s (fun status body => status.isSuccess ∧ body = content) (resources s)
  replaced : ∀ {r path name s}, r.method = .put → r.Addresses (path ++ [name]) →
    resources s path = some .collection → resources s (path ++ [name]) ≠ some .collection →
    Answers server resources r s (fun status _ => status.isSuccess)
      (Function.update (resources s) (path ++ [name]) (some (.file r.body)))

end Conforming

/-! ## Written paths -/

/-- The path as it is sent, without a slash at its end. -/
def writtenPath (path : List String) : List Char := Path.render (path.map encodeComponent)

/-- A path is written name by name. -/
theorem writtenPath_append (p q : List String) : writtenPath (p ++ q) = writtenPath p ++ writtenPath q := by
  rw [writtenPath, List.map_append]
  exact List.flatMap_append

theorem writtenPath_singleton (name : String) : writtenPath [name] = '/' :: encodeComponent name :=
  List.append_nil _

/-- A name that is written has no slash in it, so the names of a path can be told apart. -/
theorem ne_slash_of_component {s : String} : ∀ c ∈ encodeComponent s, c ≠ '/' := by
  rintro c hc rfl
  exact absurd (isComponent_encodeComponent s _ hc) (by decide)

/-- Different paths are written differently. -/
theorem writtenPath_injective {p q : List String} (h : writtenPath p = writtenPath q) : p = q := by
  have hsplit (path : List String) :
      Text.splitWhere (Url.isSlash false) (writtenPath path) = [] :: path.map encodeComponent := by
    have hcomponents : ∀ cs ∈ [] :: path.map encodeComponent, IsComponent cs := by
      intro cs hcs
      rcases List.mem_cons.mp hcs with rfl | hcs
      · exact nofun
      · obtain ⟨s, -, rfl⟩ := List.mem_map.mp hcs
        exact isComponent_encodeComponent s
    exact Url.Path.splitWhere_render hcomponents
  have hmap := hsplit p
  rw [h, hsplit q] at hmap
  exact (List.map_injective_iff.mpr fun _ _ => encodeComponent_injective) (List.cons.inj hmap).2.symm

/-- A written path ends in the last character of its last segment, which is no slash. -/
theorem exists_last_of_writtenPath (path : List String) {name : String} (h : name ≠ "") :
    ∃ before last, writtenPath (path ++ [name]) = before ++ [last] ∧ last ≠ '/' := by
  have hname : name.toList ≠ [] := fun hnil => h (String.toList_eq_nil_iff.mp hnil)
  rcases List.eq_nil_or_concat (encodeComponent name) with hnil | ⟨before, last, hlast⟩
  · exact absurd hnil (encode_ne_nil hname)
  refine ⟨writtenPath path ++ '/' :: before, last, ?_, ne_slash_of_component (s := name) last (by simp [hlast])⟩
  rw [writtenPath_append, writtenPath_singleton, hlast, List.concat_eq_append, List.append_assoc,
    List.cons_append]

namespace Tree

/-- A slash at the end makes no other resource. -/
theorem trimEnd_append_slash (cs : List Char) : trimEnd (cs ++ ['/']) = trimEnd cs := by
  rw [trimEnd, List.reverse_append, List.reverse_singleton, List.singleton_append,
    List.dropWhile_cons_of_pos rfl, trimEnd]

/-- A path without empty names does not end with a slash. -/
theorem trimEnd_writtenPath {path : List String} (h : ∀ s ∈ path, s ≠ "") :
    trimEnd (writtenPath path) = writtenPath path := by
  cases path using List.reverseRecOn with
  | nil => rfl
  | append_singleton path name =>
    obtain ⟨before, last, hwritten, hlast⟩ := exists_last_of_writtenPath path (h name (by simp))
    rw [hwritten, trimEnd, List.reverse_append, List.reverse_singleton, List.singleton_append,
      List.dropWhile_cons_of_neg (by simpa using hlast), ← List.singleton_append, List.reverse_append,
      List.reverse_reverse, List.reverse_singleton]

/-- What a path is below is the path without its last name. -/
theorem parent_writtenPath (path : List String) (name : String) :
    parent (writtenPath (path ++ [name])) = writtenPath path := by
  have hname : ∀ c ∈ (encodeComponent name).reverse, (c != '/') = true :=
    fun c hc => bne_iff_ne.mpr (ne_slash_of_component c (List.mem_reverse.mp hc))
  rw [writtenPath_append, writtenPath_singleton, parent, List.reverse_append, List.reverse_cons,
    List.append_assoc, List.dropWhile_append_of_pos hname, List.singleton_append,
    List.dropWhile_cons_of_neg (by decide), List.drop_one, List.tail_cons, List.reverse_reverse]

/-- What a tree has under a key. -/
def resource? (t : Tree) (key : String) : Option Resource :=
  if t.isCollection key then some .collection else (t.file? key).map .file

/-- The key of a path. -/
def key (path : List String) : String := String.ofList (writtenPath path)

/-- Different paths are kept under different keys. -/
theorem key_injective {p q : List String} (h : key p = key q) : p = q :=
  writtenPath_injective (String.ofList_injective h)

/-- The resources of a tree. -/
def resources (t : Tree) : Resources := fun path => t.resource? (key path)

section Looking

variable {t : Tree} {written : String}

/-- What stands under a key decides how the tree replies: as a collection, as a file, or not at all. -/
theorem isCollection_of_resource? (h : t.resource? written = some .collection) :
    t.isCollection written = true := by
  rw [resource?] at h
  split at h
  · assumption
  · obtain ⟨content, -, heq⟩ := Option.map_eq_some_iff.mp h
    cases heq

theorem not_isCollection_of_resource? (h : t.resource? written ≠ some .collection) :
    t.isCollection written = false :=
  Bool.eq_false_iff.mpr fun hcollection => h (if_pos hcollection)

theorem file?_of_resource? {content : List UInt8} (h : t.resource? written = some (.file content)) :
    t.file? written = some content := by
  rw [resource?] at h
  split at h
  · cases h
  · obtain ⟨content', hfile, heq⟩ := Option.map_eq_some_iff.mp h
    cases heq
    exact hfile

theorem contains_of_resource? (h : t.resource? written ≠ none) : t.contains written = true := by
  rw [contains, Bool.or_eq_true, Option.isSome_iff_ne_none]
  by_cases hcollection : t.isCollection written = true
  · exact .inl hcollection
  · refine .inr fun hfile => h ?_
    rw [resource?, if_neg hcollection, hfile]
    rfl

theorem not_contains_of_resource? (h : t.resource? written = none) : t.contains written = false := by
  have hcollection : t.isCollection written = false := not_isCollection_of_resource? (by rw [h]; exact nofun)
  rw [resource?, hcollection] at h
  rw [contains, hcollection, Option.map_eq_none_iff.mp h]
  rfl

/-- A new collection is found under its key, and changes nothing under others. -/
theorem resource?_made (other : String) : ({ t with collections := written :: t.collections }).resource? other =
    if other = written then some .collection else t.resource? other := by
  have hcollection : ({ t with collections := written :: t.collections }).isCollection other =
      (decide (other = written) || t.isCollection other) := by
    simp only [isCollection, List.contains_cons]
    rw [Bool.or_left_comm]
    rfl
  rw [resource?, hcollection]
  by_cases hother : other = written
  · rw [if_pos hother, decide_eq_true hother]
    rfl
  · rw [if_neg hother, decide_eq_false hother]
    rfl

/-- A file that is put stands under its key, and all others are as they were. -/
theorem resource?_putFile {content : List UInt8} (h : t.isCollection written = false) (other : String) :
    (t.putFile written content).resource? other =
      if other = written then some (.file content) else t.resource? other := by
  -- the new file hides any older one under the same key and no other
  by_cases hother : other = written
  · have hfile : (t.putFile written content).file? written = some content := by
      simp [file?, putFile]
    have hcollection : (t.putFile written content).isCollection written = false := h
    rw [if_pos hother, hother, resource?, hcollection, hfile]
    rfl
  · have hfile : (t.putFile written content).file? other = t.file? other := by
      have hfind : (t.files.filter (·.1 != written)).find? (·.1 == other) = t.files.find? (·.1 == other) := by
        rw [List.find?_filter]
        refine congrArg (t.files.find? ·) (funext fun file => Bool.eq_iff_iff.mpr ?_)
        rw [decide_eq_true_eq, and_iff_right_iff_imp, beq_iff_eq, bne_iff_ne]
        exact fun hfile hwritten => hother (hfile.symm.trans hwritten)
      have hhead : (written == other) = false := beq_eq_false_iff_ne.mpr (Ne.symm hother)
      simp only [file?, putFile, List.find?_cons, hhead, hfind]
    rw [if_neg hother, resource?, hfile]
    rfl

end Looking

section Replying

variable {t : Tree} {r : Request} {path : List String}

/-- The key that the tree looks up for a request. -/
theorem key_of_addresses (h : r.Addresses path) : String.ofList (trimEnd r.path.toList) = key path := by
  obtain ⟨hnonempty, hurl⟩ := h
  have hpath : r.path.toList = Path.render (r.url.path.getD []) := String.toList_ofList
  rcases hurl with hurl | hurl
  · rw [hpath, hurl]
    exact congrArg String.ofList (trimEnd_writtenPath hnonempty)
  · have hrender : Path.render (path.map encodeComponent ++ [[]]) = writtenPath path ++ ['/'] :=
      List.flatMap_append
    rw [hpath, hurl, Option.getD_some, hrender, trimEnd_append_slash]
    exact congrArg String.ofList (trimEnd_writtenPath hnonempty)

/-- A path has a parent in the tree if the path above it is a collection. -/
theorem hasParent_key (name : String) : t.hasParent (key (path ++ [name])) = t.isCollection (key path) := by
  rw [hasParent, key, String.toList_ofList, parent_writtenPath]
  rfl

/-- The resources of a tree in which one of them has been set. -/
theorem resources_set {t' : Tree} {resource : Resource}
    (h : ∀ other, t'.resource? other = if other = key path then some resource else t.resource? other) :
    t'.resources = Function.update t.resources path (some resource) := by
  funext p
  rw [resources, h, Function.update_apply]
  by_cases hp : p = path
  · rw [if_pos hp, if_pos (congrArg key hp)]
  · rw [if_neg hp, if_neg fun hkey => hp (key_injective hkey)]
    rfl

/-- **A tree of files and collections is a conforming server.** -/
theorem conforms_reply : Conforms reply resources where
  -- one case for each duty of a conforming server, each read off the matching answer
  found := by
    intro r path t hmethod haddress hthere
    refine ⟨207, [], t, ?_, rfl, rfl⟩
    simp only [reply, key_of_addresses haddress, hmethod, answerPropfind, contains_of_resource? hthere, if_true]
  notFound := by
    intro r path t hmethod haddress hmissing
    refine ⟨404, [], t, ?_, rfl, rfl⟩
    simp only [reply, key_of_addresses haddress, hmethod, answerPropfind, not_contains_of_resource? hmissing,
      Bool.false_eq_true, if_false]
  made := by
    intro r path name t hmethod haddress hparent hmissing
    refine ⟨201, [], { t with collections := key (path ++ [name]) :: t.collections }, ?_, rfl,
      resources_set resource?_made⟩
    simp only [reply, key_of_addresses haddress, hmethod, answerMkcol, not_contains_of_resource? hmissing,
      hasParent_key, isCollection_of_resource? hparent, Bool.not_true, Bool.false_eq_true, if_false]
  taken := by
    intro r path t hmethod haddress hthere
    refine ⟨405, [], t, ?_, rfl, rfl⟩
    simp only [reply, key_of_addresses haddress, hmethod, answerMkcol, contains_of_resource? hthere, if_true]
  orphan := by
    intro r path name t hmethod haddress hparent hmissing
    have hnot : t.isCollection (key path) = false :=
      not_isCollection_of_resource? (hparent.trans_ne nofun)
    refine ⟨409, [], t, ?_, rfl, rfl⟩
    simp only [reply, key_of_addresses haddress, hmethod, answerMkcol, not_contains_of_resource? hmissing,
      hasParent_key, hnot, Bool.not_false, Bool.false_eq_true, if_false, if_true]
  content := by
    intro r path content t hmethod haddress hfile
    refine ⟨200, content, t, ?_, ⟨rfl, rfl⟩, rfl⟩
    simp only [reply, key_of_addresses haddress, hmethod, file?_of_resource? hfile]
  replaced := by
    intro r path name t hmethod haddress hparent hnot
    have hnot := not_isCollection_of_resource? hnot
    refine ⟨if (t.file? (key (path ++ [name]))).isSome then 204 else 201, [],
      t.putFile (key (path ++ [name])) r.body, ?_, ?_, resources_set (resource?_putFile hnot)⟩
    · simp only [reply, key_of_addresses haddress, hmethod, answerPut, hnot, hasParent_key,
        isCollection_of_resource? hparent, Bool.not_true, Bool.false_eq_true, if_false]
    · split
      · rfl
      · rfl

end Replying

end Tree

end BookmarkSync.Dav
