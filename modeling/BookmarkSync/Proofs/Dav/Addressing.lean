import BookmarkSync.Dav.Client
import BookmarkSync.Proofs.Dav.Resources
import BookmarkSync.Proofs.Remote.Configured

/-!
# `BookmarkSync.Proofs.Dav.Addressing` — requests about a location

Whether a request can be made about a location depends on its server, and on nothing else but the length of
the URL (`exists_addressable_of_shorter`). So a location that can be reached vouches for all that are
written shorter, the levels above it among them.
-/

namespace BookmarkSync

open Text.Percent
open Url (Path.render IsSegment IsHostText)

/-! ## Sizes of texts -/

/-- More characters have more bytes. -/
theorem utf8ByteSize_mono {cs ds : List Char} (h : cs <+: ds) :
    (String.ofList cs).utf8ByteSize ≤ (String.ofList ds).utf8ByteSize := by
  obtain ⟨rest, rfl⟩ := h
  rw [String.ofList_append, String.utf8ByteSize_append]
  exact Nat.le_add_right _ _

/-! ## The URLs of a location -/

namespace Location

/-- The segments of the URL of a location. -/
def encoded (l : Location) : List (List Char) :=
  if l.segments = [] then [[]] else l.segments.map encodeComponent

/-- Every segment of the location stands for itself in a URL, and the host can be put into one. -/
structure IsWritten (l : Location) : Prop where
  host : IsHostText l.authority.host.toList
  nonempty : ∀ s ∈ l.segments, s ≠ ""
  noDots : ∀ s ∈ l.segments, s ≠ "." ∧ s ≠ ".."

variable {l : Location}

/-- The path of a location is its encoded segments, and its URL has it behind the authority. -/
theorem path_eq (l : Location) : l.path = String.ofList (Path.render l.encoded) := by
  obtain ⟨a, segments⟩ := l
  cases segments with
  | nil => rfl
  | cons s segments => rw [path, encoded, if_neg (List.cons_ne_nil _ _), Path.render, List.flatMap_map]

theorem url_eq (l : Location) : l.url = l.authority.baseUrl ++ String.ofList (Path.render l.encoded) := by
  rw [url, path_eq]

/-- The names of a written location stay segments when they are encoded. -/
theorem IsWritten.isSegment (h : l.IsWritten) : ∀ cs ∈ l.segments.map encodeComponent, IsSegment cs := by
  intro cs hcs
  obtain ⟨s, hs, rfl⟩ := List.mem_map.mp hcs
  exact Url.isSegment_encodeComponent (h.noDots s hs).1 (h.noDots s hs).2

/-- Every path has a segment, if only the empty one of the root. -/
theorem encoded_ne_nil (l : Location) : l.encoded ≠ [] := by
  rw [encoded]
  split
  · exact List.cons_ne_nil _ _
  · next hne => exact fun hnil => hne (List.map_eq_nil_iff.mp hnil)

theorem IsWritten.isSegment_encoded (h : l.IsWritten) : ∀ cs ∈ l.encoded, IsSegment cs := by
  rw [encoded]
  split
  · intro cs hcs
    rw [List.mem_singleton.mp hcs]
    exact Url.isSegment_nil
  · exact h.isSegment

/-- Encoded segments need no further escapes. -/
theorem isComponent_of_mem_encoded {cs : List Char} (h : cs ∈ l.encoded) : IsComponent cs := by
  rw [encoded] at h
  split at h
  · rw [List.mem_singleton.mp h]
    exact nofun
  · obtain ⟨s, -, rfl⟩ := List.mem_map.mp h
    exact isComponent_encodeComponent s

/-- A slash at the end of a URL stands before an empty segment, as no segment has a slash in it. -/
theorem getLast_url_iff {pieces : List (List Char)} {last : List Char} (h : l.encoded = pieces ++ [last]) :
    l.url.toList.getLast? = some '/' ↔ last = [] := by
  have hurl : l.url.toList = l.authority.baseUrl.toList ++ Path.render pieces ++ '/' :: last := by
    rw [url_eq, h, Path.render, List.flatMap_append, List.flatMap_singleton, String.toList_append,
      String.toList_ofList, List.append_assoc]
    rfl
  rw [hurl]
  -- no character of an encoded component is a slash, so the last slash belongs to the join
  cases last using List.reverseRecOn with
  | nil => simp
  | append_singleton before c =>
    have hlast : before ++ [c] ∈ l.encoded := by simp [h]
    have hc : isComponentChar c = true := isComponent_of_mem_encoded hlast c (by simp)
    have hne : c ≠ '/' := by
      rintro rfl
      exact absurd hc (by decide)
    rw [← List.cons_append, ← List.append_assoc, List.getLast?_concat]
    exact iff_of_false (fun heq => hne (Option.some.inj heq)) (by simp)

/-- The URL of a location ends in a slash only at the top of a server. -/
theorem getLast_url_of_nonempty (h : ∀ s ∈ l.segments, s ≠ "") :
    l.url.toList.getLast? = some '/' ↔ l.segments = [] := by
  obtain hnil | ⟨path, name, hsegments⟩ := List.eq_nil_or_concat l.segments
  · have hroot : l.encoded = [] ++ [[]] := if_pos hnil
    exact iff_of_true ((getLast_url_iff hroot).mpr rfl) hnil
  · have hne : l.segments ≠ [] := by simp [hsegments]
    have hname : name.toList ≠ [] := fun hempty =>
      h name (by simp [hsegments]) (String.toList_eq_nil_iff.mp hempty)
    have hpieces : l.encoded = path.map encodeComponent ++ [encodeComponent name] := by
      rw [encoded, if_neg hne, hsegments, List.concat_eq_append, List.map_append, List.map_singleton]
    refine iff_of_false (fun hslash => ?_) hne
    exact encode_ne_nil hname ((getLast_url_iff hpieces).mp hslash)

/-- The URL of a collection ends with a slash. -/
theorem getLast_collectionUrl (l : Location) : l.collectionUrl.toList.getLast? = some '/' := by
  rw [collectionUrl]
  split
  · assumption
  · simp

/-- The URL of a collection is written with one empty segment at the end. -/
theorem exists_collectionUrl_eq (l : Location) :
    ∃ pieces : List (List Char), (∀ cs ∈ pieces, IsComponent cs) ∧
      l.collectionUrl = l.authority.baseUrl ++ String.ofList (Path.render (pieces ++ [[]])) := by
  rw [collectionUrl]
  split
  · next hslash =>
    obtain ⟨pieces, last, hencoded⟩ := (List.eq_nil_or_concat l.encoded).resolve_left l.encoded_ne_nil
    rw [List.concat_eq_append] at hencoded
    obtain rfl := (getLast_url_iff hencoded).mp hslash
    refine ⟨pieces, fun cs hcs => isComponent_of_mem_encoded (l := l) ?_, by rw [url_eq, hencoded]⟩
    rw [hencoded]
    exact List.mem_append_left _ hcs
  · refine ⟨l.encoded, fun cs hcs => isComponent_of_mem_encoded hcs, ?_⟩
    rw [url_eq, Path.render, Path.render, List.flatMap_append, String.ofList_append, String.append_assoc]
    rfl

/-- It is that of the location, with an empty segment at the end. -/
theorem collectionUrl_eq (h : l.IsWritten) (hne : l.segments ≠ []) :
    l.collectionUrl = l.authority.baseUrl
      ++ String.ofList (Path.render (l.segments.map encodeComponent ++ [[]])) := by
  have hencoded : l.encoded = l.segments.map encodeComponent := if_neg hne
  have hlast : l.url.toList.getLast? ≠ some '/' := mt (getLast_url_of_nonempty h.nonempty).mp hne
  rw [collectionUrl, if_neg hlast, url_eq, hencoded, Path.render, Path.render, List.flatMap_append,
    String.ofList_append, String.append_assoc]
  rfl

/-- A request about a collection asks for a path with a slash at its end. -/
theorem getLast_path_of_parse (hhost : IsHostText l.authority.host.toList) {u : Url}
    (h : Url.parse l.collectionUrl = .ok u) : (Path.render (u.path.getD [])).getLast? = some '/' := by
  obtain ⟨pieces, hpieces, hurl⟩ := l.exists_collectionUrl_eq
  have hcomponents : ∀ cs ∈ pieces ++ [[]], IsComponent cs := by
    intro cs hcs
    rcases List.mem_append.mp hcs with hcs | hcs
    · exact hpieces cs hcs
    · rw [List.mem_singleton.mp hcs]
      exact nofun
  rw [hurl, Url.parse_baseUrl hhost (by simp) hcomponents] at h
  -- a text with a bad authority does not parse at all, so only the resolved path matters
  cases hauthority : Url.parseAuthority l.authority.protocol.httpScheme
    (Url.authorityText l.authority) true with
  | error e =>
    rw [hauthority] at h
    cases h
  | ok authority =>
    rw [hauthority] at h
    cases h
    obtain ⟨before, hbefore⟩ := List.getLast?_eq_some_iff.mp (Url.Path.getLast_resolve_concat_nil [] pieces)
    rw [Option.getD_some, hbefore, Path.render, List.flatMap_append, List.flatMap_singleton,
      List.getLast?_concat]

end Location

namespace Dav

/-- What a request of a location consists of. -/
theorem Request.eq_of_of {registry : Registry} {method : Method} {l : Location} {url : String}
    {body : List UInt8} {r : Request} (h : Request.of registry method l url body = .ok r) :
    ∃ u, Url.parse url = .ok u ∧
      r = ⟨method, u, (registry.find? l.authority).map basicAuthorization, body⟩ := by
  rw [Request.of] at h
  cases hread : Url.parse url with
  | error e =>
    rw [hread] at h
    cases h
  | ok u =>
    rw [hread] at h
    simp only at h
    split at h
    · cases h
      exact ⟨u, rfl, rfl⟩
    · cases h

/-- A request can be made about the location. -/
def Reachable (l : Location) : Prop := ∃ url, Url.parse l.url = .ok url ∧ isAddressable url = true

/-- Every request under the URL can be made, and is about the resource of the location. -/
def Reaches (l : Location) (url : String) : Prop :=
  ∀ registry method body, ∃ r, Request.of registry method l url body = .ok r ∧ r.method = method ∧
    r.body = body ∧ r.Addresses l.segments

/-- If a request can be addressed to a URL, one can be addressed to every shorter path behind the same
authority. -/
theorem isAddressable_of_shorter {url : Url} (h : isAddressable url = true) {segments : List (List Char)}
    (hshort : (String.ofList (Path.render segments)).utf8ByteSize ≤
      (String.ofList (Path.render (url.path.getD []))).utf8ByteSize) :
    isAddressable { url with path := some segments } = true := by
  simp only [isAddressable, Bool.and_eq_true, decide_eq_true_eq, Url.render, String.utf8ByteSize_append] at h ⊢
  refine ⟨h.1, Nat.le_trans ?_ h.2⟩
  exact Nat.add_le_add_left hshort _

/-- **What is read of a server does not depend on the path behind it**, and a shorter path can be asked for
if a longer one can. -/
theorem exists_addressable_of_shorter {a : Authority} (ha : IsHostText a.host.toList)
    {pieces pieces' : List (List Char)} (hne : pieces ≠ []) (h : ∀ cs ∈ pieces, IsSegment cs)
    (hne' : pieces' ≠ []) (h' : ∀ cs ∈ pieces', IsSegment cs) {url : Url}
    (hread : Url.parse (a.baseUrl ++ String.ofList (Path.render pieces)) = .ok url)
    (haddressable : isAddressable url = true)
    (hshort : (String.ofList (Path.render pieces')).utf8ByteSize ≤
      (String.ofList (Path.render pieces)).utf8ByteSize) :
    ∃ url', Url.parse (a.baseUrl ++ String.ofList (Path.render pieces')) = .ok url' ∧
      isAddressable url' = true ∧ url'.path = some pieces' := by
  rw [Url.parse_baseUrl_segments ha hne h] at hread
  -- the authority is the same text in both, so it parses for one exactly when it does for the other
  cases hauthority : Url.parseAuthority a.protocol.httpScheme (Url.authorityText a) true with
  | error e =>
    rw [hauthority] at hread
    cases hread
  | ok authority =>
    rw [hauthority] at hread
    cases hread
    refine ⟨_, ?_, isAddressable_of_shorter haddressable hshort, rfl⟩
    rw [Url.parse_baseUrl_segments ha hne' h', hauthority]
    rfl

section Reaching

variable {l far : Location} (hfar : far.IsWritten) (hreachable : Reachable far) (hl : l.IsWritten)
  (hauthority : l.authority = far.authority)
include hfar hreachable hl hauthority

/-- A URL that is no longer than that of a reachable location can be asked for. -/
theorem reaches_of_shorter {url : String} {pieces : List (List Char)}
    (hurl : url = l.authority.baseUrl ++ String.ofList (Path.render pieces)) (hne : pieces ≠ [])
    (hpieces : ∀ cs ∈ pieces, IsSegment cs)
    (hsegments : pieces = l.segments.map encodeComponent ∨ pieces = l.segments.map encodeComponent ++ [[]])
    (hshort : (String.ofList (Path.render pieces)).utf8ByteSize ≤
      (String.ofList (Path.render far.encoded)).utf8ByteSize) :
    Reaches l url := by
  obtain ⟨farUrl, hread, haddressable⟩ := hreachable
  rw [Location.url_eq] at hread
  -- whatever can be asked of the longer path can be asked of this one
  obtain ⟨url', hread', haddressable', hpath⟩ := exists_addressable_of_shorter hfar.host far.encoded_ne_nil
    hfar.isSegment_encoded hne hpieces hread haddressable hshort
  intro registry method body
  refine ⟨⟨method, url', (registry.find? l.authority).map basicAuthorization, body⟩, ?_, rfl, rfl,
    hl.nonempty, ?_⟩
  · rw [Request.of, hurl, hauthority, hread']
    exact if_pos haddressable'
  · rw [hpath]
    exact hsegments.imp (congrArg some) (congrArg some)

/-- So what can be asked about a location can be asked about every one that is not longer. -/
theorem reaches_url (hshort : (String.ofList (Path.render l.encoded)).utf8ByteSize ≤
    (String.ofList (Path.render far.encoded)).utf8ByteSize) : Reaches l l.url := by
  refine reaches_of_shorter hfar hreachable hl hauthority l.url_eq l.encoded_ne_nil
    hl.isSegment_encoded ?_ hshort
  rw [Location.encoded]
  split
  · next hnil =>
    rw [hnil]
    exact .inr rfl
  · exact .inl rfl

/-- The slash of a collection counts. -/
theorem reaches_collectionUrl (hne : l.segments ≠ [])
    (hshort : (String.ofList (writtenPath l.segments ++ ['/'])).utf8ByteSize ≤
      (String.ofList (Path.render far.encoded)).utf8ByteSize) : Reaches l l.collectionUrl := by
  have hrender : Path.render (l.segments.map encodeComponent ++ [[]]) = writtenPath l.segments ++ ['/'] :=
    List.flatMap_append
  have hpieces : ∀ cs ∈ l.segments.map encodeComponent ++ [[]], IsSegment cs := by
    intro cs hcs
    rcases List.mem_append.mp hcs with hcs | hcs
    · exact hl.isSegment cs hcs
    · rw [List.mem_singleton.mp hcs]
      exact Url.isSegment_nil
  refine reaches_of_shorter hfar hreachable hl hauthority (Location.collectionUrl_eq hl hne) (by simp) hpieces
    (.inr rfl) ?_
  rw [hrender]
  exact hshort

end Reaching

/-- Requests can be made about every level of a directory. -/
structure LevelsReached (l : Location) : Prop where
  url : ∀ p, p <+: l.segments → Reaches ⟨l.authority, p⟩ (Location.url ⟨l.authority, p⟩)
  collectionUrl : ∀ p, p <+: l.segments → p ≠ [] →
    Reaches ⟨l.authority, p⟩ (Location.collectionUrl ⟨l.authority, p⟩)

/-- A written path goes on with a slash. -/
theorem writtenPath_slash_prefix_append {p q : List String} (hq : q ≠ []) :
    writtenPath p ++ ['/'] <+: writtenPath (p ++ q) := by
  obtain ⟨name, rest, rfl⟩ := List.exists_cons_of_ne_nil hq
  refine ⟨encodeComponent name ++ writtenPath rest, ?_⟩
  rw [writtenPath_append, List.append_assoc]
  rfl

/-- Except at the root, the path as it is sent is the path as a server knows it. -/
theorem render_encoded {l : Location} (hne : l.segments ≠ []) :
    Path.render l.encoded = writtenPath l.segments := by
  rw [Location.encoded, if_neg hne]
  rfl

theorem render_encoded_prefix_slash (l : Location) :
    Path.render l.encoded <+: writtenPath l.segments ++ ['/'] := by
  rw [Location.encoded]
  split
  · next hnil =>
    rw [hnil]
    exact List.prefix_rfl
  · exact List.prefix_append _ _

/-- The levels of a directory are reached if a file in it is reachable. -/
theorem levelsReached_of_file {l file : Location} {name : String} (hauthority : l.authority = file.authority)
    (hsegments : file.segments = l.segments ++ [name]) (hfile : file.IsWritten) (hreachable : Reachable file) :
    LevelsReached l := by
  have hmem {p : List String} (hp : p <+: l.segments) : ∀ s ∈ p, s ∈ file.segments := by
    intro s hs
    rw [hsegments]
    exact List.mem_append_left _ (hp.subset hs)
  have hlevel {p : List String} (hp : p <+: l.segments) : (Location.mk l.authority p).IsWritten :=
    ⟨hauthority ▸ hfile.host, fun s hs => hfile.nonempty s (hmem hp s hs),
      fun s hs => hfile.noDots s (hmem hp s hs)⟩
  -- with a slash at its end, a level is written like the start of the file
  have hslash {p : List String} (hp : p <+: l.segments) :
      writtenPath p ++ ['/'] <+: Path.render file.encoded := by
    obtain ⟨q, hq⟩ := hp
    rw [render_encoded (by simp [hsegments]), hsegments, ← hq, List.append_assoc]
    exact writtenPath_slash_prefix_append (by simp)
  refine ⟨fun p hp => ?_, fun p hp hne => ?_⟩
  · refine reaches_url hfile hreachable (hlevel hp) hauthority (utf8ByteSize_mono ?_)
    exact (render_encoded_prefix_slash _).trans (hslash hp)
  · exact reaches_collectionUrl hfile hreachable (hlevel hp) hauthority hne (utf8ByteSize_mono (hslash hp))

end Dav

end BookmarkSync
