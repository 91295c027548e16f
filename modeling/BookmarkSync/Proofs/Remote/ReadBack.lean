import BookmarkSync.Proofs.Dav.Addressing
import BookmarkSync.Proofs.Url.PlainHost

/-!
# `BookmarkSync.Proofs.Remote.ReadBack` — the URL of a location is read back

The URL of a location can be configured as the address of a server again. What is read is the location: the
segments are encoded so that nothing in them means anything in a URL, whatever their texts are, and the server
is read as it was written.
-/

namespace BookmarkSync

open Text Text.Percent
open Url (LetterLabels authorityText)

/-! ## Nothing is trimmed -/

theorem not_isBlank_of_isPlain {c : Char} (h : Url.Path.isPlain c = true) : isBlank c = false := by
  have hblanks : ∀ r ∈ blanks, r.2 < 0x21 ∨ 0x7F ≤ r.1 := by decide
  simp only [Url.Path.isPlain, Bool.and_eq_true, decide_eq_true_eq] at h
  rw [isBlank, Ranges.hasChar, Ranges.has, List.any_eq_false]
  intro r hr
  have hfar := hblanks r hr
  simp only [Bool.and_eq_true, decide_eq_true_eq]
  omega

theorem isUnreserved_of_mem_toDigits {n : Nat} {c : Char} (h : c ∈ Nat.toDigits 10 n) :
    isUnreserved c = true := by
  have hdigit : c.isDigit = true := Nat.isDigit_of_mem_toDigits (by decide) (by decide) h
  simp [isUnreserved, Char.isAlphanum, hdigit]

theorem Protocol.ofScheme?_httpScheme (protocol : Protocol) :
    ofScheme? protocol.httpScheme = some protocol := by
  cases protocol
  · decide
  · decide

namespace Location

variable {l : Location} {labels : List (List Char)}

/-- The URL of a location consists of signs that stand for themselves. -/
theorem isPlain_of_mem_url (hlabels : LetterLabels labels)
    (hhost : l.authority.host.toList = joinWith ['.'] labels)
    {c : Char} (hc : c ∈ l.url.toList) : Url.Path.isPlain c = true := by
  have hunreserved {c : Char} (h : isUnreserved c = true) : Url.Path.isPlain c = true :=
    Url.Path.isPlain_of_isComponentChar (by rw [isComponentChar, h, Bool.true_or])
  rw [url_eq, String.toList_append, Url.toList_baseUrl, String.toList_ofList, List.append_assoc] at hc
  -- scheme, separators, host, port and path, in the order in which the URL is written
  rcases List.mem_append.mp hc with hc | hc
  · have hscheme : ∀ d ∈ l.authority.protocol.httpScheme.toList, Url.Path.isPlain d = true := by
      cases l.authority.protocol
      · exact List.all_eq_true.mp (by decide)
      · exact List.all_eq_true.mp (by decide)
    exact hscheme c hc
  simp only [List.cons_append, List.mem_cons, List.mem_append, authorityText] at hc
  rcases hc with rfl | rfl | rfl | (hc | hc) | hc
  · decide
  · decide
  · decide
  · exact hunreserved (hlabels.isUnreserved_of_mem (hhost ▸ hc))
  · split at hc
    · cases hc
    rcases List.mem_cons.mp hc with rfl | hc
    · decide
    · exact hunreserved (isUnreserved_of_mem_toDigits hc)
  · obtain ⟨piece, hpiece, hc⟩ := List.mem_flatMap.mp hc
    rcases List.mem_cons.mp hc with rfl | hc
    · decide
    · exact Url.Path.isPlain_of_isComponentChar (isComponent_of_mem_encoded hpiece c hc)

/-! ## What is read -/

/-- The pieces of the path, decoded one by one, are the segments. -/
theorem mapM_decodeSegment_encoded (hnonempty : ∀ s ∈ l.segments, s ≠ "") :
    (l.encoded.filter (!·.isEmpty)).mapM Endpoint.decodeSegment = .ok (l.segments.map String.toList) := by
  have hkept : l.encoded.filter (!·.isEmpty) = l.segments.map encodeComponent := by
    rw [encoded]
    split
    · next hnil =>
      rw [hnil]
      rfl
    · refine List.filter_eq_self.mpr fun cs hcs => ?_
      obtain ⟨s, hs, rfl⟩ := List.mem_map.mp hcs
      have hne : s.toList ≠ [] := fun hnil => hnonempty s hs (String.toList_eq_nil_iff.mp hnil)
      rw [encodeComponent, List.isEmpty_eq_false_iff.mpr (encode_ne_nil hne), Bool.not_false]
  rw [hkept, List.mapM_map]
  refine mapM_eq_pure fun s hs => ?_
  exact Endpoint.decodeSegment_eq_ok_iff.mpr (decodeText_encodeComponent s ▸ Utf8.decode?_encode s.toList)

theorem baseSegments_encoded (hnonempty : ∀ s ∈ l.segments, s ≠ "") {u : Url}
    (hpath : u.path = some l.encoded) :
    Endpoint.baseSegments u = .ok (l.segments.map String.toList) := by
  rw [Endpoint.baseSegments, hpath, Option.getD_some, mapM_decodeSegment_encoded hnonempty]

/-- **The URL of a location is read as its server and its segments.** -/
theorem parse_url (h : l.IsWritten) (hlabels : LetterLabels labels)
    (hhost : l.authority.host.toList = joinWith ['.'] labels) :
    Endpoint.parse l.url l.authority.username =
      .ok ⟨l.authority, String.ofList (joinWith ['/'] (l.segments.map String.toList))⟩ := by
  have htrim : trim l.url = l.url := by
    rw [trim, strip_of_none fun c hc => not_isBlank_of_isPlain (isPlain_of_mem_url hlabels hhost hc),
      String.ofList_toList]
  have hurl := Url.parse_baseUrl_segments h.host l.encoded_ne_nil h.isSegment_encoded
  rw [← url_eq, Url.parseAuthority_authorityText hlabels hhost] at hurl
  refine Endpoint.parse_eq_ok_iff.mpr ⟨_, l.authority.protocol, .name l.authority.host, _,
    htrim ▸ hurl, ?_, rfl, baseSegments_encoded h.nonempty rfl, ?_⟩
  · exact Protocol.ofScheme?_httpScheme _
  · -- a port is written only if it is not the default one, and comes back either way
    have hport : ((if l.authority.port = l.authority.protocol.defaultPort then none
        else some l.authority.port.toNat).map UInt16.ofNat).getD l.authority.protocol.defaultPort
        = l.authority.port := by
      split
      · next hdefault => exact hdefault.symm
      · exact UInt16.ofNat_toNat
    simp only [hport]
    rfl

/-! ## Locations below the top of a server -/

theorem authority_foldl_resolve (l : Location) (texts : List String) :
    (texts.foldl resolve l).authority = l.authority := by
  induction texts generalizing l with
  | nil => rfl
  | cons text texts ih => exact ih (l.resolve text)

theorem segments_foldl_resolve (l : Location) (texts : List String) :
    (texts.foldl resolve l).segments = l.segments ++ texts.flatMap pieces := by
  induction texts generalizing l with
  | nil => exact (List.append_nil _).symm
  | cons text texts ih =>
    rw [List.foldl_cons, ih, resolve, List.append_assoc, List.flatMap_cons]

/-- **The URL of a location that is reached from the top of a server is read back**, with the same server and
the same segments, if the host consists of labels of lower-case letters and no segment consists of one or two
dots. -/
theorem url_reads_back (a : Authority) (labels : List (List Char)) (texts : List String)
    (hlabels : LetterLabels labels) (hhost : a.host = String.ofList (joinWith ['.'] labels))
    (hdots : ∀ s ∈ (texts.foldl resolve (root a)).segments, s ≠ "." ∧ s ≠ "..") :
    let l := texts.foldl resolve (root a)
    ∃ e, Endpoint.parse l.url a.username = .ok e ∧ e.authority = a ∧
      e.basePath = String.ofList (joinWith ['/'] (l.segments.map String.toList)) ∧ e.syncDir "" = l := by
  intro l
  have hauthority : l.authority = a := authority_foldl_resolve _ texts
  have hsegments : l.segments = texts.flatMap pieces := segments_foldl_resolve _ texts
  have hpiece : ∀ s ∈ l.segments, s ≠ "" ∧ '/' ∉ s.toList := by
    intro s hs
    rw [hsegments] at hs
    obtain ⟨text, -, hs⟩ := List.mem_flatMap.mp hs
    exact ⟨ne_empty_of_mem_pieces hs, not_slash_of_mem_pieces hs⟩
  have hchars : l.authority.host.toList = joinWith ['.'] labels := by
    rw [hauthority, hhost, String.toList_ofList]
  have hwritten : l.IsWritten := ⟨hchars ▸ hlabels.isHostText, fun s hs => (hpiece s hs).1, hdots⟩
  have hparse := parse_url hwritten hlabels hchars
  rw [hauthority] at hparse
  -- the base path joins the segments by slashes, and no segment has one of its own
  have hkept : pieces (String.ofList (joinWith ['/'] (l.segments.map String.toList))) = l.segments := by
    have hback : (l.segments.map String.toList).map String.ofList = l.segments := by
      have hid : String.ofList ∘ String.toList = id := funext fun _ => String.ofList_toList
      rw [List.map_map, hid, List.map_id]
    refine ((pieces_joinWith_eq_iff ?_).mpr ?_).trans hback
    · intro cs hcs
      obtain ⟨s, hs, rfl⟩ := List.mem_map.mp hcs
      exact fun hnil => (hpiece s hs).1 (String.toList_eq_nil_iff.mp hnil)
    · intro cs hcs
      obtain ⟨s, hs, rfl⟩ := List.mem_map.mp hcs
      exact (hpiece s hs).2
  refine ⟨_, hparse, rfl, rfl, ?_⟩
  calc Endpoint.syncDir ⟨a, String.ofList (joinWith ['/'] (l.segments.map String.toList))⟩ ""
    _ = ⟨a, pieces (String.ofList (joinWith ['/'] (l.segments.map String.toList)))⟩ :=
      congrArg (Location.mk a) (Endpoint.segments_syncDir_empty _)
    _ = l := by rw [hkept, ← hauthority]

/-- Signs that mean something in URLs, and a text that looks as if it were encoded. -/
theorem url_reads_back_awkward :
    let a : Authority := ⟨.davs, "nas.local", 5006, "alice"⟩
    let l : Location := ⟨a, ["My Sync", "100%", "a?b#c\\d", "%2F", "ä\t"]⟩
    ∃ e, Endpoint.parse l.url "alice" = .ok e ∧ e.authority = a ∧
      e.basePath = "My Sync/100%/a?b#c\\d/%2F/ä\t" ∧ e.syncDir "" = l :=
  url_reads_back ⟨.davs, "nas.local", 5006, "alice"⟩ ["nas".toList, "local".toList]
    ["/My Sync/", "100%//a?b#c\\d", "%2F/ä\t"] ⟨by decide, by decide, by simp⟩ rfl (by decide)

end Location

end BookmarkSync
