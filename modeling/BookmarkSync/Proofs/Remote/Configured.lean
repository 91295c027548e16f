import BookmarkSync.Proofs.Url.Reading

/-!
# `BookmarkSync.Proofs.Remote.Configured` — the configured address of a server

A configured address is a URL with a host (`parse_eq_ok_iff`). Its path is kept as one text in which the
segments are joined with slashes, and cut at the slashes again when it is used. So the segments come back one
for one, but for those in which a slash stands encoded.
-/

namespace BookmarkSync

open Text

namespace Location

theorem ne_empty_of_mem_pieces {text s : String} (h : s ∈ pieces text) : s ≠ "" := by
  obtain ⟨cs, hcs, rfl⟩ := List.mem_map.mp h
  intro hempty
  rw [String.ofList_eq_empty_iff.mp hempty] at hcs
  exact absurd (List.mem_filter.mp hcs).2 (by decide)

theorem not_slash_of_mem_pieces {text s : String} (h : s ∈ pieces text) : '/' ∉ s.toList := by
  obtain ⟨cs, hcs, rfl⟩ := List.mem_map.mp h
  rw [String.toList_ofList]
  intro hslash
  exact of_decide_eq_false (of_mem_splitWhere (List.mem_filter.mp hcs).1 '/' hslash) rfl

/-- A nonempty text without a slash is one piece. -/
theorem pieces_of_not_slash {cs : List Char} (hne : cs ≠ []) (hslash : '/' ∉ cs) :
    pieces (String.ofList cs) = [String.ofList cs] := by
  have hsplit : splitSlashes cs = [cs] :=
    splitWhere_of_none fun c hc => decide_eq_false fun heq => hslash (heq ▸ hc)
  have hkept : (!cs.isEmpty) = true := by rw [List.isEmpty_eq_false_iff.mpr hne, Bool.not_false]
  rw [pieces, String.toList_ofList, hsplit, List.filter_cons, if_pos hkept, List.filter_nil, List.map_singleton]

/-- The pieces of segments that are joined with slashes are the pieces of the segments. -/
theorem pieces_joinWith (segments : List (List Char)) :
    pieces (String.ofList (joinWith ['/'] segments))
      = segments.flatMap fun cs => pieces (String.ofList cs) := by
  by_cases hne : segments = []
  · subst hne
    rfl
  · simp only [pieces, String.toList_ofList, splitSlashes]
    rw [splitWhere_joinWith rfl hne, List.filter_flatMap, List.map_flatMap]

/-- Nonempty segments come back one for one exactly if none of them has a slash in it. -/
theorem pieces_joinWith_eq_iff {segments : List (List Char)} (hne : ∀ cs ∈ segments, cs ≠ []) :
    pieces (String.ofList (joinWith ['/'] segments)) = segments.map String.ofList ↔
      ∀ cs ∈ segments, '/' ∉ cs := by
  constructor
  · intro heq cs hcs
    have hpiece : String.ofList cs ∈ pieces (String.ofList (joinWith ['/'] segments)) :=
      heq ▸ List.mem_map_of_mem hcs
    have hslash := not_slash_of_mem_pieces hpiece
    rwa [String.toList_ofList] at hslash
  · intro hslash
    rw [pieces_joinWith, List.flatMap_def,
      List.map_congr_left fun cs hcs => pieces_of_not_slash (hne cs hcs) (hslash cs hcs), ← List.flatMap_def,
      ← List.map_eq_flatMap]

end Location

namespace Endpoint

variable {url username : String} {e : Endpoint}

/-- What a usable address is, and what is read from it. -/
theorem parse_eq_ok_iff : parse url username = .ok e ↔ ∃ u protocol host segments,
    Url.parse (trim url) = .ok u ∧ Protocol.ofScheme? u.scheme = some protocol ∧ u.host = some host ∧
    baseSegments u = .ok segments ∧
    e = ⟨⟨protocol, host.render, (u.port.map UInt16.ofNat).getD protocol.defaultPort, username⟩,
      String.ofList (joinWith ['/'] segments)⟩ := by
  constructor
  · intro h
    -- each step of the reader has to succeed, and none of them changes what an earlier one found
    obtain ⟨u, hurl, h⟩ := bind_eq_ok.mp h
    obtain ⟨protocol, hprotocol, h⟩ := bind_eq_ok.mp h
    obtain ⟨host, hhost, h⟩ := bind_eq_ok.mp h
    obtain ⟨segments, hsegments, h⟩ := bind_eq_ok.mp h
    cases h
    refine ⟨u, protocol, host, segments, ?_, ?_, ?_, hsegments, rfl⟩
    · cases hread : Url.parse (trim url) with
      | error e => rw [hread] at hurl; cases hurl
      | ok u' => rw [hread] at hurl; cases hurl; rfl
    · cases hread : Protocol.ofScheme? u.scheme with
      | none => rw [hread] at hprotocol; cases hprotocol
      | some protocol' => rw [hread] at hprotocol; cases hprotocol; rfl
    · cases hread : u.host with
      | none => rw [hread] at hhost; cases hhost
      | some host' => rw [hread] at hhost; cases hhost; rfl
  · rintro ⟨u, protocol, host, segments, hurl, hprotocol, hhost, hsegments, rfl⟩
    rw [parse, hurl]
    simp only [Except.mapError, hprotocol, hhost, hsegments, Option.elim_some, bind, Except.bind]
    rfl

/-- The host of a configured address can be put into a URL. -/
theorem isHostText_of_parse (h : parse url username = .ok e) : Url.IsHostText e.authority.host.toList := by
  obtain ⟨u, protocol, host, segments, hurl, -, hhost, -, rfl⟩ := parse_eq_ok_iff.mp h
  exact Url.isHostText_of_parse hurl hhost

/-! ## Segments -/

theorem decodeSegment_eq_ok_iff {cs ds : List Char} :
    decodeSegment cs = .ok ds ↔ Utf8.decode? (Percent.decodeText cs) = some ds := by
  simp only [decodeSegment]
  cases Utf8.decode? (Percent.decodeText cs) with
  | none => exact iff_of_false nofun nofun
  | some ds' => rw [Except.ok.injEq, Option.some.injEq]

/-- A segment that is not empty stands for a text that is not empty. -/
theorem ne_nil_of_decodeSegment {cs ds : List Char} (h : decodeSegment cs = .ok ds) (hne : cs ≠ []) :
    ds ≠ [] := by
  rintro rfl
  exact hne (Utf8.encode_eq_nil (Percent.decode_eq_nil (Utf8.eq_nil_of_decode? (decodeSegment_eq_ok_iff.mp h))))

theorem segments_syncDir_empty (e : Endpoint) : (e.syncDir "").segments = Location.pieces e.basePath :=
  List.append_nil _

/-- **The segments of a configured address.** The directory of the sync files is reached by the segments of
the URL, each decoded and then cut at its slashes. So it is the one that the URL names, segment for segment,
exactly if no slash stands encoded in the URL. -/
theorem segments_of_configured (h : parse url username = .ok e) : ∃ u segments, Url.parse (trim url) = .ok u ∧
    List.Forall₂ (fun written segment => Utf8.decode? (Percent.decodeText written) = some segment)
      ((u.path.getD []).filter (!·.isEmpty)) segments ∧
    (e.syncDir "").segments = segments.flatMap (fun segment => Location.pieces (String.ofList segment)) ∧
    ((e.syncDir "").segments = segments.map String.ofList ↔ ∀ segment ∈ segments, '/' ∉ segment) := by
  obtain ⟨u, protocol, host, segments, hurl, -, -, hsegments, rfl⟩ := parse_eq_ok_iff.mp h
  rw [baseSegments, mapM_eq_ok_iff] at hsegments
  -- empty segments are dropped before decoding, and nothing else decodes to one
  have hne : ∀ segment ∈ segments, segment ≠ [] := by
    intro segment hsegment
    obtain ⟨written, hwritten, hdecode⟩ := exists_of_forall₂ hsegments hsegment
    refine ne_nil_of_decodeSegment hdecode fun hnil => ?_
    rw [hnil] at hwritten
    exact absurd (List.mem_filter.mp hwritten).2 (by decide)
  refine ⟨u, segments, hurl, hsegments.imp fun _ _ => decodeSegment_eq_ok_iff.mp, ?_, ?_⟩
  · rw [segments_syncDir_empty]
    exact Location.pieces_joinWith segments
  · rw [segments_syncDir_empty]
    exact Location.pieces_joinWith_eq_iff hne

/-- A space that stands encoded in the URL does not part segments. -/
theorem segments_of_configured_space : ∃ u segments,
    Url.parse (trim "https://h/remote.php/My%20Files/") = .ok u ∧
    List.Forall₂ (fun written segment => Utf8.decode? (Percent.decodeText written) = some segment)
      ((u.path.getD []).filter (!·.isEmpty)) segments ∧
    ["remote.php", "My Files"] = segments.flatMap fun segment => Location.pieces (String.ofList segment) := by
  have hparse : parse "https://h/remote.php/My%20Files/" ""
      = .ok ⟨⟨.davs, "h", 443, ""⟩, "remote.php/My Files"⟩ := by
    decide +kernel
  obtain ⟨u, segments, hurl, hsegments, hpieces, -⟩ := segments_of_configured hparse
  have hdirectory : (syncDir ⟨⟨.davs, "h", 443, ""⟩, "remote.php/My Files"⟩ "").segments
      = ["remote.php", "My Files"] := by decide
  exact ⟨u, segments, hurl, hsegments, hdirectory ▸ hpieces⟩

/-- A slash that stands encoded in the URL cuts a segment in two. -/
theorem not_segments_always_kept :
    ¬ ∀ (url username : String) (e : Endpoint) (u : Url) (segments : List (List Char)),
    parse url username = .ok e → Url.parse (trim url) = .ok u → baseSegments u = .ok segments →
    (e.syncDir "").segments = segments.map String.ofList := by
  intro hkept
  have hsegments := hkept "http://h/a%2Fb" "" ⟨⟨.dav, "h", 80, ""⟩, "a/b"⟩
    ⟨"http", some (.name "h"), none, some ["a%2Fb".toList]⟩ ["a/b".toList] (by decide +kernel)
      (by decide +kernel)
    (by decide +kernel)
  revert hsegments
  decide

end Endpoint

end BookmarkSync
