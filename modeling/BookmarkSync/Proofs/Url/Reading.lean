import BookmarkSync.Proofs.Url.HostText
import BookmarkSync.Remote.Location
import Mathlib.Data.Bool.AllAny
import Mathlib.Data.List.TakeDrop
import Mathlib.Data.List.TakeWhile

/-!
# `BookmarkSync.Proofs.Url.Reading` — reading the URL of a location

The URL of a location is its server, written as a URL, and the encoded segments behind it. When it is read
again, the segments are the path, but for dots among them, and what is read before them does not depend on them
(`parse_baseUrl`).
-/

namespace BookmarkSync

open Text Text.Percent

namespace Url

/-! ## Paths -/

/-- A segment that stands in a path as it is, and for itself. -/
structure IsSegment (cs : List Char) : Prop where
  component : IsComponent cs
  noDot : Path.isDots 1 cs = false
  noDots : Path.isDots 2 cs = false

/-- An empty segment stays as it is. -/
theorem isSegment_nil : IsSegment [] := ⟨nofun, rfl, rfl⟩

/-- A name that is no dot segment is a segment when it is encoded, and is not taken for one. -/
theorem isSegment_encodeComponent {s : String} (hdot : s ≠ ".") (hdots : s ≠ "..") :
    IsSegment (encodeComponent s) where
  component := isComponent_encodeComponent s
  noDot := Path.isDots_encodeComponent hdot
  noDots := Path.isDots_encodeComponent hdots

/-- Components have neither slashes nor backslashes. -/
theorem isSlash_of_isComponent {cs : List Char} (h : IsComponent cs) (special : Bool) :
    ∀ c ∈ cs, isSlash special c = false := by
  intro c hc
  have hcomponent := h c hc
  rw [isSlash, Bool.or_eq_false_iff, Bool.and_eq_false_iff, decide_eq_false_iff_not, decide_eq_false_iff_not]
  refine ⟨?_, .inr ?_⟩
  all_goals
    rintro rfl
    exact absurd hcomponent (by decide)

namespace Path

/-- Segments that are not dots are kept in order. -/
theorem resolve_segments {before segments : List (List Char)} (h : ∀ cs ∈ segments, IsSegment cs) :
    resolve before segments = before.reverse ++ segments := by
  fun_induction resolve before segments with
  | case1 => rw [List.append_nil]
  | case2 before s hdots => exact absurd hdots (by simp [(h s (.head _)).noDots])
  | case3 before s _ hdot => exact absurd hdot (by simp [(h s (.head _)).noDot])
  | case4 before s => rw [List.reverse_cons]
  | case5 before s ss _ hdots => exact absurd hdots (by simp [(h s (.head _)).noDots])
  | case6 before s ss _ _ hdot => exact absurd hdot (by simp [(h s (.head _)).noDot])
  | case7 before s ss _ _ _ ih =>
    rw [ih fun cs hcs => h cs (.tail _ hcs), List.reverse_cons, List.append_assoc]
    rfl

/-- A path that is written is cut into its segments again. -/
theorem splitWhere_render {special : Bool} {first : List Char} {rest : List (List Char)}
    (h : ∀ cs ∈ first :: rest, IsComponent cs) :
    splitWhere (isSlash special) (first ++ render rest) = first :: rest := by
  induction rest generalizing first with
  | nil =>
    rw [render, List.flatMap_nil, List.append_nil]
    exact splitWhere_of_none (isSlash_of_isComponent (h first (.head _)) special)
  | cons second rest ih =>
    have hslash : isSlash special '/' = true := rfl
    rw [render, List.flatMap_cons, ← render, List.cons_append, splitWhere_append hslash,
      splitWhere_of_none (isSlash_of_isComponent (h first (.head _)) special),
      ih fun cs hcs => h cs (.tail _ hcs), List.singleton_append]

/-- **A rendered path is read as its segments**, with the dots among them resolved. -/
theorem parse_render {special : Bool} {first : List Char} {rest : List (List Char)}
    (h : ∀ cs ∈ first :: rest, IsComponent cs) :
    parse (isSlash special) (first ++ render rest) = resolve [] (first :: rest) := by
  have hencode : (first :: rest).map encodeSegment = first :: rest := by
    rw [List.map_congr_left fun cs hcs => encodeSegment_of_isComponent (h cs hcs), List.map_id']
  rw [parse, splitWhere_render h, hencode]

/-- An empty segment at the end stays there, and everything before it is resolved. -/
theorem getLast_resolve_concat_nil (before segments : List (List Char)) :
    (resolve before (segments ++ [[]])).getLast? = some [] := by
  induction segments generalizing before with
  | nil => simp [resolve, isDots]
  | cons s segments ih =>
    rw [List.cons_append, resolve]
    · split
      · exact ih _
      split
      · exact ih _
      · exact ih _
    · simp

end Path

/-! ## Authorities -/

/-- No character of a host ends the authority. -/
theorem isHostChar_ends {c : Char} (h : isHostChar c = true) (special : Bool) :
    endsAuthority special c = false := by
  rw [isHostChar, Bool.and_eq_true, Bool.not_eq_true'] at h
  have hnot : ∀ d ∈ "/\\?#".toList, c ≠ d := by
    rintro d hd rfl
    rw [List.contains_iff_mem.mpr hd] at h
    cases h.2
  simp only [endsAuthority, isSlash, Bool.or_eq_false_iff, Bool.and_eq_false_iff, decide_eq_false_iff_not]
  exact ⟨⟨⟨hnot '/' (by decide), .inr (hnot '\\' (by decide))⟩, hnot '?' (by decide)⟩, hnot '#' (by decide)⟩

/-- Nothing is lost between a host and what follows it. -/
theorem spanHost_append (inside : Bool) (cs : List Char) :
    (spanHost inside cs).1 ++ (spanHost inside cs).2 = cs := by
  fun_induction spanHost inside cs with
  | case1 => rfl
  | case2 => rfl
  | case3 inside c rest _ host rest' heq ih =>
    rw [heq] at ih
    exact congrArg (c :: ·) ih

/-- What is left without the login was there with it. -/
theorem mem_of_splitLastAt {cs before after : List Char} (h : splitLastAt? cs = some (before, after)) :
    ∀ c ∈ after, c ∈ cs := by
  unfold splitLastAt? at h
  rw [List.span_eq_takeWhile_dropWhile] at h
  split at h
  · next after' _ _ heq =>
    obtain ⟨rfl, -⟩ := Prod.mk.inj heq
    cases h
    intro c hc
    exact List.mem_reverse.mp (List.takeWhile_subset _ (List.mem_reverse.mp hc))
  · cases h

/-- Without a backslash nothing is left over behind an authority. -/
theorem left_of_hostAndPort {scheme : String} {cs : List Char} {a : Authority}
    (hread : hostAndPort scheme cs = .ok a) (h : '\\' ∉ cs) : a.left = [] := by
  -- only a backslash can end the port early
  have hport : ∀ c ∈ (spanHost false cs).2.drop 1, (c != '\\') = true := by
    intro c hc
    have hmem : c ∈ cs := by
      rw [← spanHost_append false cs]
      exact List.mem_append_right _ (List.mem_of_mem_drop hc)
    exact bne_iff_ne.mpr fun heq => h (heq ▸ hmem)
  simp only [hostAndPort] at hread
  split at hread
  · cases hread
  split at hread
  all_goals
    obtain ⟨host, -, hread⟩ := bind_eq_ok.mp hread
    obtain ⟨port, -, hread⟩ := bind_eq_ok.mp hread
    cases hread
    rw [List.span_eq_takeWhile_dropWhile]
    exact List.dropWhile_eq_nil_iff.mpr hport

/-- Without a backslash nothing of the authority is taken for the path. -/
theorem left_of_parseAuthority {scheme : String} {cs : List Char} {more : Bool} {a : Authority}
    (hread : parseAuthority scheme cs more = .ok a) (h : '\\' ∉ cs) : a.left = [] := by
  unfold parseAuthority at hread
  split at hread
  · exact left_of_hostAndPort hread h
  next credentials rest hsplit =>
  split at hread
  · cases hread
  obtain ⟨authority, hparse, hread⟩ := bind_eq_ok.mp hread
  split at hread
  · cases hread
  · cases hread
    exact left_of_hostAndPort hparse fun hmem => h (mem_of_splitLastAt hsplit _ hmem)

/-! ## Whole URLs -/

/-- In a text without spaces and controls every character counts. -/
theorem significant_of_visible {s : String} (h : ∀ c ∈ s.toList, 0x20 < c.toNat) :
    significant s = s.toList := by
  have hstrip : strip (fun c => decide (c.toNat ≤ 0x20)) s.toList = s.toList :=
    strip_of_none fun c hc => decide_eq_false (Nat.not_le.mpr (h c hc))
  rw [significant, hstrip, List.filter_eq_self]
  intro c hc
  have hcode := h c hc
  have hnot : ∀ d ∈ ['\t', '\n', '\r'], (c != d) = true := by
    intro d hd
    refine bne_iff_ne.mpr ?_
    rintro rfl
    have hcodes : c.toNat ∈ [9, 10, 13] := List.mem_map_of_mem hd
    simp only [List.mem_cons, List.not_mem_nil, or_false] at hcodes
    omega
  rw [hnot '\t' (by decide), hnot '\n' (by decide), hnot '\r' (by decide)]
  rfl

/-- The scheme of a protocol is read back, and is a special one. -/
theorem scanScheme_httpScheme (protocol : Protocol) (rest : List Char) :
    scanScheme? (protocol.httpScheme.toList ++ ':' :: rest) = some (protocol.httpScheme, rest) := by
  cases protocol
  · rfl
  · rfl

theorem isSpecial_httpScheme (protocol : Protocol) : isSpecial protocol.httpScheme = true := by
  cases protocol
  · rfl
  · rfl

/-- A path is made of slashes and of characters that a host could hold, so nothing in it is skipped. -/
theorem isHostChar_of_mem_render {pieces : List (List Char)} (h : ∀ cs ∈ pieces, IsComponent cs) {c : Char}
    (hc : c ∈ Path.render pieces) : isHostChar c = true ∨ c = '/' := by
  obtain ⟨piece, hpiece, hc⟩ := List.mem_flatMap.mp hc
  rcases List.mem_cons.mp hc with rfl | hc
  · exact .inr rfl
  · exact .inl (isHostChar_of_isComponentChar (h piece hpiece c hc))

/-- A path behind an authority is read as its segments. -/
theorem pathAfterAuthority_render {special : Bool} {pieces : List (List Char)} (hne : pieces ≠ [])
    (h : ∀ cs ∈ pieces, IsComponent cs) :
    pathAfterAuthority special (Path.render pieces) = some (Path.resolve [] pieces) := by
  obtain ⟨first, rest, rfl⟩ := List.exists_cons_of_ne_nil hne
  have huntil : untilQuery (Path.render (first :: rest)) = Path.render (first :: rest) := by
    refine List.takeWhile_eq_self_iff.mpr fun c hc => ?_
    rcases isHostChar_of_mem_render h hc with hchar | rfl
    · have hends := isHostChar_ends hchar true
      simp only [endsAuthority, Bool.or_eq_false_iff, decide_eq_false_iff_not] at hends
      rw [bne_iff_ne.mpr hends.1.2, bne_iff_ne.mpr hends.2]
      rfl
    · rfl
  rw [pathAfterAuthority, huntil]
  show some (Path.parse (isSlash special) (first ++ Path.render rest)) = some (Path.resolve [] (first :: rest))
  rw [Path.parse_render h]

/-- What the URL of a server holds between the two slashes and the path. -/
def authorityText (a : BookmarkSync.Authority) : List Char :=
  a.host.toList ++ if a.port = a.protocol.defaultPort then [] else ':' :: Nat.toDigits 10 a.port.toNat

/-- The base of a URL is its scheme, two slashes, the host, and the port if it is written. -/
theorem toList_baseUrl (a : BookmarkSync.Authority) :
    a.baseUrl.toList = a.protocol.httpScheme.toList ++ ':' :: '/' :: '/' :: authorityText a := by
  simp only [BookmarkSync.Authority.baseUrl, authorityText]
  split
  · simp
  · simp
    rfl

/-- A host stays text of a host when a port is written behind it. -/
theorem isHostText_authorityText {a : BookmarkSync.Authority} (h : IsHostText a.host.toList) :
    IsHostText (authorityText a) := by
  refine ⟨List.append_ne_nil_of_left_ne_nil h.nonempty _, fun c hc => ?_⟩
  rcases List.mem_append.mp hc with hc | hc
  · exact h.chars c hc
  split at hc
  · cases hc
  rcases List.mem_cons.mp hc with rfl | hc
  · decide
  · exact isHostChar_toDigits (by decide) (by decide) c hc

/-- No character of a host is trimmed from the ends of a URL. -/
theorem isHostChar_visible {c : Char} (h : isHostChar c = true) : 0x20 < c.toNat := by
  rw [isHostChar, Bool.and_eq_true, decide_eq_true_eq] at h
  exact h.1

/-- After the slashes of a special URL: the authority is what stands before the path. -/
theorem afterSlashes_render {scheme : String} (hspecial : isSpecial scheme = true) {cs : List Char}
    (hcs : ∀ c ∈ cs, isHostChar c = true) {pieces : List (List Char)} (hne : pieces ≠ [])
    (h : ∀ cs ∈ pieces, IsComponent cs) :
    afterSlashes scheme (cs ++ Path.render pieces) =
      (parseAuthority scheme cs true).map fun x => ⟨scheme, x.host, x.port, some (Path.resolve [] pieces)⟩ := by
  -- the authority ends where the path begins, since no character of a host ends it
  have hspan : (cs ++ Path.render pieces).span (!endsAuthority true ·) = (cs, Path.render pieces) := by
    have hinside : ∀ c ∈ cs, (!endsAuthority true c) = true := by
      intro c hc
      rw [isHostChar_ends (hcs c hc)]
      rfl
    obtain ⟨first, rest, rfl⟩ := List.exists_cons_of_ne_nil hne
    rw [List.span_eq_takeWhile_dropWhile, List.takeWhile_append_of_pos hinside,
      List.dropWhile_append_of_pos hinside]
    simp [Path.render, endsAuthority, isSlash]
  have hmore : (!(Path.render pieces).isEmpty) = true := by
    obtain ⟨first, rest, rfl⟩ := List.exists_cons_of_ne_nil hne
    rfl
  have hbackslash : '\\' ∉ cs := fun hmem => absurd (hcs _ hmem) (by decide)
  rw [afterSlashes, hspecial]
  simp only [hspan, hmore]
  cases hread : parseAuthority scheme cs true with
  | error e => rfl
  | ok authority =>
    have hleft := left_of_parseAuthority hread hbackslash
    obtain ⟨host, port, left⟩ := authority
    obtain rfl : left = [] := hleft
    show Except.ok (Url.mk scheme host port (pathAfterAuthority true (Path.render pieces))) = _
    rw [pathAfterAuthority_render hne h]
    rfl

/-- **Reading a URL that starts with a server.** What is read before the path does not depend on the path. -/
theorem parse_baseUrl {a : BookmarkSync.Authority} (ha : IsHostText a.host.toList) {pieces : List (List Char)}
    (hne : pieces ≠ []) (h : ∀ cs ∈ pieces, IsComponent cs) :
    parse (a.baseUrl ++ String.ofList (Path.render pieces)) =
      (parseAuthority a.protocol.httpScheme (authorityText a) true).map fun x =>
        ⟨a.protocol.httpScheme, x.host, x.port, some (Path.resolve [] pieces)⟩ := by
  have haddress := isHostText_authorityText ha
  have htext : (a.baseUrl ++ String.ofList (Path.render pieces)).toList = a.protocol.httpScheme.toList ++
      ':' :: '/' :: '/' :: (authorityText a ++ Path.render pieces) := by
    simp only [String.toList_append, toList_baseUrl, String.toList_ofList, List.append_assoc, List.cons_append]
  -- nothing in the text is trimmed or skipped
  have hvisible : ∀ c ∈ (a.baseUrl ++ String.ofList (Path.render pieces)).toList, 0x20 < c.toNat := by
    intro c hc
    rw [htext] at hc
    rcases List.mem_append.mp hc with hc | hc
    · have hscheme : ∀ d ∈ a.protocol.httpScheme.toList, 0x20 < d.toNat := by
        cases a.protocol
        · exact List.all_iff_forall_prop.mp (by decide)
        · exact List.all_iff_forall_prop.mp (by decide)
      exact hscheme c hc
    simp only [List.mem_cons, List.mem_append] at hc
    rcases hc with rfl | rfl | rfl | hc | hc
    · decide
    · decide
    · decide
    · exact isHostChar_visible (haddress.chars c hc)
    · rcases isHostChar_of_mem_render h hc with hchar | rfl
      · exact isHostChar_visible hchar
      · decide
  -- exactly the two slashes before the authority are dropped
  have hslashes : ('/' :: '/' :: (authorityText a ++ Path.render pieces)).dropWhile (isSlash true) =
      authorityText a ++ Path.render pieces := by
    obtain ⟨first, rest, hfirst⟩ := List.exists_cons_of_ne_nil haddress.nonempty
    have hnot := isHostChar_ends (haddress.chars first (hfirst ▸ .head _)) true
    simp only [endsAuthority, Bool.or_eq_false_iff] at hnot
    have hslash : isSlash true '/' = true := rfl
    rw [hfirst, List.cons_append, List.dropWhile_cons_of_pos hslash, List.dropWhile_cons_of_pos hslash,
      List.dropWhile_cons_of_neg (Bool.eq_false_iff.mp hnot.1.1)]
  have hfile : a.protocol.httpScheme ≠ "file" := by
    cases a.protocol
    · decide
    · decide
  rw [parse, significant_of_visible hvisible, htext, scanScheme_httpScheme]
  simp only [if_neg hfile, isSpecial_httpScheme, if_true, hslashes]
  exact afterSlashes_render (isSpecial_httpScheme _) haddress.chars hne h

/-- Without dots there is nothing to resolve in the path. -/
theorem parse_baseUrl_segments {a : BookmarkSync.Authority} (ha : IsHostText a.host.toList)
    {pieces : List (List Char)} (hne : pieces ≠ []) (h : ∀ cs ∈ pieces, IsSegment cs) :
    parse (a.baseUrl ++ String.ofList (Path.render pieces)) =
      (parseAuthority a.protocol.httpScheme (authorityText a) true).map fun x =>
        ⟨a.protocol.httpScheme, x.host, x.port, some pieces⟩ := by
  rw [parse_baseUrl ha hne fun cs hcs => (h cs hcs).component, Path.resolve_segments h]
  rfl

end Url

end BookmarkSync
