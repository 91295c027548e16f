import BookmarkSync.Proofs.Dav.Addressing

/-!
# `BookmarkSync.Proofs.Dav.Operations` — file operations on a conforming server

On a conforming server each operation of the client does to the resources what it is for, and nothing else:
`has_spec`, `read_spec`, `write_spec` and `createDirectories_spec` say it in terms of the resources alone.

The upward walk of `createDirectories` stops at the lowest level that is there. The levels below it are
missing (`Missing`), each is made in the one before it, and together they are the levels of the directory
(`makeAll_spec`).
-/

namespace BookmarkSync.Dav.Client

open Resources

section Requests

variable {σ : Type} {server : Server σ} {resources : σ → Resources} (registry : Registry)

/-- What is sent about a location that can be reached is answered as the server answers the request. -/
theorem send_of_reaches {l : Location} {url : String} (hreaches : Reaches l url) (method : Method)
    (body : List UInt8) {fits : Status → List UInt8 → Prop} {after : Resources} {s : σ}
    (h : ∀ r : Request, r.method = method → r.body = body → r.Addresses l.segments →
      Answers server resources r s fits after) :
    ∃ status content s', send server registry method l url body s = (.ok (status, some content), s') ∧
      fits status content ∧ resources s' = after := by
  obtain ⟨r, hrequest, hmethod, hbody, haddress⟩ := hreaches registry method body
  obtain ⟨status, content, s', hanswer, hfits, hafter⟩ := h r hmethod hbody haddress
  refine ⟨status, content, s', ?_, hfits, hafter⟩
  simp only [send, hrequest, hanswer]

variable (hserver : Conforms server resources) {l : Location}
include hserver

theorem has_spec (hreaches : Reaches l l.url) (s : σ) :
    ∃ s', has server registry l s = (.ok (resources s l.segments).isSome, s') ∧ resources s' = resources s := by
  by_cases hthere : resources s l.segments = none
  · obtain ⟨status, content, s', hsend, rfl, hafter⟩ := send_of_reaches registry hreaches .propfind []
      fun r hmethod _ haddress => hserver.notFound hmethod haddress hthere
    refine ⟨s', ?_, hafter⟩
    rw [has, hsend, hthere]
    rfl
  · obtain ⟨status, content, s', hsend, rfl, hafter⟩ := send_of_reaches registry hreaches .propfind []
      fun r hmethod _ haddress => hserver.found hmethod haddress hthere
    refine ⟨s', ?_, hafter⟩
    rw [has, hsend, Option.isSome_iff_ne_none.mpr hthere]
    rfl

theorem read_spec (hreaches : Reaches l l.url) {content : List UInt8} {s : σ}
    (hfile : resources s l.segments = some (.file content)) :
    ∃ s', read server registry l s = (.ok content, s') ∧ resources s' = resources s := by
  obtain ⟨status, body, s', hsend, ⟨hsuccess, rfl⟩, hafter⟩ := send_of_reaches registry hreaches .get []
    fun r hmethod _ haddress => hserver.content hmethod haddress hfile
  refine ⟨s', ?_, hafter⟩
  rw [read, hsend]
  simp only [Except.bind, Client.content, hsuccess, if_true, Option.elim_some]

theorem write_spec (hreaches : Reaches l l.url) {path : List String} {name : String}
    (hsegments : l.segments = path ++ [name]) (content : List UInt8) {s : σ}
    (hparent : resources s path = some .collection) (hfile : resources s l.segments ≠ some .collection) :
    ∃ s', write server registry l content s = (.ok (), s') ∧
      resources s' = Function.update (resources s) l.segments (some (.file content)) := by
  have hput (r : Request) (hmethod : r.method = .put) (hbody : r.body = content)
      (haddress : r.Addresses l.segments) :
      Answers server resources r s (fun status _ => status.isSuccess)
        (Function.update (resources s) l.segments (some (.file content))) := by
    rw [hsegments] at haddress hfile ⊢
    rw [← hbody]
    exact hserver.replaced hmethod haddress hparent hfile
  obtain ⟨status, body, s', hsend, hsuccess, hafter⟩ := send_of_reaches registry hreaches .put content hput
  refine ⟨s', ?_, hafter⟩
  rw [write, hsend]
  simp only [Except.bind, hsuccess, if_true]

end Requests

/-! ## Missing levels -/

/-- The levels of a path below `top`, topmost first. -/
def levelsBelow (a : Authority) (top : List String) : List String → List Location
  | [] => []
  | name :: rest => ⟨a, top ++ [name]⟩ :: levelsBelow a (top ++ [name]) rest

theorem levelsBelow_append_singleton (a : Authority) (top rest : List String) (name : String) :
    levelsBelow a top (rest ++ [name]) = levelsBelow a top rest ++ [⟨a, top ++ rest ++ [name]⟩] := by
  induction rest generalizing top with
  | nil => rw [List.append_nil]; rfl
  | cons first rest ih =>
    rw [List.cons_append, levelsBelow, ih, levelsBelow, List.append_assoc top [first] rest]
    rfl

/-- Everything below a collection is missing, as far down as the path goes. -/
structure Missing (rs : Resources) (top rest : List String) : Prop where
  collection : rs top = some .collection
  missing : ∀ p, p ≠ [] → p <+: rest → rs (top ++ p) = none

theorem Missing.append_singleton {rs : Resources} {top rest : List String} {name : String}
    (h : Missing rs top rest) (hname : rs (top ++ rest ++ [name]) = none) :
    Missing rs top (rest ++ [name]) where
  collection := h.collection
  missing := by
    intro p hne hp
    rcases List.prefix_concat_iff.mp hp with rfl | hp
    · rw [← List.append_assoc]
      exact hname
    · exact h.missing p hne hp

/-- When the first level has been made, the others are missing below it. -/
theorem Missing.made {rs : Resources} {top rest : List String} {name : String}
    (h : Missing rs top (name :: rest)) :
    Missing (Function.update rs (top ++ [name]) (some .collection)) (top ++ [name]) rest where
  collection := Function.update_self _ _ _
  missing := by
    intro p hne hp
    have hpath : top ++ [name] ++ p = top ++ (name :: p) := by rw [List.append_assoc]; rfl
    rw [Function.update_of_ne (by simpa using hne), hpath]
    exact h.missing _ (List.cons_ne_nil _ _) (List.cons_prefix_cons.mpr ⟨rfl, hp⟩)

theorem ancestorsAndSelf_append_singleton (a : Authority) (path : List String) (name : String) :
    Location.ancestorsAndSelf ⟨a, path ++ [name]⟩ =
      Location.ancestorsAndSelf ⟨a, path⟩ ++ [⟨a, path ++ [name]⟩] := by
  have hlevels : (List.range path.length).map (fun n => Location.mk a ((path ++ [name]).take (n + 1))) =
      (List.range path.length).map fun n => Location.mk a (path.take (n + 1)) := by
    refine List.map_congr_left fun n hn => ?_
    rw [List.take_append_of_le_length (List.mem_range.mp hn)]
  have hself : (path ++ [name]).take (path.length + 1) = path ++ [name] :=
    List.take_of_length_le (by simp)
  simp only [Location.ancestorsAndSelf, List.length_append, List.length_singleton, List.range_succ,
    List.map_append, List.map_singleton, hlevels, hself]

section Directories

variable {σ : Type} {server : Server σ} {resources : σ → Resources} (registry : Registry)
  (hserver : Conforms server resources) {l : Location} (hlevels : LevelsReached l)
include hserver hlevels

/-- The upward walk finds the levels below the lowest one that is there. -/
theorem missingAbove_spec {s : σ} (hroot : resources s [] = some .collection)
    (hfiles : ∀ p content, p <+: l.segments → resources s p ≠ some (.file content)) {path : List String}
    (hpath : path <+: l.segments) (found : List Location) :
    ∃ top rest s', path = top ++ rest ∧ Missing (resources s) top rest ∧
      missingAbove server registry found (Location.ancestorsAndSelf ⟨l.authority, path⟩).reverse s =
        (levelsBelow l.authority top rest ++ found, s') ∧
      resources s' = resources s := by
  -- by induction from the bottom up; what has been found below is passed on
  induction path using List.reverseRecOn generalizing found s with
  | nil => exact ⟨[], [], s, rfl, ⟨hroot, fun p hne hp => absurd (List.prefix_nil.mp hp) hne⟩, rfl, rfl⟩
  | append_singleton path name ih =>
    obtain ⟨s₁, hhas, hsame⟩ := has_spec registry hserver (hlevels.url _ hpath) s
    rw [ancestorsAndSelf_append_singleton, List.reverse_append, List.reverse_singleton, List.singleton_append,
      missingAbove, hhas]
    cases hlevel : resources s (path ++ [name]) with
    | none =>
      have hpath' : path <+: l.segments := (List.prefix_append path [name]).trans hpath
      obtain ⟨top, rest, s₂, hsplit, hmissing, hwalk, hsame₂⟩ := ih (s := s₁) (hsame ▸ hroot)
        (fun p content hp => hsame ▸ hfiles p content hp) hpath' (⟨l.authority, path ++ [name]⟩ :: found)
      rw [hsame] at hmissing
      refine ⟨top, rest ++ [name], s₂, by rw [hsplit, List.append_assoc],
        hmissing.append_singleton (hsplit ▸ hlevel), ?_, hsame₂.trans hsame⟩
      rw [levelsBelow_append_singleton, ← hsplit, List.append_assoc]
      exact hwalk
    | some resource =>
      refine ⟨path ++ [name], [], s₁, (List.append_nil _).symm, ⟨?_, ?_⟩, rfl, hsame⟩
      · cases resource with
        | collection => exact hlevel
        | file content => exact absurd hlevel (hfiles _ content hpath)
      · exact fun p hne hp => absurd (List.prefix_nil.mp hp) hne

/-- On a conforming server the walk can start at the location itself. -/
theorem missing_eq (s : σ) : missing server registry l s =
    (.ok (missingAbove server registry [] l.ancestorsAndSelf.reverse s).1,
      (missingAbove server registry [] l.ancestorsAndSelf.reverse s).2) := by
  obtain ⟨a, segments⟩ := l
  cases segments using List.reverseRecOn with
  | nil => rfl
  | append_singleton path name =>
    obtain ⟨s₁, hhas, -⟩ := has_spec registry hserver (hlevels.url _ List.prefix_rfl) s
    have hlevels : (Location.ancestorsAndSelf ⟨a, path ++ [name]⟩).reverse =
        ⟨a, path ++ [name]⟩ :: (Location.ancestorsAndSelf ⟨a, path⟩).reverse := by
      rw [ancestorsAndSelf_append_singleton, List.reverse_append, List.reverse_singleton, List.singleton_append]
    simp only [missing, hlevels, missingAbove, hhas]
    cases (resources s (path ++ [name])).isSome with
    | true => rfl
    | false => rfl

/-- Made from the top down, missing levels become collections. -/
theorem makeAll_spec {s : σ} {top rest : List String} (hpath : top ++ rest <+: l.segments)
    (hmissing : Missing (resources s) top rest) (htop : (resources s).withLevels top = resources s) :
    ∃ s', makeAll server registry (levelsBelow l.authority top rest) s = (.ok (), s') ∧
      resources s' = (resources s).withLevels (top ++ rest) := by
  -- from the top down: each level is made below one that stands by then
  induction rest generalizing top s with
  | nil => exact ⟨s, rfl, by rw [List.append_nil, htop]⟩
  | cons name rest ih =>
    have hlevel : top ++ [name] <+: l.segments := by
      refine List.IsPrefix.trans ?_ hpath
      exact ⟨rest, by rw [List.append_assoc]; rfl⟩
    have hname : resources s (top ++ [name]) = none :=
      hmissing.missing [name] (List.cons_ne_nil _ _) ⟨rest, rfl⟩
    obtain ⟨status, content, s₁, hsend, rfl, hmade⟩ := send_of_reaches registry
      (hlevels.collectionUrl _ hlevel (by simp)) .mkcol [] fun r hmethod _ haddress =>
        hserver.made hmethod haddress hmissing.collection hname
    have hmissing₁ : Missing (resources s₁) (top ++ [name]) rest := hmade ▸ hmissing.made
    rw [← htop, update_withLevels] at hmade
    have htop₁ : (resources s₁).withLevels (top ++ [name]) = resources s₁ := by
      rw [hmade, withLevels_withLevels List.prefix_rfl]
    obtain ⟨s₂, hrest, hlevels₂⟩ := ih (s := s₁)
      (by rw [List.append_assoc]; exact hpath) hmissing₁ htop₁
    refine ⟨s₂, ?_, ?_⟩
    · rw [levelsBelow, makeAll, hsend]
      exact hrest
    · rw [hlevels₂, hmade, withLevels_withLevels (List.prefix_append _ _), List.append_assoc]
      rfl

/-- **A directory is made with all its levels.** -/
theorem createDirectories_spec {s : σ} (htree : (resources s).IsTree)
    (hfiles : ∀ p content, p <+: l.segments → resources s p ≠ some (.file content)) :
    ∃ s', createDirectories server registry l s = (.ok (), s') ∧
      resources s' = (resources s).withLevels l.segments := by
  obtain ⟨top, rest, s₁, hsplit, hmissing, hwalk, hsame⟩ :=
    missingAbove_spec registry hserver hlevels (s := s) htree.root hfiles List.prefix_rfl []
  rw [List.append_nil] at hwalk
  rw [← hsame] at hmissing htree
  obtain ⟨s₂, hmakeAll, hafter⟩ := makeAll_spec registry hserver hlevels (hsplit ▸ List.prefix_rfl) hmissing
    (htree.withLevels_of_collection hmissing.collection)
  refine ⟨s₂, ?_, ?_⟩
  · rw [createDirectories, missing_eq registry hserver hlevels, hwalk]
    exact hmakeAll
  · rw [hafter, hsame, ← hsplit]

end Directories

end BookmarkSync.Dav.Client
