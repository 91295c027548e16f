import BookmarkSync.Proofs.Dav.Addressing
import BookmarkSync.Proofs.Dav.Logins

/-!
# `BookmarkSync.Proofs.Dav.MissingTail` — which levels of a directory are made

To make a directory, the client walks over its levels twice: upwards, to find those that are missing, and then
downwards over those, to make them. Either walk tries one level after the other, and ends at the first attempt
that is not answered as the walk needs it (`Walk`). The server need not conform to anything here: `TailMade`
says what is sent and what the outcome is, whatever comes back.

What is sent is read off a server that writes it down (`transcribed`). There is nothing to read of a level for
which no request can be made. To the client such a level is one about which it gets no answer.
-/

namespace BookmarkSync

open Url (IsHostText)

/-! ## Levels -/

namespace Location

/-- The levels of a directory from the bottom up: none is at or above one before it. -/
theorem pairwise_levels (l : Location) :
    l.ancestorsAndSelf.reverse.Pairwise fun lower upper => ¬ lower.segments <+: upper.segments := by
  rw [List.pairwise_reverse, ancestorsAndSelf, List.pairwise_map]
  refine List.pairwise_lt_range.imp_of_mem fun {m n} hm hn hlt hprefix => ?_
  have hlength := hprefix.length_le
  rw [List.mem_range] at hm hn
  simp only [List.length_take] at hlength
  omega

end Location

namespace Dav

/-! ## Attempts -/

variable {σ : Type}

/-- A server that replies as another one does, and writes down each request with its reply. -/
def transcribed (server : Server σ) : Server (σ × List (Request × Reply)) := fun r s =>
  ((server r s.1).1, (server r s.1).2, s.2 ++ [(r, (server r s.1).1)])

/-- The code that a reply answers with, if it is an answer. -/
def Reply.status (url : Url) : Reply → Except Fault Status
  | answer status _ => .ok status
  | cutShort status _ => .ok status
  | none => .error (.noAnswer url)

/-- One level of a directory is tried. -/
structure Attempt where
  level : Location
  /-- What is sent for it and what comes back: at most one request with its reply. -/
  passed : List (Request × Reply)
  answer : Except Fault Status

namespace Attempt

/-- The request of the level under its URL is sent and replied to, unless it cannot be made. -/
inductive IsOf (registry : Registry) (method : Method) (url : Location → String) : Attempt → Prop
  | sent {l : Location} {r : Request} (reply : Reply) :
    Request.of registry method l (url l) [] = .ok r →
    IsOf registry method url ⟨l, [(r, reply)], reply.status r.url⟩
  | unsendable {l : Location} {f : Fault} :
    Request.of registry method l (url l) [] = .error f → IsOf registry method url ⟨l, [], .error f⟩

variable (a : Attempt)

/-- Whether there is an answer with such a code. -/
def answersWith (p : Status → Bool) : Bool :=
  match a.answer with
  | .ok status => p status
  | .error _ => false

def isFound : Bool := a.answersWith Status.isSuccess

def isMissing : Bool := a.answersWith fun status => status = Status.notFound

def isMade : Bool := a.answersWith fun status => status.isSuccess || status = Status.methodNotAllowed

/-- The fault that an attempt with this method is reported as. -/
def fault (method : Method) : Fault :=
  match a.answer with
  | .ok status => .refused method a.level status
  | .error f => f

/-- What the attempt says about its level being there. -/
def finding : Except Fault Bool :=
  if a.isFound then .ok true else if a.isMissing then .ok false else .error (a.fault .propfind)

/-- What the client makes of the answer to a question is the finding of the attempt. -/
theorem presence_answer : (a.answer.bind fun status => Client.presence a.level status) = a.finding := by
  unfold finding isFound isMissing answersWith fault
  cases a.answer with
  | error f => rfl
  | ok status => simp only [Except.bind, Client.presence, decide_eq_true_eq]

/-- What it makes of the answer to a creation is success, or the fault of the attempt. -/
theorem creation_answer :
    (a.answer.bind fun status => Client.creation a.level status)
      = if a.isMade then .ok () else .error (a.fault .mkcol) := by
  unfold isMade answersWith fault
  cases a.answer with
  | error f => rfl
  | ok status => rfl

variable {a}

/-- No status says both that a level is there and that it is missing. -/
theorem isFound_of_isMissing (h : a.isMissing = true) : a.isFound = false := by
  unfold isMissing answersWith at h
  unfold isFound answersWith
  cases hanswer : a.answer with
  | error f => rfl
  | ok status =>
    rw [hanswer] at h
    rw [of_decide_eq_true h]
    rfl

/-- The finding of an attempt, by what its status says. -/
theorem finding_of_isMissing (h : a.isMissing = true) : a.finding = .ok false := by
  rw [finding, isFound_of_isMissing h, h]
  rfl

theorem finding_of_isFound (h : a.isFound = true) : a.finding = .ok true := by
  rw [finding, h]
  rfl

theorem finding_of_neither (hfound : a.isFound = false) (hmissing : a.isMissing = false) :
    a.finding = .error (a.fault .propfind) := by
  rw [finding, hfound, hmissing]
  rfl

/-- The request that an attempt sends, if it sends one, is for the URL of its level. -/
theorem IsOf.request_of_mem {registry : Registry} {method : Method} {url : Location → String}
    (h : a.IsOf registry method url) {x : Request × Reply} (hx : x ∈ a.passed) :
    Url.parse (url a.level) = .ok x.1.url ∧ x.1.method = method := by
  cases h with
  | sent reply hof =>
    obtain ⟨u, hread, hr⟩ := Request.eq_of_of hof
    rw [List.mem_singleton.mp hx, hr]
    exact ⟨hread, rfl⟩
  | unsendable hof => cases hx

end Attempt

/-! ## Walks -/

/-- The levels are tried in this order, up to the first attempt that does not let the walk go on. -/
structure Walk (goesOn : Attempt → Bool) (levels : List Location) (attempts : List Attempt) : Prop where
  inOrder : attempts.map Attempt.level <+: levels
  onward : ∀ a ∈ attempts.dropLast, goesOn a = true
  ends : attempts.map Attempt.level = levels ∨ ∃ a ∈ attempts.getLast?, goesOn a = false

namespace Walk

variable {goesOn : Attempt → Bool} {levels : List Location} {a : Attempt} {attempts : List Attempt}

/-- A walk over no levels asks nothing. -/
theorem nil : Walk goesOn [] [] := ⟨List.nil_prefix, nofun, .inl rfl⟩

/-- A walk ends at the first level where it does not go on, whatever comes after it. -/
theorem stop (h : goesOn a = false) : Walk goesOn (a.level :: levels) [a] :=
  ⟨List.cons_prefix_cons.mpr ⟨rfl, List.nil_prefix⟩, nofun, .inr ⟨a, rfl, h⟩⟩

/-- A walk that goes on at a level is a walk over the levels after it. -/
theorem cons (h : goesOn a = true) (hwalk : Walk goesOn levels attempts) :
    Walk goesOn (a.level :: levels) (a :: attempts) where
  inOrder := List.cons_prefix_cons.mpr ⟨rfl, hwalk.inOrder⟩
  onward := by
    intro b hb
    cases attempts with
    | nil => cases hb
    | cons c rest =>
      rcases List.mem_cons.mp hb with rfl | hb
      · exact h
      · exact hwalk.onward b hb
  ends := by
    refine hwalk.ends.imp (congrArg (a.level :: ·)) ?_
    rintro ⟨b, hb, hstop⟩
    refine ⟨b, ?_, hstop⟩
    rw [Option.mem_def] at hb ⊢
    rw [List.getLast?_cons, hb]
    rfl

/-- What does not let the walk go on comes last. -/
theorem exists_concat_of_mem (h : Walk goesOn levels attempts) (ha : a ∈ attempts) (hstop : goesOn a = false) :
    ∃ before, attempts = before ++ [a] ∧ ∀ b ∈ before, goesOn b = true := by
  obtain ⟨before, last, rfl⟩ := (List.eq_nil_or_concat attempts).resolve_left (List.ne_nil_of_mem ha)
  have hbefore : ∀ b ∈ before, goesOn b = true := by
    have honward := h.onward
    rwa [List.concat_eq_append, List.dropLast_concat] at honward
  rw [List.concat_eq_append, List.mem_append, List.mem_singleton] at ha
  rcases ha with ha | rfl
  · rw [hbefore a ha] at hstop
    cases hstop
  · exact ⟨before, List.concat_eq_append, hbefore⟩

end Walk

/-! ## The two walks of the client -/

/-- The levels that have been found to be missing, topmost first. -/
def missingLevels (asked : List Attempt) : List Location :=
  ((asked.filter Attempt.isMissing).map Attempt.level).reverse

/-- The first level that cannot be made is reported. -/
def creationOutcome (made : List Attempt) : Except Fault Unit :=
  (made.find? fun a => !a.isMade).elim (.ok ()) fun a => .error (a.fault .mkcol)

section Levels

variable {a : Attempt} {as : List Attempt}

/-- The client asks from below and makes from above, so the level asked about first is made last. -/
theorem missingLevels_cons_of_isMissing (h : a.isMissing = true) :
    missingLevels (a :: as) = missingLevels as ++ [a.level] := by
  rw [missingLevels, List.filter_cons_of_pos h, List.map_cons, List.reverse_cons]
  rfl

theorem missingLevels_singleton_of_not_isMissing (h : a.isMissing = false) : missingLevels [a] = [] := by
  rw [missingLevels, List.filter_cons_of_neg (Bool.eq_false_iff.mp h)]
  rfl

/-- The first creation that fails decides the outcome. -/
theorem creationOutcome_cons_of_isMade (h : a.isMade = true) :
    creationOutcome (a :: as) = creationOutcome as := by
  rw [creationOutcome, List.find?_cons, h]
  rfl

theorem creationOutcome_cons_of_not_isMade (h : a.isMade = false) :
    creationOutcome (a :: as) = .error (a.fault .mkcol) := by
  rw [creationOutcome, List.find?_cons, h]
  rfl

end Levels

/-- The missing tail of a directory is asked for, and made. -/
structure TailMade (registry : Registry) (l : Location) (asked made : List Attempt)
    (outcome : Except Fault Unit) :
    Prop where
  asks : ∀ a ∈ asked, a.IsOf registry .propfind Location.url
  /-- The location is asked about, and then one level above after the other while the answer is 404. -/
  upwards : Walk Attempt.isMissing l.ancestorsAndSelf.reverse asked
  /-- If the location turns out to be neither there nor missing, nothing more is done. -/
  refused : ∀ a ∈ asked.head?, a.isFound = false → a.isMissing = false →
    asked = [a] ∧ made = [] ∧ outcome = .error (a.fault .propfind)
  makes : ∀ a ∈ made, a.IsOf registry .mkcol Location.collectionUrl
  /-- Otherwise the missing levels are made from the top down, as long as each can be, or is there already. -/
  downwards : (∀ a ∈ asked.head?, a.isFound = true ∨ a.isMissing = true) →
    Walk Attempt.isMade (missingLevels asked) made ∧ outcome = creationOutcome made

namespace TailMade

/-! ### What can come of the location itself -/

section Outcomes

variable {registry : Registry} {l : Location} {levels : List Location} {a : Attempt} {rest made : List Attempt}

/-- The root of a server is there, and nobody asks about it. -/
theorem of_root (hlevels : l.ancestorsAndSelf.reverse = []) : TailMade registry l [] [] (.ok ()) :=
  ⟨nofun, hlevels ▸ .nil, nofun, nofun, fun _ => ⟨.nil, rfl⟩⟩

variable (hlevels : l.ancestorsAndSelf.reverse = a.level :: levels)
    (hof : a.IsOf registry .propfind Location.url)
include hlevels hof

/-- The directory is there: one question, and nothing to make. -/
theorem of_isFound (hfound : a.isFound = true) (hmissing : a.isMissing = false) :
    TailMade registry l [a] [] (.ok ()) where
  asks := List.forall_mem_singleton.mpr hof
  upwards := hlevels ▸ .stop hmissing
  refused := by
    rintro _ ⟨rfl⟩ hnot
    rw [hfound] at hnot
    cases hnot
  makes := nofun
  downwards := fun _ => ⟨missingLevels_singleton_of_not_isMissing hmissing ▸ .nil, rfl⟩

/-- The answer says neither: the operation fails after one question, and nothing is made. -/
theorem of_neither (hfound : a.isFound = false) (hmissing : a.isMissing = false) :
    TailMade registry l [a] [] (.error (a.fault .propfind)) where
  asks := List.forall_mem_singleton.mpr hof
  upwards := hlevels ▸ .stop hmissing
  refused := by
    rintro _ ⟨rfl⟩ - -
    exact ⟨rfl, rfl, rfl⟩
  makes := nofun
  downwards := by
    intro h
    have hneither : ¬ (a.isFound = true ∨ a.isMissing = true) := by simp [hfound, hmissing]
    exact absurd (h a rfl) hneither

/-- The directory is missing: the questions go on upwards, and all levels found missing are made downwards,
until a creation fails. -/
theorem of_isMissing (hmissing : a.isMissing = true) (hofs : ∀ b ∈ rest, b.IsOf registry .propfind Location.url)
    (hrest : Walk Attempt.isMissing levels rest)
    (hmakes : ∀ m ∈ made, m.IsOf registry .mkcol Location.collectionUrl)
    (hmade : Walk Attempt.isMade (missingLevels rest ++ [a.level]) made) :
    TailMade registry l (a :: rest) made (creationOutcome made) where
  asks := List.forall_mem_cons.mpr ⟨hof, hofs⟩
  upwards := hlevels ▸ hrest.cons hmissing
  refused := by
    rintro _ ⟨rfl⟩ - hnot
    rw [hmissing] at hnot
    cases hnot
  makes := hmakes
  downwards := fun _ => ⟨missingLevels_cons_of_isMissing hmissing ▸ hmade, rfl⟩

end Outcomes

/-! ### Where nothing is made -/

variable {registry : Registry} {l : Location} {asked made : List Attempt} {outcome : Except Fault Unit}
  (h : TailMade registry l asked made outcome)
include h

/-- Only a level that was found missing is made. -/
theorem isMissing_of_mem_made {m : Attempt} (hm : m ∈ made) :
    ∃ a ∈ asked, a.isMissing = true ∧ a.level = m.level := by
  have hgoesOn : ∀ a ∈ asked.head?, a.isFound = true ∨ a.isMissing = true := by
    intro a ha
    by_contra hneither
    rw [not_or, Bool.not_eq_true, Bool.not_eq_true] at hneither
    obtain ⟨-, hnone, -⟩ := h.refused a ha hneither.1 hneither.2
    rw [hnone] at hm
    cases hm
  have hlevel := (h.downwards hgoesOn).1.inOrder.subset (List.mem_map_of_mem hm)
  obtain ⟨a, ha, hlevel⟩ := List.mem_map.mp (List.mem_reverse.mp hlevel)
  obtain ⟨ha, hmissing⟩ := List.mem_filter.mp ha
  exact ⟨a, ha, hmissing, hlevel⟩

/-- No other server is told to make anything. -/
theorem authority_of_mem_made {m : Attempt} (hm : m ∈ made) : m.level.authority = l.authority := by
  obtain ⟨a, ha, -, hlevel⟩ := h.isMissing_of_mem_made hm
  have hmem := List.mem_reverse.mp (h.upwards.inOrder.subset (List.mem_map_of_mem ha))
  rw [hlevel] at hmem
  obtain ⟨n, -, hn⟩ := List.mem_map.mp hmem
  rw [← hn]

/-- Nothing is made at or above the level that has ended the walk upwards. -/
theorem not_at_or_above {a m : Attempt} (ha : a ∈ asked) (hstop : a.isMissing = false) (hm : m ∈ made) :
    ¬ m.level.segments <+: a.level.segments := by
  obtain ⟨before, hasked, -⟩ := h.upwards.exists_concat_of_mem ha hstop
  obtain ⟨b, hb, hmissing, hlevel⟩ := h.isMissing_of_mem_made hm
  have hbefore : b ∈ before := by
    rw [hasked, List.mem_append, List.mem_singleton] at hb
    refine hb.resolve_right ?_
    rintro rfl
    rw [hstop] at hmissing
    cases hmissing
  have hpairwise := l.pairwise_levels.sublist h.upwards.inOrder.sublist
  rw [hasked, List.map_append, List.pairwise_append] at hpairwise
  rw [← hlevel]
  exact hpairwise.2.2 _ (List.mem_map_of_mem hbefore) _ (List.mem_singleton_self _)

end TailMade

namespace Client

variable (server : Server σ) (registry : Registry)

/-- One request is one attempt. -/
theorem send_transcribed (method : Method) (url : Location → String) (l : Location)
    (s : σ × List (Request × Reply)) :
    ∃ (a : Attempt) (body : Option (List UInt8)) (t : σ × List (Request × Reply)),
      send (transcribed server) registry method l (url l) [] s = (a.answer.map (·, body), t) ∧
        a.IsOf registry method url ∧ a.level = l ∧ t.2 = s.2 ++ a.passed := by
  unfold send
  cases hof : Request.of registry method l (url l) [] with
  | error f => exact ⟨⟨l, [], .error f⟩, none, s, rfl, .unsendable hof, rfl, (List.append_nil _).symm⟩
  | ok r =>
    rcases hreply : server r s.1 with ⟨reply, next⟩
    simp only [transcribed, hreply]
    cases reply with
    | answer status content => exact ⟨_, some content, _, rfl, .sent (.answer status content) hof, rfl, rfl⟩
    | cutShort status content => exact ⟨_, none, _, rfl, .sent (.cutShort status content) hof, rfl, rfl⟩
    | none => exact ⟨_, none, _, rfl, .sent .none hof, rfl, rfl⟩

/-- Asking whether a level is there is one attempt. -/
theorem has_transcribed (l : Location) (s : σ × List (Request × Reply)) :
    ∃ (a : Attempt) (t : σ × List (Request × Reply)),
      has (transcribed server) registry l s = (a.finding, t) ∧
        a.IsOf registry .propfind Location.url ∧ a.level = l ∧ t.2 = s.2 ++ a.passed := by
  obtain ⟨a, body, t, hsend, hof, rfl, hlog⟩ := send_transcribed server registry .propfind Location.url l s
  refine ⟨a, t, ?_, hof, rfl, hlog⟩
  rw [has, hsend, ← a.presence_answer]
  cases a.answer with
  | error f => rfl
  | ok status => rfl

/-- **The walk upwards.** It ends at the first level that is not known to be missing. -/
theorem missingAbove_transcribed (found levels : List Location) (s : σ × List (Request × Reply)) :
    ∃ (asked : List Attempt) (t : σ × List (Request × Reply)),
      missingAbove (transcribed server) registry found levels s = (missingLevels asked ++ found, t) ∧
        (∀ a ∈ asked, a.IsOf registry .propfind Location.url) ∧ Walk Attempt.isMissing levels asked ∧
        t.2 = s.2 ++ asked.flatMap Attempt.passed := by
  -- the walk goes up level by level, and each answer of a missing level puts it before those already found
  induction levels generalizing found s with
  | nil => exact ⟨[], s, rfl, nofun, .nil, (List.append_nil _).symm⟩
  | cons l levels ih =>
    obtain ⟨a, t, hhas, hof, rfl, hlog⟩ := has_transcribed server registry l s
    cases hmissing : a.isMissing with
    | true =>
      obtain ⟨asked, t', hwalk, hofs, hasked, hlog'⟩ := ih (a.level :: found) t
      refine ⟨a :: asked, t', ?_, List.forall_mem_cons.mpr ⟨hof, hofs⟩, hasked.cons hmissing, ?_⟩
      · rw [missingAbove, hhas, a.finding_of_isMissing hmissing]
        simp only [hwalk, missingLevels_cons_of_isMissing hmissing, List.append_assoc, List.singleton_append]
      · rw [hlog', hlog, List.flatMap_cons, List.append_assoc]
    | false =>
      refine ⟨[a], t, ?_, List.forall_mem_singleton.mpr hof, .stop hmissing, ?_⟩
      · rw [missingAbove, hhas, missingLevels_singleton_of_not_isMissing hmissing]
        -- both ways to stop end the walk here; they differ only in its result
        cases hfound : a.isFound with
        | true => rw [a.finding_of_isFound hfound, List.nil_append]
        | false => rw [a.finding_of_neither hfound hmissing, List.nil_append]
      · rw [hlog, List.flatMap_singleton]

/-- Making the next level is one attempt. -/
theorem makeAll_cons_transcribed (l : Location) (levels : List Location) (s : σ × List (Request × Reply)) :
    ∃ (a : Attempt) (t : σ × List (Request × Reply)),
      makeAll (transcribed server) registry (l :: levels) s =
          (if a.isMade then makeAll (transcribed server) registry levels t else (.error (a.fault .mkcol), t)) ∧
        a.IsOf registry .mkcol Location.collectionUrl ∧ a.level = l ∧ t.2 = s.2 ++ a.passed := by
  obtain ⟨a, body, t, hsend, hof, rfl, hlog⟩ :=
    send_transcribed server registry .mkcol Location.collectionUrl l s
  refine ⟨a, t, ?_, hof, rfl, hlog⟩
  have hcreation := a.creation_answer
  rw [makeAll, hsend]
  -- whether the level counts as made is decided by the status of the last answer, or by its absence
  cases hanswer : a.answer with
  | error f =>
    rw [hanswer] at hcreation
    cases hmade : a.isMade with
    | true =>
      rw [hmade] at hcreation
      cases hcreation
    | false =>
      rw [hmade] at hcreation
      exact congrArg (·, t) hcreation
  | ok status =>
    rw [hanswer] at hcreation
    have hanswered : creation a.level status = if a.isMade then .ok () else .error (a.fault .mkcol) := hcreation
    simp only [Except.map, hanswered]
    cases a.isMade with
    | true => rfl
    | false => rfl

/-- **The walk downwards.** It ends at the first level that cannot be made. -/
theorem makeAll_transcribed (levels : List Location) (s : σ × List (Request × Reply)) :
    ∃ (made : List Attempt) (t : σ × List (Request × Reply)),
      makeAll (transcribed server) registry levels s = (creationOutcome made, t) ∧
        (∀ a ∈ made, a.IsOf registry .mkcol Location.collectionUrl) ∧ Walk Attempt.isMade levels made ∧
        t.2 = s.2 ++ made.flatMap Attempt.passed := by
  -- the first level that is not made ends the walk with its own fault
  induction levels generalizing s with
  | nil => exact ⟨[], s, rfl, nofun, .nil, (List.append_nil _).symm⟩
  | cons l levels ih =>
    obtain ⟨a, t, hmake, hof, rfl, hlog⟩ := makeAll_cons_transcribed server registry l levels s
    cases hmade : a.isMade with
    | true =>
      obtain ⟨made, t', hwalk, hofs, hmakes, hlog'⟩ := ih t
      refine ⟨a :: made, t', ?_, List.forall_mem_cons.mpr ⟨hof, hofs⟩, hmakes.cons hmade, ?_⟩
      · rw [hmake, if_pos hmade, hwalk, creationOutcome_cons_of_isMade hmade]
      · rw [hlog', hlog, List.flatMap_cons, List.append_assoc]
    | false =>
      refine ⟨[a], t, ?_, List.forall_mem_singleton.mpr hof, .stop hmade, ?_⟩
      · rw [hmake, if_neg (Bool.eq_false_iff.mp hmade), creationOutcome_cons_of_not_isMade hmade]
      · rw [hlog, List.flatMap_singleton]

/-- For the top of a server there is nothing to do. -/
theorem createDirectories_root {l : Location} (hroot : l.segments = []) (s : σ) :
    createDirectories server registry l s = (.ok (), s) := by
  have hlevels : l.ancestorsAndSelf.reverse = [] := by
    rw [Location.ancestorsAndSelf, hroot]
    rfl
  rw [createDirectories, missing, hlevels]
  rfl

/-- Both walks together. -/
theorem createDirectories_transcribed (l : Location) (s : σ × List (Request × Reply)) :
    ∃ (asked made : List Attempt) (outcome : Except Fault Unit) (t : σ × List (Request × Reply)),
      createDirectories (transcribed server) registry l s = (outcome, t) ∧
      TailMade registry l asked made outcome ∧
        t.2 = s.2 ++ (asked.flatMap Attempt.passed ++ made.flatMap Attempt.passed) := by
  unfold createDirectories missing
  -- only the root has no level below it, and then nothing is asked
  cases hlevels : l.ancestorsAndSelf.reverse with
  | nil => exact ⟨[], [], .ok (), s, rfl, .of_root hlevels, (List.append_nil _).symm⟩
  | cons lowest levels =>
    obtain ⟨a, t, hhas, hof, rfl, hlog⟩ := has_transcribed server registry lowest s
    -- the walk upwards starts only if the lowest level is missing
    cases hmissing : a.isMissing with
    | true =>
      obtain ⟨rest, t₁, hwalk, hofs, hrest, hlog₁⟩ :=
        missingAbove_transcribed server registry [a.level] levels t
      obtain ⟨made, t₂, hmakeAll, hmakes, hmade, hlog₂⟩ :=
        makeAll_transcribed server registry (missingLevels rest ++ [a.level]) t₁
      refine ⟨a :: rest, made, creationOutcome made, t₂, ?_,
        .of_isMissing hlevels hof hmissing hofs hrest hmakes hmade, ?_⟩
      · simp only [hhas, a.finding_of_isMissing hmissing, hwalk, hmakeAll]
      · simp only [hlog₂, hlog₁, hlog, List.flatMap_cons, List.append_assoc]
    | false =>
      have hlog' : t.2 = s.2 ++ ([a].flatMap Attempt.passed ++ [].flatMap Attempt.passed) := by
        rw [hlog, List.flatMap_singleton, List.flatMap_nil, List.append_nil]
      cases hfound : a.isFound with
      | true =>
        refine ⟨[a], [], .ok (), t, ?_, .of_isFound hlevels hof hfound hmissing, hlog'⟩
        simp only [hhas, a.finding_of_isFound hfound, makeAll]
      | false =>
        refine ⟨[a], [], .error (a.fault .propfind), t, ?_, .of_neither hlevels hof hfound hmissing, hlog'⟩
        simp only [hhas, a.finding_of_neither hfound hmissing]

end Client

end Dav

end BookmarkSync
