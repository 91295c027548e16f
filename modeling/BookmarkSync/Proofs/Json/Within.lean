import BookmarkSync.Proofs.Json.Written

/-!
# `BookmarkSync.Proofs.Json.Within` — texts inside of longer ones

A token is told by its own characters once it is well formed: what follows a closing quote or the last letter
of a word makes no difference, and a number only goes on into digits, a point or a mark of an exponent
(`EndsNumber`). So a text that is split into the tokens of a value is split into the same tokens wherever a
value may stand in a longer text: `spells_of_tokens`.
-/

namespace BookmarkSync.Json

open BookmarkSync.Text (Symbol)

/-! ## Tokens and what follows them -/

/-- Whether the token is well formed, so that what follows its text does not change it. -/
def Token.IsWhole : Token → Prop
  | .number l => l.skipFault = none
  | .text l => l.skipFault = none
  | .bad _ => False
  | _ => True

section Following

variable {s rest more : List Symbol}

namespace Numeral

/-- What follows the scanned text is left over, and changes nothing about it. -/
theorem after?_followed {cs : List Char} (h : after? cs s = some rest) :
    after? cs (s ++ more) = some (rest ++ more) := by
  unfold after? at h ⊢
  split at h
  · split at h
    · next hc =>
      cases h
      rw [List.cons_append]
      exact if_pos hc
    · cases h
  · cases h

/-- A sign that is not there does not come by what follows, if that begins with another one. -/
theorem after?_followed_none {cs : List Char} (h : after? cs s = none)
    (hmore : s = [] → ∀ c ∈ cs, more.head? ≠ some (.char c)) : after? cs (s ++ more) = none := by
  -- what follows matters only when there is no character left to decide it
  cases s with
  | nil => exact after?_eq_none (hmore rfl)
  | cons a s =>
    unfold after? at h ⊢
    rw [List.cons_append]
    split at h
    · next heq =>
      cases heq
      split at h
      · cases h
      · next hc => exact if_neg hc
    · next hchar =>
      split
      · next heq =>
        cases heq
        exact absurd rfl (hchar _ _)
      · rfl

/-- Digits end where they ended, if what follows begins with no digit; so do the parts of a number. -/
theorem spanDigits_followed (hmore : EndsNumber more) (s : List Symbol) :
    spanDigits (s ++ more) = ((spanDigits s).1, (spanDigits s).2 ++ more) := by
  induction s with
  | nil =>
    cases more with
    | nil => rfl
    | cons a more => simp [spanDigits, hmore.digit]
  | cons a s ih =>
    rw [List.cons_append, spanDigits, spanDigits]
    cases digit? a with
    | none => rfl
    | some d => simp only [ih]

theorem someDigits_followed {ds : List Nat} (hmore : EndsNumber more) (h : someDigits s = .ok (ds, rest)) :
    someDigits (s ++ more) = .ok (ds, rest ++ more) := by
  have hlength := someDigits_length h
  cases s with
  | nil => cases hlength
  | cons a s =>
    have hspan := spanDigits_followed hmore (a :: s)
    unfold someDigits at h ⊢
    rw [hspan]
    split at h
    · cases h
    · cases h
    · next hnone _ =>
      simp only [Except.ok.injEq] at h
      rw [h]
      cases ds with
      | nil => exact (hnone rest h).elim
      | cons d ds => rfl

theorem scanWhole_followed {ds : List Nat} (hmore : EndsNumber more) (h : scanWhole s = .ok (ds, rest)) :
    scanWhole (s ++ more) = .ok (ds, rest ++ more) := by
  simp only [scanWhole, bind, Except.bind] at h ⊢
  split at h
  · cases h
  · next r hr =>
    split at h
    · cases h
    · next hzero =>
      cases h
      simp only [someDigits_followed hmore hr]
      split
      · next heq =>
        obtain ⟨rfl, -⟩ := Prod.mk.inj heq
        exact (hzero _ _ _ rfl).elim
      · rfl

theorem scanFraction_followed {ds : List Nat} (hmore : EndsNumber more) (h : scanFraction s = .ok (ds, rest)) :
    scanFraction (s ++ more) = .ok (ds, rest ++ more) := by
  unfold scanFraction at h ⊢
  split at h
  · next r hr =>
    rw [after?_followed hr]
    exact someDigits_followed hmore h
  · next hnone =>
    cases h
    rw [after?_followed_none hnone]
    intro hs c hc
    cases more with
    | nil => nofun
    | cons a more => simpa [List.mem_singleton.mp hc] using hmore.2.1

/-- The digits of an exponent end in the same way, whatever number they are taken for. -/
theorem map_someDigits_followed {e : Option Int} {f : List Nat → Option Int} (hmore : EndsNumber more)
    (h : (someDigits s).map (fun r => (f r.1, r.2)) = .ok (e, rest)) :
    (someDigits (s ++ more)).map (fun r => (f r.1, r.2)) = .ok (e, rest ++ more) := by
  obtain ⟨⟨ds, r⟩, hds, heq⟩ := map_eq_ok h
  cases heq
  rw [someDigits_followed hmore hds]
  rfl

theorem scanExponent_followed {e : Option Int} (hmore : EndsNumber more) (h : scanExponent s = .ok (e, rest)) :
    scanExponent (s ++ more) = .ok (e, rest ++ more) := by
  unfold scanExponent at h ⊢
  split at h
  · next hnone =>
    cases h
    rw [after?_followed_none hnone]
    intro hs c hc
    cases more with
    | nil => nofun
    | cons a more =>
      simp only [List.mem_cons, List.not_mem_nil, or_false] at hc
      rcases hc with rfl | rfl
      · simpa using hmore.2.2.1
      · simpa using hmore.2.2.2
  · next r hr =>
    rw [after?_followed hr]
    -- some digits come after the mark, so a sign is told without what follows
    have hne : ∀ cs : List Char, r = [] → ∀ c ∈ cs, more.head? ≠ some (.char c) := by
      rintro cs rfl
      cases h
    split at h
    · next r' hr' =>
      simp only [after?_followed hr']
      exact map_someDigits_followed (f := fun ds => some (-(ofDigits ds))) hmore h
    · next hminus =>
      simp only [after?_followed_none hminus (hne _)]
      cases hplus : after? ['+'] r with
      | none =>
        rw [after?_followed_none hplus (hne _)]
        rw [hplus] at h
        exact map_someDigits_followed (f := fun ds => some (ofDigits ds)) hmore h
      | some r' =>
        rw [after?_followed hplus]
        rw [hplus] at h
        exact map_someDigits_followed (f := fun ds => some (ofDigits ds)) hmore h

/-- The parts of a numeral behind its sign. -/
theorem scanParts_followed {negative : Bool} {x : Numeral} (hmore : EndsNumber more)
    (h : (do
      let (whole, s) ← scanWhole s
      let (fraction, s) ← scanFraction s
      let (exponent, s) ← scanExponent s
      return (⟨negative, whole, fraction, exponent⟩, s)) = Except.ok (x, rest)) :
    (do
      let (whole, s) ← scanWhole (s ++ more)
      let (fraction, s) ← scanFraction s
      let (exponent, s) ← scanExponent s
      return (⟨negative, whole, fraction, exponent⟩, s)) = Except.ok (x, rest ++ more) := by
  simp only [bind, Except.bind] at h ⊢
  -- each part ends before `more` begins, so the next one starts where it started before
  split at h
  · cases h
  · next whole hwhole =>
    simp only [scanWhole_followed hmore hwhole]
    split at h
    · cases h
    · next fraction hfraction =>
      simp only [scanFraction_followed hmore hfraction]
      split at h
      · cases h
      · next exponent hexponent =>
        cases h
        simp only [scanExponent_followed hmore hexponent]
        rfl

/-- **A numeral is the same in a longer text**, if what follows does not go on with it. -/
theorem scan_followed {x : Numeral} (hmore : EndsNumber more) (h : scan s = .ok (x, rest)) :
    scan (s ++ more) = .ok (x, rest ++ more) := by
  unfold scan at h ⊢
  cases hminus : after? ['-'] s with
  | none =>
    -- a numeral is not empty, so that it has no sign is told without what follows
    have hne : s = [] → ∀ c ∈ ['-'], more.head? ≠ some (.char c) := by
      rintro rfl
      cases h
    rw [hminus] at h
    rw [after?_followed_none hminus hne]
    exact scanParts_followed hmore h
  | some r =>
    rw [hminus] at h
    rw [after?_followed hminus]
    exact scanParts_followed hmore h

end Numeral

namespace Literal

/-- **A literal is the same in a longer text**, once it has its closing quote. -/
theorem scan_followed (s more : List Symbol) (h : (scan s).2.1 = .quote) :
    scan (s ++ more) = ((scan s).1, .quote, (scan s).2.2 ++ more) := by
  fun_induction scan s with
  | case1 => cases h
  | case2 n cut rest pieces stop rest' hrest ih =>
    rw [hrest] at ih
    simp only [List.cons_append, scan, ih h]
  | case3 rest => simp only [List.cons_append, scan]
  | case4 a b c d rest n hn pieces stop rest' hrest ih =>
    rw [hrest] at ih
    simp only [List.cons_append, scan, hn, ih h]
  | case6 rest hshort =>
    -- what ends inside a code unit does not end at a quote
    have hstop : (if Symbol.totalSize rest < 4 then Stop.cut else Stop.badCode) = .quote := h
    split at hstop <;> cases hstop
  | case8 e rest _ hu c hc pieces stop rest' hrest ih =>
    rw [hrest] at ih
    rw [List.cons_append, List.cons_append, scan]
    · simp only [hc, ih h]
    · exact fun _ _ _ _ _ _ => hu
    · exact hu
  | case12 c rest hquote _ _ hnil _ hcons hcontrol pieces stop rest' hrest ih =>
    rw [hrest] at ih
    have hbackslash : c ≠ '\\' := by
      cases rest with
      | nil => exact hnil rfl
      | cons a rest => exact hcons a rest rfl
    rw [List.cons_append, scan_plain hquote hbackslash hcontrol, ih h]
  | case5 | case7 | case9 | case10 | case11 => cases h

/-- Only a closing quote ends a literal without a fault. -/
theorem eq_quote_of_fault? {stop : Stop} (h : stop.fault? = none) : stop = .quote := by
  cases stop <;> first | rfl | cases h

end Literal

namespace Token

/-- A word is spelled before anything follows. -/
theorem letters_followed {cs : List Char} (h : letters cs s = .ok rest) :
    letters cs (s ++ more) = .ok (rest ++ more) := by
  fun_induction letters cs s with
  | case1 s =>
    cases h
    rfl
  | case2 => cases h
  | case3 c cs s ih => rw [List.cons_append, letters, if_pos rfl, ih h]
  | case4 => cases h

theorem word_followed {t : Token} {cs : List Char} (h : (word t cs s).1.IsWhole) :
    word t cs (s ++ more) = ((word t cs s).1, (word t cs s).2 ++ more) := by
  unfold word at h ⊢
  cases hletters : letters cs s with
  | error f =>
    rw [hletters] at h
    exact h.elim
  | ok rest => rw [letters_followed hletters]

/-- A whole lexeme stays the same token when more follows, and what follows is left over. -/
theorem numberAt_followed (hmore : EndsNumber more) (h : (numberAt s).1.IsWhole) :
    numberAt (s ++ more) = ((numberAt s).1, (numberAt s).2 ++ more) := by
  unfold numberAt at h ⊢
  cases hscan : Numeral.scan s with
  | error f =>
    rw [hscan] at h
    cases h
  | ok r =>
    obtain ⟨x, rest⟩ := r
    rw [Numeral.scan_followed hmore hscan]

theorem textAt_followed (h : (textAt s).1.IsWhole) :
    textAt (s ++ more) = ((textAt s).1, (textAt s).2 ++ more) := by
  have hstop : (Literal.scan s).2.1 = .quote := Literal.eq_quote_of_fault? h
  simp only [textAt, Literal.scan_followed s more hstop, hstop]

/-- So does every whole token, as its first sign decides what it is. -/
theorem startingWith_followed {a : Symbol} (hmore : EndsNumber more) (h : (startingWith a s).1.IsWhole) :
    startingWith a (s ++ more) = ((startingWith a s).1, (startingWith a s).2 ++ more) := by
  revert h
  unfold startingWith
  split
  -- texts, words and numbers can be cut short; the tokens of one character cannot
  case h_7 => exact textAt_followed
  case h_8 | h_9 | h_10 => exact word_followed
  case h_11 c _ _ _ _ _ _ _ _ _ _ =>
    intro h
    by_cases hc : (c = '-' || '0' ≤ c && c ≤ '9') = true
    · rw [if_pos hc] at h ⊢
      rw [if_pos hc]
      exact numberAt_followed (s := .char c :: s) hmore h
    · rw [if_neg hc] at h
      exact h.elim
  case h_12 => exact fun h => h.elim
  all_goals
    intro _
    rfl

/-- **A text of well-formed tokens has them in a longer text as well.** -/
theorem all_followed (hmore : EndsNumber more) (s : List Symbol) (h : ∀ t ∈ all s, t.IsWhole) :
    all (s ++ more) = all s ++ all more := by
  fun_induction all s with
  | case1 => rfl
  | case2 a s hspace ih =>
    rw [List.cons_append, all, if_pos hspace, ih h]
  | case3 a s hspace ih =>
    rw [List.forall_mem_cons] at h
    rw [List.cons_append, all, if_neg hspace, startingWith_followed hmore h.1, ih h.2]
    rfl

end Token

end Following

/-! ## The tokens of a value -/

namespace Value

/-- The tokens of a value are whole, since they have values. -/
theorem isWhole_itemTokens {vs : List Value} (h : ∀ v ∈ vs, ∀ t ∈ v.tokens, t.IsWhole) :
    ∀ t ∈ itemTokens vs, t.IsWhole := by
  induction vs with
  | nil => nofun
  | cons v vs ih =>
    rw [List.forall_mem_cons] at h
    cases vs with
    | nil => exact h.1
    | cons w vs =>
      rw [itemTokens, List.forall_mem_append, List.forall_mem_cons]
      exact ⟨h.1, trivial, ih h.2⟩

theorem isWhole_memberTokens {ms : List (String × Value)} (h : ∀ m ∈ ms, ∀ t ∈ m.2.tokens, t.IsWhole) :
    ∀ t ∈ memberTokens ms, t.IsWhole := by
  induction ms with
  | nil => nofun
  | cons m ms ih =>
    obtain ⟨k, v⟩ := m
    rw [List.forall_mem_cons] at h
    cases ms with
    | nil =>
      rw [memberTokens, List.forall_mem_cons, List.forall_mem_cons]
      exact ⟨rfl, trivial, h.1⟩
    | cons m ms =>
      rw [memberTokens, List.forall_mem_cons, List.forall_mem_cons, List.forall_mem_append,
        List.forall_mem_cons]
      exact ⟨rfl, trivial, h.1, trivial, ih h.2⟩

theorem isWhole_tokens (v : Value) : ∀ t ∈ v.tokens, t.IsWhole := by
  induction v using Value.induction with
  | null | bool | number | text => exact List.forall_mem_singleton.mpr (by trivial)
  | list vs ih =>
    rw [tokens, List.forall_mem_cons, List.forall_mem_append, List.forall_mem_singleton]
    exact ⟨trivial, isWhole_itemTokens ih, trivial⟩
  | object ms ih =>
    rw [tokens, List.forall_mem_cons, List.forall_mem_append, List.forall_mem_singleton]
    exact ⟨trivial, isWhole_memberTokens ih, trivial⟩

end Value

/-- **A text that is split into the tokens of a value is split into them in a longer text as well.** -/
theorem spells_of_tokens {cs : List Char} {v : Value} (h : Token.all (Symbol.ofChars cs) = v.tokens) :
    Spells cs v.tokens := by
  intro rest hrest
  rw [Token.all_followed hrest, h]
  rw [h]
  exact v.isWhole_tokens

end BookmarkSync.Json
