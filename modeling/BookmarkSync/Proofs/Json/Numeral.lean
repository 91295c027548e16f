import BookmarkSync.Json.Number

/-!
# `BookmarkSync.Proofs.Json.Numeral` — written integers are read back

An integer is written as its decimal digits, after a sign if it is negative. The numeral scanned from
them has no fraction and no exponent, so it stands for an integer again as long as 64 bits hold it:
`scan_render` gives the numeral, and `value_ofInt` its value. No other numerals stand for integers
(`value_eq_integer_iff`).
-/

namespace BookmarkSync.Json

open BookmarkSync.Text (Symbol)

/-! ## What may follow a number -/

/-- Whether a number before `s` ends there: what follows is no digit, no point and no exponent mark. -/
def EndsNumber : List Symbol → Prop
  | [] => True
  | a :: _ => Numeral.digit? a = none ∧ a ≠ .char '.' ∧ a ≠ .char 'e' ∧ a ≠ .char 'E'

/-- What ends a number begins with no digit. -/
theorem EndsNumber.digit {a : Symbol} {s : List Symbol} (h : EndsNumber (a :: s)) :
    Numeral.digit? a = none := h.1

/-- A number is an integer that a numeral without point and exponent can write. -/
def Number.IsWord : Number → Prop
  | .integer n => -0x8000000000000000 ≤ n ∧ n < 0x10000000000000000
  | .float _ => False

/-- What a mapped result is, it is the image of. -/
theorem map_eq_ok {ε α β : Type} {f : α → β} {r : Except ε α} {b : β} (h : r.map f = .ok b) :
    ∃ a, r = .ok a ∧ f a = b := by
  cases r with
  | error e => cases h
  | ok a => exact ⟨a, rfl, Except.ok.inj h⟩

namespace Numeral

/-! ## Digits -/

/-- The value of a decimal digit. -/
def digitValue (c : Char) : Nat := c.toNat - 48

theorem bounds_of_isDigit {c : Char} (h : c.isDigit) : '0' ≤ c ∧ c ≤ '9' := by
  have hb : 48 ≤ c.toNat ∧ c.toNat ≤ 57 := Char.isDigit_iff_toNat.mp h
  exact ⟨Char.le_def.mpr (UInt32.le_iff_toNat_le.mpr hb.1), Char.le_def.mpr (UInt32.le_iff_toNat_le.mpr hb.2)⟩

/-- A digit of a text is read as its number. -/
theorem digit?_of_isDigit {c : Char} (h : c.isDigit) : digit? (.char c) = some (digitValue c) := by
  obtain ⟨hlow, hhigh⟩ := bounds_of_isDigit h
  simp [digit?, hlow, hhigh, digitValue]

/-- Digits are taken as far as they go, and at least one of them has to be there. -/
theorem spanDigits_append {cs : List Char} (hcs : ∀ c ∈ cs, c.isDigit) {rest : List Symbol}
    (hrest : EndsNumber rest) :
    spanDigits (Symbol.ofChars cs ++ rest) = (cs.map digitValue, rest) := by
  induction cs with
  | nil =>
    cases rest with
    | nil => rfl
    | cons a s => simp [Symbol.ofChars, spanDigits, hrest.digit]
  | cons c cs ih =>
    have hc := digit?_of_isDigit (hcs c List.mem_cons_self)
    have hih := ih fun d hd => hcs d (List.mem_cons_of_mem c hd)
    rw [Symbol.ofChars] at hih
    simp [Symbol.ofChars, spanDigits, hc, hih]

theorem someDigits_append {cs : List Char} (hne : cs ≠ []) (hcs : ∀ c ∈ cs, c.isDigit)
    {rest : List Symbol} (hrest : EndsNumber rest) :
    someDigits (Symbol.ofChars cs ++ rest) = .ok (cs.map digitValue, rest) := by
  cases cs with
  | nil => exact absurd rfl hne
  | cons c cs =>
    unfold someDigits
    rw [spanDigits_append hcs hrest]
    rfl

/-! ## The digits of a number -/

/-- The decimal digits of a number are digits. -/
theorem isDigit_of_mem_digits {n : Nat} {c : Char} (h : c ∈ Nat.toDigits 10 n) : c.isDigit :=
  Nat.isDigit_of_mem_toDigits (by decide) (by decide) h

/-- The digits of a number do not start with a zero, unless the number is zero. -/
theorem digitValue_head_ne_zero {n : Nat} (hn : 0 < n) {c : Char} {cs : List Char}
    (h : Nat.toDigits 10 n = c :: cs) : digitValue c ≠ 0 := by
  -- the digits of `n` are those of `n / 10` and one more, so both have the same head
  induction n using Nat.strongRecOn generalizing c cs with
  | _ n ih =>
    rw [Nat.toDigits_eq_if (by decide)] at h
    split at h
    · next hlt =>
      obtain ⟨rfl, -⟩ := List.cons.inj h
      rw [digitValue, Nat.toNat_digitChar_sub_48_of_lt_ten hlt]
      omega
    · next hge =>
      cases hd : Nat.toDigits 10 (n / 10) with
      | nil => exact absurd hd Nat.toDigits_ne_nil
      | cons d ds =>
        rw [hd, List.cons_append] at h
        obtain ⟨rfl, -⟩ := List.cons.inj h
        exact ih (n / 10) (by omega) (by omega) hd

/-- A whole part that is written without superfluous zeros is scanned. -/
theorem scanWhole_digits (n : Nat) {rest : List Symbol} (hrest : EndsNumber rest) :
    scanWhole (Symbol.ofChars (Nat.toDigits 10 n) ++ rest)
      = .ok ((Nat.toDigits 10 n).map digitValue, rest) := by
  have hds := someDigits_append Nat.toDigits_ne_nil (fun c => isDigit_of_mem_digits (n := n)) hrest
  simp only [scanWhole, hds, bind, Except.bind]
  split
  · next z ds r hz =>
    -- a leading zero with digits behind it would be the head of the digits of a positive number
    obtain ⟨hmap, -⟩ := Prod.mk.inj hz
    cases hd : Nat.toDigits 10 n with
    | nil => exact absurd hd Nat.toDigits_ne_nil
    | cons c cs =>
      rw [hd, List.map_cons] at hmap
      obtain ⟨hc, hcs⟩ := List.cons.inj hmap
      rcases Nat.eq_zero_or_pos n with rfl | hn
      · rw [Nat.toDigits_zero] at hd
        obtain ⟨-, rfl⟩ := List.cons.inj hd
        exact absurd hcs (by simp)
      · exact absurd hc (digitValue_head_ne_zero hn hd)
  · rfl

/-- The value of digits is that of Horner's scheme. -/
theorem foldl_digitValue (cs : List Char) (acc : Nat) :
    (cs.map digitValue).foldl (fun n d => n * 10 + d) acc = Nat.ofDigitChars 10 cs acc := by
  induction cs generalizing acc with
  | nil => rfl
  | cons c cs ih =>
    rw [List.map_cons, List.foldl_cons, ih, Nat.ofDigitChars_cons, Nat.mul_comm]
    rfl

/-- A digit more does not make a number smaller. -/
theorem le_foldl_digits (ds : List Nat) (acc : Nat) : acc ≤ ds.foldl (fun n d => n * 10 + d) acc := by
  induction ds generalizing acc with
  | nil => exact Nat.le_refl acc
  | cons d ds ih => exact Nat.le_trans (by omega) (ih (acc * 10 + d))

/-- No digit is dropped when the number fits into 64 bits. -/
theorem appendDigits_of_lt {ds : List Nat} {acc : Nat}
    (h : ds.foldl (fun n d => n * 10 + d) acc < Nat.pow 2 64) :
    appendDigits acc ds = (ds.foldl (fun n d => n * 10 + d) acc, 0) := by
  induction ds generalizing acc with
  | nil => rfl
  | cons d ds ih =>
    rw [List.foldl_cons] at h ⊢
    have hlt : acc * 10 + d < Nat.pow 2 64 := Nat.lt_of_le_of_lt (le_foldl_digits ds _) h
    rw [appendDigits, if_pos hlt, ih h]

/-- A number is read back from its decimal digits. -/
theorem ofDigits_digits (n : Nat) : ofDigits ((Nat.toDigits 10 n).map digitValue) = n := by
  rw [ofDigits, foldl_digitValue, Nat.ofDigitChars_ten_toDigits]

/-- Digits of which none is dropped make a number that fits into 64 bits. -/
theorem foldl_of_appendDigits {ds : List Nat} {acc n : Nat} (hacc : acc < Nat.pow 2 64)
    (h : appendDigits acc ds = (n, 0)) : ds.foldl (fun n d => n * 10 + d) acc = n ∧ n < Nat.pow 2 64 := by
  induction ds generalizing acc with
  | nil =>
    cases h
    exact ⟨rfl, hacc⟩
  | cons d ds ih =>
    rw [appendDigits] at h
    split at h
    · next hlt => exact ih hlt h
    · cases h

/-! ## Integers -/

/-- **Which numerals stand for integers**: those without point and exponent whose number 64 bits hold, except
for a zero with a sign. -/
theorem value_eq_integer_iff {x : Numeral} {n : Int} : x.value = .ok (.integer n) ↔
    x.fraction = [] ∧ x.exponent = none ∧ (Number.integer n).IsWord ∧
      if x.negative then n ≠ 0 ∧ n = -(ofDigits x.whole : Int) else n = ofDigits x.whole := by
  have hpow : Nat.pow 2 64 = 0x10000000000000000 := rfl
  have hhalf : Nat.pow 2 63 = 0x8000000000000000 := rfl
  obtain ⟨negative, whole, fraction, exponent⟩ := x
  constructor
  · intro h
    rcases hdigits : appendDigits 0 whole with ⟨kept, dropped⟩
    simp only [value, hdigits] at h
    split at h
    · -- neither point nor exponent, and no digit is dropped
      obtain ⟨hkept, hlt⟩ := foldl_of_appendDigits (by decide) hdigits
      refine ⟨rfl, rfl, ?_⟩
      simp only [Number.IsWord, ofDigits, hkept]
      cases negative with
      | false =>
        cases h
        exact ⟨⟨by omega, by omega⟩, rfl⟩
      | true =>
        simp only [Bool.not_true, Bool.false_eq_true, if_false, Bool.or_eq_true, decide_eq_true_eq] at h
        split at h
        · cases h
        · cases h
          exact ⟨⟨by omega, by omega⟩, by omega, rfl⟩
    · -- all others are floating point numbers
      obtain ⟨f, -, hf⟩ := map_eq_ok h
      cases hf
  · rintro ⟨rfl, rfl, ⟨hlow, hhigh⟩, hsign⟩
    dsimp only at hsign
    have hdigits : appendDigits 0 whole = (ofDigits whole, 0) := by
      refine appendDigits_of_lt ?_
      rw [← ofDigits]
      split at hsign <;> omega
    simp only [value, hdigits]
    cases negative with
    | false =>
      simp only [Bool.false_eq_true, if_false] at hsign
      rw [hsign]
      rfl
    | true =>
      simp only [if_true] at hsign
      have hsmall : ¬ (ofDigits whole = 0 ∨ ofDigits whole > Nat.pow 2 63) := by omega
      simp only [Bool.not_true, Bool.false_eq_true, if_false, Bool.or_eq_true, decide_eq_true_eq, if_neg hsmall,
        hsign.2]

/-! ## Whole numerals -/

/-- The numeral of an integer. -/
def ofInt (n : Int) : Numeral :=
  ⟨decide (n < 0), (Nat.toDigits 10 n.natAbs).map digitValue, [], none⟩

/-- A sign that does not come first is not taken. -/
theorem after?_eq_none {cs : List Char} {s : List Symbol} (h : ∀ c ∈ cs, s.head? ≠ some (.char c)) :
    after? cs s = none := by
  unfold after?
  split
  · next c rest =>
    split
    · next hc => exact absurd rfl (h c hc)
    · rfl
  · rfl

/-- Where the number ends there is neither a fraction nor an exponent. -/
theorem scanFraction_of_ends {s : List Symbol} (h : EndsNumber s) : scanFraction s = .ok ([], s) := by
  have hnone : after? ['.'] s = none := by
    apply after?_eq_none
    cases s with
    | nil => simp
    | cons a s => simpa using h.2.1
  rw [scanFraction, hnone]

theorem scanExponent_of_ends {s : List Symbol} (h : EndsNumber s) : scanExponent s = .ok (none, s) := by
  have hnone : after? ['e', 'E'] s = none := by
    apply after?_eq_none
    cases s with
    | nil => simp
    | cons a s => simpa using h.2.2
  rw [scanExponent, hnone]

/-- The sign of a written integer is told from its digits. -/
theorem sign_digits (n : Nat) (rest : List Symbol) :
    after? ['-'] (Symbol.ofChars (Nat.toDigits 10 n) ++ rest) = none := by
  apply after?_eq_none
  intro c hc
  cases hd : Nat.toDigits 10 n with
  | nil => exact absurd hd Nat.toDigits_ne_nil
  | cons d ds =>
    have hdigit : d.isDigit := isDigit_of_mem_digits (hd ▸ List.mem_cons_self)
    have hne : d ≠ '-' := by
      rintro rfl
      exact absurd hdigit (by decide)
    simpa [Symbol.ofChars, List.mem_singleton.mp hc] using hne

/-- An integer is printed as its digits, with a sign if it is negative. -/
theorem toList_render_integer (n : Int) :
    (Number.integer n).render.toList
      = if 0 ≤ n then Nat.toDigits 10 n.natAbs else '-' :: Nat.toDigits 10 n.natAbs := by
  have habs : 0 ≤ n → n.toNat = n.natAbs := by omega
  have hneg : ¬ 0 ≤ n → (-n).toNat = n.natAbs := by omega
  rw [Number.render, Int.toString_eq_repr, Int.repr_eq_if]
  split
  · next h => rw [Nat.toList_repr, habs h]
  · next h => rw [String.toList_append, Nat.toList_repr, hneg h]; rfl

/-- **A written integer is scanned as its numeral**, up to the end of its digits. -/
theorem scan_render (n : Int) {rest : List Symbol} (hrest : EndsNumber rest) :
    scan (Symbol.ofChars (Number.integer n).render.toList ++ rest) = .ok (ofInt n, rest) := by
  rw [toList_render_integer]
  have hw := scanWhole_digits n.natAbs hrest
  by_cases hn : 0 ≤ n
  · rw [if_pos hn, scan, sign_digits]
    simp only [hw, bind, Except.bind, scanFraction_of_ends hrest, scanExponent_of_ends hrest, pure, Except.pure]
    rw [ofInt, decide_eq_false (by omega)]
  · rw [if_neg hn]
    have hsign : after? ['-'] (Symbol.ofChars ('-' :: Nat.toDigits 10 n.natAbs) ++ rest)
        = some (Symbol.ofChars (Nat.toDigits 10 n.natAbs) ++ rest) := rfl
    rw [scan, hsign]
    simp only [hw, bind, Except.bind, scanFraction_of_ends hrest, scanExponent_of_ends hrest, pure, Except.pure]
    rw [ofInt, decide_eq_true (by omega)]

/-- **The numeral of an integer stands for that integer**, if 64 bits hold it. -/
theorem value_ofInt {n : Int} (h : (Number.integer n).IsWord) : (ofInt n).value = .ok (.integer n) := by
  refine value_eq_integer_iff.mpr ⟨rfl, rfl, h, ?_⟩
  simp only [ofInt, ofDigits_digits, decide_eq_true_eq]
  split <;> omega

end Numeral

end BookmarkSync.Json
