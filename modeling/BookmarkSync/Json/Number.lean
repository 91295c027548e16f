import BookmarkSync.Decimal.Layout
import BookmarkSync.Json.Fault
import BookmarkSync.Text.Utf8

/-!
# `BookmarkSync.Json.Number` — numbers and their numerals

A numeral without fraction and exponent is an integer as far as 64 bits reach: up to `2 ^ 64 - 1`, or
down to `-2 ^ 63`. Every other numeral is a floating point number, and so is `-0`.

A floating point number is made from the leading digits that fit into 64 bits and one power of ten, by
one multiplication or division. The digits that do not fit only count as places.
-/

namespace BookmarkSync.Json

open BookmarkSync.Text (Symbol)

/-- A JSON number. -/
inductive Number
  | integer (n : Int)
  | float (f : Float)
deriving Repr, Inhabited

/-- The parts of a numeral: its sign, the digits before and after the point, and the exponent. -/
structure Numeral where
  negative : Bool
  whole : List Nat
  fraction : List Nat
  exponent : Option Int
deriving DecidableEq, Repr

namespace Numeral

/-! ## The value of a numeral -/

/-- Appends digits to `acc` as long as the result stays below `2 ^ 64`; the second part counts the digits
left over. -/
def appendDigits (acc : Nat) : List Nat → Nat × Nat
  | [] => (acc, 0)
  | d :: ds => if acc * 10 + d < Nat.pow 2 64 then appendDigits (acc * 10 + d) ds else (acc, ds.length + 1)

/-- The number written by the digits. -/
def ofDigits (ds : List Nat) : Nat := ds.foldl (fun n d => n * 10 + d) 0

/-- The power `10 ^ n` as a floating point number. -/
def powerOfTen (n : Nat) : Float := Float.ofScientific 1 false n

/-- The largest power of ten that is a finite floating point number. -/
def greatestPower : Nat := 308

/-- `f / 10 ^ n`, by steps that stay in range. -/
def dividedByPower (f : Float) (n : Nat) : Float :=
  if n ≤ greatestPower then f / powerOfTen n
  else if f == 0 then f
  else dividedByPower (f / powerOfTen greatestPower) (n - greatestPower)
termination_by n
decreasing_by simp only [greatestPower] at *; omega

/-- `f * 10 ^ n`, which must be finite. -/
def timesPower (f : Float) (n : Nat) : Except Fault Float :=
  if n ≤ greatestPower then
    let product := f * powerOfTen n
    if product.isInf then .error .numberOutOfRange else .ok product
  else if f == 0 then .ok f
  else .error .numberOutOfRange

/-- The floating point number `significand * 10 ^ exponent`. -/
def scaled (significand : Nat) (exponent : Int) : Except Fault Float :=
  let f := Float.ofNat significand
  if 0 ≤ exponent then timesPower f exponent.natAbs else .ok (dividedByPower f exponent.natAbs)

/-- The value of a numeral. -/
def value (x : Numeral) : Except Fault Number :=
  let (whole, dropped) := appendDigits 0 x.whole
  let signed (f : Float) : Number := .float (if x.negative then -f else f)
  match x.fraction, x.exponent, dropped with
  | [], none, 0 =>
    if !x.negative then .ok (.integer whole)
    else if whole = 0 || whole > Nat.pow 2 63 then .ok (signed (Float.ofNat whole))
    else .ok (.integer (-whole))
  | _, _, _ =>
    let (significand, ignored) := appendDigits whole x.fraction
    let places : Int := dropped - (x.fraction.length - ignored)
    (scaled significand (places + x.exponent.getD 0)).map signed

/-! ## The grammar of numerals -/

/-- The digit a symbol stands for. -/
def digit? : Symbol → Option Nat
  | .char c => if '0' ≤ c && c ≤ '9' then some (c.toNat - 48) else none
  | .broken .. => none

/-- The digits at the start of `s`, and what follows them. -/
def spanDigits : List Symbol → List Nat × List Symbol
  | [] => ([], [])
  | a :: rest =>
    match digit? a with
    | some d => (d :: (spanDigits rest).1, (spanDigits rest).2)
    | none => ([], a :: rest)

/-- At least one digit. -/
def someDigits (s : List Symbol) : Except Fault (List Nat × List Symbol) :=
  match spanDigits s, s with
  | ([], _), [] => .error .endInValue
  | ([], _), _ => .error .invalidNumber
  | r, _ => .ok r

/-- The rest of `s` after one of the characters `cs`, if it starts with one. -/
def after? (cs : List Char) : List Symbol → Option (List Symbol)
  | .char c :: rest => if c ∈ cs then some rest else none
  | _ => none

/-- The whole part: one zero, or digits that do not start with a zero. -/
def scanWhole (s : List Symbol) : Except Fault (List Nat × List Symbol) := do
  match ← someDigits s with
  | (0 :: _ :: _, _) => .error .invalidNumber
  | r => .ok r

/-- The fraction, empty when there is no point. -/
def scanFraction (s : List Symbol) : Except Fault (List Nat × List Symbol) :=
  match after? ['.'] s with
  | some rest => someDigits rest
  | none => .ok ([], s)

/-- The exponent, if there is one. -/
def scanExponent (s : List Symbol) : Except Fault (Option Int × List Symbol) :=
  match after? ['e', 'E'] s with
  | none => .ok (none, s)
  | some rest =>
    match after? ['-'] rest with
    | some rest => (someDigits rest).map fun (ds, rest) => (some (-(ofDigits ds)), rest)
    | none =>
      (someDigits ((after? ['+'] rest).getD rest)).map fun (ds, rest) => (some (ofDigits ds), rest)

/-- The numeral at the start of `s`, and what follows it. -/
def scan (s : List Symbol) : Except Fault (Numeral × List Symbol) := do
  let (negative, s) := match after? ['-'] s with
    | some rest => (true, rest)
    | none => (false, s)
  let (whole, s) ← scanWhole s
  let (fraction, s) ← scanFraction s
  let (exponent, s) ← scanExponent s
  return (⟨negative, whole, fraction, exponent⟩, s)

/-! ## Scanning moves on -/

theorem spanDigits_length (s : List Symbol) : (spanDigits s).2.length ≤ s.length := by
  induction s with
  | nil => simp [spanDigits]
  | cons a rest ih =>
    unfold spanDigits
    split
    · rw [List.length_cons]
      exact Nat.le_succ_of_le ih
    · exact Nat.le_refl _

theorem someDigits_length {s rest : List Symbol} {ds : List Nat}
    (h : someDigits s = .ok (ds, rest)) : rest.length < s.length := by
  cases s with
  | nil => simp [someDigits, spanDigits] at h
  | cons a s =>
    have hs := spanDigits_length s
    cases hd : digit? a with
    | none => simp [someDigits, spanDigits, hd] at h
    | some d =>
      simp only [someDigits, spanDigits, hd, Except.ok.injEq, Prod.mk.injEq] at h
      rw [← h.2, List.length_cons]
      omega

theorem after?_length {cs : List Char} {s rest : List Symbol} (h : after? cs s = some rest) :
    rest.length < s.length := by
  unfold after? at h
  split at h
  · split at h <;> simp_all
  · simp at h

theorem scanWhole_length {s rest : List Symbol} {ds : List Nat}
    (h : scanWhole s = .ok (ds, rest)) : rest.length < s.length := by
  unfold scanWhole at h
  cases hd : someDigits s with
  | error f => simp [hd, bind, Except.bind] at h
  | ok r =>
    simp only [hd, bind, Except.bind] at h
    split at h
    · simp at h
    · simp only [Except.ok.injEq] at h
      exact someDigits_length (h ▸ hd)

theorem scanFraction_length {s rest : List Symbol} {ds : List Nat}
    (h : scanFraction s = .ok (ds, rest)) : rest.length ≤ s.length := by
  unfold scanFraction at h
  split at h
  · next r hr => exact Nat.le_of_lt (Nat.lt_trans (someDigits_length h) (after?_length hr))
  · simp_all

theorem scanExponent_length {s rest : List Symbol} {e : Option Int}
    (h : scanExponent s = .ok (e, rest)) : rest.length ≤ s.length := by
  unfold scanExponent at h
  split at h
  · simp_all
  · next r hr =>
    have h1 := after?_length hr
    split at h
    · next r' hr' =>
      have h2 := after?_length hr'
      cases hd : someDigits r' with
      | error f => simp [hd, Except.map] at h
      | ok q =>
        have h3 := someDigits_length hd
        simp [hd, Except.map] at h
        rw [← h.2]
        omega
    · cases hp : after? ['+'] r with
      | none =>
        cases hd : someDigits r with
        | error f => simp [hp, hd, Except.map] at h
        | ok q =>
          have h3 := someDigits_length hd
          simp [hp, hd, Except.map] at h
          rw [← h.2]
          omega
      | some r' =>
        have h2 := after?_length hp
        cases hd : someDigits r' with
        | error f => simp [hp, hd, Except.map] at h
        | ok q =>
          have h3 := someDigits_length hd
          simp [hp, hd, Except.map] at h
          rw [← h.2]
          omega

theorem scan_length {s rest : List Symbol} {x : Numeral} (h : scan s = .ok (x, rest)) :
    rest.length < s.length := by
  have sign : ∀ s : List Symbol, (match after? ['-'] s with
      | some rest => (true, rest)
      | none => (false, s)).2.length ≤ s.length := by
    intro s
    split
    · next r hr => exact Nat.le_of_lt (after?_length hr)
    · exact Nat.le_refl _
  specialize sign s
  unfold scan at h
  generalize (match after? ['-'] s with
      | some rest => (true, rest)
      | none => (false, s)) = signed at h sign
  simp only [bind, Except.bind, pure, Except.pure] at h
  split at h
  · simp at h
  · next w hw =>
    split at h
    · simp at h
    · next f hf =>
      split at h
      · simp at h
      · next e he =>
        have h1 := scanWhole_length hw
        have h2 := scanFraction_length hf
        have h3 := scanExponent_length he
        simp only [Except.ok.injEq, Prod.mk.injEq] at h
        rw [← h.2]
        omega

end Numeral

namespace Number

/-- Floating point numbers are written with the fewest digits that read back; from `10 ^ 16` on, and
below `10 ^ -5`, with an exponent of at least two digits and a sign. -/
def layout : Decimal.Layout where
  leastPositional := -5
  greatestPositional := 15
  positiveMark := "e+"
  negativeMark := "e-"
  exponentWidth := 2

/-- The written form of a number. -/
def render : Number → String
  | integer n => toString n
  | float f => layout.render f

end Number

end BookmarkSync.Json
