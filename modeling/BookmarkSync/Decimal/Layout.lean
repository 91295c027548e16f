import BookmarkSync.Decimal.Shortest

/-!
# `BookmarkSync.Decimal.Layout` — how a decimal number is written

A number of moderate size is written positionally and keeps a fraction, so it cannot be taken for an
integer; any other one is written with an exponent.
-/

namespace BookmarkSync.Decimal

/-- The choices that a written form leaves open. -/
structure Layout where
  /-- The smallest and the largest power of ten of a leading digit written positionally. -/
  leastPositional : Int
  greatestPositional : Int
  /-- What stands between the digits and a positive exponent. -/
  positiveMark : String
  negativeMark : String
  /-- The least number of digits of an exponent. -/
  exponentWidth : Nat
deriving DecidableEq, Repr

namespace Layout

def zeros (n : Int) : List Char := List.replicate n.toNat '0'

/-- Digits with a point after the first `n`. -/
def pointed (n : Nat) (digits : List Char) : List Char :=
  digits.take n ++ '.' :: digits.drop n

/-- The positional form of `digits * 10 ^ exponent`. -/
def positional (digits : List Char) (exponent : Int) : List Char :=
  let whole := digits.length + exponent
  if 0 ≤ exponent then digits ++ zeros exponent ++ ['.', '0']
  else if 0 < whole then pointed whole.toNat digits
  else '0' :: '.' :: zeros (-whole) ++ digits

/-- The digits with a point after the first, if there are more. -/
def significand (digits : List Char) : List Char :=
  if digits.length ≤ 1 then digits else pointed 1 digits

/-- The written form of a positive decimal. -/
def written (layout : Layout) (x : Scaled) : List Char :=
  let digits := Nat.toDigits 10 x.digits
  let leading := (digits.length : Int) - 1 + x.exponent
  if layout.leastPositional ≤ leading && leading ≤ layout.greatestPositional then
    positional digits x.exponent
  else
    let mark := if 0 ≤ leading then layout.positiveMark else layout.negativeMark
    let power := Nat.toDigits 10 leading.natAbs
    significand digits ++ mark.toList ++ zeros (layout.exponentWidth - power.length) ++ power

/-- The written form of a finite number. -/
def render (layout : Layout) (f : Float) : String :=
  let sign := if f.toBits ≥ 0x8000000000000000 then ['-'] else []
  let x := Binary.ofBits f.toBits
  let size := if x.mantissa = 0 then ['0', '.', '0'] else layout.written x.shortest
  String.ofList (sign ++ size)

end Layout

end BookmarkSync.Decimal
