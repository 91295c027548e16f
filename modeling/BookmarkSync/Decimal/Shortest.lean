/-!
# `BookmarkSync.Decimal.Shortest` — the shortest decimal that reads back as a binary fraction

A binary floating point number stands for an interval of reals: those that round to it. Among the
decimals inside that interval the shortest is the one on the coarsest decimal grid that has a point
there; of two such points the nearer is taken. If any point of a grid lies in the interval, so does one
of the two neighbours of the number itself, so only these are tried.
-/

namespace BookmarkSync.Decimal

/-- The number `mantissa * 2 ^ exponent`, with the reals that round to it. -/
structure Binary where
  mantissa : Nat
  exponent : Int
  /-- Whether the next smaller number is half as far away as the next larger one. -/
  narrowBelow : Bool
deriving DecidableEq, Repr

/-- The number `digits * 10 ^ exponent`. -/
structure Scaled where
  digits : Nat
  exponent : Int
deriving DecidableEq, Repr

namespace Binary

/-- The size of a finite number, from its bits: eleven of exponent and fifty-two of mantissa. -/
def ofBits (bits : UInt64) : Binary :=
  let field := bits.toNat / Nat.pow 2 52 % Nat.pow 2 11
  let fraction := bits.toNat % Nat.pow 2 52
  if field = 0 then ⟨fraction, -1074, false⟩
  else ⟨Nat.pow 2 52 + fraction, Int.ofNat field - 1075, fraction = 0 && field != 1⟩

/-- Twice `2 ^ a` over `10 ^ b` as a fraction of natural numbers, for exponents of either sign. -/
def ratio (a b : Int) : Nat × Nat :=
  (Nat.pow 2 a.toNat * Nat.pow 10 (-b).toNat, Nat.pow 2 (-a).toNat * Nat.pow 10 b.toNat)

/-- The best point of the grid of multiples of `10 ^ k` inside the interval of `x`, if there is one.
Everything is measured in quarters of `2 ^ x.exponent`. -/
def onGrid? (x : Binary) (k : Int) : Option Scaled :=
  let (num, den) := ratio (x.exponent - 2) k
  let value := 4 * x.mantissa * num
  let low := (4 * x.mantissa - (if x.narrowBelow then 1 else 2)) * num
  let high := (4 * x.mantissa + 2) * num
  let closed := x.mantissa % 2 = 0
  let inside (d : Nat) : Bool :=
    let point := d * den
    if closed then low ≤ point && point ≤ high else low < point && point < high
  let below := value / den
  let above := below + 1
  let nearBelow := 2 * (value % den) < den || (2 * (value % den) = den && below % 2 = 0)
  if inside below && (nearBelow || !inside above) && below != 0 then some ⟨below, k⟩
  else if inside above then some ⟨above, k⟩
  else none

/-- The first hit on the grids of `10 ^ k`, `10 ^ (k - 1)`, and so on. -/
def search (x : Binary) : Nat → Int → Option Scaled
  | 0, _ => none
  | n + 1, k => (onGrid? x k).or (search x n (k - 1))

/-- The shortest decimal that rounds to `x`. The first grid is coarser than `x` itself; seventeen
digits always suffice. -/
def shortest (x : Binary) : Scaled :=
  let size := (Nat.log2 x.mantissa : Int) + x.exponent
  let start := size * 30103 / 100000 + 2
  (search x 22 start).getD ⟨x.mantissa, 0⟩

end Binary

end BookmarkSync.Decimal
