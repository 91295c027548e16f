/-!
# `BookmarkSync.Text.Ranges` — sets of characters given by code point ranges
-/

namespace BookmarkSync.Text

/-- A set of code points as a list of closed ranges. -/
abbrev Ranges := List (Nat × Nat)

namespace Ranges

/-- Whether the code point `n` lies in one of the ranges. -/
def has (rs : Ranges) (n : Nat) : Bool := rs.any fun (first, last) => first ≤ n && n ≤ last

/-- Whether `c` lies in one of the ranges. -/
def hasChar (rs : Ranges) (c : Char) : Bool := rs.has c.toNat

end Ranges

/-! ## White space -/

/-- The characters with the Unicode property White_Space. -/
def blanks : Ranges :=
  [(0x09, 0x0D), (0x20, 0x20), (0x85, 0x85), (0xA0, 0xA0), (0x1680, 0x1680), (0x2000, 0x200A),
   (0x2028, 0x2029), (0x202F, 0x202F), (0x205F, 0x205F), (0x3000, 0x3000)]

def isBlank (c : Char) : Bool := blanks.hasChar c

/-- The text without the leading and trailing characters that satisfy `p`. -/
def strip (p : Char → Bool) (cs : List Char) : List Char :=
  ((cs.dropWhile p).reverse.dropWhile p).reverse

/-- The text without leading and trailing white space. -/
def trim (s : String) : String := String.ofList (strip isBlank s.toList)

end BookmarkSync.Text
