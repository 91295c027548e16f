/-!
# `BookmarkSync.Identity` — fresh identifiers

Bookmarks and devices are told apart by version 4 UUIDs. A supply hands them out one after the other,
so code that needs a fresh identifier takes it from a supply and passes the rest on; no identifier
comes from outside the values a function is given.
-/

namespace BookmarkSync

/-- A source of identifiers, counted by how many it has handed out. -/
structure IdSupply where
  issued : Nat := 0
deriving DecidableEq, Repr, Inhabited

namespace IdSupply

/-- `n` in hexadecimal, filled up with zeros to `width` digits. -/
def hexDigits (width n : Nat) : String :=
  let digits := Nat.toDigits 16 n
  String.ofList (List.replicate (width - digits.length) '0' ++ digits)

/-- The identifier numbered `n`: a version 4 UUID whose last group counts. -/
def nth (n : Nat) : String := "6e1d3b7c-2f94-4a05-9c68-" ++ hexDigits 12 n

/-- The next identifier, and the supply without it. -/
def fresh (s : IdSupply) : String × IdSupply := (nth s.issued, ⟨s.issued + 1⟩)

end IdSupply

end BookmarkSync
