import BookmarkSync.Text.CombiningClass
import BookmarkSync.Text.Composites

/-!
# `BookmarkSync.Text.Normalize` — one way of writing the same characters

The composed normal form of Unicode. A text is taken apart into characters and marks, neighbouring marks
are put into the order of their classes, and what makes a composite is put together again. Hangul
syllables are taken apart and put together by arithmetic.
-/

namespace BookmarkSync.Text

/-! ## Hangul -/

namespace Hangul

/-- The first syllable, and the letters before the first of each kind that can start, carry and end one. -/
def syllable : Nat := 0xAC00

def lead : Nat := 0x1100

def vowel : Nat := 0x1161

/-- One before the first letter that can end a syllable. -/
def tail : Nat := 0x11A7

/-- How many syllables there are, and how many start with one letter. -/
def count : Nat := 11172

def perLead : Nat := 588

def perVowel : Nat := 28

/-- The letters of a syllable. -/
def parts? (c : Char) : Option (List Char) :=
  let n := c.toNat - syllable
  if syllable ≤ c.toNat && n < count then
    let ending := if n % perVowel = 0 then [] else [Char.ofNat (tail + n % perVowel)]
    some (Char.ofNat (lead + n / perLead) :: Char.ofNat (vowel + n % perLead / perVowel) :: ending)
  else none

/-- The syllable that two characters make: two letters, or a syllable and the letter that ends it. -/
def join? (a b : Char) : Option Char :=
  if lead ≤ a.toNat && a.toNat < lead + 19 && vowel ≤ b.toNat && b.toNat < vowel + 21 then
    some (Char.ofNat (syllable + (a.toNat - lead) * perLead + (b.toNat - vowel) * perVowel))
  else if syllable ≤ a.toNat && a.toNat < syllable + count && (a.toNat - syllable) % perVowel = 0 &&
      tail < b.toNat && b.toNat < tail + perVowel then
    some (Char.ofNat (a.toNat + (b.toNat - tail)))
  else none

end Hangul

/-! ## Taking apart -/

/-- The character and the mark that a composite stands for. -/
def compositeParts? (c : Char) : Option (Char × Char) :=
  compositesOfMark.findSome? fun (mark, bases, composites) =>
    ((composites.toList.zip bases.toList).find? (·.1 == c)).map fun p => (p.2, Char.ofNat mark)

/-- The text that always replaces a character. -/
def replacement? (c : Char) : Option (List Char) :=
  (replacedFrom.findRev? fun g => g.1 ≤ c.toNat).bind fun g =>
    ((g.2.splitOn " ")[c.toNat - g.1]?).map String.toList

/-- Takes a character apart, with at most `n` composites inside of each other. -/
def decomposeWithin : Nat → Char → List Char
  | 0, c => [c]
  | n + 1, c =>
    match replacement? c with
    | some cs => cs.flatMap (decomposeWithin n)
    | none =>
      match compositeParts? c with
      | some (base, mark) => decomposeWithin n base ++ [mark]
      | none => (Hangul.parts? c).getD [c]

/-- How many composites there are at most inside of each other. -/
def compositeDepth : Nat := 5

/-- Takes a character apart. The characters before U+00C0 have no parts. -/
def decompose (c : Char) : List Char := if c.toNat < 0xC0 then [c] else decomposeWithin compositeDepth c

/-! ## The order of marks -/

/-- Puts a character with its class before the first character that it must stand before. -/
def insertMark (c : Char × Nat) : List (Char × Nat) → List (Char × Nat)
  | [] => [c]
  | d :: ds => if d.2 ≠ 0 && d.2 < c.2 then d :: insertMark c ds else c :: d :: ds

/-- Puts neighbouring marks into the order of their classes. -/
def orderMarks (cs : List Char) : List (Char × Nat) :=
  cs.foldr (fun c acc => insertMark (c, combiningClass c) acc) []

/-! ## Putting together -/

/-- The composite of two characters. -/
def composite? (a b : Char) : Option Char :=
  match compositesOfMark.find? (·.1 == b.toNat) with
  | some (_, bases, composites) => ((bases.toList.zip composites.toList).find? (·.1 == a)).map Prod.snd
  | none => Hangul.join? a b

/-- Puts the rest of a text together after the character `start`. The marks that stay are given last
first, with the class of the last one. -/
def composeFrom (start : Char) (marks : List Char) (last : Nat) : List (Char × Nat) → List Char
  | [] => start :: marks.reverse
  | (c, n) :: rest =>
    let free := marks.isEmpty || (last ≠ 0 && last < n)
    match if free then composite? start c else none with
    | some d => composeFrom d marks last rest
    | none =>
      if n = 0 then start :: (marks.reverse ++ composeFrom c [] 0 rest)
      else composeFrom start (c :: marks) n rest

/-- Puts a text together; marks before the first other character stay as they are. -/
def composeMarked : List (Char × Nat) → List Char
  | [] => []
  | (c, n) :: rest => if n = 0 then composeFrom c [] 0 rest else c :: composeMarked rest

/-- The composed normal form of a text. -/
def compose (cs : List Char) : List Char := composeMarked (orderMarks (cs.flatMap decompose))

end BookmarkSync.Text
