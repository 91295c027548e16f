/-!
# `BookmarkSync.Text.Utf8` — bytes as text

A text is written as the UTF-8 bytes of its characters. Bytes that come from outside need not be such a
text, so reading them gives a list of symbols: the characters, and in between the broken sequences,
each with the number of its bytes. A broken sequence is as long as it can still be the start of a
character. Everything said about ill-formed bytes is said of the symbols: whether there is a broken
one, where the first one stands, and what to put in its place.
-/

namespace BookmarkSync.Text

/-- What stands at one place of a byte string. -/
inductive Symbol
  /-- A character. -/
  | char (c : Char)
  /-- Bytes that are no character; `cut` when the string ends before they can be told to be none. -/
  | broken (size : Nat) (cut : Bool)
deriving DecidableEq, Repr

namespace Symbol

/-- How many bytes the symbol takes. -/
def size : Symbol → Nat
  | char c => c.utf8Size
  | broken n _ => n

/-- How many bytes symbols take together. -/
def totalSize : List Symbol → Nat
  | [] => 0
  | s :: rest => s.size + totalSize rest

/-- The character, with U+FFFD for a broken sequence. -/
def lossy : Symbol → Char
  | char c => c
  | broken _ _ => Char.ofNat 0xFFFD

/-- The character, if the symbol is one. -/
def char? : Symbol → Option Char
  | char c => some c
  | broken _ _ => none

/-- The symbols of a text. -/
def ofChars (cs : List Char) : List Symbol := cs.map char

end Symbol

namespace Utf8

/-- A byte inside a character of several bytes. -/
def isTail (b : UInt8) : Bool := 0x80 ≤ b && b ≤ 0xBF

/-- The bytes that may follow `lead` in a character of three bytes. -/
def secondOfThree (lead b : UInt8) : Bool :=
  if lead = 0xE0 then 0xA0 ≤ b && b ≤ 0xBF
  else if lead = 0xED then 0x80 ≤ b && b ≤ 0x9F
  else isTail b

/-- The bytes that may follow `lead` in a character of four bytes. -/
def secondOfFour (lead b : UInt8) : Bool :=
  if lead = 0xF0 then 0x90 ≤ b && b ≤ 0xBF
  else if lead = 0xF4 then 0x80 ≤ b && b ≤ 0x8F
  else isTail b

/-- The value of a tail byte. -/
def tailBits (b : UInt8) : Nat := b.toNat % 64

def twoBytes (a b : UInt8) : Char := Char.ofNat (a.toNat % 32 * 64 + tailBits b)

def threeBytes (a b c : UInt8) : Char :=
  Char.ofNat ((a.toNat % 16 * 64 + tailBits b) * 64 + tailBits c)

def fourBytes (a b c d : UInt8) : Char :=
  Char.ofNat (((a.toNat % 8 * 64 + tailBits b) * 64 + tailBits c) * 64 + tailBits d)

/-- The symbol at the start of a byte string, given its first byte and the others. -/
def first (a : UInt8) (rest : List UInt8) : Symbol :=
  if a < 0x80 then .char (Char.ofNat a.toNat)
  else if 0xC2 ≤ a && a ≤ 0xDF then
    match rest with
    | [] => .broken 1 true
    | b :: _ => if isTail b then .char (twoBytes a b) else .broken 1 false
  else if 0xE0 ≤ a && a ≤ 0xEF then
    match rest with
    | [] => .broken 1 true
    | b :: rest =>
      if secondOfThree a b then
        match rest with
        | [] => .broken 2 true
        | c :: _ => if isTail c then .char (threeBytes a b c) else .broken 2 false
      else .broken 1 false
  else if 0xF0 ≤ a && a ≤ 0xF4 then
    match rest with
    | [] => .broken 1 true
    | b :: rest =>
      if secondOfFour a b then
        match rest with
        | [] => .broken 2 true
        | c :: rest =>
          if isTail c then
            match rest with
            | [] => .broken 3 true
            | d :: _ => if isTail d then .char (fourBytes a b c d) else .broken 3 false
          else .broken 2 false
      else .broken 1 false
  else .broken 1 false

/-- The symbols of a byte string. -/
def read : List UInt8 → List Symbol
  | [] => []
  | a :: rest => first a rest :: read (rest.drop ((first a rest).size - 1))
termination_by bs => bs.length
decreasing_by simp only [List.length_drop, List.length_cons]; omega

/-- The bytes of a text. -/
def encode (cs : List Char) : List UInt8 := cs.flatMap String.utf8EncodeChar

/-- The bytes of a text. -/
def bytes (s : String) : List UInt8 := encode s.toList

/-- The text of a byte string, with U+FFFD for every broken sequence. -/
def lossy (bs : List UInt8) : String := String.ofList ((read bs).map Symbol.lossy)

/-- The text of a byte string that holds no broken sequence. -/
def decode? (bs : List UInt8) : Option (List Char) := (read bs).mapM Symbol.char?

/-- The first broken sequence of a byte string: the bytes before it, its size, and whether the string
ends in it. -/
structure Defect where
  index : Nat
  size : Nat
  cut : Bool
deriving DecidableEq, Repr

namespace Defect

/-- The first defect among the symbols, which start at byte `index`. -/
def find? (index : Nat) : List Symbol → Option Defect
  | [] => none
  | .broken size cut :: _ => some ⟨index, size, cut⟩
  | .char c :: rest => find? (index + c.utf8Size) rest

def message (d : Defect) : String :=
  if d.cut then s!"incomplete utf-8 byte sequence from index {d.index}"
  else s!"invalid utf-8 sequence of {d.size} bytes from index {d.index}"

end Defect

end Utf8

end BookmarkSync.Text
