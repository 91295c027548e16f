import BookmarkSync.Text.Utf8

/-!
# `BookmarkSync.Text.Percent` — percent-encoding

A byte is percent-encoded as a percent sign and its two hexadecimal digits, in upper case. A text is
encoded through its bytes, except for the characters that are kept. Decoding leaves alone every percent
sign that two hexadecimal digits do not follow.
-/

namespace BookmarkSync.Text.Percent

/-- An upper case hexadecimal digit. -/
def digit (n : Nat) : Char := if n < 10 then Char.ofNat (48 + n) else Char.ofNat (55 + n)

/-- The percent-encoded form of a byte. -/
def encodeByte (b : UInt8) : List Char := ['%', digit (b.toNat / 16), digit (b.toNat % 16)]

/-- The percent-encoded form of a character. -/
def encodeChar (c : Char) : List Char := (String.utf8EncodeChar c).flatMap encodeByte

/-- Encodes the characters that are not to be kept. -/
def encode (keep : Char → Bool) (cs : List Char) : List Char :=
  cs.flatMap fun c => if keep c then [c] else encodeChar c

/-- Whether a byte is a character that never needs encoding: letters and digits of ASCII, and four
signs. -/
def isUnreserved (c : Char) : Bool :=
  c.isAlphanum || c = '-' || c = '_' || c = '.' || c = '~'

/-- Encodes everything except unreserved characters. -/
def encodeComponent (s : String) : List Char := encode isUnreserved s.toList

/-- The value of a hexadecimal digit. -/
def hexDigit? (b : UInt8) : Option Nat :=
  if 48 ≤ b && b ≤ 57 then some (b.toNat - 48)
  else if 97 ≤ b && b ≤ 102 then some (b.toNat - 87)
  else if 65 ≤ b && b ≤ 70 then some (b.toNat - 55)
  else none

/-- The byte written by two hexadecimal digits. -/
def hexByte? (a b : UInt8) : Option UInt8 := do
  return UInt8.ofNat ((← hexDigit? a) * 16 + (← hexDigit? b))

/-- Decodes percent-encoded bytes. -/
def decode : List UInt8 → List UInt8
  | [] => []
  | a :: rest =>
    if a = 37 then
      match rest with
      | b :: c :: rest' =>
        match hexByte? b c with
        | some d => d :: decode rest'
        | none => a :: decode (b :: c :: rest')
      | rest' => a :: rest'
    else a :: decode rest
termination_by bs => bs.length

/-- The bytes that a percent-encoded text stands for. -/
def decodeText (cs : List Char) : List UInt8 := decode (Utf8.encode cs)

end BookmarkSync.Text.Percent
