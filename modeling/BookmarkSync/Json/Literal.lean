import BookmarkSync.Json.Fault
import BookmarkSync.Text.Utf8

/-!
# `BookmarkSync.Json.Literal` — text literals

A text literal is scanned into units: symbols that stand for themselves, escaped characters, and
16-bit code units written in hexadecimal. The scan stops at the closing quote or at the first place
that no unit fits. Decoding joins surrogate code units to characters; a surrogate without its
partner, or bytes that are no characters, are faults of the decoding and not of the scan.
-/

namespace BookmarkSync.Json

open BookmarkSync.Text (Symbol)

namespace Literal

/-- One unit between the quotes. -/
inductive Piece
  | plain (s : Symbol)
  | escaped (c : Char)
  | code (n : Nat)
deriving DecidableEq, Repr

/-- Why the units end. -/
inductive Stop
  | quote
  | cut
  | control
  | badEscape
  | badCode
deriving DecidableEq, Repr

/-- The fault of a literal whose units end this way. -/
def Stop.fault? : Stop → Option Fault
  | quote => none
  | cut => some .endInText
  | control => some .controlCharacter
  | badEscape => some .invalidEscape
  | badCode => some .invalidEscape

/-- The character an escape letter stands for. -/
def escape? : Char → Option Char
  | '"' => some '"'
  | '\\' => some '\\'
  | '/' => some '/'
  | 'b' => some '\x08'
  | 'f' => some '\x0c'
  | 'n' => some '\n'
  | 'r' => some '\r'
  | 't' => some '\t'
  | _ => none

/-- The value of a hexadecimal digit. -/
def hexDigit? : Symbol → Option Nat
  | .char c =>
    if '0' ≤ c && c ≤ '9' then some (c.toNat - 48)
    else if 'a' ≤ c && c ≤ 'f' then some (c.toNat - 87)
    else if 'A' ≤ c && c ≤ 'F' then some (c.toNat - 55)
    else none
  | .broken .. => none

/-- The number written by four hexadecimal digits. -/
def hexCode? (a b c d : Symbol) : Option Nat := do
  return ((((← hexDigit? a) * 16 + (← hexDigit? b)) * 16 + (← hexDigit? c)) * 16 + (← hexDigit? d))

/-- The units of a literal, whose opening quote has been read; why they end; and what follows. Four bytes
must be left for a code unit, or the text ends inside it. -/
def scan : List Symbol → List Piece × Stop × List Symbol
  | [] => ([], .cut, [])
  | .broken n cut :: rest =>
    let (pieces, stop, rest) := scan rest
    (.plain (.broken n cut) :: pieces, stop, rest)
  | .char '"' :: rest => ([], .quote, rest)
  | .char '\\' :: .char 'u' :: a :: b :: c :: d :: rest =>
    match hexCode? a b c d with
    | some n =>
      let (pieces, stop, rest) := scan rest
      (.code n :: pieces, stop, rest)
    | none => ([], .badCode, [])
  | .char '\\' :: .char 'u' :: rest =>
    ([], if Symbol.totalSize rest < 4 then .cut else .badCode, [])
  | [.char '\\'] => ([], .cut, [])
  | .char '\\' :: .char e :: rest =>
    match escape? e with
    | some c =>
      let (pieces, stop, rest) := scan rest
      (.escaped c :: pieces, stop, rest)
    | none => ([], .badEscape, [])
  | .char '\\' :: _ :: _ => ([], .badEscape, [])
  | .char c :: rest =>
    if c.toNat < 0x20 then ([], .control, [])
    else
      let (pieces, stop, rest) := scan rest
      (.plain (.char c) :: pieces, stop, rest)

theorem scan_length (s : List Symbol) : (scan s).2.2.length ≤ s.length := by
  fun_induction scan s <;> simp_all <;> omega

/-- Whether a code unit is the second half of a pair. -/
def isLow (n : Nat) : Bool := 0xDC00 ≤ n && n ≤ 0xDFFF

/-- Whether a code unit is the first half of a pair. -/
def isHigh (n : Nat) : Bool := 0xD800 ≤ n && n ≤ 0xDBFF

/-- The character written by a pair of code units. -/
def pair (high low : Nat) : Char := Char.ofNat (0x10000 + (high - 0xD800) * 1024 + (low - 0xDC00))

/-- The fault of a first half with nothing to pair it with, where the units end. -/
def unpaired : Stop → Fault
  | .cut => .endInText
  | .badCode => .invalidEscape
  | _ => .unpairedSurrogate

/-- The symbols that the units stand for. -/
def join (stop : Stop) : List Piece → Except Fault (List Symbol)
  | [] =>
    match stop.fault? with
    | some f => .error f
    | none => .ok []
  | .plain s :: rest => (join stop rest).map (s :: ·)
  | .escaped c :: rest => (join stop rest).map (.char c :: ·)
  | .code n :: rest =>
    if isLow n then .error .loneSurrogate
    else if isHigh n then
      match rest with
      | .code m :: rest =>
        if isLow m then (join stop rest).map (.char (pair n m) :: ·) else .error .loneSurrogate
      | [] => .error (unpaired stop)
      | _ => .error .unpairedSurrogate
    else (join stop rest).map (.char (Char.ofNat n) :: ·)

/-- The text that the units stand for. -/
def decode (stop : Stop) (pieces : List Piece) : Except Fault String := do
  match (← join stop pieces).mapM Symbol.char? with
  | some cs => return String.ofList cs
  | none => .error .invalidCodePoint

end Literal

end BookmarkSync.Json
