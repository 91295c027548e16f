import BookmarkSync.Json.Literal
import BookmarkSync.Json.Number

/-!
# `BookmarkSync.Json.Token` — the tokens of a JSON text

A text is split into tokens before anything is said about their order. A number or a text literal can
be well formed and still have no value (a number out of range, half a surrogate pair), and a reader that
passes over it does not care. So a token of these kinds is a lexeme, with one outcome for a reader
that wants the value and one for a reader that does not. After a malformed lexeme there are no
further tokens: whichever way it is read, reading ends there.
-/

namespace BookmarkSync.Json

open BookmarkSync.Text (Symbol)

/-- A number or a text as it stands in the input. -/
structure Lexeme (α : Type) where
  /-- The value, for a reader that wants it. -/
  value : Except Fault α
  /-- The fault met by a reader that passes over the lexeme, if any. -/
  skipFault : Option Fault
deriving Repr

namespace Lexeme

/-- A lexeme whose value is `a`. -/
def ofValue {α : Type} (a : α) : Lexeme α := ⟨.ok a, none⟩

/-- Passes over the lexeme. -/
def skip {α : Type} (l : Lexeme α) : Except Fault Unit :=
  match l.skipFault with
  | some f => .error f
  | none => .ok ()

end Lexeme

inductive Token
  | openList
  | closeList
  | openObject
  | closeObject
  | comma
  | colon
  | null
  | bool (b : Bool)
  | number (n : Lexeme Number)
  | text (t : Lexeme String)
  /-- Something that is no token, with the fault of reading it as a value. -/
  | bad (f : Fault)
deriving Repr

namespace Token

/-- White space between tokens. -/
def isSpace : Symbol → Bool
  | .char c => c = ' ' || c = '\n' || c = '\t' || c = '\r'
  | .broken .. => false

/-- The rest of `s` after the letters `cs`. -/
def letters : List Char → List Symbol → Except Fault (List Symbol)
  | [], s => .ok s
  | _ :: _, [] => .error .endInValue
  | c :: cs, a :: s => if a = .char c then letters cs s else .error .wordExpected

/-- The token `t`, if the letters `cs` follow. -/
def word (t : Token) (cs : List Char) (s : List Symbol) : Token × List Symbol :=
  match letters cs s with
  | .ok rest => (t, rest)
  | .error f => (.bad f, [])

/-- The number at the start of `s`. -/
def numberAt (s : List Symbol) : Token × List Symbol :=
  match Numeral.scan s with
  | .ok (x, rest) => (.number ⟨x.value, none⟩, rest)
  | .error f => (.number ⟨.error f, some .invalidNumber⟩, [])

/-- The text literal whose opening quote is followed by `s`. -/
def textAt (s : List Symbol) : Token × List Symbol :=
  let (pieces, stop, rest) := Literal.scan s
  (.text ⟨Literal.decode stop pieces, stop.fault?⟩, rest)

/-- The token that starts with the symbol `a`, and what follows it. -/
def startingWith (a : Symbol) (s : List Symbol) : Token × List Symbol :=
  match a with
  | .char '[' => (openList, s)
  | .char ']' => (closeList, s)
  | .char '{' => (openObject, s)
  | .char '}' => (closeObject, s)
  | .char ',' => (comma, s)
  | .char ':' => (colon, s)
  | .char '"' => textAt s
  | .char 't' => word (bool true) ['r', 'u', 'e'] s
  | .char 'f' => word (bool false) ['a', 'l', 's', 'e'] s
  | .char 'n' => word null ['u', 'l', 'l'] s
  | .char c => if c = '-' || '0' ≤ c && c ≤ '9' then numberAt (a :: s) else (bad .valueExpected, s)
  | .broken .. => (bad .valueExpected, s)

/-! ## Splitting a text -/

theorem letters_length {cs : List Char} {s rest : List Symbol} (h : letters cs s = .ok rest) :
    rest.length ≤ s.length := by
  fun_induction letters cs s <;> simp_all
  omega

theorem word_length (t : Token) (cs : List Char) (s : List Symbol) :
    (word t cs s).2.length ≤ s.length := by
  unfold word
  split
  · next h => exact letters_length h
  · simp

theorem numberAt_length (a : Symbol) (s : List Symbol) : (numberAt (a :: s)).2.length ≤ s.length := by
  unfold numberAt
  split
  · next h => exact Nat.le_of_lt_succ (Numeral.scan_length h)
  · simp

theorem startingWith_length (a : Symbol) (s : List Symbol) :
    (startingWith a s).2.length ≤ s.length := by
  unfold startingWith
  split
  all_goals first
    | exact Nat.le_refl _
    | exact word_length ..
    | exact Literal.scan_length s
    | skip
  split
  · exact numberAt_length _ s
  · exact Nat.le_refl _

/-- The tokens of a text. -/
def all : List Symbol → List Token
  | [] => []
  | a :: s =>
    if isSpace a then all s
    else (startingWith a s).1 :: all (startingWith a s).2
termination_by s => s.length
decreasing_by
  · simp
  · exact Nat.lt_succ_of_le (startingWith_length a s)

end Token

end BookmarkSync.Json
