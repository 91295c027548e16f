import BookmarkSync.Json.Value

/-!
# `BookmarkSync.Json.Printer` — writing JSON values

A value is written either compactly, without any white space, or over several lines, each level of
nesting indented by two spaces. Members are written in the order in which the object lists them.
-/

namespace BookmarkSync.Json.Value

/-- A hexadecimal digit. -/
def hexDigit (n : Nat) : Char := Nat.digitChar n

/-- The form of one character inside a text literal. -/
def escapeChar (c : Char) : List Char :=
  if c = '"' then ['\\', '"']
  else if c = '\\' then ['\\', '\\']
  else if c = '\x08' then ['\\', 'b']
  else if c = '\x0c' then ['\\', 'f']
  else if c = '\n' then ['\\', 'n']
  else if c = '\r' then ['\\', 'r']
  else if c = '\t' then ['\\', 't']
  else if c.toNat < 0x20 then
    ['\\', 'u', '0', '0', hexDigit (c.toNat / 16), hexDigit (c.toNat % 16)]
  else [c]

/-- The literal of a text. -/
def textLiteral (s : String) : List Char := '"' :: s.toList.flatMap escapeChar ++ ['"']

mutual

/-- The compact form. -/
def compact : Value → List Char
  | null => ['n', 'u', 'l', 'l']
  | bool true => ['t', 'r', 'u', 'e']
  | bool false => ['f', 'a', 'l', 's', 'e']
  | number n => n.render.toList
  | text s => textLiteral s
  | list items => '[' :: compactItems items ++ [']']
  | object members => '{' :: compactMembers members ++ ['}']

def compactItems : List Value → List Char
  | [] => []
  | [v] => compact v
  | v :: w :: vs => compact v ++ ',' :: compactItems (w :: vs)

def compactMembers : List (String × Value) → List Char
  | [] => []
  | [(k, v)] => textLiteral k ++ ':' :: compact v
  | (k, v) :: m :: ms => textLiteral k ++ ':' :: compact v ++ ',' :: compactMembers (m :: ms)

end

/-- The start of a line at the given level of nesting. -/
def newLine (level : Nat) : List Char := '\n' :: List.replicate (2 * level) ' '

mutual

/-- The form over several lines, at the given level of nesting. -/
def pretty (level : Nat) : Value → List Char
  | null => ['n', 'u', 'l', 'l']
  | bool true => ['t', 'r', 'u', 'e']
  | bool false => ['f', 'a', 'l', 's', 'e']
  | number n => n.render.toList
  | text s => textLiteral s
  | list [] => ['[', ']']
  | list (v :: vs) => '[' :: prettyItems (level + 1) (v :: vs) ++ newLine level ++ [']']
  | object [] => ['{', '}']
  | object (m :: ms) => '{' :: prettyMembers (level + 1) (m :: ms) ++ newLine level ++ ['}']

def prettyItems (level : Nat) : List Value → List Char
  | [] => []
  | [v] => newLine level ++ pretty level v
  | v :: w :: vs => newLine level ++ pretty level v ++ ',' :: prettyItems level (w :: vs)

def prettyMembers (level : Nat) : List (String × Value) → List Char
  | [] => []
  | [(k, v)] => newLine level ++ textLiteral k ++ ':' :: ' ' :: pretty level v
  | (k, v) :: m :: ms =>
    newLine level ++ textLiteral k ++ ':' :: ' ' :: pretty level v ++ ',' :: prettyMembers level (m :: ms)

end

/-- The compact text of a value. -/
def toCompact (v : Value) : String := String.ofList v.compact

/-- The text of a value over several lines. -/
def toPretty (v : Value) : String := String.ofList (v.pretty 0)

end BookmarkSync.Json.Value
