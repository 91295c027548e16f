import BookmarkSync.Text.Extending
import BookmarkSync.Text.Unprintable

/-!
# `BookmarkSync.Text.Quoted` — texts quoted in messages

A quoted text stands between double quotes. Quotes and backslashes are escaped by a backslash; the
common control characters have letters of their own; any other character that is not printed on its
own is written by its code point.
-/

namespace BookmarkSync.Text

/-- The code point of `c` as an escape: hexadecimal digits between braces. -/
def codePointEscape (c : Char) : List Char :=
  ['\\', 'u', '{'] ++ Nat.toDigits 16 c.toNat ++ ['}']

/-- The form of one character inside a quoted text. -/
def quoteChar (c : Char) : List Char :=
  if c = '"' then ['\\', '"']
  else if c = '\\' then ['\\', '\\']
  else if c = '\t' then ['\\', 't']
  else if c = '\n' then ['\\', 'n']
  else if c = '\r' then ['\\', 'r']
  else if c.toNat = 0 then ['\\', '0']
  else if extending.hasChar c || unprintable.hasChar c then codePointEscape c
  else [c]

/-- The text in double quotes. -/
def quoted (s : String) : String :=
  String.ofList ('"' :: s.toList.flatMap quoteChar ++ ['"'])

end BookmarkSync.Text
