import BookmarkSync.Text.Percent
import BookmarkSync.Text.Split

/-!
# `BookmarkSync.Url.Path` — the segments of a URL's path

A path is the list of its segments, each percent-encoded. Reading a path resolves dots: a segment of one
dot stands for its place, and one of two dots takes the segment before it away. A drive letter cannot
be taken away.
-/

namespace BookmarkSync.Url.Path

/-- Whether a character can stand in a path as it is. -/
def isPlain (c : Char) : Bool :=
  0x21 ≤ c.toNat && c.toNat < 0x7F && !"\"#<>?^`\x7b\x7d".toList.contains c

/-- A segment as it stands in a URL. -/
def encodeSegment (cs : List Char) : List Char := Text.Percent.encode isPlain cs

/-- The dots that a segment starts with, one way or another of writing them, and the rest. -/
def isDots (n : Nat) : List Char → Bool
  | [] => n == 0
  | '.' :: rest => n != 0 && isDots (n - 1) rest
  | '%' :: '2' :: 'e' :: rest => n != 0 && isDots (n - 1) rest
  | '%' :: '2' :: 'E' :: rest => n != 0 && isDots (n - 1) rest
  | _ => false

/-- Whether a segment starts with a letter and a colon or a bar, and a backslash follows or nothing. -/
def isDriveLetter : List Char → Bool
  | [c, d] => c.isAlpha && (d = ':' || d = '|')
  | c :: d :: '\\' :: _ => c.isAlpha && (d = ':' || d = '|')
  | _ => false

/-- Takes the last segment away, given the segments last first. -/
def leave : List (List Char) → List (List Char)
  | [] => []
  | s :: ss => if isDriveLetter s then s :: ss else ss

/-- Resolves the remaining segments of a path; the segments before are given last first. -/
def resolve (before : List (List Char)) : List (List Char) → List (List Char)
  | [] => before.reverse
  | [s] =>
    if isDots 2 s then ([] :: leave before).reverse
    else if isDots 1 s then ([] :: before).reverse
    else (s :: before).reverse
  | s :: ss =>
    if isDots 2 s then resolve (leave before) ss
    else if isDots 1 s then resolve before ss
    else resolve (s :: before) ss

/-- The segments that a path writes; `isSlash` says where one ends. -/
def parse (isSlash : Char → Bool) (cs : List Char) : List (List Char) :=
  resolve [] ((Text.splitWhere isSlash cs).map encodeSegment)

/-- The path as it stands in a URL. -/
def render (segments : List (List Char)) : List Char := segments.flatMap ('/' :: ·)

end BookmarkSync.Url.Path
