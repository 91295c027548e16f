import BookmarkSync.Text.CaseIgnorable
import BookmarkSync.Text.CaseRuns
import BookmarkSync.Text.Cased

/-!
# `BookmarkSync.Text.Lowercase` — lower casing a whole text

Lower casing maps each character on its own, with two exceptions of the Unicode standard: the dotted
capital I becomes two characters, and a capital sigma becomes the final form at the end of a word. The
end of a word depends on the characters around, so `lowercase` is a function of the whole text and not
of its characters.
-/

namespace BookmarkSync.Text

/-- The lower case form of one character, out of context. -/
def lowerChar (c : Char) : List Char :=
  if c = 'İ' then ['i', Char.ofNat 0x307]
  else
    match caseRuns.find? (·.has c.toNat) with
    | some run => [Char.ofNat (run.moved c.toNat)]
    | none => [c]

/-- Whether the first character that case rules do not look through is a letter with case. -/
def startsCased (cs : List Char) : Bool :=
  match cs.dropWhile caseIgnorable.hasChar with
  | c :: _ => cased.hasChar c
  | [] => false

/-- Lower cases the rest of a text; `before` is what precedes it, nearest character first. -/
def lowercaseFrom (before : List Char) : List Char → List Char
  | [] => []
  | c :: rest =>
    let lowered :=
      if c = 'Σ' then
        if startsCased before && !startsCased rest then ['ς'] else ['σ']
      else lowerChar c
    lowered ++ lowercaseFrom (c :: before) rest

/-- The text in lower case. -/
def lowercase (s : String) : String := String.ofList (lowercaseFrom [] s.toList)

end BookmarkSync.Text
