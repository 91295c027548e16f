import BookmarkSync.Text.Marks
import BookmarkSync.Text.Normalize
import BookmarkSync.Text.Split
import BookmarkSync.Text.Utf8
import BookmarkSync.Url.DomainFolding
import BookmarkSync.Url.Joining
import BookmarkSync.Url.Punycode

/-!
# `BookmarkSync.Url.Domain` — domain names in ASCII

A domain is brought into its plain form first: every character is replaced by the one it stands for, and
the text is composed. Then each label is read. A label that starts with `xn--` is the Punycode of another
one, which has to be in plain form already and to need Punycode. Labels must not start with a mark, and
must not mix directions or use joiners without need. In the ASCII form, labels beyond ASCII are written in
Punycode.
-/

namespace BookmarkSync.Url.Domain

open Text

def isAscii (c : Char) : Bool := c.toNat < 0x80

/-- The characters of ASCII that no domain may hold: controls, the space, and signs with a meaning in
URLs. -/
def isForbidden (c : Char) : Bool :=
  c.toNat ≤ 0x20 || c.toNat = 0x7F || c ∈ "%#/:<>?@[\\]^|".toList

/-- The plain form of a text, if none of its characters is refused. -/
def plain? (cs : List Char) : Option (List Char) :=
  if cs.all isAscii then some (cs.map Char.toLower)
  else ((cs.flatMap decompose).mapM fold).map fun pieces => compose pieces.flatten

/-! ## Labels -/

/-- What a label starts with that is in Punycode. -/
def punycodeMark : List Char := "xn--".toList

/-- The longest Punycode that is read, and the longest label that is written in it. -/
def longestPunycode : Nat := 2000

def longestLabel : Nat := 1000

/-- The label that a plain label stands for. -/
def label? (l : List Char) : Option (List Char) :=
  if punycodeMark.isPrefixOf l then
    let code := l.drop punycodeMark.length
    if !code.all isAscii || longestPunycode < code.length then none
    else
      match Punycode.decode? code with
      | none => none
      | some u => if u.all isAscii || plain? u != some u then none else some u
  else some l

/-- The first character that parts the letters around it. -/
def firstParting? (cs : List Char) : Option Char := cs.find? (!Joining.isTransparent ·)

/-- Whether a joiner may stand between what is before it, nearest first, and what is after it. Both joiners
may follow a virama; the one that keeps letters apart may also stand between letters that would join. -/
def joinerAllowed (joiner : Char) (before after : List Char) : Bool :=
  (before.head?.any fun c => combiningClass c = viramaClass) ||
    (joiner.toNat = 0x200C && (firstParting? before).any Joining.joinsAfter &&
      (firstParting? after).any Joining.joinsBefore)

/-- Whether every joiner is allowed where it stands. -/
def joinersAllowed (before : List Char) : List Char → Bool
  | [] => true
  | c :: cs => (!isJoiner c || joinerAllowed c before cs) && joinersAllowed (c :: before) cs

/-- Whether a label can stand in a domain by itself. -/
def isWellFormed (l : List Char) : Bool :=
  !l.any isForbidden && !l.head?.any marks.hasChar && joinersAllowed [] l

/-! ## Directions -/

/-- Whether a character makes a domain subject to the rules of direction. -/
def turns (c : Char) : Bool := Direction.ofChar c ∈ [.right, .arabic, .arabicNumber]

/-- The directions allowed inside of a label from left to right, and at its end. -/
def insideLeft : List Direction :=
  [.left, .europeanNumber, .separator, .commonSeparator, .terminator, .neutral, .boundary, .mark]

def endLeft : List Direction := [.left, .europeanNumber]

/-- The directions allowed inside of a label from right to left, and at its end. -/
def insideRight : List Direction :=
  [.right, .arabic, .arabicNumber, .europeanNumber, .separator, .commonSeparator, .terminator, .neutral,
    .boundary, .mark]

def endRight : List Direction := [.right, .arabic, .europeanNumber, .arabicNumber]

/-- Whether a label keeps to one direction: it starts with a letter, all of it fits the direction of that
letter, so does its end, marks aside, and numbers are of one kind. -/
def isOneWay (l : List Char) : Bool :=
  match l.map Direction.ofChar with
  | [] => true
  | d :: ds =>
    let last := ((d :: ds).reverse.find? (· != .mark)).getD d
    if d = .left then ds.all (· ∈ insideLeft) && last ∈ endLeft
    else if d = .right || d = .arabic then
      ds.all (· ∈ insideRight) && last ∈ endRight && !(ds.contains .europeanNumber && ds.contains .arabicNumber)
    else false

/-! ## The ASCII form -/

/-- A label in ASCII. -/
def encodeLabel? (l : List Char) : Option (List Char) :=
  if l.all isAscii then some l
  else if longestLabel < l.length then none
  else some (punycodeMark ++ Punycode.encode l)

/-- The ASCII form of a domain, if it has one. -/
def toAscii? (bytes : List UInt8) : Option (List Char) := do
  let plain ← plain? (← Utf8.decode? bytes)
  let labels ← (splitWhere (· = '.') plain).mapM label?
  if !labels.all isWellFormed then none
  else if labels.any (·.any turns) && !labels.all isOneWay then none
  else return joinWith ['.'] (← labels.mapM encodeLabel?)

end BookmarkSync.Url.Domain
