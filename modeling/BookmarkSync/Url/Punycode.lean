/-!
# `BookmarkSync.Url.Punycode` — texts in letters and digits

Punycode writes a text as its ASCII characters followed by a list of insertions. The insertions are in the
order of code points; each is a number that says how many places the insertion point moves on, where the
places of all code points in between count too. Numbers are written in base 36, least digit first, with
thresholds that adapt to the numbers before.
-/

namespace BookmarkSync.Url.Punycode

/-- The digit for a number below 36. -/
def digit (n : Nat) : Char := Char.ofNat (if n < 26 then 97 + n else 22 + n)

/-- The number that a digit stands for. -/
def digit? (c : Char) : Option Nat :=
  if c.isLower then some (c.toNat - 97)
  else if c.isUpper then some (c.toNat - 65)
  else if c.isDigit then some (c.toNat - 22)
  else none

/-- The threshold of the digit at place `k`, which counts in steps of 36. -/
def threshold (k bias : Nat) : Nat := min 26 (max 1 (k - bias))

/-- Counts how often `n` can be divided by 35 until it is small. -/
def shrink (n k : Nat) : Nat := if n ≤ 455 then k + 36 * n / (n + 38) else shrink (n / 35) (k + 36)
termination_by n
decreasing_by omega

/-- The bias after the number `delta`, when the text has `size` characters then. -/
def adapt (delta size : Nat) (first : Bool) : Nat :=
  let delta := if first then delta / 700 else delta / 2
  shrink (delta + delta / size) 0

def isBasic (c : Char) : Bool := c.toNat < 0x80

/-! ## Writing -/

theorem threshold_bounds (k bias : Nat) : 1 ≤ threshold k bias ∧ threshold k bias ≤ 26 := by
  unfold threshold
  omega

/-- The digits of a number, from place `k` on. -/
def digits (bias k n : Nat) : List Char :=
  let t := threshold k bias
  if n < t then [digit n]
  else digit (t + (n - t) % (36 - t)) :: digits bias (k + 36) ((n - t) / (36 - t))
termination_by n
decreasing_by
  have := threshold_bounds k bias
  have : (n - threshold k bias) / (36 - threshold k bias) ≤ n - threshold k bias := Nat.div_le_self _ _
  omega

/-- What is known while insertions are written. -/
structure Writer where
  output : List Char := []
  delta : Nat := 0
  bias : Nat := 72
  /-- How many characters have been written. -/
  written : Nat
  first : Bool := true

/-- Passes a character of the text while the insertions of code point `n` are written. -/
def Writer.pass (n : Nat) (w : Writer) (c : Char) : Writer :=
  if c.toNat < n then { w with delta := w.delta + 1 }
  else if c.toNat = n then
    { output := w.output ++ digits w.bias 36 w.delta
      delta := 0
      bias := adapt w.delta (w.written + 1) w.first
      written := w.written + 1
      first := false }
  else w

/-- Writes the insertions of the code points given, starting at code point `n`. -/
def insertions (text : List Char) (n : Nat) (w : Writer) : List Nat → List Char
  | [] => w.output
  | m :: ms =>
    let w := { w with delta := w.delta + (m - n) * (w.written + 1) }
    let w := text.foldl (Writer.pass m) w
    insertions text (m + 1) { w with delta := w.delta + 1 } ms

/-- Inserts a number into numbers in order, unless it is there. -/
def insertNumber (n : Nat) : List Nat → List Nat
  | [] => [n]
  | m :: ms => if n < m then n :: m :: ms else if n = m then m :: ms else m :: insertNumber n ms

/-- The code points beyond ASCII, in order. -/
def codePoints (text : List Char) : List Nat :=
  ((text.filter (!isBasic ·)).map Char.toNat).foldr insertNumber []

def encode (text : List Char) : List Char :=
  let basic := text.filter isBasic
  let divider := if basic.isEmpty then [] else ['-']
  basic ++ divider ++ insertions text 0x80 { written := basic.length } (codePoints text)

/-! ## Reading -/

/-- Reads a number from place `k` on and adds it, times `weight`, to `sum`. -/
def number? (bias k weight sum : Nat) : List Char → Option (Nat × List Char)
  | [] => none
  | c :: rest =>
    match digit? c with
    | none => none
    | some d =>
      if d < threshold k bias then some (sum + d * weight, rest)
      else number? bias (k + 36) (weight * (36 - threshold k bias)) (sum + d * weight) rest

theorem length_lt_of_number? {bias k weight sum : Nat} {cs rest : List Char} {n : Nat}
    (h : number? bias k weight sum cs = some (n, rest)) : rest.length < cs.length := by
  induction cs generalizing k weight sum with
  | nil => simp [number?] at h
  | cons c cs ih =>
    unfold number? at h
    split at h
    · cases h
    · split at h
      · cases h; simp
      · have := ih h
        simp only [List.length_cons]
        omega

/-- The character of a code point, if there is one. -/
def character? (n : Nat) : Option Char := if n.isValidChar then some (Char.ofNat n) else none

/-- Carries insertions out on a text. The next one is of code point `n` or later, and counts from place
`i`. -/
def insertAll? (n i bias : Nat) (first : Bool) (text : List Char) : List Char → Option (List Char)
  | [] => some text
  | c :: cs =>
    match _h : number? bias 36 1 i (c :: cs) with
    | none => none
    | some (j, rest) =>
      let size := text.length + 1
      let place := j % size
      match character? (n + j / size) with
      | none => none
      | some d =>
        insertAll? (n + j / size) (place + 1) (adapt (j - i) size first) false
          (text.take place ++ d :: text.drop place) rest
termination_by cs => cs.length
decreasing_by exact length_lt_of_number? _h

/-- The characters before the last hyphen, and those after it. -/
def splitBasic (cs : List Char) : List Char × List Char :=
  match cs.reverse.span (· != '-') with
  | (after, _ :: before) => if before.isEmpty then ([], cs) else (before.reverse, after.reverse)
  | _ => ([], cs)

def decode? (cs : List Char) : Option (List Char) :=
  let (basic, insertions) := splitBasic cs
  insertAll? 0x80 0 72 true basic insertions

end BookmarkSync.Url.Punycode
