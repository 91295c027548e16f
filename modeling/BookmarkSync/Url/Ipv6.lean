import BookmarkSync.Text.Split

/-!
# `BookmarkSync.Url.Ipv6` — IPv6 addresses

An address is eight groups of sixteen bits between colons. One run of at least one zero group may be
written as two colons, and the last two groups as four decimal bytes. An address is printed with its
first longest run of at least two zero groups left out.
-/

namespace BookmarkSync.Url.Ipv6

/-- The value of a hexadecimal digit. -/
def hexDigit? (c : Char) : Option Nat :=
  if '0' ≤ c && c ≤ '9' then some (c.toNat - 48)
  else if 'a' ≤ c && c ≤ 'f' then some (c.toNat - 87)
  else if 'A' ≤ c && c ≤ 'F' then some (c.toNat - 55)
  else none

/-- The value of a group of one to four hexadecimal digits. -/
def group? (cs : List Char) : Option Nat := do
  if cs.isEmpty || cs.length > 4 then none
  else return (← cs.mapM hexDigit?).foldl (fun n d => n * 16 + d) 0

/-- The value of a decimal byte without leading zeros. -/
def byte? (cs : List Char) : Option Nat :=
  if cs.isEmpty || !cs.all Char.isDigit || (cs.length > 1 && cs.head? = some '0') then none
  else
    let n := cs.foldl (fun n c => n * 10 + (c.toNat - 48)) 0
    if n ≤ 255 then some n else none

/-- The two groups written by four decimal bytes. -/
def dotted? (cs : List Char) : Option (List Nat) := do
  match ← (Text.splitWhere (· = '.') cs).mapM byte? with
  | [a, b, c, d] => return [a * 256 + b, c * 256 + d]
  | _ => none

/-- The groups between colons; the last one may be dotted. -/
def groups? (last : Bool) : List (List Char) → Option (List Nat)
  | [] => some []
  | [piece] =>
    match group? piece with
    | some n => some [n]
    | none => if last then dotted? piece else none
  | piece :: pieces => do return (← group? piece) :: (← groups? last pieces)

/-- The groups of a part of an address; an empty part has none. -/
def part? (last : Bool) (cs : List Char) : Option (List Nat) :=
  if cs.isEmpty then some [] else groups? last (Text.splitWhere (· = ':') cs)

/-- The eight groups of an address. -/
def parse? (cs : List Char) : Option (List Nat) := do
  match Text.splitFirst? [':', ':'] cs with
  | none =>
    let groups ← part? true cs
    if groups.length = 8 then some groups else none
  | some (left, right) =>
    let before ← part? false left
    let after ← part? true right
    if before.length + after.length ≤ 7 then
      some (before ++ List.replicate (8 - before.length - after.length) 0 ++ after)
    else none

/-- The number of zeros at the start. -/
def zeros (groups : List Nat) : Nat := (groups.takeWhile (· = 0)).length

/-- Where the first longest run of zeros starts, and its length. -/
def longestRun (groups : List Nat) : Nat × Nat :=
  (List.range groups.length).foldl
    (fun best i => let n := zeros (groups.drop i); if best.2 < n then (i, n) else best) (0, 0)

/-- Groups between colons. -/
def renderGroups (groups : List Nat) : List Char :=
  Text.joinWith [':'] (groups.map (Nat.toDigits 16))

/-- The printed form of an address. -/
def render (groups : List Nat) : String :=
  let (start, length) := longestRun groups
  String.ofList <|
    if length < 2 then renderGroups groups
    else renderGroups (groups.take start) ++ [':', ':'] ++ renderGroups (groups.drop (start + length))

end BookmarkSync.Url.Ipv6
