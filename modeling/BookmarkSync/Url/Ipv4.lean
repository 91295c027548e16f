import BookmarkSync.Text.Split

/-!
# `BookmarkSync.Url.Ipv4` — IPv4 addresses in host names

A host whose last label is a number is an IPv4 address. Its one to four numbers are decimal, octal with a
leading zero, or hexadecimal; the last one fills all the bytes that the others leave.
-/

namespace BookmarkSync.Url.Ipv4

/-- The value of a digit in any base up to sixteen. -/
def digitValue (c : Char) : Nat :=
  if '0' ≤ c && c ≤ '9' then c.toNat - 48
  else if 'a' ≤ c && c ≤ 'f' then c.toNat - 87
  else if 'A' ≤ c && c ≤ 'F' then c.toNat - 55
  else 16

/-- The number written by digits of a base; no digits write zero. -/
def ofDigits? (base : Nat) (cs : List Char) : Option Nat :=
  if cs.all (digitValue · < base) then some (cs.foldl (fun n c => n * base + digitValue c) 0) else none

/-- The number that a part of an address writes. -/
def number? : List Char → Option Nat
  | [] => none
  | '0' :: 'x' :: cs => ofDigits? 16 cs
  | '0' :: 'X' :: cs => ofDigits? 16 cs
  | '0' :: c :: cs => ofDigits? 8 (c :: cs)
  | cs => ofDigits? 10 cs

/-- The parts between the points, without an empty last one. -/
def parts (cs : List Char) : List (List Char) :=
  let ps := Text.splitWhere (· = '.') cs
  if ps.length > 1 && ps.getLast? = some [] then ps.dropLast else ps

/-- Whether the last part is a number, or at least consists of decimal digits. -/
def endsInNumber (cs : List Char) : Bool :=
  match (parts cs).getLast? with
  | some part => (!part.isEmpty && part.all Char.isDigit) || (number? part).isSome
  | none => false

/-- Puts bytes in front of the number that fills the remaining ones. -/
def assemble (bytes : List Nat) (last : Nat) : Option Nat :=
  if bytes.length ≤ 3 && bytes.all (· ≤ 255) && last < Nat.pow 256 (4 - bytes.length) then
    some (bytes.foldl (fun n b => n * 256 + b) 0 * Nat.pow 256 (4 - bytes.length) + last)
  else none

/-- The address that a host name writes. -/
def parse? (cs : List Char) : Option Nat := do
  let numbers ← (parts cs).mapM number?
  assemble numbers.dropLast (← numbers.getLast?)

/-- The four bytes of an address between points. -/
def render (n : Nat) : String :=
  s!"{n / 16777216 % 256}.{n / 65536 % 256}.{n / 256 % 256}.{n % 256}"

end BookmarkSync.Url.Ipv4
