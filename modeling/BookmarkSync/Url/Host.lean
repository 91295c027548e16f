import BookmarkSync.Text.Percent
import BookmarkSync.Url.Domain
import BookmarkSync.Url.Ipv4
import BookmarkSync.Url.Ipv6

/-!
# `BookmarkSync.Url.Host` — the host of a URL

A host in square brackets is an IPv6 address. Any other host of a special scheme is a domain: it is
percent-decoded and brought into ASCII form, and is an IPv4 address when it ends in a number. Other
schemes leave the host as it is written, except for the characters that cannot stand in a URL.
-/

namespace BookmarkSync

/-- Why a text is no URL. -/
inductive UrlError
  | emptyHost
  | invalidPort
  /-- The text has no scheme, so it could only be relative to another URL. -/
  | noBase
  | invalidIpv4
  | invalidIpv6
  | invalidDomainCharacter
  | invalidDomain
deriving DecidableEq, Repr

def UrlError.message : UrlError → String
  | emptyHost => "empty host"
  | invalidPort => "invalid port number"
  | noBase => "relative URL without a base"
  | invalidIpv4 => "invalid IPv4 address"
  | invalidIpv6 => "invalid IPv6 address"
  | invalidDomainCharacter => "invalid domain character"
  | invalidDomain => "invalid international domain name"

inductive Host
  | name (s : String)
  | ipv4 (n : Nat)
  | ipv6 (groups : List Nat)
deriving DecidableEq, Repr

namespace Host

def render : Host → String
  | name s => s
  | ipv4 n => Url.Ipv4.render n
  | ipv6 groups => "[" ++ Url.Ipv6.render groups ++ "]"

/-- The address inside square brackets. -/
def bracketed (cs : List Char) : Except UrlError Host :=
  match cs.getLast?, Url.Ipv6.parse? (cs.drop 1).dropLast with
  | some ']', some groups => .ok (ipv6 groups)
  | _, _ => .error .invalidIpv6

/-- The host of a special scheme. -/
def parse (cs : List Char) : Except UrlError Host :=
  if cs.head? = some '[' then bracketed cs
  else
    match Url.Domain.toAscii? (Text.Percent.decodeText cs) with
    | none => .error .invalidDomain
    | some [] => .error .emptyHost
    | some domain =>
      if Url.Ipv4.endsInNumber domain then
        match Url.Ipv4.parse? domain with
        | some n => .ok (ipv4 n)
        | none => .error .invalidIpv4
      else .ok (name (String.ofList domain))

/-- The characters that no host may hold as they are. -/
def isForbidden (c : Char) : Bool := c ∈ "\x00\t\n\r #/:<>?@[\\]^|".toList

/-- Whether a character of a host can stay as it is: printable ASCII. -/
def isPlain (c : Char) : Bool := 0x20 ≤ c.toNat && c.toNat < 0x7F

/-- The host of a scheme that is not special. -/
def parseVerbatim (cs : List Char) : Except UrlError Host :=
  if cs.head? = some '[' then bracketed cs
  else if cs.any isForbidden then .error .invalidDomainCharacter
  else .ok (name (String.ofList (Text.Percent.encode isPlain cs)))

end Host

end BookmarkSync
