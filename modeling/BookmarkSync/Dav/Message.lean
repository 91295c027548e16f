import BookmarkSync.Dav.Status
import BookmarkSync.Remote.Registry
import BookmarkSync.Text.Utf8
import BookmarkSync.Url.Basic

/-!
# `BookmarkSync.Dav.Message` — requests and replies

A request asks for one thing about one URL. A reply is an answer, an answer that ends too early, or no
answer at all. A server is a function that replies to a request and changes its own state. A request logs
in with a name and a password, which it holds in base 64.
-/

/-! ## Base 64

Three bytes are written as four digits of six bits. Equals signs fill up the last group.
-/

namespace BookmarkSync.Text.Base64

/-- The digit for a number below 64. -/
def digit (n : Nat) : Char :=
  if n < 26 then Char.ofNat (65 + n)
  else if n < 52 then Char.ofNat (71 + n)
  else if n < 62 then Char.ofNat (n - 4)
  else if n = 62 then '+'
  else '/'

/-- The digits of a number below 2^24. -/
def group (n : Nat) : List Char :=
  [digit (n / 262144), digit (n / 4096 % 64), digit (n / 64 % 64), digit (n % 64)]

def encode : List UInt8 → List Char
  | [] => []
  | [a] => (group (a.toNat * 65536)).take 2 ++ ['=', '=']
  | [a, b] => (group (a.toNat * 65536 + b.toNat * 256)).take 3 ++ ['=']
  | a :: b :: c :: rest => group (a.toNat * 65536 + b.toNat * 256 + c.toNat) ++ encode rest

end BookmarkSync.Text.Base64

/-! ## Requests and replies -/

namespace BookmarkSync.Dav

inductive Method
  /-- Asks whether a resource is there. -/
  | propfind
  /-- Makes a collection. -/
  | mkcol
  | get
  | put
deriving DecidableEq, Repr

def Method.name : Method → String
  | propfind => "PROPFIND"
  | mkcol => "MKCOL"
  | get => "GET"
  | put => "PUT"

structure Request where
  method : Method
  url : Url
  /-- The header that logs in. -/
  authorization : Option String
  body : List UInt8 := []
deriving DecidableEq, Repr

namespace Request

/-- How deep a question goes: no deeper than the resource itself. -/
def depth (r : Request) : Option String := if r.method = .propfind then some "0" else none

/-- The path as it is sent. -/
def path (r : Request) : String := String.ofList (Url.Path.render (r.url.path.getD []))

end Request

inductive Reply
  | answer (status : Status) (body : List UInt8)
  /-- An answer whose body ends too early. -/
  | cutShort (status : Status) (body : List UInt8)
  /-- The connection is closed without an answer. -/
  | none
deriving DecidableEq, Repr

/-- How a server with states in `σ` replies. -/
abbrev Server (σ : Type) := Request → σ → Reply × σ

/-- The header that logs in with a credential. -/
def basicAuthorization (c : Credential) : String :=
  let login := c.authority.username ++ ":" ++ c.password
  "Basic " ++ String.ofList (Text.Base64.encode (Text.Utf8.bytes login))

end BookmarkSync.Dav
