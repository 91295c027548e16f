import BookmarkSync.Text.Ranges
import BookmarkSync.Url.Host
import BookmarkSync.Url.Path

/-!
# `BookmarkSync.Url.Basic` — reading and writing URLs

A URL is read as the URL standard of the web says. Of its parts only those are kept that a request needs
to reach a resource: the scheme, the host, the port and the path. Credentials, query and fragment are
read and dropped.
-/

namespace BookmarkSync

structure Url where
  /-- In lower case. -/
  scheme : String
  host : Option Host
  /-- Absent when it is the scheme's own. -/
  port : Option Nat
  /-- The segments of the path; absent when the path does not start with a slash. -/
  path : Option (List (List Char))
deriving DecidableEq, Repr

namespace Url

/-! ## Schemes -/

/-- The schemes whose URLs always have a host, with their ports. -/
def specialPorts : List (String × Nat) := [("http", 80), ("https", 443), ("ws", 80), ("wss", 443), ("ftp", 21)]

def defaultPort? (scheme : String) : Option Nat := (specialPorts.find? (·.1 == scheme)).map Prod.snd

def isSpecial (scheme : String) : Bool := (defaultPort? scheme).isSome

/-- Whether a character can follow the first letter of a scheme. -/
def isSchemeChar (c : Char) : Bool := c.isAlphanum || c = '+' || c = '-' || c = '.'

/-- The scheme in lower case, and what follows its colon. -/
def scanScheme? (cs : List Char) : Option (String × List Char) :=
  match cs, cs.span isSchemeChar with
  | c :: _, (scheme, ':' :: rest) =>
    if c.isAlpha then some (String.ofList (scheme.map Char.toLower), rest) else none
  | _, _ => none

/-! ## Authorities -/

/-- Whether a character is a slash. Special schemes take a backslash for one. -/
def isSlash (special : Bool) (c : Char) : Bool := c = '/' || (special && c = '\\')

/-- Whether a character ends an authority. -/
def endsAuthority (special : Bool) (c : Char) : Bool := isSlash special c || c = '?' || c = '#'

/-- What stands before and after the last `@`, if there is one. -/
def splitLastAt? (cs : List Char) : Option (List Char × List Char) :=
  match cs.reverse.span (· != '@') with
  | (after, _ :: before) => some (before.reverse, after.reverse)
  | _ => none

/-- The host at the start of an authority, up to a colon outside of brackets, and what follows it. -/
def spanHost (inside : Bool) : List Char → List Char × List Char
  | [] => ([], [])
  | c :: rest =>
    if c = ':' && !inside then ([], c :: rest)
    else
      let (host, rest) := spanHost (if c = '[' then true else if c = ']' then false else inside) rest
      (c :: host, rest)

/-- The port that digits write, if there are any. -/
def port? (digits : List Char) : Except UrlError (Option Nat) :=
  if !digits.all Char.isDigit then .error .invalidPort
  else
    let n := digits.foldl (fun n c => n * 10 + (c.toNat - 48)) 0
    if n ≤ 65535 then .ok (if digits.isEmpty then none else some n) else .error .invalidPort

/-- What an authority says: its host unless it is empty, its port, and the text left over behind a
backslash, which ends a port under any scheme. -/
structure Authority where
  host : Option Host
  port : Option Nat
  left : List Char

/-- Reads the host and the port, which follow any credentials. -/
def hostAndPort (scheme : String) (cs : List Char) : Except UrlError Authority := do
  let special := isSpecial scheme
  let (written, rest) := spanHost false cs
  if written.isEmpty && (special || !rest.isEmpty) then .error .emptyHost
  else
    let host ← if special then Host.parse written else Host.parseVerbatim written
    let (digits, left) := (rest.drop 1).span (· != '\\')
    let port ← port? digits
    return ⟨if written.isEmpty then none else some host, if port = defaultPort? scheme then none else port,
      left⟩

/-- Reads an authority, whose text ends where a path, query or fragment starts or the URL ends. `more`
says whether anything follows. -/
def parseAuthority (scheme : String) (cs : List Char) (more : Bool) : Except UrlError Authority :=
  match splitLastAt? cs with
  | none => hostAndPort scheme cs
  | some (credentials, rest) => do
    if credentials.isEmpty && rest.isEmpty && more then .error .emptyHost
    else
      let authority ← hostAndPort scheme rest
      if authority.host.isNone && !credentials.isEmpty && credentials != [':'] then .error .emptyHost
      else return authority

/-! ## Whole URLs -/

/-- The part of a text before a query or a fragment. -/
def untilQuery (cs : List Char) : List Char := cs.takeWhile fun c => c != '?' && c != '#'

/-- The path after an authority. A special URL always has one. -/
def pathAfterAuthority (special : Bool) (rest : List Char) : Option (List (List Char)) :=
  match untilQuery rest with
  | [] => if special then some [[]] else none
  | c :: cs => some (Path.parse (isSlash special) (if isSlash special c then cs else c :: cs))

/-- Reads a URL with an authority, which starts after the two slashes. -/
def afterSlashes (scheme : String) (cs : List Char) : Except UrlError Url := do
  let special := isSpecial scheme
  let (authority, rest) := cs.span (!endsAuthority special ·)
  let ⟨host, port, left⟩ ← parseAuthority scheme authority (!rest.isEmpty)
  return ⟨scheme, host, port, pathAfterAuthority special (left ++ rest)⟩

/-- The host of a file URL; a drive letter and the local host are none. -/
def fileHost (cs : List Char) : Except UrlError (Option Host) :=
  let written := cs.takeWhile (!endsAuthority true ·)
  if written.isEmpty || Path.isDriveLetter written then .ok none
  else (Host.parse written).map fun h => if h = .name "localhost" then none else some h

/-- Reads a URL of a file. -/
def parseFile (cs : List Char) : Except UrlError Url := do
  let host ← match cs with
    | a :: b :: rest => if isSlash true a && isSlash true b then fileHost rest else .ok none
    | _ => .ok none
  return { scheme := "file", host, port := none, path := some (Path.parse (isSlash true) (untilQuery cs)) }

/-- The characters that count: no spaces and controls at the ends, and no tabs and line ends at all. -/
def significant (s : String) : List Char :=
  (Text.strip (fun c => c.toNat ≤ 0x20) s.toList).filter fun c => c != '\t' && c != '\n' && c != '\r'

/-- Reads a URL. -/
def parse (s : String) : Except UrlError Url :=
  match scanScheme? (significant s) with
  | none => .error .noBase
  | some (scheme, rest) =>
    if scheme = "file" then parseFile rest
    else if isSpecial scheme then afterSlashes scheme (rest.dropWhile (isSlash true))
    else
      match rest with
      | '/' :: '/' :: cs => afterSlashes scheme cs
      | '/' :: cs => .ok ⟨scheme, none, none, some (Path.parse (isSlash false) (untilQuery cs))⟩
      | _ => .ok ⟨scheme, none, none, none⟩

/-- The written form of a URL with a host. -/
def render (u : Url) : String :=
  let host := (u.host.map Host.render).getD ""
  let port := (u.port.map fun n => s!":{n}").getD ""
  s!"{u.scheme}://{host}{port}" ++ String.ofList (Path.render (u.path.getD []))

end Url

end BookmarkSync
