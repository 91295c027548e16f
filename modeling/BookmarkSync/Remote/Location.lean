import BookmarkSync.Remote.Authority
import BookmarkSync.Sync.Error
import BookmarkSync.Text.Percent
import BookmarkSync.Text.Ranges
import BookmarkSync.Url.Basic

/-!
# `BookmarkSync.Remote.Location` — files and directories on a server

A location is a list of decoded path segments on a server. Going down from a location adds the nonempty
pieces between the slashes of a text. The configured address of a server is read into an endpoint: the
server and the segments of its path.
-/

namespace BookmarkSync

structure Location where
  authority : Authority
  segments : List String
deriving DecidableEq, Repr

namespace Location

/-- The top of a server. -/
def root (authority : Authority) : Location := ⟨authority, []⟩

/-- The nonempty pieces of a text between its slashes. -/
def pieces (s : String) : List String :=
  ((Text.splitSlashes s.toList).filter (!·.isEmpty)).map String.ofList

/-- The location below this one that the pieces of a text lead to. -/
def resolve (l : Location) (relative : String) : Location :=
  { l with segments := l.segments ++ pieces relative }

/-- The locations from the first segment down to this one. -/
def ancestorsAndSelf (l : Location) : List Location :=
  (List.range l.segments.length).map fun n => { l with segments := l.segments.take (n + 1) }

/-- The percent-encoded path; a single slash for the top. -/
def path (l : Location) : String :=
  match l.segments with
  | [] => "/"
  | segments => String.ofList (segments.flatMap fun s => '/' :: Text.Percent.encodeComponent s)

def url (l : Location) : String := l.authority.baseUrl ++ l.path

/-- The URL with a slash at the end, as a collection has it. -/
def collectionUrl (l : Location) : String :=
  if l.url.toList.getLast? = some '/' then l.url else l.url ++ "/"

end Location

/-- The configured address of a server. -/
structure Endpoint where
  authority : Authority
  /-- The decoded path without slashes at its ends. -/
  basePath : String
deriving DecidableEq, Repr

namespace Endpoint

/-- Why a text is no usable address. -/
inductive Fault
  | invalidUrl (url : String) (e : UrlError)
  | unsupportedScheme (scheme : String)
  | noHost (url : String)
  | pathNotUtf8 (d : Text.Utf8.Defect)
deriving DecidableEq, Repr

def Fault.message : Fault → String
  | invalidUrl url e => s!"invalid WebDAV URL {Text.quoted url}: {e.message}"
  | unsupportedScheme scheme =>
    s!"unsupported WebDAV URL scheme {Text.quoted scheme}, use http:// or https://"
  | noHost url => s!"WebDAV URL {Text.quoted url} has no host"
  | pathNotUtf8 d => s!"WebDAV URL path is not UTF-8: {d.message}"

/-- The text that a percent-encoded segment stands for. -/
def decodeSegment (cs : List Char) : Except Fault (List Char) :=
  let bytes := Text.Percent.decodeText cs
  match Text.Utf8.decode? bytes with
  | some cs => .ok cs
  | none => .error (.pathNotUtf8 ((Text.Utf8.Defect.find? 0 (Text.Utf8.read bytes)).getD ⟨0, 0, false⟩))

/-- The decoded nonempty segments of a URL's path. -/
def baseSegments (u : Url) : Except Fault (List (List Char)) :=
  ((u.path.getD []).filter (!·.isEmpty)).mapM decodeSegment

/-- Reads the configured address of a server. -/
def parse (url username : String) : Except Fault Endpoint := do
  let u ← (Url.parse (Text.trim url)).mapError (.invalidUrl url)
  let protocol ← (Protocol.ofScheme? u.scheme).elim (.error (.unsupportedScheme u.scheme)) .ok
  let host ← u.host.elim (.error (.noHost url)) .ok
  let segments ← baseSegments u
  let port := (u.port.map UInt16.ofNat).getD protocol.defaultPort
  return ⟨⟨protocol, host.render, port, username⟩, String.ofList (Text.joinWith ['/'] segments)⟩

/-- The directory of the sync files. -/
def syncDir (e : Endpoint) (syncPath : String) : Location :=
  ((Location.root e.authority).resolve e.basePath).resolve syncPath

end Endpoint

end BookmarkSync
