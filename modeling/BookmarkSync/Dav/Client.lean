import BookmarkSync.Dav.Message
import BookmarkSync.Remote.Basic
import BookmarkSync.Remote.Location

/-!
# `BookmarkSync.Dav.Client` — file operations by requests

The client asks a server about locations. Each request logs in with the credential that is registered
for the authority of its location, if there is one.

A directory is made from the top down, but only its missing tail: the client first asks upwards for the
nearest level that is there, so it never touches what lies above.

With these operations a server is the far side of a sync (`Dav.remote`).
-/

namespace BookmarkSync.Dav

/-- Why a file operation failed. -/
inductive Fault
  /-- The URL of the location cannot be read. -/
  | invalidUrl
  /-- No request can be addressed to the URL. -/
  | unaddressable (url : Url)
  | noAnswer (url : Url)
  | bodyCutShort
  | refused (method : Method) (location : Location) (status : Status)
deriving DecidableEq, Repr

def Fault.message : Fault → String
  | invalidUrl => "builder error"
  | unaddressable url => s!"builder error for url ({url.render})"
  | noAnswer url => s!"error sending request for url ({url.render})"
  | bodyCutShort => "error decoding response body"
  | refused method location status =>
    s!"{method.name} {location.url} failed with status {status.describe}"

/-- The characters that the host of a URL may hold, but not that of a request. -/
def unaddressableChars : List Char := "\"`\x7b\x7d".toList

/-- How many bytes the URL of a request may have. -/
def longestUrl : Nat := 65534

/-- Whether a request can be addressed to a URL. -/
def isAddressable (url : Url) : Bool :=
  (((url.host.map Host.render).getD "").toList.all fun c => !unaddressableChars.contains c) &&
    url.render.utf8ByteSize ≤ longestUrl

/-- The request of a location under a URL. -/
def Request.of (registry : Registry) (method : Method) (l : Location) (url : String) (body : List UInt8) :
    Except Fault Request :=
  match Url.parse url with
  | .error _ => .error .invalidUrl
  | .ok url =>
    if isAddressable url then
      .ok { method, url, authorization := (registry.find? l.authority).map basicAuthorization, body }
    else .error (.unaddressable url)

namespace Client

variable {σ : Type} (server : Server σ) (registry : Registry)

/-- Sends a request, and answers the status of the reply with the body, unless that was cut short. -/
@[irreducible]
def send (method : Method) (l : Location) (url : String) (body : List UInt8) (s : σ) :
    Except Fault (Status × Option (List UInt8)) × σ :=
  match Request.of registry method l url body with
  | .error f => (.error f, s)
  | .ok request =>
    match server request s with
    | (.answer status body, s) => (.ok (status, some body), s)
    | (.cutShort status _, s) => (.ok (status, none), s)
    | (.none, s) => (.error (.noAnswer request.url), s)

/-- What the status of an answer about a resource says. -/
def presence (l : Location) (status : Status) : Except Fault Bool :=
  if status.isSuccess then .ok true
  else if status = Status.notFound then .ok false
  else .error (.refused .propfind l status)

/-- Whether a resource is there. -/
def has (l : Location) (s : σ) : Except Fault Bool × σ :=
  let (r, s) := send server registry .propfind l l.url [] s
  (r.bind fun a => presence l a.1, s)

/-- The levels from a location upwards that are not there, topmost first. The levels are given
bottommost first, `found` holds those already known, and a level that cannot be inspected counts as being
there. -/
def missingAbove (found : List Location) : List Location → σ → List Location × σ
  | [], s => (found, s)
  | l :: ls, s =>
    match has server registry l s with
    | (.ok false, s) => missingAbove (l :: found) ls s
    | (_, s) => (found, s)

/-- The levels of a location that are not there, topmost first. The location itself has to be inspected. -/
def missing (l : Location) (s : σ) : Except Fault (List Location) × σ :=
  match l.ancestorsAndSelf.reverse with
  | [] => (.ok [], s)
  | l :: ls =>
    match has server registry l s with
    | (.error f, s) => (.error f, s)
    | (.ok true, s) => (.ok [], s)
    | (.ok false, s) =>
      let (found, s) := missingAbove server registry [l] ls s
      (.ok found, s)

/-- What the status of an answer to making a collection says. A collection that is there already is fine. -/
def creation (l : Location) (status : Status) : Except Fault Unit :=
  if status.isSuccess || status = Status.methodNotAllowed then .ok ()
  else .error (.refused .mkcol l status)

/-- Makes collections one after the other, up to the first that cannot be made. -/
def makeAll : List Location → σ → Except Fault Unit × σ
  | [], s => (.ok (), s)
  | l :: ls, s =>
    match send server registry .mkcol l l.collectionUrl [] s with
    | (.error f, s) => (.error f, s)
    | (.ok (status, _), s) =>
      match creation l status with
      | .error f => (.error f, s)
      | .ok () => makeAll ls s

/-- Makes a directory and the levels above it that are missing. -/
def createDirectories (l : Location) (s : σ) : Except Fault Unit × σ :=
  match missing server registry l s with
  | (.error f, s) => (.error f, s)
  | (.ok levels, s) => makeAll server registry levels s

/-- What an answer to a request for a file says. -/
def content (l : Location) (status : Status) (body : Option (List UInt8)) : Except Fault (List UInt8) :=
  if status.isSuccess then body.elim (.error .bodyCutShort) .ok
  else .error (.refused .get l status)

/-- Reads a whole file. -/
def read (l : Location) (s : σ) : Except Fault (List UInt8) × σ :=
  let (r, s) := send server registry .get l l.url [] s
  (r.bind fun a => content l a.1 a.2, s)

/-- Replaces a whole file. -/
def write (l : Location) (bytes : List UInt8) (s : σ) : Except Fault Unit × σ :=
  let (r, s) := send server registry .put l l.url bytes s
  (r.bind fun a => if a.1.isSuccess then .ok () else .error (.refused .put l a.1), s)

end Client

/-! ## Servers as far sides -/

/-- The outcome of a file operation, with its fault as the cause for which a sync fails. -/
def inWords {α σ : Type} (r : Except Fault α × σ) : Except SyncError α × σ :=
  (r.1.mapError fun f => .transport f.message, r.2)

/-- A server as the far side of a sync. It learns of credentials only by the requests. -/
def remote {σ : Type} (server : Server σ) : Remote σ where
  opened _ s := s
  closed _ s := s
  has registry l s := inWords (Client.has server registry l s)
  createDirectories registry l s := inWords (Client.createDirectories server registry l s)
  read registry l s := inWords (Client.read server registry l s)
  write registry l content s := inWords (Client.write server registry l content s)

end BookmarkSync.Dav
