import BookmarkSync.Text.Quoted

/-!
# `BookmarkSync.Remote.Authority` — servers

A server is reached by plain HTTP or by HTTP over TLS, at a host and a port, as a user. Endpoints are
registered under all four.
-/

namespace BookmarkSync

inductive Protocol
  /-- Plain HTTP. -/
  | dav
  /-- HTTP over TLS. -/
  | davs
deriving DecidableEq, Repr

namespace Protocol

/-- The protocol that a URL scheme stands for, in any case of letters. -/
def ofScheme? (scheme : String) : Option Protocol :=
  let s := String.ofList (scheme.toList.map Char.toLower)
  if s ∈ ["https", "webdavs", "davs"] then some davs
  else if s ∈ ["http", "webdav", "dav"] then some dav
  else none

def defaultPort : Protocol → UInt16
  | dav => 80
  | davs => 443

def httpScheme : Protocol → String
  | dav => "http"
  | davs => "https"

def name : Protocol → String
  | dav => "Dav"
  | davs => "Davs"

end Protocol

structure Authority where
  protocol : Protocol
  host : String
  port : UInt16
  username : String
deriving DecidableEq, Repr

namespace Authority

/-- The scheme, the host, and the port unless it is the protocol's own. -/
def baseUrl (a : Authority) : String :=
  let port := if a.port = a.protocol.defaultPort then "" else s!":{a.port.toNat}"
  a.protocol.httpScheme ++ "://" ++ a.host ++ port

/-- The authority in words. -/
def describe (a : Authority) : String :=
  "Authority \x7b protocol: " ++ a.protocol.name ++
  ", host: " ++ Text.quoted a.host ++
  ", port: " ++ toString a.port.toNat ++
  ", username: " ++ Text.quoted a.username ++ " \x7d"

end Authority

end BookmarkSync
