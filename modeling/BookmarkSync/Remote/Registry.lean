import BookmarkSync.Remote.Authority

/-!
# `BookmarkSync.Remote.Registry` — who may log in where

A registry keeps at most one credential for each authority. A registration keeps a credential in it for
as long as it lasts: when the registration ends, its authority is taken out, whoever put it in last.
-/

namespace BookmarkSync

/-- What a request needs to log in. -/
structure Credential where
  authority : Authority
  password : String
  /-- The directory that the address of the server leads to. -/
  relativePath : String
  /-- What the credential is called. -/
  name : String
deriving DecidableEq, Repr

/-- The credential in words, without its password. -/
def Credential.describe (c : Credential) : String :=
  "TransientEndpoint \x7b authority: " ++ c.authority.describe ++
  ", password: " ++ Text.quoted "<redacted>" ++
  ", relative_path: " ++ Text.quoted c.relativePath ++
  ", name: " ++ Text.quoted c.name ++ " \x7d"

structure Registry where
  credentials : List Credential := []
deriving DecidableEq, Repr

namespace Registry

def empty : Registry := {}

/-- How many authorities have a credential. -/
def size (r : Registry) : Nat := r.credentials.length

/-- The credential of an authority. -/
def find? (r : Registry) (a : Authority) : Option Credential := r.credentials.find? (·.authority == a)

def contains (r : Registry) (a : Authority) : Bool := (r.find? a).isSome

/-- Takes the credential of an authority out. -/
def erase (r : Registry) (a : Authority) : Registry := ⟨r.credentials.filter (·.authority != a)⟩

/-- Puts a credential in, in place of an earlier one of its authority. -/
def insert (r : Registry) (c : Credential) : Registry := ⟨c :: (r.erase c.authority).credentials⟩

end Registry

/-- A registry with the registrations that last, each under a key. -/
structure Registrations where
  registry : Registry := {}
  lasting : List (String × Authority) := []
deriving DecidableEq, Repr

namespace Registrations

/-- Ends the registration under a key, and answers whether there was one. -/
def drop (rs : Registrations) (key : String) : Bool × Registrations :=
  match rs.lasting.find? (·.1 == key) with
  | none => (false, rs)
  | some (_, a) => (true, ⟨rs.registry.erase a, rs.lasting.filter (·.1 != key)⟩)

/-- Registers a credential under a key. A registration that was there ends once the new one is in. -/
def register (rs : Registrations) (key : String) (c : Credential) : Registrations :=
  let (_, earlier) := { rs with registry := rs.registry.insert c }.drop key
  { earlier with lasting := (key, c.authority) :: earlier.lasting }

end Registrations

end BookmarkSync
