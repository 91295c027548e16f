import BookmarkSync.Store.Error

/-!
# `BookmarkSync.Store.KeyValue` — texts under keys

A key-value store keeps one text for each key, in the order of the keys. It can be told to refuse calls:
all writes, the writes to one key, or all reads. Several entries are written together or not at all.
-/

namespace BookmarkSync

structure KeyValue where
  /-- The entries in the order of their keys, one for each key. -/
  entries : List (String × String)
  readOnly : Bool := false
  failingKey : Option String := none
  failingReads : Bool := false
deriving DecidableEq, Repr, Inhabited

namespace KeyValue

/-- Sets an entry among entries in the order of their keys. -/
def insert (key value : String) : List (String × String) → List (String × String)
  | [] => [(key, value)]
  | (k, v) :: rest =>
    if key < k then (key, value) :: (k, v) :: rest
    else if key = k then (key, value) :: rest
    else (k, v) :: insert key value rest

/-- Sets entries one after the other. -/
def insertAll (new old : List (String × String)) : List (String × String) :=
  new.foldl (fun acc e => insert e.1 e.2 acc) old

/-- A store with these entries that refuses nothing. -/
def ofEntries (entries : List (String × String)) : KeyValue := { entries := insertAll entries [] }

def empty : KeyValue := { entries := [] }

def size (kv : KeyValue) : Nat := kv.entries.length

def keys (kv : KeyValue) : List String := kv.entries.map Prod.fst

/-- The text under `key`, if there is one. -/
def lookup (kv : KeyValue) (key : String) : Option String := (kv.entries.find? (·.1 == key)).map Prod.snd

/-- Reads the text under `key`. -/
def get (kv : KeyValue) (key : String) : Except StorageError (Option String) :=
  if kv.failingReads then .error (.backend (.unreadable key)) else .ok (kv.lookup key)

/-- Why `key` cannot be written, if it cannot. -/
def writeFault? (kv : KeyValue) (key : String) : Option KeyFault :=
  if kv.readOnly then some (.readOnly key)
  else if kv.failingKey = some key then some (.rejected key)
  else none

/-- Writes every entry, or none of them when one cannot be written. -/
def putAll (kv : KeyValue) (new : List (String × String)) : Except StorageError Unit × KeyValue :=
  match new.findSome? fun e => kv.writeFault? e.1 with
  | some f => (.error (.backend f), kv)
  | none => (.ok (), { kv with entries := insertAll new kv.entries })

/-- Writes one entry. -/
def put (kv : KeyValue) (key value : String) : Except StorageError Unit × KeyValue :=
  kv.putAll [(key, value)]

end KeyValue

end BookmarkSync
