import BookmarkSync.Json.Number
import BookmarkSync.Text.Quoted

/-!
# `BookmarkSync.Codec.Error` — why a record cannot be read
-/

namespace BookmarkSync.Codec

/-- What a field or a document should be. -/
inductive Wanted
  | text
  | flag
  | int64
  | nat32
  | list
  | record (name : String)
deriving DecidableEq, Repr

def Wanted.message : Wanted → String
  | text => "a string"
  | flag => "a boolean"
  | int64 => "i64"
  | nat32 => "u32"
  | list => "a sequence"
  | record name => s!"struct {name}"

/-- What stands there instead. -/
inductive Found
  | null
  | flag (b : Bool)
  | number (n : Json.Number)
  | text (s : String)
  | list
  | object
deriving Repr

def Found.message : Found → String
  | null => "null"
  | flag b => s!"boolean `{b}`"
  | number (.integer n) => s!"integer `{n}`"
  | number (.float f) => s!"floating point `{Json.Number.layout.render f}`"
  | text s => "string " ++ Text.quoted s
  | list => "sequence"
  | object => "map"

/-- Why a text or a JSON value does not hold the record that is wanted. -/
inductive ReadError
  | notJson (f : Json.Fault)
  | wrongType (found : Found) (wanted : Wanted)
  | outOfRange (n : Int) (wanted : Wanted)
  | missingField (name : String)
  | duplicateField (name : String)
  /-- A record written as a list lacks the item at `index`. -/
  | tooShort (index : Nat) (name : String) (fields : Nat)
  /-- A record written as a list has too many items, `length` in all. -/
  | tooLong (length : Nat)
deriving Repr

def ReadError.message : ReadError → String
  | notJson f => f.message
  | wrongType found wanted => s!"invalid type: {found.message}, expected {wanted.message}"
  | outOfRange n wanted => s!"invalid value: integer `{n}`, expected {wanted.message}"
  | missingField name => s!"missing field `{name}`"
  | duplicateField name => s!"duplicate field `{name}`"
  | tooShort index name fields =>
    let elements := if fields = 1 then "element" else "elements"
    s!"invalid length {index}, expected struct {name} with {fields} {elements}"
  | tooLong length => s!"invalid length {length}, expected fewer elements in array"

/-- The kinds of JSON values, as they are named in messages. -/
inductive Kind
  | null
  | bool
  | number
  | text
  | list
  | object
deriving DecidableEq, Repr

def Kind.message : Kind → String
  | null => "null"
  | bool => "boolean"
  | number => "number"
  | text => "string"
  | list => "array"
  | object => "object"

end BookmarkSync.Codec

namespace BookmarkSync

/-- Why stored or transferred records cannot be used. -/
inductive CodecError
  | unreadable (e : Codec.ReadError)
  | notABookmark (found : Codec.Kind)
  | notAList (found : Codec.Kind)
  /-- A cause given in words. -/
  | other (detail : String)
deriving Repr

namespace CodecError

def detail : CodecError → String
  | unreadable e => e.message
  | notABookmark found => s!"expected bookmark object, found {found.message}"
  | notAList found => s!"expected bookmark array, found {found.message}"
  | other detail => detail

def message (e : CodecError) : String := "malformed record: " ++ e.detail

end CodecError

end BookmarkSync
