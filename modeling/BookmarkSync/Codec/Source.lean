import BookmarkSync.Codec.Error
import BookmarkSync.Json.Value

/-!
# `BookmarkSync.Codec.Source` — what records are read from

A record can be read from a JSON value, or straight from the tree of a text, in the order in which the
text gives it. Both offer the same questions, so a record's format is stated once, for any source. The
answers differ in three ways. A tree reports the faults of the text as they are met, and a value has
none. A tree shows repeated members, and in a value the last one has replaced the others. Surplus
items of a record written as a list are a matter of the text's form in a tree, and of the number of
items in a value.
-/

namespace BookmarkSync.Codec

open BookmarkSync.Json (Fault Lexeme Close Tree Value)

/-- A record as it stands in a source: named members, or its fields in order. -/
inductive RecordForm (σ : Type)
  | named (members : List (Except Fault String × σ)) (close : Option Fault)
  | positional (items : List σ) (close : Option Fault)

/-- What fields and records can be read from. -/
class Source (σ : Type) where
  isNull : σ → Bool
  text : σ → Except ReadError String
  flag : σ → Except ReadError Bool
  integer : Wanted → σ → Except ReadError Int
  /-- The items, and the fault met behind the last one. -/
  list : σ → Except ReadError (List σ × Option Fault)
  record : String → σ → Except ReadError (RecordForm σ)
  /-- Passes over a member that no field is read from. -/
  skip : σ → Except ReadError Unit
  /-- What follows the fields of a record written as a list: the items beyond the first `n`. -/
  leave : Nat → σ → Except ReadError Unit

/-- The integer a number stands for, if it is written as one. -/
def integerOf (wanted : Wanted) : Json.Number → Except ReadError Int
  | .integer n => .ok n
  | .float f => .error (.wrongType (.number (.float f)) wanted)

/-! ## Values -/

namespace Source

/-- What a value is, when it is not what was wanted. -/
def foundValue : Value → Found
  | .null => .null
  | .bool b => .flag b
  | .number n => .number n
  | .text s => .text s
  | .list _ => .list
  | .object _ => .object

instance : Source Value where
  isNull
    | .null => true
    | _ => false
  text
    | .text s => .ok s
    | v => .error (.wrongType (foundValue v) .text)
  flag
    | .bool b => .ok b
    | v => .error (.wrongType (foundValue v) .flag)
  integer wanted
    | .number n => integerOf wanted n
    | v => .error (.wrongType (foundValue v) wanted)
  list
    | .list vs => .ok (vs, none)
    | v => .error (.wrongType (foundValue v) .list)
  record name
    | .object ms => .ok (.named (ms.map fun m => (.ok m.1, m.2)) none)
    | .list vs => .ok (.positional vs none)
    | v => .error (.wrongType (foundValue v) (.record name))
  skip _ := .ok ()
  leave n
    | .list vs => if vs.length ≤ n then .ok () else .error (.tooLong vs.length)
    | _ => .ok ()

/-! ## Trees -/

/-- The outcome of a lexeme. -/
def read {α : Type} (r : Except Fault α) : Except ReadError α := r.mapError .notJson

/-- Fails because the tree is not what was wanted; a scalar that has no value is a fault of its own. -/
def refuse {α : Type} (wanted : Wanted) : Tree → Except ReadError α
  | .null => .error (.wrongType .null wanted)
  | .bool b => .error (.wrongType (.flag b) wanted)
  | .number n => do .error (.wrongType (.number (← read n.value)) wanted)
  | .text t => do .error (.wrongType (.text (← read t.value)) wanted)
  | .list .. => .error (.wrongType .list wanted)
  | .object .. => .error (.wrongType .object wanted)
  | .fault f => .error (.notJson f)

/-- The fault of a list whose items are not all read: the next thing must be the closing bracket. -/
def surplusFault? (more : Bool) : Close → Option Fault
  | .closed => if more then some .trailingCharacters else none
  | .cut => some (if more then .trailingCharacters else .endInList)
  | .trailingComma => some (if more then .trailingCharacters else .trailingComma)
  | _ => some .trailingCharacters

instance : Source Tree where
  isNull
    | .null => true
    | _ => false
  text
    | .text t => read t.value
    | t => refuse .text t
  flag
    | .bool b => .ok b
    | t => refuse .flag t
  integer wanted
    | .number n => do integerOf wanted (← read n.value)
    | t => refuse wanted t
  list
    | .list items close => .ok (items, close.listFault?)
    | t => refuse .list t
  record name
    | .object members close => .ok (.named (members.map fun m => (m.1.value, m.2)) close.objectFault?)
    | .list items close => .ok (.positional items close.listFault?)
    | t => refuse (.record name) t
  skip t := read t.skip
  leave n
    | .list items close => read (Fault.check (surplusFault? (n < items.length) close))
    | _ => .ok ()

end Source

end BookmarkSync.Codec
