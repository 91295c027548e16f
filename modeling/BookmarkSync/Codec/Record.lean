import BookmarkSync.Codec.Source

/-!
# `BookmarkSync.Codec.Record` — reading records from any source

The format of a record lists its fields in the order of declaration. A record written as an object gives
the fields by name, in any order and among other members; a record written as a list gives them by
position. A required field must be there, and any other one keeps its default when it is absent.
-/

namespace BookmarkSync.Codec

variable {σ : Type} [Source σ] {α β : Type}

/-! ## Readers of single values -/

/-- Reads a text. -/
def text : σ → Except ReadError String := Source.text

/-- Reads a boolean. -/
def flag : σ → Except ReadError Bool := Source.flag

/-- Reads an integer in the range of 64 bits with a sign. -/
def int64 (v : σ) : Except ReadError Int64 := do
  let n ← Source.integer .int64 v
  if Int64.minValue.toInt ≤ n && n ≤ Int64.maxValue.toInt then return Int64.ofInt n
  else .error (.outOfRange n .int64)

/-- Reads an integer in the range of 32 bits without a sign. -/
def nat32 (v : σ) : Except ReadError UInt32 := do
  let n ← Source.integer .nat32 v
  if 0 ≤ n && n < 0x100000000 then return UInt32.ofNat n.toNat else .error (.outOfRange n .nat32)

/-- Reads a list of what `item` reads. -/
def listOf (item : σ → Except ReadError α) (v : σ) : Except ReadError (List α) := do
  let (items, close) ← Source.list v
  let as ← items.mapM item
  Source.read (Json.Fault.check close)
  return as

/-- Reads what `item` reads, or nothing from null. -/
def nullable (item : σ → Except ReadError α) (v : σ) : Except ReadError (Option α) :=
  if Source.isNull v then .ok none else (item v).map some

/-- Reads what `item` reads, or the default from null. -/
def orDefault [Inhabited α] (item : σ → Except ReadError α) (v : σ) : Except ReadError α :=
  (nullable item v).map (·.getD default)

/-! ## Records -/

/-- One field of a record of type `ρ`: its name, whether it must be there, and how it is set. -/
structure Field (σ ρ : Type) where
  name : String
  required : Bool
  set : σ → ρ → Except ReadError ρ

namespace Field

/-- A field that must be there. -/
def needed {ρ : Type} (name : String) (item : σ → Except ReadError α) (put : α → ρ → ρ) :
    Field σ ρ :=
  ⟨name, true, fun v r => (item v).map fun a => put a r⟩

/-- A field that may be absent. -/
def optional {ρ : Type} (name : String) (item : σ → Except ReadError α) (put : α → ρ → ρ) :
    Field σ ρ :=
  ⟨name, false, fun v r => (item v).map fun a => put a r⟩

end Field

/-- The format of a record of type `ρ`. -/
structure RecordFormat (σ ρ : Type) where
  name : String
  /-- The record before any field is read: every absent field keeps its value here. -/
  blank : ρ
  fields : List (Field σ ρ)

namespace RecordFormat

variable {ρ : Type}

/-- Reads members one after the other into `r`. `seen` lists the fields read before. -/
def readMembers (fields : List (Field σ ρ)) :
    List (Except Json.Fault String × σ) → List String → ρ → Except ReadError (List String × ρ)
  | [], seen, r => .ok (seen, r)
  | (key, v) :: rest, seen, r => do
    let key ← Source.read key
    match fields.find? (·.name == key) with
    | none =>
      Source.skip v
      readMembers fields rest seen r
    | some field =>
      if key ∈ seen then .error (.duplicateField key)
      else
        let r ← field.set v r
        readMembers fields rest (key :: seen) r

/-- The first required field that is not among those seen. -/
def missing? (fields : List (Field σ ρ)) (seen : List String) : Option String :=
  (fields.find? fun f => f.required && !seen.contains f.name).map Field.name

/-- Reads fields by position into `r`; `index` counts the fields before. A field beyond the last item is
absent. -/
def readItems (format : RecordFormat σ ρ) (close : Option Json.Fault) :
    Nat → List (Field σ ρ) → List σ → ρ → Except ReadError ρ
  | _, [], _, r => .ok r
  | index, field :: fields, v :: vs, r => do
    let r ← field.set v r
    readItems format close (index + 1) fields vs r
  | index, field :: fields, [], r => do
    Source.read (Json.Fault.check close)
    if field.required then .error (.tooShort index format.name format.fields.length)
    else readItems format close (index + 1) fields [] r

/-- Reads a record. -/
def read (format : RecordFormat σ ρ) (v : σ) : Except ReadError ρ := do
  match ← Source.record format.name v with
  | .named members close =>
    let (seen, r) ← readMembers format.fields members [] format.blank
    Source.read (Json.Fault.check close)
    match missing? format.fields seen with
    | some name => .error (.missingField name)
    | none => return r
  | .positional items close =>
    let r ← readItems format close 0 format.fields items format.blank
    Source.leave format.fields.length v
    return r

end RecordFormat

/-! ## Documents -/

/-- Reads a record straight from a text, given by its symbols. -/
def readText {ρ : Type} (format : RecordFormat Json.Tree ρ) (symbols : List Text.Symbol) :
    Except ReadError ρ := do
  let (t, more) := Json.Tree.ofTokens (Json.Token.all symbols)
  let r ← format.read t
  if more then .error (.notJson .trailingCharacters) else return r

end BookmarkSync.Codec
