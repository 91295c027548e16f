import BookmarkSync.Json.Token

/-!
# `BookmarkSync.Json.Tree` — the shape of a JSON text, faults included

Every token sequence has a tree. Where the sequence is no JSON value, the tree says so at the place
where it goes wrong: a fault stands for a missing value, and a list or an object records how it ends. A
reader walks the tree in the order of the text and stops at the first fault that concerns it, so
different readers of one text can stop at different faults. Behind a fault the tree is arbitrary.
-/

namespace BookmarkSync.Json

/-- How a list or an object ends. -/
inductive Close
  /-- With its closing bracket. -/
  | closed
  /-- The text ends where a separator or a closing bracket should come. -/
  | cut
  /-- Something else stands there. -/
  | noSeparator
  /-- The closing bracket follows a comma. -/
  | trailingComma
  /-- The text ends after a comma. -/
  | cutAfterComma
  /-- Something that is no text stands where a key should come. -/
  | keyNotText
deriving DecidableEq, Repr

namespace Close

/-- The fault met behind the last item by a reader that wants the list. -/
def listFault? : Close → Option Fault
  | closed => none
  | cut => some .endInList
  | noSeparator => some .listSeparatorExpected
  | trailingComma => some .trailingComma
  | cutAfterComma => some .endInValue
  | keyNotText => some .keyNotText

/-- The fault met behind the last member by a reader that wants the object. -/
def objectFault? : Close → Option Fault
  | closed => none
  | cut => some .endInObject
  | noSeparator => some .objectSeparatorExpected
  | trailingComma => some .trailingComma
  | cutAfterComma => some .endInValue
  | keyNotText => some .keyNotText

/-- The fault met behind the last item by a reader that passes over the list: after a comma it simply
looks for a value. -/
def skipListFault? : Close → Option Fault
  | trailingComma => some .valueExpected
  | c => c.listFault?

/-- The fault met behind the last member by a reader that passes over the object: after a comma it
simply looks for a key. -/
def skipObjectFault? : Close → Option Fault
  | trailingComma => some .keyNotText
  | cutAfterComma => some .endInObject
  | c => c.objectFault?

end Close

/-- Fails with the fault, if there is one. -/
def Fault.check : Option Fault → Except Fault Unit
  | some f => .error f
  | none => .ok ()

inductive Tree
  | null
  | bool (b : Bool)
  | number (n : Lexeme Number)
  | text (t : Lexeme String)
  | list (items : List Tree) (close : Close)
  | object (members : List (Lexeme String × Tree)) (close : Close)
  /-- No value stands here. -/
  | fault (f : Fault)
deriving Repr

namespace Tree

/-! ## Trees from tokens -/

/-- Puts an item in front of a list's remaining items. -/
def consItem {α : Type} (a : α) (r : List α × Close × List Token) : List α × Close × List Token :=
  (a :: r.1, r.2)

mutual

/-- The value at the start of the tokens, and the tokens behind it. The first argument bounds the number
of calls. -/
def value : Nat → List Token → Tree × List Token
  | 0, _ => (fault .endInValue, [])
  | _ + 1, [] => (fault .endInValue, [])
  | n + 1, t :: ts =>
    match t with
    | .null => (null, ts)
    | .bool b => (bool b, ts)
    | .number l => (number l, ts)
    | .text l => (text l, ts)
    | .openList =>
      match ts with
      | [] => (list [] .cut, [])
      | .closeList :: rest => (list [] .closed, rest)
      | _ =>
        let (items, close, rest) := items n ts
        (list items close, rest)
    | .openObject =>
      match ts with
      | [] => (object [] .cut, [])
      | .closeObject :: rest => (object [] .closed, rest)
      | _ =>
        let (members, close, rest) := members n ts
        (object members close, rest)
    | .bad f => (fault f, [])
    | _ => (fault .valueExpected, [])

/-- The items of a list, starting with one; how the list ends; and the tokens behind it. -/
def items : Nat → List Token → List Tree × Close × List Token
  | 0, _ => ([], .cut, [])
  | n + 1, ts =>
    let (v, rest) := value n ts
    match rest with
    | [] => ([v], .cut, [])
    | .closeList :: rest => ([v], .closed, rest)
    | [.comma] => ([v], .cutAfterComma, [])
    | .comma :: .closeList :: _ => ([v], .trailingComma, [])
    | .comma :: rest => consItem v (items n rest)
    | _ => ([v], .noSeparator, [])

/-- The members of an object, starting with one; how the object ends; and the tokens behind it. -/
def members : Nat → List Token → List (Lexeme String × Tree) × Close × List Token
  | 0, _ => ([], .cut, [])
  | _ + 1, [.text k] => ([(k, fault .endInObject)], .cut, [])
  | n + 1, .text k :: .colon :: ts =>
    let (v, rest) := value n ts
    match rest with
    | [] => ([(k, v)], .cut, [])
    | .closeObject :: rest => ([(k, v)], .closed, rest)
    | [.comma] => ([(k, v)], .cutAfterComma, [])
    | .comma :: .closeObject :: _ => ([(k, v)], .trailingComma, [])
    | .comma :: rest => consItem (k, v) (members n rest)
    | _ => ([(k, v)], .noSeparator, [])
  | _ + 1, .text k :: _ => ([(k, fault .colonExpected)], .cut, [])
  | _ + 1, _ => ([], .keyNotText, [])

end

/-- The tree of a whole text, and whether something follows the value. -/
def ofTokens (ts : List Token) : Tree × Bool :=
  let (t, rest) := value (2 * ts.length + 1) ts
  (t, !rest.isEmpty)

/-! ## Passing over a value -/

mutual

/-- Checks the form of a value without looking at what it says. Nesting is unlimited. -/
def skip : Tree → Except Fault Unit
  | null => .ok ()
  | bool _ => .ok ()
  | number n => n.skip
  | text t => t.skip
  | list items close => do
    skipItems items
    Fault.check close.skipListFault?
  | object members close => do
    skipMembers members
    Fault.check close.skipObjectFault?
  | fault f => .error f

def skipItems : List Tree → Except Fault Unit
  | [] => .ok ()
  | t :: ts => do
    skip t
    skipItems ts

def skipMembers : List (Lexeme String × Tree) → Except Fault Unit
  | [] => .ok ()
  | (k, t) :: ms => do
    k.skip
    skip t
    skipMembers ms

end

end Tree

end BookmarkSync.Json
