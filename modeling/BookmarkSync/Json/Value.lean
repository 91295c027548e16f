import BookmarkSync.Json.Tree

/-!
# `BookmarkSync.Json.Value` — JSON values

A value is what a text says, without the way it says it. An object read from a text has its members in
the order of their keys, and of members with one key the last one counts. Lists and objects nest at
most 127 deep.
-/

namespace BookmarkSync.Json

inductive Value
  | null
  | bool (b : Bool)
  | number (n : Number)
  | text (s : String)
  | list (items : List Value)
  | object (members : List (String × Value))
deriving Repr, Inhabited

namespace Value

/-- Sets the member `k` in an object whose members are in the order of their keys. -/
def setMember (k : String) (v : Value) : List (String × Value) → List (String × Value)
  | [] => [(k, v)]
  | (k', v') :: rest =>
    if k < k' then (k, v) :: (k', v') :: rest
    else if k = k' then (k, v) :: rest
    else (k', v') :: setMember k v rest

/-- The members in the order of their keys, the last of each key. -/
def sorted (members : List (String × Value)) : List (String × Value) :=
  members.foldl (fun acc m => setMember m.1 m.2 acc) []

end Value

namespace Tree

/-- How deep lists and objects may nest in a value. -/
def depthLimit : Nat := 127

mutual

/-- The value of a tree, whose lists and objects may nest `depth` deep. -/
def toValue : Nat → Tree → Except Fault Value
  | _, null => .ok .null
  | _, bool b => .ok (.bool b)
  | _, number n => n.value.map .number
  | _, text t => t.value.map .text
  | 0, list _ _ => .error .tooDeep
  | depth + 1, list items close => do
    let vs ← toValues depth items
    Fault.check close.listFault?
    return .list vs
  | 0, object _ _ => .error .tooDeep
  | depth + 1, object members close => do
    let ms ← toMembers depth members
    Fault.check close.objectFault?
    return .object (Value.sorted ms)
  | _, fault f => .error f

def toValues : Nat → List Tree → Except Fault (List Value)
  | _, [] => .ok []
  | depth, t :: ts => do
    let v ← toValue depth t
    let vs ← toValues depth ts
    return v :: vs

def toMembers : Nat → List (Lexeme String × Tree) → Except Fault (List (String × Value))
  | _, [] => .ok []
  | depth, (k, t) :: ms => do
    let key ← k.value
    let v ← toValue depth t
    let rest ← toMembers depth ms
    return (key, v) :: rest

end

end Tree

namespace Value

/-- The value that the tokens write. -/
def ofTokens (ts : List Token) : Except Fault Value := do
  let (t, more) := Tree.ofTokens ts
  let v ← t.toValue Tree.depthLimit
  if more then .error .trailingCharacters else return v

/-- The value that a text writes. -/
def parse (s : String) : Except Fault Value := ofTokens (Token.all (Text.Symbol.ofChars s.toList))

end Value

end BookmarkSync.Json
