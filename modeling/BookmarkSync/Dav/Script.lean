import BookmarkSync.Dav.Tree

/-!
# `BookmarkSync.Dav.Script` — a server that follows rules

A scripted server replies by the first of its rules that a request meets. Without such a rule it refuses
whoever is not logged in as it wants, and serves a tree of resources if it has one. It keeps a record
of all requests.
-/

namespace BookmarkSync.Dav

/-- How the answer of a rule is sent. -/
inductive Delivery
  | whole
  /-- The body ends too early. -/
  | cutShort
  /-- There is no answer. -/
  | dropped
deriving DecidableEq, Repr

structure Rule where
  method : Option String := none
  /-- The path as it is sent. -/
  path : Option String := none
  authorization : Option String := none
  /-- How many requests the rule still replies to; all when absent. -/
  times : Option Nat := none
  status : Status := 200
  body : List UInt8 := []
  delivery : Delivery := .whole
deriving DecidableEq, Repr

namespace Rule

/-- Whether a wish, if there is one, is met. -/
def meets {α : Type} [BEq α] (wish : Option α) (a : Option α) : Bool := wish.isNone || wish == a

/-- Whether the rule replies to a request. -/
def applies (rule : Rule) (r : Request) : Bool :=
  rule.times != some 0 && meets rule.method (some r.method.name) && meets rule.path (some r.path) &&
    meets rule.authorization r.authorization

def reply (rule : Rule) : Reply :=
  let body := if rule.status.isBodiless then [] else rule.body
  match rule.delivery with
  | .whole => .answer rule.status body
  | .cutShort => if rule.status.isBodiless then .answer rule.status [] else .cutShort rule.status body
  | .dropped => .none

/-- The rule after a reply. -/
def used (rule : Rule) : Rule := { rule with times := rule.times.map (· - 1) }

/-- The reply of the first rule that applies, and the rules after it. -/
def first? (r : Request) : List Rule → Option (Reply × List Rule)
  | [] => none
  | rule :: rules =>
    if rule.applies r then some (rule.reply, rule.used :: rules)
    else (first? r rules).map fun found => (found.1, rule :: found.2)

end Rule

structure Script where
  rules : List Rule := []
  /-- The header that logs in, if one has to. -/
  authorization : Option String := none
  tree : Option Tree := none
  /-- The requests so far. -/
  requests : List Request := []
deriving DecidableEq, Repr

namespace Script

/-- How the server replies without a rule. -/
def plainReply (s : Script) (r : Request) : Reply × Script :=
  if s.authorization.isSome && s.authorization != r.authorization then (.answer 401 [], s)
  else
    match s.tree with
    | none => (.answer 404 [], s)
    | some tree =>
      let (reply, tree) := tree.reply r
      (reply, { s with tree := some tree })

def reply : Server Script := fun r s =>
  let s := { s with requests := s.requests ++ [r] }
  match Rule.first? r s.rules with
  | some (reply, rules) => (reply, { s with rules })
  | none => s.plainReply r

end Script

end BookmarkSync.Dav
