import BookmarkSync.Proofs.Json.Printed

/-!
# `BookmarkSync.Proofs.Json.RoundTrip` — a written value is read back

The tokens of a value are put together to its tree, which holds no fault, and the value of that tree is
the value again, up to the order of the members of its objects. So a value whose numbers are integers
comes back from its text, compact or over several lines: `ofTokens_tokens` for a reader that walks the
tree, `parse_toCompact` and `parse_toPretty` for a reader that wants the value first.
-/

namespace BookmarkSync.Json

open BookmarkSync.Text (Symbol)

/-- What holds of lists when it holds of their items, and of objects when it holds of what their members
are, holds of every value once it holds of single ones. -/
@[elab_as_elim]
theorem Value.induction {P : Value → Prop} (null : P .null) (bool : ∀ b, P (.bool b))
    (number : ∀ n, P (.number n)) (text : ∀ s, P (.text s)) (list : ∀ vs, (∀ v ∈ vs, P v) → P (.list vs))
    (object : ∀ ms, (∀ m ∈ ms, P m.2) → P (.object ms)) : ∀ v, P v
  | .null => null
  | .bool b => bool b
  | .number n => number n
  | .text s => text s
  | .list vs => list vs fun v _ => Value.induction null bool number text list object v
  | .object ms => object ms fun m _ => Value.induction null bool number text list object m.2
termination_by v => sizeOf v
decreasing_by
  · have hmem := List.sizeOf_lt_of_mem ‹v ∈ vs›
    simp only [Value.list.sizeOf_spec]
    omega
  · have hmem := List.sizeOf_lt_of_mem ‹m ∈ ms›
    have hpair : sizeOf m = 1 + sizeOf m.1 + sizeOf m.2 := by cases m; rfl
    simp only [Value.object.sizeOf_spec]
    omega

/-! ## The tree of a value -/

mutual

/-- The tree of the text of a value. -/
def Value.tree : Value → Tree
  | .null => .null
  | .bool b => .bool b
  | .number n => .number (.ofValue n)
  | .text s => .text (.ofValue s)
  | .list vs => .list (Value.trees vs) .closed
  | .object ms => .object (Value.memberTrees ms) .closed

def Value.trees : List Value → List Tree
  | [] => []
  | v :: vs => Value.tree v :: Value.trees vs

def Value.memberTrees : List (String × Value) → List (Lexeme String × Tree)
  | [] => []
  | (k, v) :: ms => (.ofValue k, Value.tree v) :: Value.memberTrees ms

end

/-- The trees and tokens of lists and objects, item by item and member by member. -/
theorem Value.trees_eq_map (vs : List Value) : trees vs = vs.map tree := by
  induction vs with
  | nil => rfl
  | cons v vs ih => rw [trees, ih, List.map_cons]

theorem Value.memberTrees_eq_map (ms : List (String × Value)) :
    memberTrees ms = ms.map fun m => (.ofValue m.1, m.2.tree) := by
  induction ms with
  | nil => rfl
  | cons m ms ih => rw [memberTrees, ih, List.map_cons]

/-! ## From tokens to the tree

One call of the reader is spent on a value and one on each item or member, and every value, item and
member has a token of its own. So twice the number of tokens bounds the calls. -/

/-- A value does not start with a closing bracket. -/
theorem Value.tokens_head (v : Value) :
    ∃ t ts, v.tokens = t :: ts ∧ t ≠ .closeList ∧ t ≠ .closeObject := by
  cases v <;> exact ⟨_, _, rfl, by simp, by simp⟩

/-- Items do not begin with the bracket that would end them. -/
theorem Value.itemTokens_head (v : Value) (vs : List Value) :
    ∃ t ts, itemTokens (v :: vs) = t :: ts ∧ t ≠ .closeList := by
  obtain ⟨t, ts, ht, hlist, -⟩ := v.tokens_head
  cases vs with
  | nil => exact ⟨t, ts, ht, hlist⟩
  | cons w vs => exact ⟨t, ts ++ .comma :: itemTokens (w :: vs), by rw [itemTokens, ht]; rfl, hlist⟩

/-- Members begin with a key. -/
theorem Value.memberTokens_head (k : String) (v : Value) (ms : List (String × Value)) :
    ∃ ts, memberTokens ((k, v) :: ms) = .text (.ofValue k) :: .colon :: ts := by
  cases ms with
  | nil => exact ⟨_, rfl⟩
  | cons m ms => exact ⟨_, rfl⟩

namespace Tree

/-- The reader of one value is right about the value `v` when it may make twice as many calls as there are
tokens. -/
def ReadsValue (v : Value) : Prop :=
  ∀ n rest, 2 * v.tokens.length ≤ n → value n (v.tokens ++ rest) = (v.tree, rest)

/-- Behind an item the list ends, or another item follows after a comma. -/
theorem items_close {n : Nat} {ts : List Token} {t : Tree} {rest : List Token}
    (h : value n ts = (t, .closeList :: rest)) : items (n + 1) ts = ([t], .closed, rest) := by
  rw [items, h]

theorem items_comma {n : Nat} {ts us : List Token} {t : Tree} {u : Token} (hu : u ≠ .closeList)
    (h : value n ts = (t, .comma :: u :: us)) : items (n + 1) ts = consItem t (items n (u :: us)) := by
  rw [items, h]
  cases u <;> first | exact absurd rfl hu | rfl

/-- Behind a member the object ends, or another member follows after a comma. -/
theorem members_close {n : Nat} {k : Lexeme String} {ts : List Token} {t : Tree} {rest : List Token}
    (h : value n ts = (t, .closeObject :: rest)) :
    members (n + 1) (.text k :: .colon :: ts) = ([(k, t)], .closed, rest) := by
  rw [members, h]

theorem members_comma {n : Nat} {k : Lexeme String} {ts us : List Token} {t : Tree} {u : Token}
    (hu : u ≠ .closeObject) (h : value n ts = (t, .comma :: u :: us)) :
    members (n + 1) (.text k :: .colon :: ts) = consItem (k, t) (members n (u :: us)) := by
  rw [members, h]
  cases u <;> first | exact absurd rfl hu | rfl

/-- A list that does not end at once is one of items, and an object that does not end at once is one of members.
-/
theorem value_list {n : Nat} {u : Token} {us : List Token} {ts : List Tree} {close : Close} {rest : List Token}
    (hu : u ≠ .closeList) (h : items n (u :: us) = (ts, close, rest)) :
    value (n + 1) (.openList :: u :: us) = (list ts close, rest) := by
  cases u <;> first | exact absurd rfl hu | simp [value, h]

theorem value_object {n : Nat} {u : Token} {us : List Token} {ms : List (Lexeme String × Tree)} {close : Close}
    {rest : List Token} (hu : u ≠ .closeObject) (h : members n (u :: us) = (ms, close, rest)) :
    value (n + 1) (.openObject :: u :: us) = (object ms close, rest) := by
  cases u <;> first | exact absurd rfl hu | simp [value, h]

/-- If each item is read back, all of them are. The calls that are allowed grow with the tokens. -/
theorem items_tokens {v : Value} {vs : List Value} (h : ∀ w ∈ v :: vs, ReadsValue w) (n : Nat)
    (rest : List Token) (hn : 2 * (Value.itemTokens (v :: vs)).length + 1 ≤ n) :
    items n (Value.itemTokens (v :: vs) ++ .closeList :: rest) = (Value.trees (v :: vs), .closed, rest) := by
  induction vs generalizing v n with
  | nil =>
    have hv := h v List.mem_cons_self
    obtain ⟨n, rfl⟩ : ∃ m, n = m + 1 := ⟨n - 1, by omega⟩
    exact items_close (hv n _ (by simp only [Value.itemTokens] at hn; omega))
  | cons w vs ih =>
    have hv := h v List.mem_cons_self
    obtain ⟨u, us, hus, hu⟩ := Value.itemTokens_head w vs
    obtain ⟨n, rfl⟩ : ∃ m, n = m + 1 := ⟨n - 1, by omega⟩
    simp only [Value.itemTokens, List.length_append, List.length_cons] at hn
    -- the comma pays for the call that goes on to the next item
    have hread := hv n (.comma :: (Value.itemTokens (w :: vs) ++ .closeList :: rest)) (by omega)
    have hrest := ih (fun x hx => h x (List.mem_cons_of_mem v hx)) n (by omega)
    rw [hus, List.cons_append] at hread hrest
    rw [Value.itemTokens, List.append_assoc, List.cons_append, hus, List.cons_append,
      items_comma hu hread, hrest]
    rfl

/-- The same for the members of an object. -/
theorem members_tokens {m : String × Value} {ms : List (String × Value)} (h : ∀ x ∈ m :: ms, ReadsValue x.2)
    (n : Nat) (rest : List Token) (hn : 2 * (Value.memberTokens (m :: ms)).length + 1 ≤ n) :
    members n (Value.memberTokens (m :: ms) ++ .closeObject :: rest)
      = (Value.memberTrees (m :: ms), .closed, rest) := by
  -- the fuel is bounded by the tokens, and each member uses up at least two
  induction ms generalizing m n with
  | nil =>
    obtain ⟨k, v⟩ := m
    have hv : ReadsValue v := h (k, v) List.mem_cons_self
    obtain ⟨n, rfl⟩ : ∃ m, n = m + 1 := ⟨n - 1, by omega⟩
    exact members_close (hv n _ (by simp only [Value.memberTokens, List.length_cons] at hn; omega))
  | cons w ms ih =>
    obtain ⟨k, v⟩ := m
    have hv : ReadsValue v := h (k, v) List.mem_cons_self
    obtain ⟨us, hus⟩ := Value.memberTokens_head w.1 w.2 ms
    obtain ⟨n, rfl⟩ : ∃ m, n = m + 1 := ⟨n - 1, by omega⟩
    simp only [Value.memberTokens, List.length_append, List.length_cons] at hn
    have hread := hv n (.comma :: (Value.memberTokens (w :: ms) ++ .closeObject :: rest)) (by omega)
    have hrest := ih (fun x hx => h x (List.mem_cons_of_mem (k, v) hx)) n (by omega)
    rw [hus, List.cons_append] at hread hrest
    rw [Value.memberTokens, List.cons_append, List.cons_append, List.append_assoc, List.cons_append, hus,
      List.cons_append, members_comma (by simp) hread, hrest]
    rfl

/-- **The tokens of a value are put together to its tree**, and what stands behind them is left. -/
theorem value_tokens (v : Value) : ReadsValue v := by
  induction v using Value.induction with
  | null | bool | number | text =>
    intro n rest hn
    obtain ⟨n, rfl⟩ : ∃ m, n = m + 1 := ⟨n - 1, by simp only [Value.tokens, List.length_cons] at hn; omega⟩
    rfl
  | list vs ih =>
    intro n rest hn
    obtain ⟨n, rfl⟩ : ∃ m, n = m + 1 := ⟨n - 1, by simp only [Value.tokens, List.length_cons] at hn; omega⟩
    -- an empty list is closed at once, without reading an item
    cases vs with
    | nil => rfl
    | cons v vs =>
      simp only [Value.tokens, List.length_cons, List.length_append, List.length_nil] at hn
      have hitems := items_tokens ih n rest (by omega)
      obtain ⟨u, us, hus, hu⟩ := Value.itemTokens_head v vs
      rw [Value.tokens, List.cons_append, List.append_assoc, List.singleton_append]
      rw [hus, List.cons_append] at hitems ⊢
      exact value_list hu hitems
  | object ms ih =>
    intro n rest hn
    obtain ⟨n, rfl⟩ : ∃ m, n = m + 1 := ⟨n - 1, by simp only [Value.tokens, List.length_cons] at hn; omega⟩
    -- so is an empty object
    cases ms with
    | nil => rfl
    | cons m ms =>
      simp only [Value.tokens, List.length_cons, List.length_append, List.length_nil] at hn
      have hmembers := members_tokens ih n rest (by omega)
      obtain ⟨us, hus⟩ := Value.memberTokens_head m.1 m.2 ms
      rw [Value.tokens, List.cons_append, List.append_assoc, List.singleton_append]
      rw [hus, List.cons_append] at hmembers ⊢
      exact value_object (by simp) hmembers

/-- A reader that takes all tokens is given enough calls for them, and leaves none over. -/
theorem ofTokens_tokens (v : Value) : ofTokens v.tokens = (v.tree, false) := by
  have hv := value_tokens v (2 * v.tokens.length + 1) [] (by omega)
  rw [List.append_nil] at hv
  rw [ofTokens, hv]
  rfl

end Tree

/-! ## From the tree to the value -/

mutual

/-- The value with the members of every object in the order of their keys. -/
def Value.inOrder : Value → Value
  | .null => .null
  | .bool b => .bool b
  | .number n => .number n
  | .text s => .text s
  | .list vs => .list (Value.itemsInOrder vs)
  | .object ms => .object (Value.sorted (Value.membersInOrder ms))

def Value.itemsInOrder : List Value → List Value
  | [] => []
  | v :: vs => Value.inOrder v :: Value.itemsInOrder vs

def Value.membersInOrder : List (String × Value) → List (String × Value)
  | [] => []
  | (k, v) :: ms => (k, Value.inOrder v) :: Value.membersInOrder ms

end

/-- The items of a list are put in order one by one. -/
theorem Value.itemsInOrder_eq_map (vs : List Value) : itemsInOrder vs = vs.map inOrder := by
  induction vs with
  | nil => rfl
  | cons v vs ih => rw [itemsInOrder, ih, List.map_cons]

namespace Tree

/-- If each item is given back in order, so is the list; and an object likewise, before its members are sorted.
-/
theorem toValues_trees {d : Nat} {vs : List Value} (h : ∀ v ∈ vs, toValue d v.tree = .ok v.inOrder) :
    toValues d (Value.trees vs) = .ok (Value.itemsInOrder vs) := by
  induction vs with
  | nil => rfl
  | cons v vs ih =>
    have hv := h v List.mem_cons_self
    have hvs := ih fun w hw => h w (List.mem_cons_of_mem v hw)
    simp only [Value.trees, toValues, hv, hvs, bind, Except.bind, pure, Except.pure, Value.itemsInOrder]

theorem toMembers_memberTrees {d : Nat} {ms : List (String × Value)}
    (h : ∀ m ∈ ms, toValue d m.2.tree = .ok m.2.inOrder) :
    toMembers d (Value.memberTrees ms) = .ok (Value.membersInOrder ms) := by
  induction ms with
  | nil => rfl
  | cons m ms ih =>
    obtain ⟨k, v⟩ := m
    have hv : toValue d v.tree = .ok v.inOrder := h (k, v) List.mem_cons_self
    have hms := ih fun w hw => h w (List.mem_cons_of_mem (k, v) hw)
    simp only [Value.memberTrees, toMembers, Lexeme.ofValue, hv, hms, bind, Except.bind, pure, Except.pure,
      Value.membersInOrder]

/-- **The tree of a value says what the value says**, if it does not nest too deep. -/
theorem toValue_tree {d : Nat} {v : Value} (h : v.Plain d) : toValue d v.tree = .ok v.inOrder := by
  induction h with
  | null | bool | number | text =>
    unfold toValue
    rfl
  | list h ih =>
    simp only [Value.tree, toValue, toValues_trees ih, bind, Except.bind, Close.listFault?, Fault.check, pure,
      Except.pure, Value.inOrder]
  | object h ih =>
    simp only [Value.tree, toValue, toMembers_memberTrees ih, bind, Except.bind, Close.objectFault?,
      Fault.check, pure, Except.pure, Value.inOrder]

end Tree

/-! ## Texts -/

/-- A text has the tokens that it spells. -/
theorem Spells.all_eq {cs : List Char} {ts : List Token} (h : Spells cs ts) :
    Token.all (Symbol.ofChars cs) = ts := by
  have hall := h [] trivial
  rwa [List.append_nil, Token.all, List.append_nil] at hall

namespace Value

/-- A value that is not too deep is read back from its tokens, with its members in order. -/
theorem ofTokens_tokens {v : Value} (h : v.Plain Tree.depthLimit) : ofTokens v.tokens = .ok v.inOrder := by
  simp only [ofTokens, Tree.ofTokens_tokens v, Tree.toValue_tree h, bind, Except.bind, Bool.false_eq_true,
    if_false, pure, Except.pure]

/-- **A value comes back from its compact text.** -/
theorem parse_toCompact {v : Value} (h : v.Plain Tree.depthLimit) : parse v.toCompact = .ok v.inOrder := by
  rw [parse, toCompact, String.toList_ofList, (spells_compact h).all_eq, ofTokens_tokens h]

/-- **A value comes back from its text over several lines.** -/
theorem parse_toPretty {v : Value} (h : v.Plain Tree.depthLimit) : parse v.toPretty = .ok v.inOrder := by
  rw [parse, toPretty, String.toList_ofList, (spells_pretty h 0).all_eq, ofTokens_tokens h]

end Value

end BookmarkSync.Json
