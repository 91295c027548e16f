import BookmarkSync.Proofs.Json.RoundTrip

/-!
# `BookmarkSync.Proofs.Json.Written` — every text that has a value writes one

A text can write its value in many ways: with its members in any order, with keys that repeat, with
characters that are escaped or not. What the value forgets of this is what `Value.inOrder` takes away from
the value as it stands there: a text that has a value has the tokens of some value, members in the order of
the text, and its own value is that one in order (`exists_written_of_parse`). So readers of such texts are
readers of the trees of values, which hold no faults.
-/

namespace BookmarkSync.Json

open BookmarkSync.Text (Symbol)

/-! ## Lexemes that have a value -/

/-- If the lexeme has a value, a reader that passes over it meets no fault. -/
def Lexeme.IsCoherent {α : Type} (l : Lexeme α) : Prop := ∀ a, l.value = .ok a → l = .ofValue a

/-- A lexeme that was passed over without a fault whenever it has a value is coherent. -/
theorem Lexeme.isCoherent_mk {α : Type} {r : Except Fault α} {f : Option Fault}
    (h : ∀ a, r = .ok a → f = none) :
    IsCoherent ⟨r, f⟩ := by
  intro a ha
  obtain rfl : r = .ok a := ha
  rw [h a rfl]
  rfl

def Token.IsCoherent : Token → Prop
  | .number l => l.IsCoherent
  | .text l => l.IsCoherent
  | _ => True

namespace Literal

/-- Units that can be joined end at a closing quote. -/
theorem fault?_of_join {stop : Stop} {pieces : List Piece} {s : List Symbol} (h : join stop pieces = .ok s) :
    stop.fault? = none := by
  fun_induction join stop pieces generalizing s with
  | case1 f hf => cases h
  | case2 hnone => exact hnone
  | case3 a rest ih | case4 a rest ih =>
    obtain ⟨s', hs', -⟩ := map_eq_ok h
    exact ih hs'
  | case5 | case7 | case8 | case9 => cases h
  | case6 n hn hhigh m rest hlow ih =>
    obtain ⟨s', hs', -⟩ := map_eq_ok h
    exact ih hs'
  | case10 n rest hn hhigh ih =>
    obtain ⟨s', hs', -⟩ := map_eq_ok h
    exact ih hs'

/-- A literal that can be decoded ended well. -/
theorem fault?_of_decode {stop : Stop} {pieces : List Piece} {s : String} (h : decode stop pieces = .ok s) :
    stop.fault? = none := by
  simp only [decode, bind, Except.bind] at h
  split at h
  · cases h
  · next hjoin => exact fault?_of_join hjoin

end Literal

namespace Token

/-- Words, texts and numbers are coherent, each by how it is scanned. -/
theorem isCoherent_word {t : Token} (ht : t.IsCoherent) (cs : List Char) (s : List Symbol) :
    (word t cs s).1.IsCoherent := by
  unfold word
  split
  · exact ht
  · trivial

theorem isCoherent_textAt (s : List Symbol) : (textAt s).1.IsCoherent :=
  Lexeme.isCoherent_mk fun _ => Literal.fault?_of_decode

theorem isCoherent_numberAt (s : List Symbol) : (numberAt s).1.IsCoherent := by
  unfold numberAt
  split
  · exact Lexeme.isCoherent_mk fun _ _ => rfl
  · exact Lexeme.isCoherent_mk nofun

/-- So is every token, as its first sign decides what it is. -/
theorem isCoherent_startingWith (a : Symbol) (s : List Symbol) : (startingWith a s).1.IsCoherent := by
  unfold startingWith
  split
  case h_7 => exact isCoherent_textAt s
  case h_8 => exact isCoherent_word (t := .bool true) trivial _ s
  case h_9 => exact isCoherent_word (t := .bool false) trivial _ s
  case h_10 => exact isCoherent_word (t := .null) trivial _ s
  case h_11 =>
    split
    · exact isCoherent_numberAt _
    · trivial
  all_goals trivial

/-- **Whatever a text is, its lexemes mean what they are passed over as.** -/
theorem isCoherent_of_mem_all {s : List Symbol} {t : Token} (h : t ∈ all s) : t.IsCoherent := by
  fun_induction all s with
  | case1 => cases h
  | case2 a s hspace ih => exact ih h
  | case3 a s hspace ih =>
    rcases List.mem_cons.mp h with rfl | h
    · exact isCoherent_startingWith a s
    · exact ih h

end Token

/-! ## Values that are read from tokens -/

namespace Tree

section Reading

variable {d : Nat} {t : Tree} {v : Value}

/-- What passes a check has no fault. -/
theorem check_eq_ok {f : Option Fault} {u : Unit} (h : Fault.check f = .ok u) : f = none := by
  cases f with
  | none => rfl
  | some f => cases h

/-- A list that has a value ends with its bracket. -/
theorem toValue_list_eq_ok {items : List Tree} {close : Close} (h : toValue d (list items close) = .ok v) :
    close = .closed ∧ ∃ d' vs, toValues d' items = .ok vs ∧ v = .list vs := by
  cases d with
  | zero => cases h
  | succ d =>
    simp only [toValue, bind, Except.bind] at h
    split at h
    · cases h
    · next vs hvs =>
      split at h
      · cases h
      · next hcheck =>
        cases h
        refine ⟨?_, d, vs, hvs, rfl⟩
        have hfault := check_eq_ok hcheck
        cases close <;> first | rfl | cases hfault

/-- An object that has a value ends with its bracket, and its members are sorted. -/
theorem toValue_object_eq_ok {members : List (Lexeme String × Tree)} {close : Close}
    (h : toValue d (object members close) = .ok v) :
    close = .closed ∧ ∃ d' ms, toMembers d' members = .ok ms ∧ v = .object (Value.sorted ms) := by
  cases d with
  | zero => cases h
  | succ d =>
    simp only [toValue, bind, Except.bind] at h
    split at h
    · cases h
    · next ms hms =>
      split at h
      · cases h
      · next hcheck =>
        cases h
        refine ⟨?_, d, ms, hms, rfl⟩
        -- only a proper end passes the check after the members
        have hfault := check_eq_ok hcheck
        cases close <;> first | rfl | cases hfault

/-- Items have values if each of them has, and members if their keys can be read, too. -/
theorem toValues_cons_eq_ok {ts : List Tree} {vs : List Value} (h : toValues d (t :: ts) = .ok vs) :
    ∃ w ws, toValue d t = .ok w ∧ toValues d ts = .ok ws ∧ vs = w :: ws := by
  simp only [toValues, bind, Except.bind] at h
  split at h
  · cases h
  · next w hw =>
    split at h
    · cases h
    · next ws hws =>
      cases h
      exact ⟨w, ws, hw, hws, rfl⟩

theorem toMembers_cons_eq_ok {k : Lexeme String} {ms : List (Lexeme String × Tree)} {vs : List (String × Value)}
    (h : toMembers d ((k, t) :: ms) = .ok vs) :
    ∃ key w ws, k.value = .ok key ∧ toValue d t = .ok w ∧ toMembers d ms = .ok ws ∧ vs = (key, w) :: ws := by
  simp only [toMembers, bind, Except.bind] at h
  split at h
  · cases h
  · next key hkey =>
    split at h
    · cases h
    · next w hw =>
      split at h
      · cases h
      · next ws hws =>
        cases h
        exact ⟨key, w, ws, hkey, hw, hws, rfl⟩

end Reading

/-- The tokens begin with those of a value, which is read as this tree and is `v` when its members are put in
order. -/
def Writes (ts rest : List Token) (t : Tree) (v : Value) : Prop :=
  ∃ w : Value, ts = w.tokens ++ rest ∧ w.tree = t ∧ w.inOrder = v

/-- What `n` calls read as a value, if that has a value at all, is the tree of a written one. -/
def FindsValues (n : Nat) : Prop :=
  ∀ {d : Nat} {ts rest : List Token} {t : Tree} {v : Value}, (∀ u ∈ ts, u.IsCoherent) →
    value n ts = (t, rest) → toValue d t = .ok v → Writes ts rest t v

/-- What `n` calls read as the items of a list that is closed are the trees of written ones. -/
def FindsItems (n : Nat) : Prop :=
  ∀ {d : Nat} {ts rest : List Token} {items : List Tree} {vs : List Value}, (∀ u ∈ ts, u.IsCoherent) →
    Tree.items n ts = (items, .closed, rest) → toValues d items = .ok vs →
    ∃ w ws, ts = Value.itemTokens (w :: ws) ++ .closeList :: rest ∧ Value.trees (w :: ws) = items ∧
      Value.itemsInOrder (w :: ws) = vs

/-- What `n` calls read as the members of an object that is closed are the trees of written ones. -/
def FindsMembers (n : Nat) : Prop :=
  ∀ {d : Nat} {ts rest : List Token} {members : List (Lexeme String × Tree)} {vs : List (String × Value)},
    (∀ u ∈ ts, u.IsCoherent) → Tree.members n ts = (members, .closed, rest) → toMembers d members = .ok vs →
    ∃ m ms, ts = Value.memberTokens (m :: ms) ++ .closeObject :: rest ∧ Value.memberTrees (m :: ms) = members ∧
      Value.membersInOrder (m :: ms) = vs

/-- Tokens that follow coherent ones are coherent. -/
theorem coherent_of_append (ts : List Token) {us : List Token} (h : ∀ u ∈ ts ++ us, u.IsCoherent) :
    ∀ u ∈ us, u.IsCoherent :=
  fun u hu => h u (List.mem_append_right ts hu)

/-- An item is read as a value, and then the list is closed or goes on after a comma. -/
theorem findsItems_succ {n : Nat} (hvalues : FindsValues n) (hitems : FindsItems n) : FindsItems (n + 1) := by
  intro d ts rest items vs hts hread hvs
  rcases hvalue : value n ts with ⟨t, more⟩
  simp only [Tree.items, hvalue] at hread
  split at hread
  · cases hread
  · -- the closing bracket follows the item
    cases hread
    obtain ⟨v, _, hv, hnil, rfl⟩ := toValues_cons_eq_ok hvs
    cases hnil
    obtain ⟨w, hw, hwtree, hworder⟩ := hvalues hts hvalue hv
    refine ⟨w, [], hw, ?_, ?_⟩
    · rw [Value.trees, Value.trees, hwtree]
    · rw [Value.itemsInOrder, Value.itemsInOrder, hworder]
  · cases hread
  · cases hread
  · next more _ _ =>
    rcases hlater : Tree.items n more with ⟨later, close, rest'⟩
    rw [hlater] at hread
    cases hread
    obtain ⟨v, vs', hv, hvs', rfl⟩ := toValues_cons_eq_ok hvs
    obtain ⟨w, hw, hwtree, hworder⟩ := hvalues hts hvalue hv
    rw [hw] at hts
    have hmore : ∀ u ∈ more, u.IsCoherent := coherent_of_append (w.tokens ++ [.comma]) (by simpa using hts)
    obtain ⟨x, xs, hxs, hxtrees, hxorder⟩ := hitems hmore hlater hvs'
    refine ⟨w, x :: xs, ?_, ?_, ?_⟩
    · rw [hw, hxs, Value.itemTokens, List.append_assoc]
      rfl
    · rw [Value.trees, hwtree, hxtrees]
    · rw [Value.itemsInOrder, hworder, hxorder]
  · cases hread

/-- A key and what its member is, behind which the members may go on. -/
theorem findsMembers_cons {n : Nat} (hvalues : FindsValues n) (hmembers : FindsMembers n) {d : Nat}
    {k : Lexeme String} {us rest : List Token} {members : List (Lexeme String × Tree)}
    {vs : List (String × Value)} (hk : k.IsCoherent) (hus : ∀ u ∈ us, u.IsCoherent)
    (hread : Tree.members (n + 1) (.text k :: .colon :: us) = (members, .closed, rest))
    (hvs : toMembers d members = .ok vs) :
    ∃ m ms, .text k :: .colon :: us = Value.memberTokens (m :: ms) ++ .closeObject :: rest ∧
      Value.memberTrees (m :: ms) = members ∧ Value.membersInOrder (m :: ms) = vs := by
  rcases hvalue : value n us with ⟨t, more⟩
  simp only [Tree.members, hvalue] at hread
  -- a value is followed by a brace or by a comma; nothing else closes the members properly
  split at hread
  · cases hread
  · cases hread
    obtain ⟨key, v, _, hkey, hv, hnil, rfl⟩ := toMembers_cons_eq_ok hvs
    cases hnil
    obtain ⟨w, hw, hwtree, hworder⟩ := hvalues hus hvalue hv
    refine ⟨(key, w), [], ?_, ?_, ?_⟩
    · rw [Value.memberTokens, hw, hk key hkey]
      rfl
    · rw [Value.memberTrees, Value.memberTrees, hwtree, hk key hkey]
    · rw [Value.membersInOrder, Value.membersInOrder, hworder]
  · cases hread
  · cases hread
  · next more _ _ =>
    rcases hlater : Tree.members n more with ⟨later, close, rest'⟩
    rw [hlater] at hread
    cases hread
    obtain ⟨key, v, vs', hkey, hv, hvs', rfl⟩ := toMembers_cons_eq_ok hvs
    obtain ⟨w, hw, hwtree, hworder⟩ := hvalues hus hvalue hv
    rw [hw] at hus
    have hmore : ∀ u ∈ more, u.IsCoherent := coherent_of_append (w.tokens ++ [.comma]) (by simpa using hus)
    obtain ⟨x, xs, hxs, hxtrees, hxorder⟩ := hmembers hmore hlater hvs'
    refine ⟨(key, w), x :: xs, ?_, ?_, ?_⟩
    · rw [hw, hxs, Value.memberTokens, hk key hkey, List.cons_append, List.cons_append, List.append_assoc]
      rfl
    · rw [Value.memberTrees, hwtree, hxtrees, hk key hkey]
    · rw [Value.membersInOrder, hworder, hxorder]
  · cases hread

/-- A member is a key, a colon and a value, and then the object is closed or goes on after a comma. -/
theorem findsMembers_succ {n : Nat} (hvalues : FindsValues n) (hmembers : FindsMembers n) :
    FindsMembers (n + 1) := by
  intro d ts rest members vs hts hread hvs
  -- members that are closed start with a key and a colon
  cases ts with
  | nil => cases hread
  | cons u us =>
    cases u with
    | text k =>
      cases us with
      | nil => cases hread
      | cons u us =>
        have hk : k.IsCoherent := hts (.text k) List.mem_cons_self
        have hus := coherent_of_append [.text k, u] hts
        cases u with
        | colon => exact findsMembers_cons hvalues hmembers hk hus hread hvs
        | _ => cases hread
    | _ => cases hread

/-- A number or a text that has a value is the lexeme of that value. -/
theorem writes_number {d : Nat} {l : Lexeme Number} {rest : List Token} {v : Value} (hl : l.IsCoherent)
    (hv : toValue d (.number l) = .ok v) : Writes (.number l :: rest) rest (.number l) v := by
  obtain ⟨a, ha, rfl⟩ := map_eq_ok hv
  rw [hl a ha]
  exact ⟨.number a, rfl, rfl, rfl⟩

theorem writes_text {d : Nat} {l : Lexeme String} {rest : List Token} {v : Value} (hl : l.IsCoherent)
    (hv : toValue d (.text l) = .ok v) : Writes (.text l :: rest) rest (.text l) v := by
  obtain ⟨a, ha, rfl⟩ := map_eq_ok hv
  rw [hl a ha]
  exact ⟨.text a, rfl, rfl, rfl⟩

/-- A list that has a value is closed, at once or after its items. -/
theorem writes_list {n d : Nat} (hitems : FindsItems n) {us rest : List Token} {t : Tree} {v : Value}
    (hus : ∀ u ∈ us, u.IsCoherent) (hread : value (n + 1) (.openList :: us) = (t, rest))
    (hv : toValue d t = .ok v) : Writes (.openList :: us) rest t v := by
  simp only [value] at hread
  split at hread
  · -- the text ends
    cases hread
    cases (toValue_list_eq_ok hv).1
  · cases hread
    obtain ⟨-, d', vs, hvs, rfl⟩ := toValue_list_eq_ok hv
    cases hvs
    exact ⟨.list [], rfl, rfl, rfl⟩
  · rcases hlist : Tree.items n us with ⟨items, close, rest'⟩
    rw [hlist] at hread
    cases hread
    obtain ⟨rfl, d', vs, hvs, rfl⟩ := toValue_list_eq_ok hv
    obtain ⟨w, ws, hw, hwtrees, hworder⟩ := hitems hus hlist hvs
    refine ⟨.list (w :: ws), ?_, ?_, ?_⟩
    · rw [hw, Value.tokens, List.cons_append, List.append_assoc]
      rfl
    · rw [Value.tree, hwtrees]
    · rw [Value.inOrder, hworder]

/-- An object that has a value is closed, at once or after its members. -/
theorem writes_object {n d : Nat} (hmembers : FindsMembers n) {us rest : List Token} {t : Tree} {v : Value}
    (hus : ∀ u ∈ us, u.IsCoherent) (hread : value (n + 1) (.openObject :: us) = (t, rest))
    (hv : toValue d t = .ok v) : Writes (.openObject :: us) rest t v := by
  simp only [value] at hread
  split at hread
  · -- the text ends
    cases hread
    cases (toValue_object_eq_ok hv).1
  · cases hread
    obtain ⟨-, d', ms, hms, rfl⟩ := toValue_object_eq_ok hv
    cases hms
    exact ⟨.object [], rfl, rfl, rfl⟩
  · rcases hobject : Tree.members n us with ⟨members, close, rest'⟩
    rw [hobject] at hread
    cases hread
    obtain ⟨rfl, d', ms, hms, rfl⟩ := toValue_object_eq_ok hv
    obtain ⟨w, ws, hw, hwtrees, hworder⟩ := hmembers hus hobject hms
    refine ⟨.object (w :: ws), ?_, ?_, ?_⟩
    · rw [hw, Value.tokens, List.cons_append, List.append_assoc]
      rfl
    · rw [Value.tree, hwtrees]
    · rw [Value.inOrder, hworder]

/-- The first token says what the value is, if there is one. -/
theorem findsValues_succ {n : Nat} (hitems : FindsItems n) (hmembers : FindsMembers n) :
    FindsValues (n + 1) := by
  intro d ts rest t v hts hread hv
  cases ts with
  | nil =>
    cases hread
    cases hv
  | cons u us =>
    have hus := coherent_of_append [u] hts
    have hu := hts u List.mem_cons_self
    -- the first token tells which kind of value it is
    cases u with
    | null =>
      cases hread
      cases hv
      exact ⟨.null, rfl, rfl, rfl⟩
    | bool b =>
      cases hread
      cases hv
      exact ⟨.bool b, rfl, rfl, rfl⟩
    | number l =>
      cases hread
      exact writes_number hu hv
    | text l =>
      cases hread
      exact writes_text hu hv
    | openList => exact writes_list hitems hus hread hv
    | openObject => exact writes_object hmembers hus hread hv
    | bad | closeList | closeObject | comma | colon =>
      cases hread
      cases hv

/-- **However many calls a reader is given**, what it finds is written there: by induction on the calls, since a
value, the items of a list and the members of an object are read by each other. -/
theorem finds (n : Nat) : FindsValues n ∧ FindsItems n ∧ FindsMembers n := by
  induction n with
  | zero =>
    refine ⟨?_, ?_, ?_⟩
    · intro d ts rest t v _ hread hv
      cases hread
      cases hv
    · intro d ts rest items vs _ hread
      cases hread
    · intro d ts rest members vs _ hread
      cases hread
  | succ n ih =>
    obtain ⟨hvalues, hitems, hmembers⟩ := ih
    exact ⟨findsValues_succ hitems hmembers, findsItems_succ hvalues hitems, findsMembers_succ hvalues hmembers⟩

end Tree

/-- **Every text that has a value writes one**: its tokens are those of a value, and its value is that one with
the members of every object in order. -/
theorem Value.exists_written_of_parse {s : String} {v : Value} (h : parse s = .ok v) :
    ∃ w : Value, Token.all (Symbol.ofChars s.toList) = w.tokens ∧ w.inOrder = v := by
  rcases hread : Tree.value (2 * (Token.all (Symbol.ofChars s.toList)).length + 1)
    (Token.all (Symbol.ofChars s.toList)) with ⟨t, more⟩
  simp only [parse, ofTokens, Tree.ofTokens, hread, bind, Except.bind] at h
  split at h
  · cases h
  · next v' hv =>
    obtain ⟨w, hw, -, hworder⟩ := (Tree.finds _).1 (fun u => Token.isCoherent_of_mem_all) hread hv
    cases more with
    | nil =>
      cases h
      rw [List.append_nil] at hw
      exact ⟨w, hw, hworder⟩
    | cons u us => cases h

end BookmarkSync.Json
