import BookmarkSync.Json.Value
import BookmarkSync.Proofs.Json.Literal
import BookmarkSync.Proofs.Json.Numeral

/-!
# `BookmarkSync.Proofs.Json.Printed` — the tokens of a written value

A value is written compactly or over several lines, and the two forms differ in white space only: both
are split into the same tokens. `Spells cs ts` says that the characters `cs` are split into the tokens
`ts` wherever they stand, and has one rule for each way of putting texts together, so the two printers
are followed by these rules: `spells_compact` and `spells_pretty`.
-/

namespace BookmarkSync.Json

open BookmarkSync.Text (Symbol)

/-! ## Values that a text can carry -/

/-- A value whose numbers are integers of 64 bits and whose lists and objects nest at most `depth` deep. -/
inductive Value.Plain : Nat → Value → Prop
  | null {d : Nat} : Plain d .null
  | bool {d : Nat} (b : Bool) : Plain d (.bool b)
  | number {d : Nat} {n : Number} (h : n.IsWord) : Plain d (.number n)
  | text {d : Nat} (s : String) : Plain d (.text s)
  | list {d : Nat} {vs : List Value} (h : ∀ v ∈ vs, Plain d v) : Plain (d + 1) (.list vs)
  | object {d : Nat} {ms : List (String × Value)} (h : ∀ m ∈ ms, Plain d m.2) : Plain (d + 1) (.object ms)

/-! ## The tokens of a value -/

mutual

/-- The tokens that a value is written with. -/
def Value.tokens : Value → List Token
  | .null => [.null]
  | .bool b => [.bool b]
  | .number n => [.number (.ofValue n)]
  | .text s => [.text (.ofValue s)]
  | .list vs => .openList :: (Value.itemTokens vs ++ [.closeList])
  | .object ms => .openObject :: (Value.memberTokens ms ++ [.closeObject])

def Value.itemTokens : List Value → List Token
  | [] => []
  | [v] => Value.tokens v
  | v :: w :: vs => Value.tokens v ++ .comma :: Value.itemTokens (w :: vs)

def Value.memberTokens : List (String × Value) → List Token
  | [] => []
  | [(k, v)] => .text (.ofValue k) :: .colon :: Value.tokens v
  | (k, v) :: m :: ms =>
    .text (.ofValue k) :: .colon :: (Value.tokens v ++ .comma :: Value.memberTokens (m :: ms))

end

/-! ## Splitting a text, piece by piece -/

/-- The characters `cs` are split into the tokens `ts`, whatever follows that does not continue a number. -/
def Spells (cs : List Char) (ts : List Token) : Prop :=
  ∀ rest, EndsNumber rest → Token.all (Symbol.ofChars cs ++ rest) = ts ++ Token.all rest

/-- The characters that stand between tokens or are tokens on their own. -/
def endsNumber (c : Char) : Bool :=
  c = ',' || c = ':' || c = ']' || c = '}' || c = ' ' || c = '\n'

/-- What can stand behind a number is told by its first sign. -/
theorem EndsNumber.of_char {c : Char} (h : endsNumber c = true) (rest : List Symbol) :
    EndsNumber (.char c :: rest) := by
  simp only [endsNumber, Bool.or_eq_true, decide_eq_true_eq, or_assoc] at h
  rcases h with rfl | rfl | rfl | rfl | rfl | rfl <;> exact ⟨by decide, by decide, by decide, by decide⟩

namespace Spells

/-- An empty text spells nothing. -/
theorem nil : Spells [] [] := fun _ _ => rfl

/-- Texts put behind each other, if the second one does not continue a number. -/
theorem append {cs ds : List Char} {ts us : List Token} (h₁ : Spells cs ts) (h₂ : Spells ds us)
    (hend : ∀ rest, EndsNumber rest → EndsNumber (Symbol.ofChars ds ++ rest)) :
    Spells (cs ++ ds) (ts ++ us) := by
  intro rest hrest
  have hsplit : Symbol.ofChars (cs ++ ds) = Symbol.ofChars cs ++ Symbol.ofChars ds := List.map_append
  rw [hsplit, List.append_assoc, h₁ _ (hend rest hrest), h₂ rest hrest, List.append_assoc]

/-- White space is passed over. -/
theorem blank {c : Char} {cs : List Char} {ts : List Token} (hc : Token.isSpace (.char c) = true)
    (h : Spells cs ts) : Spells (c :: cs) ts := by
  intro rest hrest
  have hcons : Symbol.ofChars (c :: cs) ++ rest = .char c :: (Symbol.ofChars cs ++ rest) := rfl
  rw [hcons, Token.all, if_pos hc, h rest hrest]

/-- A token that starts with `c` and is told by its start. -/
theorem start {c : Char} {cs ds : List Char} {t : Token} {ts : List Token}
    (hc : Token.isSpace (.char c) = false)
    (ht : ∀ rest, Token.startingWith (.char c) (Symbol.ofChars ds ++ rest) = (t, Symbol.ofChars cs ++ rest))
    (h : Spells cs ts) : Spells (c :: ds) (t :: ts) := by
  intro rest hrest
  have hcons : Symbol.ofChars (c :: ds) ++ rest = .char c :: (Symbol.ofChars ds ++ rest) := rfl
  rw [hcons, Token.all, if_neg (by simp [hc]), ht rest, h rest hrest]
  rfl

/-- Texts put behind each other, where the second one starts with a character that ends a number. -/
theorem before {c : Char} {cs ds : List Char} {ts us : List Token} (h₁ : Spells cs ts)
    (hc : endsNumber c = true) (h₂ : Spells (c :: ds) us) : Spells (cs ++ c :: ds) (ts ++ us) :=
  h₁.append h₂ fun _ _ => EndsNumber.of_char hc _

/-- A new line and its indentation spell nothing. -/
theorem line (level : Nat) {cs : List Char} {ts : List Token} (h : Spells cs ts) :
    Spells (Value.newLine level ++ cs) ts := by
  have hspaces : ∀ n, Spells (List.replicate n ' ' ++ cs) ts := by
    intro n
    induction n with
    | zero => exact h
    | succ n ih =>
      rw [List.replicate_succ]
      exact ih.blank rfl
  rw [Value.newLine, List.cons_append]
  exact (hspaces _).blank rfl

/-- A literal in front of a text spells its token in front. -/
theorem text (s : String) {cs : List Char} {ts : List Token} (h : Spells cs ts) :
    Spells (Value.textLiteral s ++ cs) (.text (.ofValue s) :: ts) := by
  rw [Value.textLiteral, List.cons_append, List.cons_append]
  refine start rfl (fun rest => ?_) h
  have hlit : Symbol.ofChars (s.toList.flatMap Value.escapeChar ++ ['"'] ++ cs) ++ rest
      = Symbol.ofChars (s.toList.flatMap Value.escapeChar) ++ .char '"' :: (Symbol.ofChars cs ++ rest) := by
    simp [Symbol.ofChars]
  rw [hlit]
  show Token.textAt _ = _
  rw [Token.textAt, Literal.scan_literal]
  show (Token.text ⟨Literal.decode .quote (s.toList.map Literal.unit), none⟩, _) = _
  rw [Literal.decode_units]
  rfl

end Spells

/-! ## Single tokens -/

/-- Words and brackets spell their tokens. -/
theorem spells_null : Spells ['n', 'u', 'l', 'l'] [.null] :=
  Spells.nil.start rfl fun rest => by simp [Symbol.ofChars, Token.startingWith, Token.word, Token.letters]

theorem spells_true : Spells ['t', 'r', 'u', 'e'] [.bool true] :=
  Spells.nil.start rfl fun rest => by simp [Symbol.ofChars, Token.startingWith, Token.word, Token.letters]

theorem spells_false : Spells ['f', 'a', 'l', 's', 'e'] [.bool false] :=
  Spells.nil.start rfl fun rest => by simp [Symbol.ofChars, Token.startingWith, Token.word, Token.letters]

theorem spells_closeList : Spells [']'] [.closeList] := Spells.nil.start rfl fun _ => rfl

theorem spells_closeObject : Spells ['}'] [.closeObject] := Spells.nil.start rfl fun _ => rfl

/-- A text is spelled by its literal, and a number by its digits. -/
theorem spells_text (s : String) : Spells (Value.textLiteral s) [.text (.ofValue s)] := by
  have h := Spells.nil.text s
  rwa [List.append_nil] at h

/-- What starts with a sign or a digit is a number. -/
theorem startingWith_numeral {c : Char} (hc : c = '-' ∨ c.isDigit = true) (s : List Symbol) :
    Token.startingWith (.char c) s = Token.numberAt (.char c :: s) := by
  have hstart : (c = '-' || '0' ≤ c && c ≤ '9') = true := by
    rcases hc with rfl | hc
    · rfl
    · obtain ⟨hlow, hhigh⟩ := Numeral.bounds_of_isDigit hc
      simp [hlow, hhigh]
  unfold Token.startingWith
  split
  -- no other token starts with such a character
  all_goals first
    | next heq => cases heq; exact absurd hc (by decide)
    | next heq => cases heq; exact if_pos hstart
    | next heq => cases heq

theorem spells_number {n : Int} (h : (Number.integer n).IsWord) :
    Spells (Number.integer n).render.toList [.number (.ofValue (.integer n))] := by
  intro rest hrest
  have hnumber : Token.numberAt (Symbol.ofChars (Number.integer n).render.toList ++ rest)
      = (.number (.ofValue (.integer n)), rest) := by
    rw [Token.numberAt, Numeral.scan_render n hrest]
    show (Token.number ⟨(Numeral.ofInt n).value, none⟩, rest) = _
    rw [Numeral.value_ofInt h]
    rfl
  -- the first character is a sign or a digit
  obtain ⟨c, cs, hcs, hc⟩ : ∃ c cs, (Number.integer n).render.toList = c :: cs ∧
      (c = '-' ∨ c.isDigit = true) := by
    rw [Numeral.toList_render_integer]
    split
    · cases hd : Nat.toDigits 10 n.natAbs with
      | nil => exact absurd hd Nat.toDigits_ne_nil
      | cons c cs => exact ⟨c, cs, rfl, .inr (Numeral.isDigit_of_mem_digits (hd ▸ List.mem_cons_self))⟩
    · exact ⟨'-', _, rfl, .inl rfl⟩
  have hspace : Token.isSpace (.char c) = false := by
    rcases hc with rfl | hc
    · rfl
    · simp only [Token.isSpace, Bool.or_eq_false_iff, decide_eq_false_iff_not]
      refine ⟨⟨⟨?_, ?_⟩, ?_⟩, ?_⟩ <;> (rintro rfl; exact absurd hc (by decide))
  rw [hcs] at hnumber ⊢
  have hcons : Symbol.ofChars (c :: cs) ++ rest = .char c :: (Symbol.ofChars cs ++ rest) := rfl
  rw [hcons] at hnumber ⊢
  rw [Token.all, if_neg (by simp [hspace]), startingWith_numeral hc, hnumber]
  rfl

/-! ## Whole values -/

/-- The items of a list, written compactly, if each item is. -/
theorem spells_compactItems {vs : List Value} (h : ∀ v ∈ vs, Spells v.compact v.tokens) :
    Spells (Value.compactItems vs) (Value.itemTokens vs) := by
  induction vs with
  | nil => exact Spells.nil
  | cons v vs ih =>
    have hv := h v List.mem_cons_self
    cases vs with
    | nil => exact hv
    | cons w vs =>
      have hrest := ih fun u hu => h u (List.mem_cons_of_mem v hu)
      exact hv.before rfl (hrest.start rfl fun _ => rfl)

/-- Members are spelled if their values are, in one line or over several. -/
theorem spells_compactMembers {ms : List (String × Value)} (h : ∀ m ∈ ms, Spells m.2.compact m.2.tokens) :
    Spells (Value.compactMembers ms) (Value.memberTokens ms) := by
  induction ms with
  | nil => exact Spells.nil
  | cons m ms ih =>
    obtain ⟨k, v⟩ := m
    have hv := h (k, v) List.mem_cons_self
    cases ms with
    | nil => exact (hv.start rfl fun _ => rfl).text k
    | cons m ms =>
      have hrest := ih fun u hu => h u (List.mem_cons_of_mem (k, v) hu)
      have hpair : Spells (v.compact ++ ',' :: Value.compactMembers (m :: ms))
          (v.tokens ++ .comma :: Value.memberTokens (m :: ms)) :=
        hv.before rfl (hrest.start rfl fun _ => rfl)
      rw [Value.compactMembers, List.append_assoc]
      exact (hpair.start rfl fun _ => rfl).text k

/-- **The compact form of a value is split into its tokens.** -/
theorem spells_compact {d : Nat} {v : Value} (h : v.Plain d) : Spells v.compact v.tokens := by
  induction h with
  | null => exact spells_null
  | bool b => cases b with
    | true => exact spells_true
    | false => exact spells_false
  | @number d n h => cases n with
    | integer n => exact spells_number h
    | float f => exact h.elim
  | text s => exact spells_text s
  | list h ih =>
    rw [Value.compact, List.cons_append]
    exact ((spells_compactItems ih).before rfl spells_closeList).start rfl fun _ => rfl
  | object h ih =>
    rw [Value.compact, List.cons_append]
    exact ((spells_compactMembers ih).before rfl spells_closeObject).start rfl fun _ => rfl

theorem spells_prettyItems {vs : List Value} {level : Nat} (h : ∀ v ∈ vs, Spells (v.pretty level) v.tokens) :
    Spells (Value.prettyItems level vs) (Value.itemTokens vs) := by
  induction vs with
  | nil => exact Spells.nil
  | cons v vs ih =>
    have hv := h v List.mem_cons_self
    cases vs with
    | nil => exact hv.line level
    | cons w vs =>
      have hrest := ih fun u hu => h u (List.mem_cons_of_mem v hu)
      exact (hv.line level).before rfl (hrest.start rfl fun _ => rfl)

theorem spells_prettyMembers {ms : List (String × Value)} {level : Nat}
    (h : ∀ m ∈ ms, Spells (m.2.pretty level) m.2.tokens) :
    Spells (Value.prettyMembers level ms) (Value.memberTokens ms) := by
  induction ms with
  | nil => exact Spells.nil
  | cons m ms ih =>
    obtain ⟨k, v⟩ := m
    have hv := h (k, v) List.mem_cons_self
    -- only a last member is written without a comma after it
    cases ms with
    | nil =>
      rw [Value.prettyMembers, List.append_assoc]
      exact (((hv.blank rfl).start rfl fun _ => rfl).text k).line level
    | cons m ms =>
      have hrest := ih fun u hu => h u (List.mem_cons_of_mem (k, v) hu)
      have hpair : Spells (v.pretty level ++ ',' :: Value.prettyMembers level (m :: ms))
          (v.tokens ++ .comma :: Value.memberTokens (m :: ms)) :=
        hv.before rfl (hrest.start rfl fun _ => rfl)
      rw [Value.prettyMembers, List.append_assoc, List.append_assoc]
      exact (((hpair.blank rfl).start rfl fun _ => rfl).text k).line level

/-- **The form of a value over several lines is split into its tokens**, at every level of nesting. -/
theorem spells_pretty {d : Nat} {v : Value} (h : v.Plain d) (level : Nat) :
    Spells (v.pretty level) v.tokens := by
  induction h generalizing level with
  | null => exact spells_null
  | bool b => cases b with
    | true => exact spells_true
    | false => exact spells_false
  | @number d n h => cases n with
    | integer n => exact spells_number h
    | float f => exact h.elim
  | text s => exact spells_text s
  | @list d vs h ih =>
    -- an empty list stays on one line
    cases vs with
    | nil => exact spells_closeList.start rfl fun _ => rfl
    | cons v vs =>
      have hitems := spells_prettyItems fun w hw => ih w hw (level + 1)
      have hclose : Spells (Value.newLine level ++ [']']) [.closeList] := spells_closeList.line level
      rw [Value.pretty, List.append_assoc, List.cons_append]
      exact (hitems.before rfl hclose).start rfl fun _ => rfl
  | @object d ms h ih =>
    cases ms with
    | nil => exact spells_closeObject.start rfl fun _ => rfl
    | cons m ms =>
      have hmembers := spells_prettyMembers fun w hw => ih w hw (level + 1)
      have hclose : Spells (Value.newLine level ++ ['}']) [.closeObject] := spells_closeObject.line level
      rw [Value.pretty, List.append_assoc, List.cons_append]
      exact (hmembers.before rfl hclose).start rfl fun _ => rfl

end BookmarkSync.Json
