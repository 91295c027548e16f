import BookmarkSync.Json.Literal
import BookmarkSync.Json.Printer
import BookmarkSync.Proofs.Text.Utf8

/-!
# `BookmarkSync.Proofs.Json.Literal` — written texts are read back

Every character has one written form inside a literal, and that form is one unit when it is scanned:
`unit`. Joining the units gives the characters back, so the literal of a text stands for that text,
whatever characters it holds: `decode_units`.
-/

namespace BookmarkSync.Json.Literal

open BookmarkSync.Text (Symbol)

/-- The characters that are written as a backslash and one more character. -/
def shorthands : List Char := ['"', '\\', '\x08', '\x0c', '\n', '\r', '\t']

/-- The unit that the written form of a character is scanned as. -/
def unit (c : Char) : Piece :=
  if c ∈ shorthands then .escaped c
  else if c.toNat < 0x20 then .code c.toNat
  else .plain (.char c)

/-! ## Scanning -/

theorem hexDigit?_hexDigit {n : Nat} (h : n < 16) : hexDigit? (.char (Value.hexDigit n)) = some n := by
  have hall : ∀ m : Fin 16, hexDigit? (.char (Value.hexDigit m)) = some m.val := by decide
  exact hall ⟨n, h⟩

/-- The four digits of a control character write its number. -/
theorem hexCode?_control {n : Nat} (h : n < 0x20) :
    hexCode? (.char '0') (.char '0') (.char (Value.hexDigit (n / 16))) (.char (Value.hexDigit (n % 16)))
      = some n := by
  have hzero : hexDigit? (.char '0') = some 0 := by decide
  have hhigh := hexDigit?_hexDigit (n := n / 16) (by omega)
  have hlow := hexDigit?_hexDigit (n := n % 16) (by omega)
  simp only [hexCode?, hzero, hhigh, hlow, bind, Option.bind, pure]
  congr 1
  omega

theorem scan_shorthand {c : Char} (h : c ∈ shorthands) (rest : List Symbol) :
    scan (Symbol.ofChars (Value.escapeChar c) ++ rest) = (.escaped c :: (scan rest).1, (scan rest).2) := by
  simp only [shorthands, List.mem_cons, List.not_mem_nil, or_false] at h
  rcases h with rfl | rfl | rfl | rfl | rfl | rfl | rfl
  all_goals rfl

theorem escapeChar_of_not_mem {c : Char} (h : c ∉ shorthands) :
    Value.escapeChar c = if c.toNat < 0x20 then
      ['\\', 'u', '0', '0', Value.hexDigit (c.toNat / 16), Value.hexDigit (c.toNat % 16)] else [c] := by
  simp only [shorthands, List.mem_cons, List.not_mem_nil, or_false, not_or] at h
  obtain ⟨h1, h2, h3, h4, h5, h6, h7⟩ := h
  simp only [Value.escapeChar, h1, h2, h3, h4, h5, h6, h7, if_false]

theorem scan_plain {c : Char} (hquote : c ≠ '"') (hbackslash : c ≠ '\\') (hcontrol : ¬ c.toNat < 0x20)
    (rest : List Symbol) : scan (.char c :: rest) = (.plain (.char c) :: (scan rest).1, (scan rest).2) := by
  simp [scan, hbackslash, hcontrol]

/-- The form of one character is one unit of the literal. -/
theorem scan_escapeChar (c : Char) (rest : List Symbol) :
    scan (Symbol.ofChars (Value.escapeChar c) ++ rest) = (unit c :: (scan rest).1, (scan rest).2) := by
  unfold unit
  -- the printer's three ways to write a character, each undone by its own branch of the scanner
  by_cases hshort : c ∈ shorthands
  · rw [if_pos hshort]
    exact scan_shorthand hshort rest
  rw [if_neg hshort, escapeChar_of_not_mem hshort]
  by_cases hcontrol : c.toNat < 0x20
  · rw [if_pos hcontrol, if_pos hcontrol]
    simp only [Symbol.ofChars, List.map_cons, List.map_nil, List.cons_append, List.nil_append, scan,
      hexCode?_control hcontrol]
  · rw [if_neg hcontrol, if_neg hcontrol]
    refine scan_plain ?_ ?_ hcontrol rest
    · rintro rfl
      exact hshort (by decide)
    · rintro rfl
      exact hshort (by decide)

/-- **A literal is scanned up to its closing quote**, one unit for each character. -/
theorem scan_literal (cs : List Char) (rest : List Symbol) :
    scan (Symbol.ofChars (cs.flatMap Value.escapeChar) ++ .char '"' :: rest) = (cs.map unit, .quote, rest) := by
  induction cs with
  | nil => simp [Symbol.ofChars, scan]
  | cons c cs ih =>
    rw [List.flatMap_cons, Symbol.ofChars, List.map_append, List.append_assoc]
    refine (scan_escapeChar c _).trans ?_
    rw [Symbol.ofChars] at ih
    rw [ih]
    rfl

/-! ## Decoding -/

/-- A control character is no half of a pair. -/
theorem not_surrogate {n : Nat} (h : n < 0x20) : isLow n = false ∧ isHigh n = false := by
  constructor <;> simp [isLow, isHigh] <;> omega

theorem join_unit (stop : Stop) (c : Char) (rest : List Piece) :
    join stop (unit c :: rest) = (join stop rest).map (.char c :: ·) := by
  unfold unit
  split
  · rfl
  · split
    · next h =>
      obtain ⟨hlow, hhigh⟩ := not_surrogate h
      rw [join.eq_def]
      simp [hlow, hhigh, Char.ofNat_toNat]
    · rfl

theorem join_units (cs : List Char) : join .quote (cs.map unit) = .ok (Symbol.ofChars cs) := by
  induction cs with
  | nil => rfl
  | cons c cs ih =>
    rw [List.map_cons, join_unit, ih]
    rfl

/-- **The units of a text stand for that text.** -/
theorem decode_units (s : String) : decode .quote (s.toList.map unit) = .ok s := by
  rw [decode, join_units]
  simp only [bind, Except.bind, Text.Utf8.mapM_char?_ofChars, String.ofList_toList]
  rfl

end BookmarkSync.Json.Literal
