import BookmarkSync.Proofs.Text.Utf8
import BookmarkSync.Text.Percent
import BookmarkSync.Url.Path

/-!
# `BookmarkSync.Proofs.Text.Percent` — percent-encoded texts

An encoded component consists of unreserved characters and percent signs (`IsComponent`), and decoding it
gives the bytes of the text (`decodeText_encodeComponent`). So different texts have different components,
and only dots are encoded as dots.
-/

namespace BookmarkSync.Text

/-! ## Bytes of characters -/

namespace Utf8

/-- A character of ASCII is one byte of UTF-8. -/
theorem encode_cons_ascii {c : Char} (h : c.toNat ≤ 0x7f) (cs : List Char) :
    encode (c :: cs) = UInt8.ofNat c.toNat :: encode cs := by
  have hchar : String.utf8EncodeChar c = [UInt8.ofNat c.toNat] := if_pos h
  rw [encode, List.flatMap_cons, hchar]
  rfl

/-- Only the empty text has no bytes. -/
theorem encode_eq_nil {cs : List Char} (h : encode cs = []) : cs = [] := by
  cases cs with
  | nil => rfl
  | cons c cs =>
    obtain ⟨b, tail, hbytes, -⟩ := first_utf8EncodeChar c
    rw [encode, List.flatMap_cons, hbytes] at h
    cases h

/-- Texts with the same bytes are the same. -/
theorem bytes_injective {s t : String} (h : bytes s = bytes t) : s = t := by
  rw [← lossy_bytes s, h, lossy_bytes]

end Utf8

namespace Percent

open Utf8

/-! ## The characters of a component -/

/-- Whether a character can stand in an encoded component. -/
def isComponentChar (c : Char) : Bool := isUnreserved c || c = '%'

/-- The characters are those of an encoded component. -/
def IsComponent (cs : List Char) : Prop := ∀ c ∈ cs, isComponentChar c = true

/-- The code points of letters, digits, and the signs `-`, `.`, `_` and `~`. -/
theorem toNat_of_isUnreserved {c : Char} (h : isUnreserved c = true) :
    (48 ≤ c.toNat ∧ c.toNat ≤ 57) ∨ (65 ≤ c.toNat ∧ c.toNat ≤ 90) ∨ (97 ≤ c.toNat ∧ c.toNat ≤ 122) ∨
      c.toNat ∈ [45, 46, 95, 126] := by
  simp only [isUnreserved, Bool.or_eq_true, decide_eq_true_eq] at h
  rcases h with (((hletter | rfl) | rfl) | rfl) | rfl
  · delta Char.isAlphanum Char.isAlpha Char.isUpper Char.isLower Char.isDigit at hletter
    simp only [Bool.or_eq_true, Bool.and_eq_true, decide_eq_true_eq, ge_iff_le,
      UInt32.le_iff_toNat_le] at hletter
    change ((65 ≤ c.toNat ∧ c.toNat ≤ 90) ∨ 97 ≤ c.toNat ∧ c.toNat ≤ 122) ∨
      48 ≤ c.toNat ∧ c.toNat ≤ 57 at hletter
    omega
  all_goals decide

/-- The hexadecimal digits of an escape can stand in a component, so a component stays one when it is written.
-/
theorem isComponentChar_digit {n : Nat} (h : n < 16) : isComponentChar (digit n) = true := by
  revert n
  decide

theorem isComponent_encodeByte (b : UInt8) : IsComponent (encodeByte b) := by
  have hb : b.toNat < 256 := b.toNat_lt
  intro c hc
  rcases List.mem_cons.mp hc with rfl | hc
  · decide
  rcases List.mem_cons.mp hc with rfl | hc
  · exact isComponentChar_digit (by omega)
  · rw [List.mem_singleton.mp hc]
    exact isComponentChar_digit (by omega)

/-- Whatever a text is, its encoded form is a component of a path. -/
theorem isComponent_encodeComponent (s : String) : IsComponent (encodeComponent s) := by
  intro c hc
  obtain ⟨d, -, hc⟩ := List.mem_flatMap.mp hc
  split at hc
  · next hd =>
    rw [List.mem_singleton.mp hc, isComponentChar, hd]
    rfl
  · obtain ⟨b, -, hc⟩ := List.mem_flatMap.mp hc
    exact isComponent_encodeByte b c hc

/-- What is kept throughout is not changed. -/
theorem encode_eq_self {keep : Char → Bool} {cs : List Char} (h : ∀ c ∈ cs, keep c = true) :
    encode keep cs = cs := by
  induction cs with
  | nil => rfl
  | cons c cs ih =>
    have hrest := ih fun d hd => h d (.tail _ hd)
    rw [encode] at hrest ⊢
    rw [List.flatMap_cons, if_pos (h c (.head _)), hrest]
    rfl

/-- Nothing is encoded as nothing, so a text that is not empty stays so. -/
theorem encodeChar_ne_nil (c : Char) : encodeChar c ≠ [] := by
  obtain ⟨b, tail, hbytes, -⟩ := first_utf8EncodeChar c
  rw [encodeChar, hbytes]
  exact List.cons_ne_nil _ _

theorem encode_ne_nil {keep : Char → Bool} {cs : List Char} (h : cs ≠ []) : encode keep cs ≠ [] := by
  obtain ⟨c, rest, rfl⟩ := List.exists_cons_of_ne_nil h
  rw [encode, List.flatMap_cons]
  refine List.append_ne_nil_of_left_ne_nil ?_ _
  split
  · exact List.cons_ne_nil _ _
  · exact encodeChar_ne_nil c

/-! ## Decoding a component -/

/-- A byte that begins no escape stands for itself. -/
theorem decode_cons_of_ne {a : UInt8} (h : a ≠ 37) (rest : List UInt8) :
    decode (a :: rest) = a :: decode rest := by
  rw [decode.eq_def]
  simp only [if_neg h]

/-- Only the empty text is decoded to nothing. -/
theorem decode_eq_nil {bs : List UInt8} (h : decode bs = []) : bs = [] := by
  cases bs with
  | nil => rfl
  | cons a rest =>
    rw [decode.eq_def] at h
    simp only at h
    split at h
    · split at h
      · split at h <;> cases h
      · cases h
    · cases h

/-- An escape stands for the byte that its two digits say. -/
theorem decode_escape {b c d : UInt8} (h : hexByte? b c = some d) (rest : List UInt8) :
    decode (37 :: b :: c :: rest) = d :: decode rest := by
  rw [decode.eq_def]
  simp only [h, if_true]

/-- Each hexadecimal digit is read as its number. -/
theorem hexDigit?_digit {n : Nat} (h : n < 16) : hexDigit? (UInt8.ofNat (digit n).toNat) = some n := by
  revert n
  decide

theorem digit_ascii {n : Nat} (h : n < 16) : (digit n).toNat ≤ 0x7f := by
  revert n
  decide

/-- An escaped byte is read back, whatever follows it. -/
theorem decode_encodeByte (b : UInt8) (rest : List Char) :
    decode (Utf8.encode (encodeByte b ++ rest)) = b :: decode (Utf8.encode rest) := by
  have hb : b.toNat < 256 := b.toNat_lt
  have hhigh : b.toNat / 16 < 16 := by omega
  have hlow : b.toNat % 16 < 16 := by omega
  have hbyte : hexByte? (UInt8.ofNat (digit (b.toNat / 16)).toNat) (UInt8.ofNat (digit (b.toNat % 16)).toNat)
      = some b := by
    rw [hexByte?, hexDigit?_digit hhigh, hexDigit?_digit hlow]
    show some (UInt8.ofNat (b.toNat / 16 * 16 + b.toNat % 16)) = some b
    rw [Nat.div_add_mod', UInt8.ofNat_toNat]
  show decode (Utf8.encode ('%' :: digit (b.toNat / 16) :: digit (b.toNat % 16) :: rest)) = _
  rw [encode_cons_ascii (by decide), encode_cons_ascii (digit_ascii hhigh),
    encode_cons_ascii (digit_ascii hlow)]
  exact decode_escape hbyte _

theorem decode_encodeBytes (bs : List UInt8) (rest : List Char) :
    decode (Utf8.encode (bs.flatMap encodeByte ++ rest)) = bs ++ decode (Utf8.encode rest) := by
  induction bs with
  | nil => rfl
  | cons b bs ih => rw [List.flatMap_cons, List.append_assoc, decode_encodeByte, ih, List.cons_append]

/-- **Percent-decoding takes percent-encoding back**: what comes out are the bytes of the text. -/
theorem decode_encode (cs : List Char) : decode (Utf8.encode (encode isUnreserved cs)) = Utf8.encode cs := by
  induction cs with
  | nil => rw [encode, List.flatMap_nil, Utf8.encode, List.flatMap_nil, decode]
  | cons c cs ih =>
    rw [encode, List.flatMap_cons, ← encode]
    -- a character that is kept is no percent sign, so it cannot start an escape
    by_cases hc : isUnreserved c = true
    · have hbounds := toNat_of_isUnreserved hc
      simp only [List.mem_cons, List.not_mem_nil, or_false] at hbounds
      have hascii : c.toNat ≤ 0x7f := by omega
      have hpercent : c.toNat ≠ 37 := by omega
      have hne : UInt8.ofNat c.toNat ≠ 37 := by
        intro heq
        have hnat := congrArg UInt8.toNat heq
        rw [toNat_byte (by omega)] at hnat
        exact hpercent hnat
      rw [if_pos hc, List.singleton_append, encode_cons_ascii hascii, encode_cons_ascii hascii,
        decode_cons_of_ne hne, ih]
    · rw [if_neg hc, encodeChar, decode_encodeBytes, ih]
      rfl

/-- **Decoding a component gives the bytes of its text.** -/
theorem decodeText_encodeComponent (s : String) : decodeText (encodeComponent s) = bytes s :=
  decode_encode s.toList

/-- So different texts have different encoded forms. -/
theorem encodeComponent_injective {s t : String} (h : encodeComponent s = encodeComponent t) : s = t := by
  refine bytes_injective ?_
  rw [← decodeText_encodeComponent, h, decodeText_encodeComponent]

end Percent

end BookmarkSync.Text

/-! ## Components as segments of a URL -/

namespace BookmarkSync.Url.Path

open Text Text.Percent

/-- What stands in a component as it is stands in a path as it is. -/
theorem isPlain_of_isComponentChar {c : Char} (h : isComponentChar c = true) : isPlain c = true := by
  rw [isComponentChar, Bool.or_eq_true, decide_eq_true_eq] at h
  rcases h with h | rfl
  · have hbounds := toNat_of_isUnreserved h
    simp only [List.mem_cons, List.not_mem_nil, or_false] at hbounds
    have hlist : "\"#<>?^`\x7b\x7d".toList.contains c = false := by
      rw [Bool.eq_false_iff]
      intro hmem
      have hcodes : c.toNat ∈ [34, 35, 60, 62, 63, 94, 96, 123, 125] :=
        List.mem_map_of_mem (List.contains_iff_mem.mp hmem)
      simp only [List.mem_cons, List.not_mem_nil, or_false] at hcodes
      omega
    rw [isPlain, hlist, decide_eq_true (by omega), decide_eq_true (by omega)]
    rfl
  · decide

/-- A component stands in a URL as it is. -/
theorem encodeSegment_of_isComponent {cs : List Char} (h : IsComponent cs) : encodeSegment cs = cs :=
  encode_eq_self fun c hc => isPlain_of_isComponentChar (h c hc)

theorem replicate_of_ne_zero {α : Type} {n : Nat} (h : n ≠ 0) (a : α) :
    List.replicate n a = a :: List.replicate (n - 1) a := by
  obtain ⟨m, rfl⟩ := Nat.exists_eq_succ_of_ne_zero h
  rfl

/-- What counts as dots stands for dots. -/
theorem decodeText_of_isDots {n : Nat} {cs : List Char} (h : isDots n cs = true) :
    decodeText cs = List.replicate n 46 := by
  have hescape (e : Char) (he : e.toNat ≤ 0x7f) (hbyte : hexByte? 50 (UInt8.ofNat e.toNat) = some 46)
      (rest : List Char) :
      decode (Utf8.encode ('%' :: '2' :: e :: rest)) = 46 :: decode (Utf8.encode rest) := by
    rw [Utf8.encode_cons_ascii (by decide), Utf8.encode_cons_ascii (by decide), Utf8.encode_cons_ascii he]
    exact decode_escape hbyte _
  rw [decodeText]
  -- a dot may be written as itself or by either case of its escape
  fun_induction isDots n cs with
  | case1 n =>
    rw [eq_of_beq h, Utf8.encode, List.flatMap_nil, decode]
    rfl
  | case2 n rest ih =>
    obtain ⟨hn, hrest⟩ := Bool.and_eq_true_iff.mp h
    rw [replicate_of_ne_zero (bne_iff_ne.mp hn), ← ih hrest, Utf8.encode_cons_ascii (by decide)]
    exact decode_cons_of_ne (by decide) _
  | case3 n rest ih =>
    obtain ⟨hn, hrest⟩ := Bool.and_eq_true_iff.mp h
    rw [replicate_of_ne_zero (bne_iff_ne.mp hn), ← ih hrest, hescape 'e' (by decide) (by decide)]
  | case4 n rest ih =>
    obtain ⟨hn, hrest⟩ := Bool.and_eq_true_iff.mp h
    rw [replicate_of_ne_zero (bne_iff_ne.mp hn), ← ih hrest, hescape 'E' (by decide) (by decide)]
  | case5 => cases h

/-- Only dots are encoded as what counts as dots. -/
theorem isDots_encodeComponent {n : Nat} {s : String} (h : s ≠ String.ofList (List.replicate n '.')) :
    isDots n (encodeComponent s) = false := by
  rw [Bool.eq_false_iff]
  intro hdots
  refine h (Utf8.bytes_injective ?_)
  have hdot : String.utf8EncodeChar '.' = [46] := by decide
  rw [← decodeText_encodeComponent, decodeText_of_isDots hdots, Utf8.bytes, String.toList_ofList, Utf8.encode,
    List.flatMap_replicate, hdot, List.flatten_replicate_singleton]

end BookmarkSync.Url.Path
