import BookmarkSync.Text.Utf8

/-!
# `BookmarkSync.Proofs.Text.Utf8` — the bytes of a text read back

A character is written in one to four bytes, and `first` recognises it by the first of them. So reading
the bytes of a text yields its characters and no broken sequence, whatever the text: `read_encode`.
-/

namespace BookmarkSync.Text.Utf8

/-! ## One character

One lemma for each length. A byte is turned into the number it was made from, and what is left is
arithmetic on the number `v` of the character. -/

/-- A small enough number is read back from its byte. -/
theorem toNat_byte {n : Nat} (h : n < 256) : (UInt8.ofNat n).toNat = n := by
  simp [Nat.mod_eq_of_lt h]

/-- A byte with the high bit set begins no character of one byte. -/
theorem not_ascii {n : Nat} (hlow : 128 ≤ n) (h : n < 256) : ¬ UInt8.ofNat n < 0x80 := by
  rw [UInt8.lt_iff_toNat_lt, toNat_byte h]
  show ¬ n < 128
  omega

theorem first_one {v : Nat} (hv : v ≤ 0x7f) (rest : List UInt8) :
    first (UInt8.ofNat v) rest = .char (Char.ofNat v) := by
  have ha : (UInt8.ofNat v).toNat = v := toNat_byte (by omega)
  have hlt : UInt8.ofNat v < 0x80 := by
    rw [UInt8.lt_iff_toNat_lt, ha]
    show v < 128
    omega
  unfold first
  rw [if_pos hlt, ha]

theorem first_two {v : Nat} (hlow : 0x7f < v) (hv : v ≤ 0x7ff) (rest : List UInt8) :
    first (UInt8.ofNat (v / 64 % 0x20 + 0xc0)) (UInt8.ofNat (v % 0x40 + 0x80) :: rest)
      = .char (Char.ofNat v) := by
  have ha : (UInt8.ofNat (v / 64 % 0x20 + 0xc0)).toNat = v / 64 % 0x20 + 0xc0 := toNat_byte (by omega)
  have hb : (UInt8.ofNat (v % 0x40 + 0x80)).toNat = v % 0x40 + 0x80 := toNat_byte (by omega)
  simp only [first, if_neg (not_ascii (show 128 ≤ v / 64 % 0x20 + 0xc0 by omega) (by omega)), isTail, twoBytes,
    tailBits, UInt8.le_iff_toNat_le, ha, hb, UInt8.reduceToNat, Bool.and_eq_true, decide_eq_true_eq]
  rw [if_pos (by omega), if_pos (by omega)]
  congr 2
  omega

/-- A second byte that is neither too low nor that of a surrogate is accepted. -/
theorem secondOfThree_of_bounds {a b : UInt8} (hb : 0x80 ≤ b.toNat ∧ b.toNat ≤ 0xBF)
    (hlow : a.toNat = 0xE0 → 0xA0 ≤ b.toNat) (hhigh : a.toNat = 0xED → b.toNat ≤ 0x9F) :
    secondOfThree a b = true := by
  have heq : ∀ c : UInt8, a = c ↔ a.toNat = c.toNat := fun c => UInt8.toNat_inj.symm
  unfold secondOfThree isTail
  split
  · next h => simp [UInt8.le_iff_toNat_le, hlow ((heq _).mp h), hb.2]
  · split
    · next h => simp [UInt8.le_iff_toNat_le, hhigh ((heq _).mp h), hb.1]
    · simp [UInt8.le_iff_toNat_le, hb]

/-- The same for four bytes, where the characters end at U+10FFFF. -/
theorem secondOfFour_of_bounds {a b : UInt8} (hb : 0x80 ≤ b.toNat ∧ b.toNat ≤ 0xBF)
    (hlow : a.toNat = 0xF0 → 0x90 ≤ b.toNat) (hhigh : a.toNat = 0xF4 → b.toNat ≤ 0x8F) :
    secondOfFour a b = true := by
  have heq : ∀ c : UInt8, a = c ↔ a.toNat = c.toNat := fun c => UInt8.toNat_inj.symm
  unfold secondOfFour isTail
  split
  · next h => simp [UInt8.le_iff_toNat_le, hlow ((heq _).mp h), hb.2]
  · split
    · next h => simp [UInt8.le_iff_toNat_le, hhigh ((heq _).mp h), hb.1]
    · simp [UInt8.le_iff_toNat_le, hb]

/-- Three bytes hold every character from U+0800 on that is no surrogate. -/
theorem first_three {v : Nat} (hlow : 0x7ff < v) (hv : v ≤ 0xffff) (hs : v < 0xd800 ∨ 0xdfff < v)
    (rest : List UInt8) :
    first (UInt8.ofNat (v / 4096 % 0x10 + 0xe0))
        (UInt8.ofNat (v / 64 % 0x40 + 0x80) :: UInt8.ofNat (v % 0x40 + 0x80) :: rest)
      = .char (Char.ofNat v) := by
  have ha : (UInt8.ofNat (v / 4096 % 0x10 + 0xe0)).toNat = v / 4096 % 0x10 + 0xe0 := toNat_byte (by omega)
  have hb : (UInt8.ofNat (v / 64 % 0x40 + 0x80)).toNat = v / 64 % 0x40 + 0x80 := toNat_byte (by omega)
  have hc : (UInt8.ofNat (v % 0x40 + 0x80)).toNat = v % 0x40 + 0x80 := toNat_byte (by omega)
  have h2 : secondOfThree (UInt8.ofNat (v / 4096 % 0x10 + 0xe0)) (UInt8.ofNat (v / 64 % 0x40 + 0x80)) = true :=
    secondOfThree_of_bounds (by omega) (by omega) (by omega)
  simp only [first, if_neg (not_ascii (show 128 ≤ v / 4096 % 0x10 + 0xe0 by omega) (by omega)), h2, isTail,
    threeBytes, tailBits, UInt8.le_iff_toNat_le, ha, hb, hc, UInt8.reduceToNat, Bool.and_eq_true,
    decide_eq_true_eq]
  rw [if_neg (by omega), if_pos (by omega), if_pos trivial, if_pos (by omega)]
  congr 2
  omega

/-- Four bytes hold every character from U+10000 on. -/
theorem first_four {v : Nat} (hlow : 0xffff < v) (hv : v < 0x110000) (rest : List UInt8) :
    first (UInt8.ofNat (v / 262144 % 0x08 + 0xf0))
        (UInt8.ofNat (v / 4096 % 0x40 + 0x80) :: UInt8.ofNat (v / 64 % 0x40 + 0x80)
          :: UInt8.ofNat (v % 0x40 + 0x80) :: rest)
      = .char (Char.ofNat v) := by
  -- all four bytes are small enough to be what the division says
  have ha : (UInt8.ofNat (v / 262144 % 0x08 + 0xf0)).toNat = v / 262144 % 0x08 + 0xf0 := toNat_byte (by omega)
  have hb : (UInt8.ofNat (v / 4096 % 0x40 + 0x80)).toNat = v / 4096 % 0x40 + 0x80 := toNat_byte (by omega)
  have hc : (UInt8.ofNat (v / 64 % 0x40 + 0x80)).toNat = v / 64 % 0x40 + 0x80 := toNat_byte (by omega)
  have hd : (UInt8.ofNat (v % 0x40 + 0x80)).toNat = v % 0x40 + 0x80 := toNat_byte (by omega)
  have h2 : secondOfFour (UInt8.ofNat (v / 262144 % 0x08 + 0xf0)) (UInt8.ofNat (v / 4096 % 0x40 + 0x80))
      = true :=
    secondOfFour_of_bounds (by omega) (by omega) (by omega)
  simp only [first, if_neg (not_ascii (show 128 ≤ v / 262144 % 0x08 + 0xf0 by omega) (by omega)), h2, isTail,
    fourBytes, tailBits, UInt8.le_iff_toNat_le, ha, hb, hc, hd, UInt8.reduceToNat, Bool.and_eq_true,
    decide_eq_true_eq]
  rw [if_neg (by omega), if_neg (by omega), if_pos (by omega), if_pos trivial, if_pos (by omega),
    if_pos (by omega)]
  congr 2
  omega

/-- **The bytes of a character are read as that character**, whatever follows them. -/
theorem first_utf8EncodeChar (c : Char) :
    ∃ a tail, String.utf8EncodeChar c = a :: tail ∧ ∀ rest, first a (tail ++ rest) = .char c := by
  have hc : Char.ofNat c.val.toNat = c := Char.ofNat_toNat c
  have hvalid : c.val.toNat < 0xd800 ∨ (0xdfff < c.val.toNat ∧ c.val.toNat < 0x110000) := c.valid
  unfold String.utf8EncodeChar
  by_cases h1 : c.val.toNat ≤ 0x7f
  · exact ⟨_, _, if_pos h1, fun rest => by rw [List.nil_append, first_one h1, hc]⟩
  by_cases h2 : c.val.toNat ≤ 0x7ff
  · refine ⟨_, _, by rw [if_neg h1, if_pos h2], fun rest => ?_⟩
    rw [List.singleton_append, first_two (by omega) h2, hc]
  by_cases h3 : c.val.toNat ≤ 0xffff
  · refine ⟨_, _, by rw [if_neg h1, if_neg h2, if_pos h3], fun rest => ?_⟩
    rw [List.cons_append, List.singleton_append, first_three (by omega) h3 (by omega), hc]
  · refine ⟨_, _, by rw [if_neg h1, if_neg h2, if_neg h3], fun rest => ?_⟩
    rw [List.cons_append, List.cons_append, List.singleton_append, first_four (by omega) (by omega), hc]

/-! ## A whole text -/

theorem read_utf8EncodeChar (c : Char) (rest : List UInt8) :
    read (String.utf8EncodeChar c ++ rest) = .char c :: read rest := by
  obtain ⟨a, tail, he, hf⟩ := first_utf8EncodeChar c
  have hlen : tail.length = c.utf8Size - 1 := by
    have h := String.length_utf8EncodeChar c
    rw [he, List.length_cons] at h
    omega
  rw [he, List.cons_append, read, hf, Symbol.size, ← hlen, List.drop_left]

/-- **Reading the bytes of a text yields its characters.** -/
theorem read_encode (cs : List Char) : read (encode cs) = Symbol.ofChars cs := by
  induction cs with
  | nil => simp [encode, read, Symbol.ofChars]
  | cons c cs ih =>
    rw [encode, List.flatMap_cons, read_utf8EncodeChar]
    exact congrArg (Symbol.char c :: ·) ih

theorem read_bytes (s : String) : read (bytes s) = Symbol.ofChars s.toList := read_encode s.toList

theorem map_lossy_ofChars (cs : List Char) : (Symbol.ofChars cs).map Symbol.lossy = cs := by
  rw [Symbol.ofChars, List.map_map]
  exact List.map_id cs

theorem mapM_char?_ofChars (cs : List Char) : (Symbol.ofChars cs).mapM Symbol.char? = some cs := by
  induction cs with
  | nil => rfl
  | cons c cs ih =>
    rw [Symbol.ofChars] at ih ⊢
    rw [List.map_cons, List.mapM_cons, ih]
    rfl

theorem decode?_encode (cs : List Char) : decode? (encode cs) = some cs := by
  rw [decode?, read_encode, mapM_char?_ofChars]

/-- Only no bytes are an empty text. -/
theorem eq_nil_of_decode? {bs : List UInt8} (h : decode? bs = some []) : bs = [] := by
  cases bs with
  | nil => rfl
  | cons b bs =>
    rw [decode?, read, List.mapM_cons] at h
    obtain ⟨c, -, h⟩ := Option.bind_eq_some_iff.mp h
    obtain ⟨cs, -, h⟩ := Option.bind_eq_some_iff.mp h
    cases h

/-- The bytes of a text are read back even by a reader that replaces what it cannot read. -/
theorem lossy_bytes (s : String) : lossy (bytes s) = s := by
  rw [lossy, read_bytes, map_lossy_ofChars, String.ofList_toList]

end BookmarkSync.Text.Utf8
