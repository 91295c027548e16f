import BookmarkSync.Store.KeyValue

/-!
# `BookmarkSync.Proofs.Store.KeyValue` — what a write leaves behind

A write of several entries either is refused and changes nothing, or puts every entry in place. The later
of two entries of one key counts, and the entries of other keys stay.
-/

namespace BookmarkSync.KeyValue

variable {key x : String} {value : String} {entries : List (String × String)}

/-! ## Setting entries -/

/-- The text under `x` among entries. -/
def textOf (x : String) (entries : List (String × String)) : Option String :=
  (entries.find? (·.1 == x)).map Prod.snd

/-- The first entry of a key is the one that counts. -/
theorem textOf_cons_self (x value : String) (entries : List (String × String)) :
    textOf x ((x, value) :: entries) = some value := by
  rw [textOf, List.find?_cons_of_pos (by simp)]
  rfl

theorem textOf_cons_of_ne (h : x ≠ key) (value : String) (entries : List (String × String)) :
    textOf x ((key, value) :: entries) = textOf x entries := by
  rw [textOf, List.find?_cons_of_neg (by simpa using h.symm), textOf]

/-- Setting an entry sets it, wherever its place in the order of the keys is. -/
theorem textOf_insert_self (key value : String) (entries : List (String × String)) :
    textOf key (insert key value entries) = some value := by
  induction entries with
  | nil => exact textOf_cons_self key value []
  | cons e rest ih =>
    obtain ⟨k, v⟩ := e
    rw [insert]
    split
    · exact textOf_cons_self key value _
    · split
      · exact textOf_cons_self key value _
      · next hne => rw [textOf_cons_of_ne hne, ih]

/-- Setting an entry leaves the texts under all other keys. -/
theorem textOf_insert_of_ne (h : x ≠ key) (value : String) (entries : List (String × String)) :
    textOf x (insert key value entries) = textOf x entries := by
  induction entries with
  | nil => exact textOf_cons_of_ne h value []
  | cons e rest ih =>
    obtain ⟨k, v⟩ := e
    rw [insert]
    -- the new entry stands before the first one, in its place, or further on
    split
    · exact textOf_cons_of_ne h value _
    · split
      · next hk => rw [textOf_cons_of_ne h, textOf_cons_of_ne (hk ▸ h)]
      · by_cases hx : x = k
        · rw [hx, textOf_cons_self, textOf_cons_self]
        · rw [textOf_cons_of_ne hx, textOf_cons_of_ne hx, ih]

/-! ## Writing -/

theorem lookup_eq_textOf (kv : KeyValue) (x : String) : kv.lookup x = textOf x kv.entries := rfl

/-- **A write is refused as a whole or carried out as a whole**: refused when some key cannot be written,
wherever it stands among the entries. -/
theorem putAll_cases (kv : KeyValue) (new : List (String × String)) :
    (∃ f, kv.putAll new = (.error (.backend f), kv) ∧ ∃ e ∈ new, kv.writeFault? e.1 = some f) ∨
    (kv.putAll new = (.ok (), { kv with entries := insertAll new kv.entries }) ∧
      ∀ e ∈ new, kv.writeFault? e.1 = none) := by
  cases hfault : new.findSome? fun e => kv.writeFault? e.1 with
  | some f =>
    refine .inl ⟨f, ?_, List.exists_of_findSome?_eq_some hfault⟩
    rw [putAll, hfault]
  | none =>
    refine .inr ⟨?_, List.findSome?_eq_none_iff.mp hfault⟩
    rw [putAll, hfault]

/-- One key that cannot be written is enough for the whole write to be refused. -/
theorem putAll_refused {kv : KeyValue} {new : List (String × String)} {e : String × String} (he : e ∈ new)
    (hfault : kv.writeFault? e.1 ≠ none) : ∃ f, kv.putAll new = (.error (.backend f), kv) := by
  rcases putAll_cases kv new with ⟨f, hput, -⟩ | ⟨-, hnone⟩
  · exact ⟨f, hput⟩
  · exact absurd (hnone e he) hfault

end BookmarkSync.KeyValue
