import BookmarkSync.Time

/-!
# `BookmarkSync.Proofs.Time` — readings as integers

Clamped arithmetic is exact arithmetic, cut off at the two ends of 64 bits; a checked difference is the exact
one, or none at all. These lemmas say so in integers, where such facts can be compared.
-/

namespace BookmarkSync

theorem toInt_ofIntClamp (n : Int) :
    (Int64.ofIntClamp n).toInt = max Int64.minValue.toInt (min n Int64.maxValue.toInt) := by
  have hle : Int64.minValue.toInt ≤ Int64.maxValue.toInt := by decide
  by_cases hlow : Int64.minValue.toInt ≤ n
  · by_cases hhigh : n ≤ Int64.maxValue.toInt
    · rw [Int64.toInt_ofIntClamp hlow hhigh]
      omega
    · rw [Int64.ofIntClamp, dif_pos hlow, dif_neg hhigh]
      omega
  · rw [Int64.ofIntClamp, dif_neg hlow]
    omega

/-- **A duration counts for at most the largest reading.** -/
theorem Duration.toInt_clamped (d : Duration) :
    d.clamped.toInt = min (d.millis : Int) Int64.maxValue.toInt := by
  have hmin : Int64.minValue.toInt ≤ 0 := by decide
  have hmax : 0 ≤ Int64.maxValue.toInt := by decide
  rw [Duration.clamped, toInt_ofIntClamp]
  omega

/-- **A reading set back stops at the first reading**; it never passes the last one. -/
theorem Timestamp.toInt_before (t : Timestamp) (d : Duration) :
    (t.before d).toInt = max Int64.minValue.toInt (t.toInt - min (d.millis : Int) Int64.maxValue.toInt) := by
  have hhigh : t.toInt ≤ Int64.maxValue.toInt := t.toInt_le
  have hmax : 0 ≤ Int64.maxValue.toInt := by decide
  rw [Timestamp.before, Timestamp.subClamped, toInt_ofIntClamp, Duration.toInt_clamped]
  omega

namespace Timestamp

/-- **A reading set forward stops at the last reading**; it never comes to lie before where it was. -/
theorem toInt_after (t : Timestamp) (d : Duration) :
    (t.after d).toInt = min (t.toInt + min (d.millis : Int) Int64.maxValue.toInt) Int64.maxValue.toInt := by
  have hlow : Int64.minValue.toInt ≤ t.toInt := t.minValue_le_toInt
  have hmax : 0 ≤ Int64.maxValue.toInt := by decide
  have hspan : 0 ≤ min (d.millis : Int) Int64.maxValue.toInt := by omega
  rw [after, addClamped, toInt_ofIntClamp, Duration.toInt_clamped]
  exact Int.max_eq_right (Int.le_min.mpr ⟨by omega, by decide⟩)

theorem le_after (t : Timestamp) (d : Duration) : t ≤ t.after d := by
  have hhigh : t.toInt ≤ Int64.maxValue.toInt := t.toInt_le
  have hmax : 0 ≤ Int64.maxValue.toInt := by decide
  rw [Int64.le_iff_toInt_le, toInt_after]
  omega

theorem after_zero (t : Timestamp) : t.after .zero = t := by
  have hhigh : t.toInt ≤ Int64.maxValue.toInt := t.toInt_le
  have hmax : 0 ≤ Int64.maxValue.toInt := by decide
  have hzero : (Duration.zero.millis : Int) = 0 := rfl
  apply Int64.toInt.inj
  rw [toInt_after, hzero, Int.min_eq_left hmax, Int.add_zero, Int.min_eq_left hhigh]

theorem toInt_subClamped (t n : Int64) :
    (subClamped t n).toInt = max Int64.minValue.toInt (min (t.toInt - n.toInt) Int64.maxValue.toInt) :=
  toInt_ofIntClamp _

/-- A difference that fits is exact. -/
theorem toInt_sub_of_fits {a b : Int64} (hlow : Int64.minValue.toInt ≤ a.toInt - b.toInt)
    (hhigh : a.toInt - b.toInt ≤ Int64.maxValue.toInt) : (a - b).toInt = a.toInt - b.toInt := by
  have hmin : Int64.minValue.toInt = -2 ^ 63 := by decide
  have hmax : Int64.maxValue.toInt = 2 ^ 63 - 1 := by decide
  rw [Int64.toInt_sub]
  exact Int.bmod_eq_of_le (by omega) (by omega)

/-- **A checked difference is the exact one.** -/
theorem subChecked?_eq_some_iff {t n difference : Int64} :
    subChecked? t n = some difference ↔ difference.toInt = t.toInt - n.toInt := by
  unfold subChecked?
  constructor
  · intro h
    obtain ⟨⟨hlow, hhigh⟩, hsome⟩ := Option.ite_none_right_eq_some.mp h
    rw [← Option.some.inj hsome]
    exact toInt_sub_of_fits hlow hhigh
  · intro hexact
    have hlow : Int64.minValue.toInt ≤ t.toInt - n.toInt := hexact ▸ difference.minValue_le_toInt
    have hhigh : t.toInt - n.toInt ≤ Int64.maxValue.toInt := hexact ▸ difference.toInt_le
    rw [if_pos ⟨hlow, hhigh⟩, Int64.toInt.inj ((toInt_sub_of_fits hlow hhigh).trans hexact.symm)]

/-- There is none exactly if the exact one lies outside 64 bits. -/
theorem subChecked?_eq_none_iff {t n : Int64} :
    subChecked? t n = none ↔
      t.toInt - n.toInt < Int64.minValue.toInt ∨ Int64.maxValue.toInt < t.toInt - n.toInt := by
  simp only [subChecked?, ite_eq_right_iff, reduceCtorEq, imp_false]
  omega

theorem toInt_max (a b : Timestamp) : (max a b).toInt = max a.toInt b.toInt := by
  have hmax : max a b = if a ≤ b then b else a := rfl
  rw [hmax]
  split
  · next h =>
    have := Int64.le_iff_toInt_le.mp h
    omega
  · next h =>
    have := mt Int64.le_iff_toInt_le.mpr h
    omega

theorem le_max_right (a b : Timestamp) : b ≤ max a b := by
  rw [Int64.le_iff_toInt_le, toInt_max]
  omega

theorem max_max_right (a b : Timestamp) : max (max a b) b = max a b := by
  apply Int64.toInt.inj
  simp only [toInt_max]
  omega

end Timestamp

end BookmarkSync
