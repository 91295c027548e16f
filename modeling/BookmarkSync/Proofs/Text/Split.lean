import BookmarkSync.Text.Ranges
import BookmarkSync.Text.Split

/-!
# `BookmarkSync.Proofs.Text.Split` — cutting texts and joining them

Cutting what was joined with a separator gives the cuts of the pieces (`splitWhere_joinWith`). So the pieces
come back when none of them has the separator in it, and are cut further otherwise.
-/

namespace BookmarkSync.Text

variable {p : Char → Bool}

theorem splitWhere_ne_nil (cs : List Char) : splitWhere p cs ≠ [] := by
  cases cs with
  | nil => exact List.cons_ne_nil _ _
  | cons c rest =>
    rw [splitWhere]
    split
    · exact List.cons_ne_nil _ _
    · split <;> exact List.cons_ne_nil _ _

theorem splitWhere_of_none {cs : List Char} (h : ∀ c ∈ cs, p c = false) : splitWhere p cs = [cs] := by
  induction cs with
  | nil => rfl
  | cons c cs ih =>
    have hrest := ih fun d hd => h d (.tail _ hd)
    simp only [splitWhere, h c (.head _), hrest, Bool.false_eq_true, if_false]

theorem splitWhere_append {sep : Char} (hsep : p sep = true) (cs rest : List Char) :
    splitWhere p (cs ++ sep :: rest) = splitWhere p cs ++ splitWhere p rest := by
  induction cs with
  | nil => simp only [List.nil_append, splitWhere, hsep, if_true, List.singleton_append]
  | cons c cs ih =>
    simp only [List.cons_append, splitWhere, ih]
    split
    · rfl
    · obtain ⟨piece, pieces, hpieces⟩ := List.exists_cons_of_ne_nil (splitWhere_ne_nil (p := p) cs)
      rw [hpieces]
      rfl

/-- What is between the separators has none in it. -/
theorem of_mem_splitWhere {cs piece : List Char} (h : piece ∈ splitWhere p cs) : ∀ c ∈ piece, p c = false := by
  induction cs generalizing piece with
  | nil =>
    rw [List.mem_singleton.mp h]
    exact nofun
  | cons c cs ih =>
    rw [splitWhere] at h
    split at h
    · rcases List.mem_cons.mp h with rfl | h
      · exact nofun
      · exact ih h
    · next hc =>
      have hfirst : p c = false := Bool.eq_false_iff.mpr hc
      -- the first piece grows by the character, and the later ones stay as they are
      split at h
      · next first pieces heq =>
        rw [heq] at ih
        rcases List.mem_cons.mp h with rfl | h
        · intro d hd
          rcases List.mem_cons.mp hd with rfl | hd
          · exact hfirst
          · exact ih (.head _) d hd
        · exact ih (.tail _ h)
      · intro d hd
        obtain rfl := List.mem_singleton.mp h
        exact List.mem_singleton.mp hd ▸ hfirst

/-- Cutting takes the separators away and nothing else. -/
theorem flatten_splitWhere (cs : List Char) : (splitWhere p cs).flatten = cs.filter fun c => !p c := by
  induction cs with
  | nil => rfl
  | cons c cs ih =>
    rw [splitWhere]
    cases hc : p c with
    | true =>
      rw [if_pos rfl, List.filter_cons_of_neg (by simp [hc]), ← ih]
      rfl
    | false =>
      obtain ⟨piece, pieces, hpieces⟩ := List.exists_cons_of_ne_nil (splitWhere_ne_nil (p := p) cs)
      rw [hpieces] at ih ⊢
      rw [if_neg Bool.false_ne_true, List.filter_cons_of_pos (by simp [hc]), ← ih]
      rfl

/-- Joined with a separator, pieces hold the separator and their own characters. -/
theorem mem_joinWith {sep : List Char} {pieces : List (List Char)} {c : Char} (h : c ∈ joinWith sep pieces) :
    c ∈ sep ∨ ∃ piece ∈ pieces, c ∈ piece := by
  fun_induction joinWith sep pieces with
  | case1 => cases h
  | case2 piece => exact .inr ⟨piece, .head _, h⟩
  | case3 piece pieces _ ih =>
    rcases List.mem_append.mp h with h | h
    · rcases List.mem_append.mp h with h | h
      · exact .inr ⟨piece, .head _, h⟩
      · exact .inl h
    · rcases ih h with h | ⟨other, hmem, h⟩
      · exact .inl h
      · exact .inr ⟨other, .tail _ hmem, h⟩

/-- **Cutting what was joined cuts the pieces.** -/
theorem splitWhere_joinWith {sep : Char} (hsep : p sep = true) {pieces : List (List Char)} (hne : pieces ≠ []) :
    splitWhere p (joinWith [sep] pieces) = pieces.flatMap (splitWhere p) := by
  fun_induction joinWith [sep] pieces with
  | case1 => exact absurd rfl hne
  | case2 piece => rw [List.flatMap_singleton]
  | case3 piece pieces hrest ih =>
    have hpieces : pieces ≠ [] := fun hnil => hrest hnil
    rw [List.append_assoc, List.singleton_append, splitWhere_append hsep, ih hpieces, List.flatMap_cons]

/-- Pieces without the separator come back. -/
theorem splitWhere_joinWith_of_none {sep : Char} (hsep : p sep = true) {pieces : List (List Char)}
    (hne : pieces ≠ []) (h : ∀ piece ∈ pieces, ∀ c ∈ piece, p c = false) :
    splitWhere p (joinWith [sep] pieces) = pieces := by
  rw [splitWhere_joinWith hsep hne, List.flatMap_def,
    List.map_congr_left fun piece hpiece => splitWhere_of_none (h piece hpiece), ← List.flatMap_def,
    List.flatMap_singleton']

/-- Where nothing is to be taken away, the text stays as it is. -/
theorem strip_of_none {cs : List Char} (h : ∀ c ∈ cs, p c = false) : strip p cs = cs := by
  have hkept {ds : List Char} (hds : ∀ c ∈ ds, p c = false) : ds.dropWhile p = ds := by
    cases ds with
    | nil => rfl
    | cons d ds => exact List.dropWhile_cons_of_neg (Bool.eq_false_iff.mp (hds d (.head _)))
  rw [strip, hkept h, hkept fun c hc => h c (List.mem_reverse.mp hc), List.reverse_reverse]

end BookmarkSync.Text
