import BookmarkSync.Text.Lowercase

/-!
# `BookmarkSync.Proofs.Text.InContext` — lower case inside of a text

A part of a text is lower-cased as it is by itself, but for its capital sigmas: which form one gets can depend
on letters outside of the part. It does not if there are letters enough around the sigma within the part
(`isSettled`). Then the part is found again wherever it stands (`infix_lowercase`); otherwise there is a text
in which it stands and is not found (`exists_not_infix_lowercase`).
-/

namespace BookmarkSync.Text

/-- Lower cases a character between what precedes it, nearest character first, and what follows it. -/
def lowerAt (before : List Char) (c : Char) (after : List Char) : List Char :=
  if c = 'Σ' then
    if startsCased before && !startsCased after then ['ς'] else ['σ']
  else lowerChar c

/-- Lower cases a part of a text between what precedes it and what follows it. -/
def lowercaseIn (before after : List Char) : List Char → List Char
  | [] => []
  | c :: rest => lowerAt before c (rest ++ after) ++ lowercaseIn (c :: before) after rest

/-- Whether a capital sigma gets the same form whatever more stands around. -/
def isSigmaSettled (before after : List Char) : Bool :=
  (!before.all caseIgnorable.hasChar || startsCased after) &&
    (!after.all caseIgnorable.hasChar || !startsCased before)

def isSettledFrom (before : List Char) : List Char → Bool
  | [] => true
  | c :: rest => (c != 'Σ' || isSigmaSettled before rest) && isSettledFrom (c :: before) rest

/-- Whether every capital sigma of the text gets the same form whatever stands around the text. -/
def isSettled (s : String) : Bool := isSettledFrom [] s.toList

variable {before after xs us vs : List Char}

/-! ## Parts -/

theorem lowercaseFrom_eq (before xs : List Char) : lowercaseFrom before xs = lowercaseIn before [] xs := by
  induction xs generalizing before with
  | nil => rfl
  | cons c rest ih =>
    rw [lowercaseFrom, lowercaseIn, List.append_nil, ih]
    rfl

theorem toList_lowercase (s : String) : (lowercase s).toList = lowercaseIn [] [] s.toList := by
  rw [lowercase, String.toList_ofList, lowercaseFrom_eq]

theorem lowercaseIn_append (before after xs ys : List Char) : lowercaseIn before after (xs ++ ys)
    = lowercaseIn before (ys ++ after) xs ++ lowercaseIn (xs.reverse ++ before) after ys := by
  induction xs generalizing before with
  | nil => rfl
  | cons c xs ih =>
    rw [List.cons_append, lowercaseIn, lowercaseIn, ih, List.append_assoc, List.append_assoc, List.reverse_cons,
      List.append_assoc]
    rfl

/-- However much a part grows when it is lower-cased does not depend on what is around. -/
theorem length_lowercaseIn (before after before' after' xs : List Char) :
    (lowercaseIn before after xs).length = (lowercaseIn before' after' xs).length := by
  have hchar (before after before' after' : List Char) (c : Char) :
      (lowerAt before c after).length = (lowerAt before' c after').length := by
    unfold lowerAt
    split
    · split <;> split <;> rfl
    · rfl
  induction xs generalizing before before' with
  | nil => rfl
  | cons c rest ih =>
    rw [lowercaseIn, lowercaseIn, List.length_append, List.length_append, ih (c :: before) (c :: before'),
      hchar before (rest ++ after) before' (rest ++ after') c]

/-! ## Letters around -/

theorem startsCased_append (xs ys : List Char) :
    startsCased (xs ++ ys) = if xs.all caseIgnorable.hasChar then startsCased ys else startsCased xs := by
  induction xs with
  | nil => rfl
  | cons c xs ih =>
    by_cases hc : caseIgnorable.hasChar c = true
    · have hskip (zs : List Char) : startsCased (c :: zs) = startsCased zs := by
        rw [startsCased, startsCased, List.dropWhile_cons_of_pos hc]
      rw [List.cons_append, hskip, hskip, ih, List.all_cons, hc, Bool.true_and]
    · have hstop (zs : List Char) : startsCased (c :: zs) = cased.hasChar c := by
        rw [startsCased, List.dropWhile_cons_of_neg hc]
      rw [List.cons_append, hstop, hstop, List.all_cons, Bool.eq_false_iff.mpr hc, Bool.false_and]
      rfl

theorem startsCased_of_ignorable (h : xs.all caseIgnorable.hasChar = true) : startsCased xs = false := by
  have happend := startsCased_append xs []
  rwa [if_pos h, List.append_nil] at happend

theorem lowerAt_of_settled (h : isSigmaSettled before after = true) (c : Char) (left right : List Char) :
    lowerAt (before ++ left) c (after ++ right) = lowerAt before c after := by
  have hsame : (startsCased (before ++ left) && !startsCased (after ++ right))
      = (startsCased before && !startsCased after) := by
    obtain ⟨hbefore, hafter⟩ := Bool.and_eq_true_iff.mp h
    rw [startsCased_append, startsCased_append]
    cases hb : before.all caseIgnorable.hasChar with
    | true =>
      -- whatever letter comes first outside, another letter follows within
      have hcased : startsCased after = true := by simpa only [hb, Bool.not_true, Bool.false_or] using hbefore
      have ha : after.all caseIgnorable.hasChar = false := by
        refine Bool.eq_false_iff.mpr fun ha => ?_
        rw [startsCased_of_ignorable ha] at hcased
        cases hcased
      simp only [ha, hcased, Bool.false_eq_true, if_false, if_true, Bool.not_true, Bool.and_false]
    | false =>
      cases ha : after.all caseIgnorable.hasChar with
      | true =>
        have hnot : startsCased before = false := by
          simpa only [ha, Bool.not_true, Bool.false_or, Bool.not_eq_true'] using hafter
        simp only [hnot, Bool.false_eq_true, if_false, Bool.false_and]
      | false => simp only [Bool.false_eq_true, if_false]
  unfold lowerAt
  rw [hsame]

/-! ## Parts that are settled -/

theorem lowercaseIn_of_settled (h : isSettledFrom before xs = true) (left right : List Char) :
    lowercaseIn (before ++ left) right xs = lowercaseIn before [] xs := by
  induction xs generalizing before with
  | nil => rfl
  | cons c rest ih =>
    rw [isSettledFrom, Bool.and_eq_true, Bool.or_eq_true] at h
    obtain ⟨hc, hrest⟩ := h
    have hlower : lowerAt (before ++ left) c (rest ++ right) = lowerAt before c rest := by
      rcases hc with hc | hc
      · rw [lowerAt, lowerAt, if_neg (bne_iff_ne.mp hc), if_neg (bne_iff_ne.mp hc)]
      · exact lowerAt_of_settled hc c left right
    rw [lowercaseIn, lowercaseIn, hlower, List.append_nil, ← List.cons_append, ih hrest]

/-- **A settled text is found in lower case wherever it stands.** -/
theorem infix_lowercase {s t : String} (hsettled : isSettled s = true) (h : s.toList <:+: t.toList) :
    (lowercase s).toList <:+: (lowercase t).toList := by
  obtain ⟨left, right, htext⟩ := h
  rw [toList_lowercase, toList_lowercase, ← htext, lowercaseIn_append, lowercaseIn_append]
  have hpart : lowercaseIn (left.reverse ++ []) (right ++ []) s.toList = lowercaseIn [] [] s.toList := by
    rw [List.append_nil]
    exact lowercaseIn_of_settled hsettled left.reverse (right ++ [])
  rw [hpart]
  exact List.infix_append _ _ _

/-- Only a capital sigma can keep a text from being settled. -/
theorem isSettledFrom_of_not_sigma (h : 'Σ' ∉ xs) : isSettledFrom before xs = true := by
  induction xs generalizing before with
  | nil => rfl
  | cons c rest ih =>
    have hc : (c != 'Σ') = true := bne_iff_ne.mpr fun heq => h (heq ▸ .head _)
    rw [isSettledFrom, hc, ih fun hrest => h (.tail _ hrest)]
    rfl

/-! ## Parts that are not settled -/

/-- The sigma that is not settled. -/
theorem exists_sigma (h : isSettledFrom before xs = false) :
    ∃ us vs, xs = us ++ 'Σ' :: vs ∧ isSigmaSettled (us.reverse ++ before) vs = false := by
  induction xs generalizing before with
  | nil => cases h
  | cons c rest ih =>
    rw [isSettledFrom, Bool.and_eq_false_iff, Bool.or_eq_false_iff] at h
    rcases h with ⟨hc, hsigma⟩ | hrest
    · obtain rfl : c = 'Σ' := by simpa using hc
      exact ⟨[], rest, rfl, hsigma⟩
    · obtain ⟨us, vs, rfl, hsigma⟩ := ih hrest
      refine ⟨c :: us, vs, rfl, ?_⟩
      rwa [List.reverse_cons, List.append_assoc, List.singleton_append]

/-- Where a sigma gets another form, the part is another one in lower case. -/
theorem lowercaseIn_ne {before after before' after' : List Char}
    (h : (startsCased (us.reverse ++ before) && !startsCased (vs ++ after))
      ≠ (startsCased (us.reverse ++ before') && !startsCased (vs ++ after'))) :
    lowercaseIn before after (us ++ 'Σ' :: vs) ≠ lowercaseIn before' after' (us ++ 'Σ' :: vs) := by
  intro heq
  rw [lowercaseIn_append, lowercaseIn_append, lowercaseIn, lowercaseIn] at heq
  have hrest := (List.append_inj heq (length_lowercaseIn _ _ _ _ us)).2
  rw [lowerAt, lowerAt, if_pos rfl, if_pos rfl] at hrest
  generalize (startsCased (us.reverse ++ before) && !startsCased (vs ++ after)) = final at h hrest
  generalize (startsCased (us.reverse ++ before') && !startsCased (vs ++ after')) = final' at h hrest
  cases final <;> cases final'
  · exact h rfl
  · exact absurd (List.cons.inj hrest).1 (by decide)
  · exact absurd (List.cons.inj hrest).1 (by decide)
  · exact h rfl

section

variable {α : Type} {as bs : List α} {a : α}

/-- A list that stands in one that is longer by its head is the rest of it, or has the same head. -/
theorem head?_of_infix_cons (hlength : as.length = bs.length) (hne : as ≠ bs) (h : as <:+: a :: bs) :
    as.head? = some a := by
  rcases List.infix_cons_iff.mp h with hprefix | hfound
  · cases as with
    | nil => exact absurd (List.length_eq_zero_iff.mp hlength.symm).symm hne
    | cons a' as => rw [(List.cons_prefix_cons.mp hprefix).1, List.head?_cons]
  · exact absurd (hfound.eq_of_length hlength) hne

theorem getLast?_of_infix_concat (hlength : as.length = bs.length) (hne : as ≠ bs) (h : as <:+: bs ++ [a]) :
    as.getLast? = some a := by
  rw [← List.reverse_infix, List.reverse_append, List.reverse_singleton, List.singleton_append] at h
  rw [← List.head?_reverse]
  refine head?_of_infix_cons ?_ (fun heq => hne (List.reverse_inj.mp heq)) h
  rw [List.length_reverse, List.length_reverse, hlength]

end

/-- Two letters with case that are lower-cased as they are; one of them is not at the end of a text that is
looked for. -/
theorem exists_letter (c? : Option Char) : ∃ c, c? ≠ some c ∧ startsCased [c] = true ∧
    ∀ before after, lowerAt before c after = [c] := by
  have hlower {c : Char} (hsigma : c ≠ 'Σ') (hsame : lowerChar c = [c]) (before after : List Char) :
      lowerAt before c after = [c] := by
    rw [lowerAt, if_neg hsigma, hsame]
  by_cases h : c? = some 'a'
  · exact ⟨'b', by rw [h]; decide, by decide +kernel, hlower (by decide) (by decide +kernel)⟩
  · exact ⟨'a', h, by decide +kernel, hlower (by decide) (by decide +kernel)⟩

/-- **A text that is not settled stands in a text where it is not found in lower case.** -/
theorem exists_not_infix_lowercase {s : String} (h : isSettled s = false) :
    ∃ t : String, s.toList <:+: t.toList ∧ ¬ (lowercase s).toList <:+: (lowercase t).toList := by
  obtain ⟨us, vs, hs, hsigma⟩ := exists_sigma h
  rw [List.append_nil, isSigmaSettled, Bool.and_eq_false_iff, Bool.or_eq_false_iff,
    Bool.or_eq_false_iff] at hsigma
  rcases hsigma with ⟨hbefore, hafter⟩ | ⟨hafter, hbefore⟩
  · -- a letter in front of the text makes the sigma final
    rw [Bool.not_eq_false'] at hbefore
    obtain ⟨c, hc, hcased, hlower⟩ := exists_letter (lowercaseIn [] [] s.toList).head?
    have hother : lowercaseIn [] [] s.toList ≠ lowercaseIn [c] [] s.toList := by
      rw [hs]
      refine lowercaseIn_ne ?_
      rw [List.append_nil, List.append_nil, startsCased_append, if_pos hbefore,
        startsCased_of_ignorable hbefore, hcased, hafter]
      decide
    refine ⟨String.ofList (c :: s.toList), ⟨[c], [], by simp⟩, fun hfound => hc ?_⟩
    rw [toList_lowercase, toList_lowercase, String.toList_ofList, lowercaseIn, hlower,
      List.singleton_append] at hfound
    exact head?_of_infix_cons (length_lowercaseIn _ _ _ _ _) hother hfound
  · -- a letter behind the text keeps the sigma from being final
    rw [Bool.not_eq_false'] at hbefore hafter
    obtain ⟨c, hc, hcased, hlower⟩ := exists_letter (lowercaseIn [] [] s.toList).getLast?
    have hother : lowercaseIn [] [] s.toList ≠ lowercaseIn [] [c] s.toList := by
      rw [hs]
      refine lowercaseIn_ne ?_
      rw [List.append_nil, List.append_nil, startsCased_append vs, if_pos hafter,
        startsCased_of_ignorable hafter, hcased, hbefore]
      decide
    refine ⟨String.ofList (s.toList ++ [c]), ⟨[], [c], by simp⟩, fun hfound => hc ?_⟩
    rw [toList_lowercase, toList_lowercase, String.toList_ofList, lowercaseIn_append, List.append_nil,
      lowercaseIn, lowercaseIn, hlower, List.append_nil] at hfound
    exact getLast?_of_infix_concat (length_lowercaseIn _ _ _ _ _) hother hfound

end BookmarkSync.Text
