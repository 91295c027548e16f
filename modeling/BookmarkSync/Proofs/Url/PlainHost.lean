import BookmarkSync.Proofs.Url.Reading

/-!
# `BookmarkSync.Proofs.Url.PlainHost` — hosts that are read as they are written

A host whose labels consist of lower-case letters of ASCII is a domain in ASCII form already: nothing is decoded
in it, and it is no address. So the server of a URL with such a host is read back from its text
(`parseAuthority_authorityText`).
-/

namespace BookmarkSync

open Text Text.Percent

namespace Url

/-- Labels of a domain that consist of lower-case letters. -/
structure LetterLabels (labels : List (List Char)) : Prop where
  nonempty : labels ≠ []
  labelsNonempty : ∀ l ∈ labels, l ≠ []
  letters : ∀ l ∈ labels, ∀ c ∈ l, c.isLower = true

/-- The code points of the letters a to z. -/
theorem toNat_of_isLower {c : Char} (h : c.isLower = true) : 97 ≤ c.toNat ∧ c.toNat ≤ 122 := by
  delta Char.isLower at h
  rw [Bool.and_eq_true, decide_eq_true_eq, decide_eq_true_eq, ge_iff_le, UInt32.le_iff_toNat_le,
    UInt32.le_iff_toNat_le] at h
  exact h

/-- A lower-case letter is none of the characters that have other codes. -/
theorem not_mem_of_isLower {c : Char} (h : c.isLower = true) {cs : List Char}
    (hcs : ∀ d ∈ cs, d.toNat < 97 ∨ 122 < d.toNat) : c ∉ cs := by
  intro hmem
  have hcode := hcs c hmem
  have hbounds := toNat_of_isLower h
  omega

/-! ## Labels -/

namespace Domain

section

variable {c : Char} (h : c.isLower = true)

include h

/-- Letters from a to z are ASCII, are not forbidden in a domain, stay as they are in lower case, are no marks
and are written from left to right. The tables of Unicode are gone through once for all of them. -/
theorem isAscii_of_isLower : isAscii c = true := by
  have hbounds := toNat_of_isLower h
  exact decide_eq_true (by omega)

theorem toLower_of_isLower : c.toLower = c := by
  have hbounds := toNat_of_isLower h
  refine dif_neg ?_
  rintro ⟨-, hupper⟩
  have hcode : c.toNat ≤ 90 := UInt32.le_iff_toNat_le.mp hupper
  omega

theorem not_isForbidden_of_isLower : isForbidden c = false := by
  have hbounds := toNat_of_isLower h
  have hsigns : c ∉ "%#/:<>?@[\\]^|".toList :=
    not_mem_of_isLower h (List.all_iff_forall_prop.mp (by decide))
  rw [isForbidden, decide_eq_false (by omega), decide_eq_false (by omega), decide_eq_false hsigns]
  rfl

theorem not_isMark_of_isLower : marks.hasChar c = false := by
  have hbounds := toNat_of_isLower h
  have hmarks : ∀ r ∈ marks, 122 < r.1 := by decide +kernel
  rw [Ranges.hasChar, Ranges.has, List.any_eq_false]
  intro r hr
  have hfirst := hmarks r hr
  simp only [Bool.and_eq_true, decide_eq_true_eq]
  omega

/-- No range of the table of directions has a letter from a to z, and what it does not have goes to the right.
-/
theorem direction_of_isLower : Direction.ofChar c = .left := by
  have hbounds := toNat_of_isLower h
  have hranges : ∀ r ∈ Direction.ranges, 122 < r.1 ∨ r.2.1 < 97 := by decide +kernel
  have hnone : Direction.ranges.find? (fun r => decide (r.1 ≤ c.toNat) && decide (c.toNat ≤ r.2.1)) = none := by
    rw [List.find?_eq_none]
    intro r hr
    have hfar := hranges r hr
    simp only [Bool.and_eq_true, decide_eq_true_eq]
    omega
  rw [Direction.ofChar, hnone]

end

variable {l : List Char} (h : ∀ c ∈ l, c.isLower = true)

include h

/-- A label of such letters has no hyphen, so it is not taken for an encoded one. -/
theorem label?_of_letters : label? l = some l := by
  have hmark : punycodeMark.isPrefixOf l = false := by
    rw [Bool.eq_false_iff]
    intro hprefix
    have hdash : '-' ∈ l := (List.isPrefixOf_iff_prefix.mp hprefix).subset (by decide)
    exact absurd (h '-' hdash) (by decide)
  rw [label?, hmark]
  rfl

/-- Such a label has nothing that could be wrong with it. -/
theorem isWellFormed_of_letters : isWellFormed l = true := by
  have hforbidden : l.any isForbidden = false :=
    List.any_eq_false.mpr fun c hc => Bool.eq_false_iff.mp (not_isForbidden_of_isLower (h c hc))
  have hmark : l.head?.any marks.hasChar = false := by
    cases l with
    | nil => rfl
    | cons c l => exact not_isMark_of_isLower (h c (.head _))
  -- joiners are checked against what stands before them, so the induction is over any beginning
  have hjoiners (before : List Char) : joinersAllowed before l = true := by
    clear hforbidden hmark
    induction l generalizing before with
    | nil => rfl
    | cons c l ih =>
      have hbounds := toNat_of_isLower (h c (.head _))
      have hno : isJoiner c = false := by
        rw [isJoiner, decide_eq_false (by omega), decide_eq_false (by omega)]
        rfl
      rw [joinersAllowed, hno, ih fun d hd => h d (.tail _ hd)]
      rfl
  rw [isWellFormed, hforbidden, hmark, hjoiners]
  rfl

/-- It is ASCII already, so it needs no encoding. -/
theorem encodeLabel?_of_letters : encodeLabel? l = some l :=
  if_pos (List.all_eq_true.mpr fun c hc => isAscii_of_isLower (h c hc))

end Domain

namespace Ipv4

variable {c : Char} (h : c.isLower = true)

include h

/-- As a digit a letter is worth ten at least. -/
theorem digitValue_of_isLower : 10 ≤ digitValue c := by
  have hbounds := toNat_of_isLower h
  have hall : ∀ n < 123, 97 ≤ n → 10 ≤ digitValue (Char.ofNat n) := by decide
  have hc := hall c.toNat (by omega) hbounds.1
  rwa [Char.ofNat_toNat] at hc

theorem not_isDigit_of_isLower : c.isDigit = false := by
  have hbounds := toNat_of_isLower h
  have hall : ∀ n < 123, 97 ≤ n → (Char.ofNat n).isDigit = false := by decide
  have hc := hall c.toNat (by omega) hbounds.1
  rwa [Char.ofNat_toNat] at hc

end Ipv4

/-! ## Whole hosts -/

namespace LetterLabels

variable {labels : List (List Char)} (h : LetterLabels labels)

include h

/-- The labels are joined with points, so there are only points and letters. -/
theorem isLower_of_mem {c : Char} (hc : c ∈ joinWith ['.'] labels) : c = '.' ∨ c.isLower = true := by
  rcases mem_joinWith hc with hc | ⟨l, hl, hc⟩
  · exact .inl (List.mem_singleton.mp hc)
  · exact .inr (h.letters l hl c hc)

/-- The labels come back when the domain is cut at its points. -/
theorem split : splitWhere (fun c => decide (c = '.')) (joinWith ['.'] labels) = labels := by
  refine splitWhere_joinWith_of_none rfl h.nonempty fun l hl c hc => ?_
  refine decide_eq_false ?_
  rintro rfl
  exact absurd (h.letters l hl '.' hc) (by decide)

/-- Percent-decoding leaves points and letters alone. -/
theorem isUnreserved_of_mem {c : Char} (hc : c ∈ joinWith ['.'] labels) : isUnreserved c = true := by
  rcases h.isLower_of_mem hc with rfl | hc
  · decide
  · have halphanum : c.isAlphanum = true := by
      delta Char.isAlphanum Char.isAlpha
      rw [hc, Bool.or_true, Bool.true_or]
    rw [isUnreserved, halphanum]
    rfl

/-- Such a domain can be the host of a URL. -/
theorem isHostText : IsHostText (joinWith ['.'] labels) where
  nonempty hnil := by
    have hsplit := h.split
    rw [hnil] at hsplit
    exact h.labelsNonempty [] (hsplit ▸ .head _) rfl
  chars c hc := isHostChar_of_isComponentChar (by rw [isComponentChar, h.isUnreserved_of_mem hc, Bool.true_or])

/-- The host is in ASCII form. -/
theorem toAscii?_eq : Domain.toAscii? (decodeText (joinWith ['.'] labels)) = some (joinWith ['.'] labels) := by
  have hdecode : decodeText (joinWith ['.'] labels) = Utf8.encode (joinWith ['.'] labels) := by
    have hkept := decode_encode (joinWith ['.'] labels)
    rwa [encode_eq_self fun c hc => h.isUnreserved_of_mem hc] at hkept
  -- every step of the conversion leaves lower-case letters as they are
  have hplain : Domain.plain? (joinWith ['.'] labels) = some (joinWith ['.'] labels) := by
    have hascii : (joinWith ['.'] labels).all Domain.isAscii = true := by
      refine List.all_eq_true.mpr fun c hc => ?_
      rcases h.isLower_of_mem hc with rfl | hc
      · decide
      · exact Domain.isAscii_of_isLower hc
    have hlower : (joinWith ['.'] labels).map Char.toLower = joinWith ['.'] labels := by
      rw [List.map_congr_left fun c hc => ?_, List.map_id]
      rcases h.isLower_of_mem hc with rfl | hc
      · decide
      · exact Domain.toLower_of_isLower hc
    rw [Domain.plain?, if_pos hascii, hlower]
  have hlabels : labels.mapM Domain.label? = some (labels.map id) :=
    mapM_eq_pure fun l hl => Domain.label?_of_letters (h.letters l hl)
  have hencoded : labels.mapM Domain.encodeLabel? = some (labels.map id) :=
    mapM_eq_pure fun l hl => Domain.encodeLabel?_of_letters (h.letters l hl)
  have hwell : labels.all Domain.isWellFormed = true :=
    List.all_eq_true.mpr fun l hl => Domain.isWellFormed_of_letters (h.letters l hl)
  have hturns : labels.any (fun l => l.any Domain.turns) = false := by
    refine List.any_eq_false.mpr fun l hl => Bool.eq_false_iff.mp (List.any_eq_false.mpr fun c hc => ?_)
    rw [Domain.turns, Domain.direction_of_isLower (h.letters l hl c hc)]
    decide
  rw [List.map_id] at hlabels hencoded
  simp only [Domain.toAscii?, hdecode, Utf8.decode?_encode, hplain, h.split, hlabels, hwell, hturns, hencoded,
    Option.bind_eq_bind, Option.bind_some, Bool.not_true, Bool.false_and, Bool.false_eq_true, if_false,
    Option.pure_def]

/-- A label of letters is no number. -/
theorem not_endsInNumber : Ipv4.endsInNumber (joinWith ['.'] labels) = false := by
  have hparts : Ipv4.parts (joinWith ['.'] labels) = labels := by
    have hlast : labels.getLast? ≠ some [] := fun hnil => h.labelsNonempty [] (List.mem_of_getLast? hnil) rfl
    simp only [Ipv4.parts, h.split, decide_eq_false hlast, Bool.and_false, Bool.false_eq_true, if_false]
  rw [Ipv4.endsInNumber, hparts]
  -- only the last label decides, and its first letter is no digit
  cases hlast : labels.getLast? with
  | none => rfl
  | some l =>
    have hl := List.mem_of_getLast? hlast
    obtain ⟨c, rest, rfl⟩ := List.exists_cons_of_ne_nil (h.labelsNonempty l hl)
    have hc : c.isLower = true := h.letters _ hl c (.head _)
    have hnumber : Ipv4.number? (c :: rest) = none := by
      have hbase : Ipv4.ofDigits? 10 (c :: rest) = none := by
        rw [Ipv4.ofDigits?, List.all_cons, decide_eq_false (Nat.not_lt.mpr (Ipv4.digitValue_of_isLower hc))]
        rfl
      unfold Ipv4.number?
      split
      · rfl
      · next heq => exact absurd ((List.cons.inj heq).1 ▸ hc) (by decide)
      · next heq => exact absurd ((List.cons.inj heq).1 ▸ hc) (by decide)
      · next heq => exact absurd ((List.cons.inj heq).1 ▸ hc) (by decide)
      · exact hbase
    simp only [hnumber, List.all_cons, Ipv4.not_isDigit_of_isLower hc, Bool.false_and, Bool.and_false,
      Option.isSome_none, Bool.or_false]

/-- The host is read as the domain that it is written as. -/
theorem parse_eq :
    Host.parse (joinWith ['.'] labels) = .ok (.name (String.ofList (joinWith ['.'] labels))) := by
  have hbracket : (joinWith ['.'] labels).head? ≠ some '[' := by
    intro hhead
    have hchar := h.isUnreserved_of_mem (List.mem_of_head? hhead)
    exact absurd hchar (by decide)
  have hne := h.isHostText.nonempty
  rw [Host.parse, if_neg hbracket, h.toAscii?_eq]
  split
  · next heq => cases heq
  · next heq => exact absurd (Option.some.inj heq) hne
  · next domain _ heq =>
    obtain rfl := Option.some.inj heq
    rw [h.not_endsInNumber]
    rfl

end LetterLabels

/-! ## Whole authorities -/

/-- A host without colons and brackets ends where the port begins. -/
theorem spanHost_of_plain {cs rest : List Char} (h : ∀ c ∈ cs, c ∉ [':', '[', ']'])
    (hrest : rest = [] ∨ rest.head? = some ':') : spanHost false (cs ++ rest) = (cs, rest) := by
  induction cs with
  | nil =>
    rcases hrest with rfl | hrest
    · rfl
    · obtain ⟨rest, rfl⟩ := List.head?_eq_some_iff.mp hrest
      rfl
  | cons c cs ih =>
    have hc := h c (.head _)
    simp only [List.mem_cons, List.not_mem_nil, or_false, not_or] at hc
    obtain ⟨hcolon, hopen, hclose⟩ := hc
    simp only [List.cons_append, spanHost, hcolon, hopen, hclose, decide_false, Bool.false_and,
      Bool.false_eq_true, if_false, ih fun d hd => h d (.tail _ hd)]

/-- A port is read back from its digits. -/
theorem port?_toDigits {n : Nat} (h : n ≤ 65535) : port? (Nat.toDigits 10 n) = .ok (some n) := by
  have hdigits : (Nat.toDigits 10 n).all Char.isDigit = true :=
    List.all_eq_true.mpr fun c hc => Nat.isDigit_of_mem_toDigits (by decide) (by decide) hc
  have hvalue : (Nat.toDigits 10 n).foldl (fun n c => n * 10 + (c.toNat - 48)) 0 = n := by
    have hread : Nat.ofDigitChars 10 (Nat.toDigits 10 n) 0 = n :=
      Nat.ofDigitChars_toDigits (by decide) (by decide)
    simp only [Nat.ofDigitChars, Nat.mul_comm 10] at hread
    exact hread
  have hne : (Nat.toDigits 10 n).isEmpty = false := List.isEmpty_eq_false_iff.mpr Nat.toDigits_ne_nil
  simp only [port?, hdigits, hvalue, hne, h, Bool.not_true, Bool.false_eq_true, if_false, if_true]

/-- A sign that is not there does not cut anything off. -/
theorem span_of_not_mem {cs : List Char} {sign : Char} (h : sign ∉ cs) : cs.span (· != sign) = (cs, []) := by
  have hall : ∀ c ∈ cs, (c != sign) = true := fun c hc => bne_iff_ne.mpr (ne_of_mem_of_not_mem hc h)
  rw [List.span_eq_takeWhile_dropWhile, List.takeWhile_eq_self_iff.mpr hall, List.dropWhile_eq_nil_iff.mpr hall]

/-- Without an at sign there is no login to drop. -/
theorem splitLastAt?_of_not_mem {cs : List Char} (h : '@' ∉ cs) : splitLastAt? cs = none := by
  rw [splitLastAt?, span_of_not_mem fun hmem => h (List.mem_reverse.mp hmem)]

/-- A protocol and its scheme agree about their own port. -/
theorem defaultPort?_httpScheme (protocol : Protocol) :
    defaultPort? protocol.httpScheme = some protocol.defaultPort.toNat := by
  cases protocol
  · rfl
  · rfl

/-- How the host and the port of a special scheme are read, once it is known where the host ends. -/
theorem hostAndPort_eq {scheme : String} (hspecial : isSpecial scheme = true)
    {cs written rest digits : List Char}
    {host : Host} {port : Option Nat} (hspan : spanHost false cs = (written, rest)) (hne : written ≠ [])
    (hparse : Host.parse written = .ok host) (hdigits : (rest.drop 1).span (· != '\\') = (digits, []))
    (hport : port? digits = .ok port) :
    hostAndPort scheme cs = .ok ⟨some host, if port = defaultPort? scheme then none else port, []⟩ := by
  simp only [hostAndPort, hspan, hspecial, hparse, hdigits, hport, List.isEmpty_eq_false_iff.mpr hne,
    Bool.false_and, Bool.false_eq_true, if_false, if_true]
  rfl

section

variable {a : BookmarkSync.Authority} {labels : List (List Char)} (h : LetterLabels labels)
  (hhost : a.host.toList = joinWith ['.'] labels)

include h hhost

/-- A host and a port are read as they are written; the port of the scheme is left out. -/
theorem hostAndPort_authorityText : hostAndPort a.protocol.httpScheme (authorityText a) =
    .ok ⟨some (.name a.host), if a.port = a.protocol.defaultPort then none else some a.port.toNat, []⟩ := by
  have hplain : ∀ c ∈ a.host.toList, c ∉ [':', '[', ']'] := by
    intro c hc hmem
    have hnot : ∀ d ∈ [':', '[', ']'], isUnreserved d = false := List.all_iff_forall_prop.mp (by decide)
    exact absurd (h.isUnreserved_of_mem (hhost ▸ hc)) (Bool.eq_false_iff.mp (hnot c hmem))
  have hne : a.host.toList ≠ [] := hhost ▸ h.isHostText.nonempty
  have hparse : Host.parse a.host.toList = .ok (.name a.host) := by
    rw [hhost, h.parse_eq, ← hhost, String.ofList_toList]
  have hspecial := isSpecial_httpScheme a.protocol
  rw [authorityText]
  -- the default port is not written; any other is written in decimal
  by_cases hport : a.port = a.protocol.defaultPort
  · have hspan : spanHost false (a.host.toList ++ []) = (a.host.toList, []) :=
      spanHost_of_plain hplain (.inl rfl)
    have hread : port? [] = .ok none := rfl
    rw [if_pos hport, if_pos hport, hostAndPort_eq hspecial hspan hne hparse rfl hread, ite_self]
  · have hspan : spanHost false (a.host.toList ++ ':' :: Nat.toDigits 10 a.port.toNat)
        = (a.host.toList, ':' :: Nat.toDigits 10 a.port.toNat) := spanHost_of_plain hplain (.inr rfl)
    have hother : some a.port.toNat ≠ defaultPort? a.protocol.httpScheme := by
      rw [defaultPort?_httpScheme]
      exact fun heq => hport (UInt16.toNat_inj.mp (Option.some.inj heq))
    have hdigits : '\\' ∉ Nat.toDigits 10 a.port.toNat := fun hmem =>
      absurd (isHostChar_toDigits (by decide) (by decide) _ hmem) (by decide)
    have hread := port?_toDigits (Nat.le_of_lt_succ a.port.toNat_lt)
    rw [if_neg hport, if_neg hport, hostAndPort_eq hspecial hspan hne hparse (span_of_not_mem hdigits) hread,
      if_neg hother]

/-- **What stands between the slashes and the path of a server is read as its host and its port.** -/
theorem parseAuthority_authorityText : parseAuthority a.protocol.httpScheme (authorityText a) true =
    .ok ⟨some (.name a.host), if a.port = a.protocol.defaultPort then none else some a.port.toNat, []⟩ := by
  have hat : '@' ∉ authorityText a := by
    intro hmem
    rcases List.mem_append.mp hmem with hmem | hmem
    · exact absurd (h.isUnreserved_of_mem (hhost ▸ hmem)) (by decide)
    split at hmem
    · cases hmem
    rcases List.mem_cons.mp hmem with hcolon | hmem
    · exact absurd hcolon (by decide)
    · exact absurd (Nat.isDigit_of_mem_toDigits (by decide) (by decide) hmem) (by decide)
  rw [parseAuthority, splitLastAt?_of_not_mem hat]
  exact hostAndPort_authorityText h hhost

end

end Url

end BookmarkSync
