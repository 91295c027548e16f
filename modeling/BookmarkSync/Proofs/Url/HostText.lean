import BookmarkSync.Proofs.Sequence
import BookmarkSync.Proofs.Text.Percent
import BookmarkSync.Proofs.Text.Split
import BookmarkSync.Url.Basic

/-!
# `BookmarkSync.Proofs.Url.HostText` — what a host looks like

Whatever text a URL is read from, its host is written without spaces, controls and the signs that end an
authority, and it is not empty (`isHostText_of_parse`). So a host can be put into the text of another URL,
and is told apart there from what follows it.
-/

namespace BookmarkSync.Url

open Text Text.Percent

/-- Whether a character does not end an authority, and is no space or control. -/
def isHostChar (c : Char) : Bool := 0x20 < c.toNat && !"/\\?#".toList.contains c

/-- A text that can stand for a host. -/
structure IsHostText (cs : List Char) : Prop where
  nonempty : cs ≠ []
  chars : ∀ c ∈ cs, isHostChar c = true

/-- What stands in a component without an escape can stand in a host. -/
theorem isHostChar_of_isComponentChar {c : Char} (h : isComponentChar c = true) : isHostChar c = true := by
  rw [isComponentChar, Bool.or_eq_true, decide_eq_true_eq] at h
  rcases h with h | rfl
  · have hbounds := toNat_of_isUnreserved h
    simp only [List.mem_cons, List.not_mem_nil, or_false] at hbounds
    have hlist : "/\\?#".toList.contains c = false := by
      rw [Bool.eq_false_iff]
      intro hmem
      have hcodes : c.toNat ∈ [47, 92, 63, 35] := List.mem_map_of_mem (List.contains_iff_mem.mp hmem)
      simp only [List.mem_cons, List.not_mem_nil, or_false] at hcodes
      omega
    rw [isHostChar, hlist, decide_eq_true (by omega)]
    rfl
  · decide

/-! ## Addresses -/

/-- The sixteen digits are letters and digits of a host. -/
theorem isHostChar_digitChar {n : Nat} (h : n < 16) : isHostChar n.digitChar = true := by
  revert n
  decide

/-- So a number is, in any base up to sixteen. -/
theorem isHostChar_toDigits {b n : Nat} (hb : 1 < b) (hbase : b ≤ 16) :
    ∀ c ∈ Nat.toDigits b n, isHostChar c = true := by
  induction n using Nat.strongRecOn with
  | _ n ih =>
    intro c hc
    rw [Nat.toDigits_eq_if hb] at hc
    split at hc
    · next hlt =>
      rw [List.mem_singleton.mp hc]
      exact isHostChar_digitChar (by omega)
    · next hle =>
      rcases List.mem_append.mp hc with hc | hc
      · exact ih (n / b) (Nat.div_lt_self (by omega) hb) c hc
      · rw [List.mem_singleton.mp hc]
        exact isHostChar_digitChar (Nat.lt_of_lt_of_le (Nat.mod_lt _ (by omega)) hbase)

/-- Four numbers with points between them. -/
theorem isHostText_ipv4 (n : Nat) : IsHostText (Ipv4.render n).toList := by
  have hrender : (Ipv4.render n).toList = Nat.toDigits 10 (n / 16777216 % 256) ++ '.' ::
      (Nat.toDigits 10 (n / 65536 % 256) ++ '.' :: (Nat.toDigits 10 (n / 256 % 256) ++ '.' ::
        Nat.toDigits 10 (n % 256))) := by
    simp only [Ipv4.render, String.toList_append, Nat.toString_eq_ofList_toDigits, String.toList_ofList,
      List.append_assoc]
    rfl
  have hdigits (m : Nat) : ∀ c ∈ Nat.toDigits 10 m, isHostChar c = true :=
    isHostChar_toDigits (by decide) (by decide)
  -- each of the four parts is followed by a dot and the remaining ones
  have hdot {m : Nat} {rest : List Char} (h : ∀ c ∈ rest, isHostChar c = true) :
      ∀ c ∈ Nat.toDigits 10 m ++ '.' :: rest, isHostChar c = true := by
    intro c hc
    rcases List.mem_append.mp hc with hc | hc
    · exact hdigits m c hc
    rcases List.mem_cons.mp hc with rfl | hc
    · decide
    · exact h c hc
  rw [hrender]
  exact ⟨by simp, hdot (hdot (hdot (hdigits _)))⟩

/-- Hexadecimal numbers with colons between them. -/
theorem isHostChar_renderGroups (groups : List Nat) : ∀ c ∈ Ipv6.renderGroups groups, isHostChar c = true := by
  intro c hc
  rcases mem_joinWith hc with hc | ⟨piece, hpiece, hc⟩
  · rw [List.mem_singleton.mp hc]
    decide
  · obtain ⟨n, -, rfl⟩ := List.mem_map.mp hpiece
    exact isHostChar_toDigits (by decide) (by decide) c hc

/-- An address of version 6 is written in brackets, which a host may hold. -/
theorem isHostText_ipv6 (groups : List Nat) : IsHostText (Host.render (.ipv6 groups)).toList := by
  have hcolons : ∀ c ∈ [':', ':'], isHostChar c = true := List.all_eq_true.mp (by decide)
  have hrender : ∀ c ∈ (Ipv6.render groups).toList, isHostChar c = true := by
    intro c hc
    rw [Ipv6.render, String.toList_ofList] at hc
    -- with or without a run of zeros that is left out
    split at hc
    · exact isHostChar_renderGroups _ c hc
    · rcases List.mem_append.mp hc with hc | hc
      · rcases List.mem_append.mp hc with hc | hc
        · exact isHostChar_renderGroups _ c hc
        · exact hcolons c hc
      · exact isHostChar_renderGroups _ c hc
  have hbrackets : (Host.render (.ipv6 groups)).toList = '[' :: ((Ipv6.render groups).toList ++ [']']) := by
    simp [Host.render]
  rw [hbrackets]
  refine ⟨List.cons_ne_nil _ _, fun c hc => ?_⟩
  rcases List.mem_cons.mp hc with rfl | hc
  · decide
  rcases List.mem_append.mp hc with hc | hc
  · exact hrender c hc
  · rw [List.mem_singleton.mp hc]
    decide

/-! ## Domains -/

namespace Punycode

theorem isHostChar_digit {n : Nat} (h : n < 36) : isHostChar (digit n) = true := by
  revert n
  decide

/-- However a number is split into digits of varying weight, each digit is below 36. -/
theorem isHostChar_digits (bias k n : Nat) : ∀ c ∈ digits bias k n, isHostChar c = true := by
  fun_induction digits bias k n with
  | case1 k n t hlt =>
    intro c hc
    have ht : t ≤ 26 := (threshold_bounds k bias).2
    rw [List.mem_singleton.mp hc]
    exact isHostChar_digit (by omega)
  | case2 k n t hge ih =>
    intro c hc
    have ht : 1 ≤ t ∧ t ≤ 26 := threshold_bounds k bias
    have hmod : (n - t) % (36 - t) < 36 - t := Nat.mod_lt _ (by omega)
    rcases List.mem_cons.mp hc with rfl | hc
    · exact isHostChar_digit (by omega)
    · exact ih c hc

/-- What has been written can stand in a host. -/
def Writer.IsPlain (w : Writer) : Prop := ∀ c ∈ w.output, isHostChar c = true

/-- A writer that passes a character writes digits of a number, or nothing. -/
theorem Writer.IsPlain.pass {w : Writer} (h : w.IsPlain) (n : Nat) (c : Char) : (w.pass n c).IsPlain := by
  unfold Writer.pass
  split
  · exact h
  split
  · intro d hd
    rcases List.mem_append.mp hd with hd | hd
    · exact h d hd
    · exact isHostChar_digits _ _ _ d hd
  · exact h

theorem Writer.IsPlain.foldl_pass {w : Writer} (h : w.IsPlain) (n : Nat) (text : List Char) :
    (text.foldl (Writer.pass n) w).IsPlain := by
  induction text generalizing w with
  | nil => exact h
  | cons c text ih => exact ih (h.pass n c)

/-- What says where the other characters go consists of such digits, too. -/
theorem isHostChar_insertions {text : List Char} {n : Nat} {w : Writer} {codes : List Nat} (h : w.IsPlain) :
    ∀ c ∈ insertions text n w codes, isHostChar c = true := by
  induction codes generalizing n w with
  | nil => exact h
  | cons m codes ih =>
    refine ih ?_
    exact Writer.IsPlain.foldl_pass (w := { w with delta := w.delta + (m - n) * (w.written + 1) }) h m text

/-- So the encoded form of a label is made of its own plain characters, a hyphen and digits. -/
theorem isHostChar_encode {text : List Char} (h : ∀ c ∈ text, isHostChar c = true) :
    ∀ c ∈ encode text, isHostChar c = true := by
  intro c hc
  rcases List.mem_append.mp hc with hc | hc
  · rcases List.mem_append.mp hc with hc | hc
    · exact h c (List.mem_filter.mp hc).1
    · split at hc
      · cases hc
      · rw [List.mem_singleton.mp hc]
        decide
  · exact isHostChar_insertions (w := { written := _ }) nofun c hc

end Punycode

namespace Domain

/-- What comes out of a list comes from one of its items. -/
theorem exists_of_mapM_some {α β : Type} {f : α → Option β} {as : List α} {bs : List β}
    (h : as.mapM f = some bs) {b : β} (hb : b ∈ bs) : ∃ a ∈ as, f a = some b := by
  induction as generalizing bs with
  | nil =>
    cases h
    cases hb
  | cons a as ih =>
    simp only [List.mapM_cons, bind, Option.bind_eq_some_iff, pure, Option.some.injEq] at h
    obtain ⟨b', hb', bs', hbs', rfl⟩ := h
    rcases List.mem_cons.mp hb with rfl | hb
    · exact ⟨a, .head _, hb'⟩
    · obtain ⟨a', ha', h⟩ := ih hbs' hb
      exact ⟨a', .tail _ ha', h⟩

/-- A domain may hold fewer characters than the text of a host. -/
theorem isHostChar_of_not_isForbidden {c : Char} (h : isForbidden c = false) : isHostChar c = true := by
  rw [isForbidden, Bool.or_eq_false_iff, Bool.or_eq_false_iff, decide_eq_false_iff_not,
    decide_eq_false_iff_not] at h
  obtain ⟨⟨hspace, -⟩, hsigns⟩ := h
  have hlist : "/\\?#".toList.contains c = false := by
    rw [Bool.eq_false_iff]
    intro hmem
    have hsub : "/\\?#".toList ⊆ "%#/:<>?@[\\]^|".toList := by decide
    exact of_decide_eq_false hsigns (hsub (List.contains_iff_mem.mp hmem))
  rw [isHostChar, hlist, decide_eq_true (by omega)]
  rfl

theorem isHostChar_of_isWellFormed {l : List Char} (h : isWellFormed l = true) :
    ∀ c ∈ l, isHostChar c = true := by
  intro c hc
  simp only [isWellFormed, Bool.and_eq_true, Bool.not_eq_true', List.any_eq_false] at h
  exact isHostChar_of_not_isForbidden (Bool.eq_false_iff.mpr (h.1.1 c hc))

/-- A label is kept if it is plain, and else encoded behind a mark. -/
theorem isHostChar_encodeLabel {l cs : List Char} (hl : isWellFormed l = true) (h : encodeLabel? l = some cs) :
    ∀ c ∈ cs, isHostChar c = true := by
  have hchars := isHostChar_of_isWellFormed hl
  unfold encodeLabel? at h
  split at h
  · cases h
    exact hchars
  split at h
  · cases h
  · cases h
    intro c hc
    rcases List.mem_append.mp hc with hc | hc
    · have hmark : ∀ d ∈ punycodeMark, isHostChar d = true := List.all_eq_true.mp (by decide)
      exact hmark c hc
    · exact Punycode.isHostChar_encode hchars c hc

/-- The labels of a domain are separated by points, which a host may hold. -/
theorem isHostChar_toAscii {bytes : List UInt8} {cs : List Char} (h : toAscii? bytes = some cs) :
    ∀ c ∈ cs, isHostChar c = true := by
  simp only [toAscii?, bind, Option.bind_eq_some_iff, pure] at h
  obtain ⟨_, -, plain, -, labels, -, h⟩ := h
  split at h
  · cases h
  next hwell =>
    split at h
    · cases h
    obtain ⟨encoded, hencoded, h⟩ := Option.bind_eq_some_iff.mp h
    cases h
    intro c hc
    -- a dot between two labels, or a character of one of them
    rcases mem_joinWith hc with hc | ⟨piece, hpiece, hc⟩
    · rw [List.mem_singleton.mp hc]
      decide
    · obtain ⟨l, hl, hlabel⟩ := exists_of_mapM_some hencoded hpiece
      rw [Bool.not_eq_true', Bool.not_eq_false, List.all_eq_true] at hwell
      exact isHostChar_encodeLabel (hwell l hl) hlabel c hc

end Domain

/-! ## Hosts -/

/-- Only an address of version 6 stands in brackets. -/
theorem isHostText_of_bracketed {cs : List Char} {h : Host} (hread : Host.bracketed cs = .ok h) :
    IsHostText h.render.toList := by
  unfold Host.bracketed at hread
  split at hread
  · cases hread
    exact isHostText_ipv6 _
  · cases hread

/-- The host of a special scheme. -/
theorem isHostText_of_hostParse {cs : List Char} {h : Host} (hread : Host.parse cs = .ok h) :
    IsHostText h.render.toList := by
  unfold Host.parse at hread
  -- in brackets, not a domain at all, ending in a number, or a name
  split at hread
  · exact isHostText_of_bracketed hread
  split at hread
  · cases hread
  · cases hread
  next domain hne hdomain =>
    split at hread
    · split at hread
      · cases hread
        exact isHostText_ipv4 _
      · cases hread
    · cases hread
      rw [Host.render, String.toList_ofList]
      exact ⟨fun hnil => hne (hnil ▸ rfl), Domain.isHostChar_toAscii hdomain⟩

/-- The host of another scheme keeps what is printable and not forbidden, and escapes the rest. -/
theorem isHostChar_of_isPlain {c : Char} (hplain : Host.isPlain c = true) (h : Host.isForbidden c = false) :
    isHostChar c = true := by
  have hnot : ∀ d ∈ " /\\?#".toList, c ≠ d := by
    rintro d hd rfl
    have hsub : ∀ d ∈ " /\\?#".toList, Host.isForbidden d = true := List.all_eq_true.mp (by decide)
    rw [hsub c hd] at h
    cases h
  have hspace : c.toNat ≠ 0x20 := fun hcode => hnot ' ' (by decide) (Char.toNat_inj.mp hcode)
  have hlist : "/\\?#".toList.contains c = false := by
    rw [Bool.eq_false_iff]
    intro hmem
    exact hnot c (.tail _ (List.contains_iff_mem.mp hmem)) rfl
  rw [Host.isPlain, Bool.and_eq_true, decide_eq_true_eq] at hplain
  rw [isHostChar, hlist, decide_eq_true (by omega)]
  rfl

/-- The host of a scheme that is not special. -/
theorem isHostText_of_parseVerbatim {cs : List Char} {h : Host} (hne : cs ≠ [])
    (hread : Host.parseVerbatim cs = .ok h) : IsHostText h.render.toList := by
  unfold Host.parseVerbatim at hread
  split at hread
  · exact isHostText_of_bracketed hread
  split at hread
  · cases hread
  · next hforbidden =>
    cases hread
    rw [Host.render, String.toList_ofList]
    refine ⟨encode_ne_nil hne, fun c hc => ?_⟩
    obtain ⟨d, hd, hc⟩ := List.mem_flatMap.mp hc
    -- a character is kept if it is plain, and written as bytes in hexadecimal if it is not
    split at hc
    · next hplain =>
      rw [List.mem_singleton.mp hc]
      refine isHostChar_of_isPlain hplain ?_
      rw [Bool.eq_false_iff]
      exact fun hd' => hforbidden (List.any_eq_true.mpr ⟨d, hd, hd'⟩)
    · obtain ⟨b, -, hc⟩ := List.mem_flatMap.mp hc
      exact isHostChar_of_isComponentChar (isComponent_encodeByte b c hc)

/-- The port is split off, and what remains is read as a host of its scheme. -/
theorem isHostText_of_hostAndPort {scheme : String} {cs : List Char} {a : Authority} {h : Host}
    (hread : hostAndPort scheme cs = .ok a) (hhost : a.host = some h) : IsHostText h.render.toList := by
  simp only [hostAndPort] at hread
  split at hread
  · cases hread
  split at hread
  all_goals
    obtain ⟨host, hparse, hread⟩ := bind_eq_ok.mp hread
    obtain ⟨port, -, hread⟩ := bind_eq_ok.mp hread
    cases hread
    -- a host is there only if something was written
    obtain ⟨hwritten, hhost⟩ := Option.ite_none_left_eq_some.mp hhost
    cases hhost
  · exact isHostText_of_hostParse hparse
  · exact isHostText_of_parseVerbatim (fun hnil => hwritten (List.isEmpty_iff.mpr hnil)) hparse

/-- Logins are dropped before the host is read. -/
theorem isHostText_of_parseAuthority {scheme : String} {cs : List Char} {more : Bool} {a : Authority} {h : Host}
    (hread : parseAuthority scheme cs more = .ok a) (hhost : a.host = some h) : IsHostText h.render.toList := by
  unfold parseAuthority at hread
  split at hread
  · exact isHostText_of_hostAndPort hread hhost
  split at hread
  · cases hread
  obtain ⟨authority, hparse, hread⟩ := bind_eq_ok.mp hread
  split at hread
  · cases hread
  · cases hread
    exact isHostText_of_hostAndPort hparse hhost

theorem isHostText_of_afterSlashes {scheme : String} {cs : List Char} {u : Url} {h : Host}
    (hread : afterSlashes scheme cs = .ok u) (hhost : u.host = some h) : IsHostText h.render.toList := by
  obtain ⟨authority, hparse, hread⟩ := bind_eq_ok.mp hread
  cases hread
  exact isHostText_of_parseAuthority hparse hhost

/-- A file URL has a host only if one is written, and not for the device at hand. -/
theorem isHostText_of_fileHost {cs : List Char} {h : Host} (hread : fileHost cs = .ok (some h)) :
    IsHostText h.render.toList := by
  simp only [fileHost] at hread
  split at hread
  · cases hread
  cases hparse : Host.parse (cs.takeWhile (!endsAuthority true ·)) with
  | error e =>
    rw [hparse] at hread
    cases hread
  | ok host =>
    rw [hparse] at hread
    obtain ⟨-, hhost⟩ := Option.ite_none_left_eq_some.mp (Except.ok.inj hread)
    cases hhost
    exact isHostText_of_hostParse hparse

theorem isHostText_of_parseFile {cs : List Char} {u : Url} {h : Host} (hread : parseFile cs = .ok u)
    (hhost : u.host = some h) : IsHostText h.render.toList := by
  unfold parseFile at hread
  split at hread
  · split at hread
    · obtain ⟨host, hfile, hread⟩ := bind_eq_ok.mp hread
      cases hread
      obtain rfl : host = some h := hhost
      exact isHostText_of_fileHost hfile
    · cases hread
      cases hhost
  · cases hread
    cases hhost

/-- **The host of a URL** can be put into the text of another one. -/
theorem isHostText_of_parse {s : String} {u : Url} {h : Host} (hread : parse s = .ok u)
    (hhost : u.host = some h) :
    IsHostText h.render.toList := by
  unfold parse at hread
  split at hread
  · cases hread
  split at hread
  · exact isHostText_of_parseFile hread hhost
  split at hread
  · exact isHostText_of_afterSlashes hread hhost
  split at hread
  · exact isHostText_of_afterSlashes hread hhost
  all_goals
    cases hread
    cases hhost

end BookmarkSync.Url
