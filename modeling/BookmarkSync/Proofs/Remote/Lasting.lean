import BookmarkSync.Remote.Registry
import Mathlib.Data.Finset.Card
import Mathlib.Data.List.Induction
import Mathlib.Data.List.Nodup

/-!
# `BookmarkSync.Proofs.Remote.Lasting` — how long a credential stays registered

A registration takes its authority out of the registry when it ends. So an authority is registered only while
a registration of it lasts, but the converse depends on how registrations overlap. `contains_apply` says what a
change makes of the registry, and `mem_lasting_apply` what it makes of the registrations that last. A change
tears the two apart if it ends a registration of an authority of which another one lasts on (`CutsShort`), and
only then (`faithful_apply_iff`).
-/

namespace BookmarkSync

/-! ## The authorities of a registry -/

namespace Registry

/-- The authorities that have a credential. -/
def authorities (r : Registry) : List Authority := r.credentials.map Credential.authority

variable {r : Registry} {a : Authority}

/-- What a registry contains are the authorities of its entries. -/
theorem contains_iff : r.contains a = true ↔ a ∈ r.authorities := by
  unfold contains find? authorities
  rw [List.find?_isSome, List.mem_map]
  simp only [beq_iff_eq]

/-- Registering an authority replaces its entry, and dropping it takes the entry away. -/
theorem authorities_erase (b : Authority) : (r.erase b).authorities = r.authorities.filter (· != b) := by
  unfold authorities erase
  rw [List.filter_map]
  rfl

theorem authorities_insert (c : Credential) :
    (r.insert c).authorities = c.authority :: (r.erase c.authority).authorities := rfl

/-- When an authority is dropped, it alone is gone; when one is registered, it alone is new. -/
theorem contains_erase (b : Authority) : (r.erase b).contains a = true ↔ a ≠ b ∧ r.contains a = true := by
  rw [contains_iff, contains_iff, authorities_erase, List.mem_filter, bne_iff_ne, and_comm]

theorem contains_insert (c : Credential) :
    (r.insert c).contains a = true ↔ c.authority = a ∨ r.contains a = true := by
  rw [contains_iff, authorities_insert, List.mem_cons, ← contains_iff, contains_erase]
  by_cases ha : a = c.authority
  · simp [ha]
  · simp [ha, Ne.symm ha]

/-- No authority is registered twice. -/
theorem nodup_erase (h : r.authorities.Nodup) (b : Authority) : (r.erase b).authorities.Nodup := by
  rw [authorities_erase]
  exact h.filter _

theorem nodup_insert (h : r.authorities.Nodup) (c : Credential) : (r.insert c).authorities.Nodup := by
  rw [authorities_insert, List.nodup_cons]
  refine ⟨?_, nodup_erase h c.authority⟩
  rw [← contains_iff, contains_erase]
  exact fun hself => hself.1 rfl

end Registry

namespace Registrations

/-! ## Changes -/

inductive Change
  | register (key : String) (c : Credential)
  | drop (key : String)
deriving DecidableEq, Repr

namespace Change

def key : Change → String
  | register key _ => key
  | drop key => key

/-- The authority that a registration is made of. -/
def registered? : Change → Option Authority
  | register _ c => some c.authority
  | drop _ => none

end Change

variable (rs : Registrations)

def apply : Change → Registrations
  | .register key c => rs.register key c
  | .drop key => (rs.drop key).2

def after (changes : List Change) : Registrations := changes.foldl apply rs

/-- The authority of the registration that lasts under a key. -/
def held? (key : String) : Option Authority := (rs.lasting.find? (·.1 == key)).map Prod.snd

/-- A registration of the authority lasts. -/
def Lasts (a : Authority) : Prop := ∃ key, (key, a) ∈ rs.lasting

/-- The authorities of which a registration lasts. -/
def lastingAuthorities : Finset Authority := (rs.lasting.map Prod.snd).toFinset

/-- Every authority of which a registration lasts is registered. -/
def Faithful : Prop := ∀ a, rs.Lasts a → rs.registry.contains a = true

/-- The change ends a registration of an authority of which another one lasts on. -/
def CutsShort (change : Change) : Prop := ∃ a, rs.held? change.key = some a ∧ (rs.apply change).Lasts a

variable {rs} {a : Authority}

/-- The authorities that last are those of guards that have not been dropped. -/
theorem mem_lastingAuthorities : a ∈ rs.lastingAuthorities ↔ rs.Lasts a := by
  unfold lastingAuthorities Lasts
  rw [List.mem_toFinset, List.mem_map]
  simp

/-! ## What a change does -/

/-- Dropping a guard takes its authority out of the registry, whichever guard registered it. -/
theorem drop_snd (rs : Registrations) (key : String) :
    (rs.drop key).2 = ⟨(rs.held? key).elim rs.registry rs.registry.erase, rs.lasting.filter (·.1 != key)⟩ := by
  unfold drop held?
  cases hfind : rs.lasting.find? (·.1 == key) with
  | some entry => rfl
  | none =>
    -- nothing lasts under the key, so nothing is taken away
    have hkept : rs.lasting.filter (·.1 != key) = rs.lasting := by
      refine List.filter_eq_self.mpr fun entry hentry => ?_
      have hne := List.find?_eq_none.mp hfind entry hentry
      simpa using hne
    rw [hkept]
    rfl

/-- **A change leaves those registered that were, or are now, unless it ends a registration of theirs.** -/
theorem contains_apply (change : Change) :
    (rs.apply change).registry.contains a = true ↔
      rs.held? change.key ≠ some a ∧ (change.registered? = some a ∨ rs.registry.contains a = true) := by
  have hdropped (r : Registry) (held : Option Authority) :
      (held.elim r r.erase).contains a = true ↔ held ≠ some a ∧ r.contains a = true := by
    cases held with
    | none => simp
    | some b =>
      rw [Option.elim_some, Registry.contains_erase, Ne, Ne, Option.some.injEq, eq_comm]
  cases change with
  | drop key => simp only [apply, drop_snd, hdropped, Change.key, Change.registered?, reduceCtorEq, false_or]
  | register key c =>
    have hregister : (rs.register key c).registry
        = (rs.held? key).elim (rs.registry.insert c) (rs.registry.insert c).erase :=
      congrArg registry (drop_snd { rs with registry := rs.registry.insert c } key)
    simp only [apply, hregister, hdropped, Registry.contains_insert, Change.key, Change.registered?,
      Option.some.injEq]

/-- A change drops its guard, and a registration makes a new one under the same key. -/
theorem lasting_apply (change : Change) :
    (rs.apply change).lasting
      = (change.registered?.map (change.key, ·)).toList ++ rs.lasting.filter (·.1 != change.key) := by
  cases change with
  | drop key => exact congrArg lasting (drop_snd rs key)
  | register key c =>
    have hearlier := congrArg lasting (drop_snd { rs with registry := rs.registry.insert c } key)
    exact congrArg ((key, c.authority) :: ·) hearlier

/-- **A change makes the registration that it is about, and keeps those under other keys.** -/
theorem mem_lasting_apply (change : Change) {key : String} :
    (key, a) ∈ (rs.apply change).lasting ↔
      (key = change.key ∧ change.registered? = some a) ∨ (key ≠ change.key ∧ (key, a) ∈ rs.lasting) := by
  rw [lasting_apply, List.mem_append, List.mem_filter, Option.mem_toList, Option.map_eq_some_iff]
  refine or_congr ?_ ?_
  · cases change.registered? with
    | none => simp
    | some b => simp [eq_comm]
  · rw [bne_iff_ne, and_comm]

/-! ## Registrations in good order -/

/-- One registration lasts under a key, one credential is kept for an authority, and only for authorities of
which a registration lasts. -/
structure Sound (rs : Registrations) : Prop where
  keys : (rs.lasting.map Prod.fst).Nodup
  authorities : rs.registry.authorities.Nodup
  lasts : ∀ a, rs.registry.contains a = true → rs.Lasts a

/-- A guard that is held lasts. -/
theorem mem_lasting_of_held? {key : String} (h : rs.held? key = some a) : (key, a) ∈ rs.lasting := by
  obtain ⟨⟨key', b⟩, hfind, rfl⟩ := Option.map_eq_some_iff.mp h
  have hkey : (key' == key) = true :=
    List.find?_some (p := fun entry : String × Authority => entry.1 == key) hfind
  rw [← eq_of_beq hkey]
  exact List.mem_of_find?_eq_some hfind

/-- What lasts under a key is the one registration there. -/
theorem held?_eq_some_iff (hkeys : (rs.lasting.map Prod.fst).Nodup) {key : String} :
    rs.held? key = some a ↔ (key, a) ∈ rs.lasting := by
  refine ⟨mem_lasting_of_held?, fun hmem => ?_⟩
  cases hheld : rs.held? key with
  | none =>
    have hnone := List.find?_eq_none.mp (Option.map_eq_none_iff.mp hheld) _ hmem
    simp at hnone
  | some b =>
    have hsame := List.inj_on_of_nodup_map hkeys (mem_lasting_of_held? hheld) hmem rfl
    rw [(Prod.mk.inj hsame).2]

/-- At first nothing is registered, and no guard is held. -/
theorem sound_empty : Sound {} where
  keys := .nil
  authorities := .nil
  lasts := nofun

/-- **Every change keeps the registrations sound.** -/
theorem Sound.apply (h : rs.Sound) (change : Change) : (rs.apply change).Sound where
  keys := by
    have hothers : ((rs.lasting.filter (·.1 != change.key)).map Prod.fst).Nodup :=
      h.keys.sublist (List.filter_sublist.map _)
    rw [lasting_apply, List.map_append]
    cases change.registered? with
    | none => exact hothers
    | some b =>
      refine List.nodup_cons.mpr ⟨?_, hothers⟩
      simp
  authorities := by
    -- every change drops what its key held, and only a registration puts something in its place
    have hdropped {r : Registry} (hr : r.authorities.Nodup) (held : Option Authority) :
        (held.elim r r.erase).authorities.Nodup := by
      cases held with
      | none => exact hr
      | some b => exact Registry.nodup_erase hr b
    cases change with
    | drop key =>
      show ((rs.drop key).2).registry.authorities.Nodup
      rw [drop_snd]
      exact hdropped h.authorities _
    | register key c =>
      show (Registrations.drop { rs with registry := rs.registry.insert c } key).2.registry.authorities.Nodup
      rw [drop_snd]
      exact hdropped (Registry.nodup_insert h.authorities c) _
  lasts := by
    intro a hcontains
    obtain ⟨hheld, hregistered | hbefore⟩ := (contains_apply change).mp hcontains
    · exact ⟨change.key, (mem_lasting_apply change).mpr (.inl ⟨rfl, hregistered⟩)⟩
    · obtain ⟨key, hkey⟩ := h.lasts a hbefore
      -- what is left without being registered now was held under another key
      have hne : key ≠ change.key := by
        rintro rfl
        exact hheld ((held?_eq_some_iff h.keys).mpr hkey)
      exact ⟨key, (mem_lasting_apply change).mpr (.inr ⟨hne, hkey⟩)⟩

theorem sound_after (changes : List Change) : (after {} changes).Sound := by
  induction changes using List.reverseRecOn with
  | nil => exact sound_empty
  | append_singleton changes change ih =>
    rw [after, List.foldl_concat]
    exact ih.apply change

/-! ## Staying registered -/

/-- **As long as no registration is cut short, every authority of which one lasts stays registered.** -/
theorem faithful_apply_iff (h : rs.Faithful) (change : Change) :
    (rs.apply change).Faithful ↔ ¬ rs.CutsShort change := by
  constructor
  · rintro hfaithful ⟨a, hheld, hlasts⟩
    exact ((contains_apply change).mp (hfaithful a hlasts)).1 hheld
  · intro hcut a hlasts
    have hheld : rs.held? change.key ≠ some a := fun hheld => hcut ⟨a, hheld, hlasts⟩
    obtain ⟨key, hkey⟩ := hlasts
    refine (contains_apply change).mpr ⟨hheld, ?_⟩
    rcases (mem_lasting_apply change).mp hkey with ⟨-, hregistered⟩ | ⟨-, hbefore⟩
    · exact .inl hregistered
    · exact .inr (h a ⟨key, hbefore⟩)

/-- What is registered is counted once for each authority, and is no more than what lasts. -/
theorem Sound.size_eq_card (h : rs.Sound) : rs.registry.size = rs.registry.authorities.toFinset.card := by
  rw [List.toFinset_card_of_nodup h.authorities]
  exact (List.length_map _).symm

/-- Only authorities with a guard that lasts are registered. -/
theorem Sound.subset (h : rs.Sound) : rs.registry.authorities.toFinset ⊆ rs.lastingAuthorities := by
  intro a ha
  rw [List.mem_toFinset, ← Registry.contains_iff] at ha
  exact mem_lastingAuthorities.mpr (h.lasts a ha)

/-- The count is that of the authorities of which a registration lasts exactly if they are all registered. -/
theorem Sound.size_eq_iff (h : rs.Sound) : rs.registry.size = rs.lastingAuthorities.card ↔ rs.Faithful := by
  rw [h.size_eq_card]
  constructor
  · intro hcard a hlasts
    have hsame := Finset.eq_of_subset_of_card_le h.subset (Nat.le_of_eq hcard.symm)
    rw [Registry.contains_iff, ← List.mem_toFinset, hsame]
    exact mem_lastingAuthorities.mpr hlasts
  · intro hfaithful
    refine congrArg Finset.card (Finset.Subset.antisymm h.subset fun a ha => ?_)
    rw [List.mem_toFinset, ← Registry.contains_iff]
    exact hfaithful a (mem_lastingAuthorities.mp ha)

/-- **A credential stays registered for as long as its registrations last, unless one of them is cut short.**
Whatever is registered and dropped in whatever order, an authority is registered only while a registration of
it lasts, each authority that is registered counts once, and the count is that of the authorities of which a
registration lasts exactly if all of these are registered. They are so all the time exactly if no registration
ends while another one of its authority lasts on. -/
theorem registered_while_lasting_iff (changes : List Change) :
    let rs := after {} changes
    (∀ a, rs.registry.contains a = true → rs.Lasts a) ∧
    rs.registry.size ≤ rs.lastingAuthorities.card ∧
    (rs.registry.size = rs.lastingAuthorities.card ↔ rs.Faithful) ∧
    ((∀ before, before <+: changes → (after {} before).Faithful) ↔
      ∀ before change, before ++ [change] <+: changes → ¬ (after {} before).CutsShort change) := by
  intro rs
  have hsound : rs.Sound := sound_after changes
  refine ⟨hsound.lasts, ?_, hsound.size_eq_iff, ?_, ?_⟩
  · rw [hsound.size_eq_card]
    exact Finset.card_le_card hsound.subset
  · intro hfaithful before change hprefix
    have hnow := hfaithful before ((List.prefix_append _ _).trans hprefix)
    have hnext := hfaithful (before ++ [change]) hprefix
    rw [after, List.foldl_concat] at hnext
    exact (faithful_apply_iff hnow change).mp hnext
  · intro hcut before hprefix
    -- on the way to `before` nothing was cut short either
    induction before using List.reverseRecOn with
    | nil => exact fun a hlasts => nomatch hlasts
    | append_singleton before change ih =>
      rw [after, List.foldl_concat]
      exact (faithful_apply_iff (ih ((List.prefix_append _ _).trans hprefix)) change).mpr
        (hcut before change hprefix)

/-- The credential of a user at a server. -/
def credentialOf (username : String) : Credential := ⟨⟨.davs, "h", 443, username⟩, "p", "", "n"⟩

/-- Users at one server do not disturb each other, and neither does one after the other. -/
example : (after {} [.register "1" (credentialOf "u"), .register "2" (credentialOf "v"), .drop "1",
    .register "3" (credentialOf "u")]).registry.size = 2 := by decide

/-- Two registrations of one authority: when the first ends, the authority is taken out, though the second one
lasts. -/
theorem not_always_registered_while_lasting : ¬ ∀ (changes : List Change) (a : Authority),
    (after {} changes).Lasts a → (after {} changes).registry.contains a = true := by
  intro hkept
  have hcontains := hkept [.register "1" (credentialOf "u"), .register "2" (credentialOf "u"), .drop "1"]
    (credentialOf "u").authority ⟨"2", by decide⟩
  revert hcontains
  decide

end Registrations

end BookmarkSync
