import BookmarkSync.Proofs.Merge.Active
import BookmarkSync.Proofs.Sync.Exchange

/-!
# `BookmarkSync.Proofs.Sync.Convergence` — two devices come to show the same

After one device, the other, and the first one again have synced, both show the same active records, in the
same order, and so does the shared place; and no further cycle of either changes that. The second cycle leaves
what the first one's collection yields to, so the third one leaves what the second one shows; and collections
that show the same yield to each other, so nothing changes from then on.

Records are compared as a commit stores them. A shared collection that no sync has written may hold a record
that is older than its own creation. Its change time is moved when it is first committed, so only there it can
come to equal that of another record, and two devices may then keep different ones
(`not_two_devices_always_converge`).
-/

namespace BookmarkSync

open Merge (active Yields Agree Outlives)

/-! ## Collections that show the same -/

/-- The collection is one that a commit leaves, and shows these records. -/
structure Presents (shown bs : List Bookmark) : Prop where
  unique : (Merge.ids bs).Nodup
  normal : InNormalForm bs
  shows : active bs = shown

theorem active_map_normalized (bs : List Bookmark) :
    active (bs.map Bookmark.normalized) = (active bs).map Bookmark.normalized := by
  rw [active, List.filter_map]
  rfl

/-- A cycle on a device whose collection yields to the shared one leaves what the shared one shows. -/
theorem presents_exchanged {ours theirs : Snapshot} {shown : List Bookmark}
    (hyields : Yields ours.bookmarks theirs.bookmarks) (h : Presents shown theirs.bookmarks) (now : Timestamp)
    (retention : Duration) :
    Presents shown (ours.exchanged (some theirs) now retention).bookmarks where
  unique := nodup_ids_exchanged ours theirs now retention
  normal := inNormalForm_exchanged ours (some theirs) now retention
  shows := by
    show active ((Merge.bookmarks (Merge.cutoff now retention) ours.bookmarks theirs.bookmarks).map
      Bookmark.normalized) = shown
    have hnormal : InNormalForm (active theirs.bookmarks) := fun b hb => h.normal b (List.mem_filter.mp hb).1
    rw [active_map_normalized, Merge.active_bookmarks _ h.unique hyields, hnormal.map_normalized, h.shows]

/-- Nothing changes when both show the same. -/
theorem Presents.exchanged {ours theirs : Snapshot} {shown : List Bookmark}
    (hours : Presents shown ours.bookmarks)
    (htheirs : Presents shown theirs.bookmarks) (now : Timestamp) (retention : Duration) :
    Presents shown (ours.exchanged (some theirs) now retention).bookmarks :=
  presents_exchanged
    (Merge.yields_of_active_eq hours.unique htheirs.unique (hours.shows.trans htheirs.shows.symm))
    htheirs now retention

namespace Exchange

variable {ι : Type} [DecidableEq ι]

/-- The devices `i` and `j` and the shared place present these records. -/
structure InAgreement (i j : ι) (shown : List Bookmark) (w : Exchange ι) : Prop where
  first : Presents shown (w.device i).bookmarks
  second : Presents shown (w.device j).bookmarks
  shared : ∃ s, w.shared = some s ∧ Presents shown s.bookmarks

/-- The steps are cycles of the devices `i` and `j`. -/
def CyclesOf (i j : ι) (steps : List (Step ι)) : Prop :=
  ∀ step ∈ steps, ∃ k now, step = .cycle k now ∧ (k = i ∨ k = j)

section Agreement

variable {i j : ι} {shown : List Bookmark} {w : Exchange ι} {retention : Duration}

theorem InAgreement.cycle (h : InAgreement i j shown w) {k : ι} (hk : k = i ∨ k = j) (now : Timestamp) :
    InAgreement i j shown (w.cycle retention k now) := by
  obtain ⟨s, hshared, hs⟩ := h.shared
  have hbefore : Presents shown (w.device k).bookmarks := by
    rcases hk with rfl | rfl
    · exact h.first
    · exact h.second
  have hleft := hbefore.exchanged hs now retention
  rw [← hshared] at hleft
  -- the device that has synced has what is left, and the other one what it had
  have hdevice {l : ι} (hl : Presents shown (w.device l).bookmarks) :
      Presents shown ((w.cycle retention k now).device l).bookmarks := by
    by_cases hlk : l = k
    · rw [hlk, device_cycle_self]
      exact hleft
    · rw [device_cycle_of_ne retention w k now hlk]
      exact hl
  exact ⟨hdevice h.first, hdevice h.second, _, shared_cycle retention w k now, hleft⟩

theorem InAgreement.after (h : InAgreement i j shown w) {steps : List (Step ι)} (hsteps : CyclesOf i j steps) :
    InAgreement i j shown (w.after retention steps) := by
  induction steps generalizing w with
  | nil => exact h
  | cons step steps ih =>
    obtain ⟨⟨k, now, rfl, hk⟩, hrest⟩ := List.forall_mem_cons.mp hsteps
    exact ih (h.cycle hk now) hrest

end Agreement

/-! ## The first three cycles -/

/-- What a cycle leaves are records that were there, in normal form. -/
theorem mem_of_mem_exchanged {ours theirs : Snapshot} {now : Timestamp} {retention : Duration} {b : Bookmark}
    (h : b ∈ (ours.exchanged (some theirs) now retention).bookmarks) :
    b ∈ (ours.bookmarks ++ theirs.bookmarks).map Bookmark.normalized := by
  obtain ⟨p, hp, rfl⟩ := List.mem_map.mp h
  exact List.mem_map_of_mem (List.mem_append.mpr (Merge.mem_of_mem_bookmarks hp))

section Three

variable {i j : ι} (hij : i ≠ j) {w : Exchange ι} {r : Snapshot} (hshared : w.shared = some r)
  (retention : Duration) (t₁ t₂ t₃ : Timestamp)
include hij hshared

/-- What the devices and the shared place have after three cycles. -/
theorem after_three :
    let a₁ := (w.device i).exchanged (some r) t₁ retention
    let b₂ := (w.device j).exchanged (some a₁) t₂ retention
    let a₃ := a₁.exchanged (some b₂) t₃ retention
    let w₃ := w.after retention [.cycle i t₁, .cycle j t₂, .cycle i t₃]
    w₃.device i = a₃ ∧ w₃.device j = b₂ ∧ w₃.shared = some a₃ := by
  intro a₁ b₂ a₃ w₃
  -- each cycle moves one device and the shared files, and leaves the other device alone
  let w₁ := w.cycle retention i t₁
  let w₂ := w₁.cycle retention j t₂
  have ha₁ : w₁.device i = a₁ := by rw [device_cycle_self, hshared]
  have hs₁ : w₁.shared = some a₁ := by rw [shared_cycle, hshared]
  have hb₁ : w₁.device j = w.device j := device_cycle_of_ne retention w i t₁ hij.symm
  have hb₂ : w₂.device j = b₂ := by rw [device_cycle_self, hb₁, hs₁]
  have hs₂ : w₂.shared = some b₂ := by rw [shared_cycle, hb₁, hs₁]
  have ha₂ : w₂.device i = a₁ := (device_cycle_of_ne retention w₁ j t₂ hij).trans ha₁
  have hlast : w₃ = w₂.cycle retention i t₃ := rfl
  rw [hlast]
  refine ⟨?_, ?_, ?_⟩
  · rw [device_cycle_self, ha₂, hs₂]
  · rw [device_cycle_of_ne retention w₂ i t₃ hij.symm, hb₂]
  · rw [shared_cycle, ha₂, hs₂]

/-- After three cycles the devices are in agreement. -/
theorem inAgreement_after_three
    (hagree : Agree (((w.device i).bookmarks ++ (w.device j).bookmarks ++ r.bookmarks).map Bookmark.normalized))
    (hlive : ∀ p ∈ (w.device j).bookmarks, p.isDeleted = true → Outlives t₂ retention p) :
    ∃ shown, InAgreement i j shown (w.after retention [.cycle i t₁, .cycle j t₂, .cycle i t₃]) := by
  let a₁ := (w.device i).exchanged (some r) t₁ retention
  let b₂ := (w.device j).exchanged (some a₁) t₂ retention
  obtain ⟨hi, hj, hs⟩ := after_three hij hshared retention t₁ t₂ t₃
  -- whatever the first cycle left is a normalized record of one of the three sides
  have hagree' : Agree (a₁.bookmarks ++ (w.device j).bookmarks.map Bookmark.normalized) := by
    refine hagree.mono fun b hb => ?_
    rw [List.map_append, List.map_append]
    rcases List.mem_append.mp hb with hb | hb
    · rw [List.append_assoc, List.mem_append]
      have hmem := mem_of_mem_exchanged hb
      rw [List.map_append, List.mem_append] at hmem
      exact hmem.imp_right (List.mem_append_right _)
    · exact List.mem_append_left _ (List.mem_append_right _ hb)
  have hyields : Yields a₁.bookmarks b₂.bookmarks :=
    Merge.yields_to_merged hagree' (inNormalForm_exchanged (w.device i) (some r) t₁ retention) hlive
  have hb₂ : Presents (active b₂.bookmarks) b₂.bookmarks :=
    ⟨nodup_ids_exchanged (w.device j) a₁ t₂ retention,
      inNormalForm_exchanged (w.device j) (some a₁) t₂ retention, rfl⟩
  have ha₃ := presents_exchanged hyields hb₂ t₃ retention
  exact ⟨_, hi ▸ ha₃, hj ▸ hb₂, _, hs, ha₃⟩

end Three

/-- The devices `i` and `j` and the shared place show these records. -/
def AllShow (i j : ι) (shown : List Bookmark) (w : Exchange ι) : Prop :=
  active (w.device i).bookmarks = shown ∧ active (w.device j).bookmarks = shown ∧
    ∃ s, w.shared = some s ∧ active s.bookmarks = shown

omit [DecidableEq ι] in
theorem InAgreement.allShow {i j : ι} {shown : List Bookmark} {w : Exchange ι} (h : InAgreement i j shown w) :
    AllShow i j shown w := by
  obtain ⟨s, hshared, hs⟩ := h.shared
  exact ⟨h.first.shows, h.second.shows, s, hshared, hs.shows⟩

/-- **Two devices converge.** When the records of the devices and the shared place agree as a commit stores
them, and no tombstone among them expires meanwhile, then after one device, the other, and the first one again
have synced, all three show the same active records in the same order; and further cycles of the two, in any
order and at any time, leave them at that. -/
theorem two_devices_converge {i j : ι} (hij : i ≠ j) {w : Exchange ι} {r : Snapshot}
    (hshared : w.shared = some r) (retention : Duration) (t₁ t₂ t₃ : Timestamp)
    (hagree : Agree (((w.device i).bookmarks ++ (w.device j).bookmarks ++ r.bookmarks).map Bookmark.normalized))
    (hlive : ∀ t ∈ [t₁, t₂, t₃], ∀ p ∈ (w.device i).bookmarks ++ (w.device j).bookmarks ++ r.bookmarks,
      p.isDeleted = true → Outlives t retention p) :
    ∃ shown, ∀ further, CyclesOf i j further →
      AllShow i j shown
        ((w.after retention [.cycle i t₁, .cycle j t₂, .cycle i t₃]).after retention further) := by
  have hlive₂ : ∀ p ∈ (w.device j).bookmarks, p.isDeleted = true → Outlives t₂ retention p := fun p hp =>
    hlive t₂ (by simp) p (List.mem_append_left _ (List.mem_append_right _ hp))
  obtain ⟨shown, hagreement⟩ := inAgreement_after_three hij hshared retention t₁ t₂ t₃ hagree hlive₂
  exact ⟨shown, fun further hfurther => (hagreement.after hfurther).allShow⟩

/-! ### Records that differ -/

/-- A bookmark as one side has it. -/
def versionOf (name : String) (createdAt modifiedAt : Timestamp) : Bookmark :=
  { Bookmark.create "x" name "/n" false createdAt with modifiedAt }

/-- Two devices and a shared place, with these collections. -/
def twoDevices (a b r : List Bookmark) : Exchange (Fin 2) where
  device := fun
    | 0 => ⟨a, .create "a" 0⟩
    | 1 => ⟨b, .create "b" 0⟩
  shared := some ⟨r, .create "r" 0⟩

/-- Three versions of one bookmark, the latest of them deleted. -/
theorem two_devices_converge_on_deletion : ∃ shown, ∀ further, CyclesOf 0 1 further →
    AllShow 0 1 shown
      (((twoDevices [versionOf "a" 1 4] [(versionOf "b" 1 4).tombstoned 6] [versionOf "r" 1 5]).after
        Merge.defaultRetention [.cycle 0 7, .cycle 1 8, .cycle 0 9]).after Merge.defaultRetention further) := by
  have hlive : ∀ t ∈ [7, 8, 9],
      ∀ p ∈ [versionOf "a" 1 4] ++ [(versionOf "b" 1 4).tombstoned 6] ++ [versionOf "r" 1 5],
      Merge.cutoff t Merge.defaultRetention < p.modifiedAt := by
    simp only [List.forall_mem_cons, List.cons_append, List.nil_append, List.not_mem_nil, false_implies,
      implies_true, and_true]
    decide
  have hshared : (twoDevices [versionOf "a" 1 4] [(versionOf "b" 1 4).tombstoned 6] [versionOf "r" 1 5]).shared
      = some ⟨[versionOf "r" 1 5], .create "r" 0⟩ := rfl
  exact two_devices_converge (by decide) hshared Merge.defaultRetention 7 8 9 (by decide) fun t ht p hp _ =>
    Merge.outlives_iff.mpr fun _ => hlive t ht p hp

/-- **Two devices need not converge** when the shared place has a record that is older than its own creation,
though no two different records of one id have changed at once: its normal form and the other device's record
then have. -/
theorem not_two_devices_always_converge :
    ¬ ∀ (w : Exchange (Fin 2)) (r : Snapshot) (retention : Duration) (t₁ t₂ t₃ : Timestamp), w.shared = some r →
      Agree ((w.device 0).bookmarks ++ (w.device 1).bookmarks ++ r.bookmarks) →
      (∀ t ∈ [t₁, t₂, t₃], ∀ p ∈ (w.device 0).bookmarks ++ (w.device 1).bookmarks ++ r.bookmarks,
        p.isDeleted = true → Outlives t retention p) →
      ∃ shown, ∀ further, CyclesOf 0 1 further → AllShow 0 1 shown
        ((w.after retention [.cycle 0 t₁, .cycle 1 t₂, .cycle 0 t₃]).after retention further) := by
  intro h
  have hactive : ∀ p ∈ [versionOf "b" 1 10, versionOf "r" 10 5], p.isDeleted = false := by decide
  obtain ⟨shown, hall⟩ := h (twoDevices [] [versionOf "b" 1 10] [versionOf "r" 10 5]) _ Merge.defaultRetention
    20 21 22 rfl (by decide) fun _ _ p hp _ => .inl (hactive p hp)
  obtain ⟨hfirst, hsecond, -⟩ := hall [] nofun
  exact absurd (hfirst.trans hsecond.symm) (by decide)

end Exchange

end BookmarkSync
