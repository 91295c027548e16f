import BookmarkSync.Proofs.Sync.LocalEdits
import Mathlib.Logic.Function.Basic

/-!
# `BookmarkSync.Proofs.Sync.Exchange` — devices that take turns

Any number of devices sync over one shared place, one after the other. What a cycle leaves on its device is
what it leaves in the shared place, and what the next cycle finds there: `snapshot_proceed_commit` says that
the commit of an engine makes this of the store, and `exchanged_read_back` that the two uploaded files are
read as it.
-/

namespace BookmarkSync

/-- What a cycle at `now` leaves of `ours` when it finds `shared`: the joined collection as a store commits
it. -/
def Snapshot.exchanged (ours : Snapshot) (shared : Option Snapshot) (now : Timestamp) (retention : Duration) :
    Snapshot :=
  let merged := ours.synced shared now retention
  ⟨merged.bookmarks.map Bookmark.normalized, merged.metadata⟩

/-- **A commit leaves in the store what a cycle is to leave.** -/
theorem Engine.snapshot_proceed_commit {ρ : Type} (remote : Remote ρ) {e : Engine ρ} {c : Cycle}
    {found : Option Snapshot} (hflight : e.inFlight = some c) (hstage : c.stage = .commit found)
    (hdone : (e.proceed remote).1 = none) :
    (e.proceed remote).2.device.store.snapshot
      = e.device.store.snapshot.exchanged found e.now e.config.retention := by
  rw [proceed_commit remote hflight hstage hdone]
  rfl

theorem inNormalForm_exchanged (ours : Snapshot) (shared : Option Snapshot) (now : Timestamp)
    (retention : Duration) : InNormalForm (ours.exchanged shared now retention).bookmarks :=
  inNormalForm_map_normalized _

/-- A cycle that finds something repeats no id. -/
theorem nodup_ids_exchanged (ours theirs : Snapshot) (now : Timestamp) (retention : Duration) :
    (Merge.ids (ours.exchanged (some theirs) now retention).bookmarks).Nodup :=
  Merge.nodup_ids_normalized _ ours.bookmarks theirs.bookmarks

/-- **What a cycle uploads is read as what it has left.** -/
theorem Snapshot.exchanged_read_back (ours : Snapshot) (shared : Option Snapshot) (now : Timestamp)
    (retention : Duration) :
    RemoteDocument.ofBytes (ours.exchanged shared now retention).bookmarksContent
        = .ok ⟨(ours.exchanged shared now retention).bookmarks⟩ ∧
      SyncMetadata.ofText (Text.Utf8.lossy (ours.exchanged shared now retention).metadataContent)
        = .ok (ours.exchanged shared now retention).metadata :=
  ⟨ofBytes_bookmarksContent (inNormalForm_exchanged ours shared now retention), ofText_metadataContent _⟩

/-! ## Devices and what they share -/

structure Exchange (ι : Type) where
  device : ι → Snapshot
  /-- What the last cycle has left in the shared place. -/
  shared : Option Snapshot

namespace Exchange

variable {ι : Type} [DecidableEq ι]

/-- Device `i` syncs at `now`. -/
def cycle (retention : Duration) (w : Exchange ι) (i : ι) (now : Timestamp) : Exchange ι :=
  let left := (w.device i).exchanged w.shared now retention
  ⟨Function.update w.device i left, some left⟩

/-- What happens among the devices. -/
inductive Step (ι : Type)
  | cycle (i : ι) (now : Timestamp)
  /-- The collection of a device is changed on the device. -/
  | edit (i : ι) (snapshot : Snapshot)

def Step.apply (retention : Duration) (w : Exchange ι) : Step ι → Exchange ι
  | cycle i now => w.cycle retention i now
  | edit i snapshot => { w with device := Function.update w.device i snapshot }

def after (retention : Duration) (w : Exchange ι) (steps : List (Step ι)) : Exchange ι :=
  steps.foldl (Step.apply retention) w

/-- What the cycles among the steps leave, in order. -/
def results (retention : Duration) : Exchange ι → List (Step ι) → List Snapshot
  | _, [] => []
  | w, .cycle i now :: steps =>
    (w.device i).exchanged w.shared now retention :: (w.cycle retention i now).results retention steps
  | w, .edit i snapshot :: steps => ((Step.edit i snapshot).apply retention w).results retention steps

/-- Each cycle among the steps starts in a state, on a device and at a time with `P`. -/
def EachCycle (P : Exchange ι → ι → Timestamp → Prop) (retention : Duration) : Exchange ι → List (Step ι) → Prop
  | _, [] => True
  | w, .cycle i now :: steps => P w i now ∧ EachCycle P retention (w.cycle retention i now) steps
  | w, .edit i snapshot :: steps => EachCycle P retention ((Step.edit i snapshot).apply retention w) steps

section Cycle

variable (retention : Duration) (w : Exchange ι) (i : ι) (now : Timestamp)

theorem shared_cycle :
    (w.cycle retention i now).shared = some ((w.device i).exchanged w.shared now retention) := rfl

theorem device_cycle_self :
    (w.cycle retention i now).device i = (w.device i).exchanged w.shared now retention :=
  Function.update_self ..

theorem device_cycle_of_ne {j : ι} (h : j ≠ i) : (w.cycle retention i now).device j = w.device j :=
  Function.update_of_ne h ..

end Cycle

end Exchange

end BookmarkSync
