import BookmarkSync.Proofs.Remote.Seen
import BookmarkSync.Proofs.Store.Reopen
import BookmarkSync.Proofs.Sync.LocalEdits
import BookmarkSync.Proofs.Sync.Plan

/-!
# `BookmarkSync.Proofs.Sync.Bookkeeping` — whose store it is, and when it was synchronized

The metadata of a store is written anew by every commit, joined with that of the far side by every sync,
and read back from its entry by every load and whenever the device starts again. Through all of this the
device keeps its identity, the version of the format never falls, and the time of the last sync moves only
where a cycle commits. This rests on the entry saying what is in memory (`KeepsMetadata`), and on what one
happening does to the metadata (`bookkeeping_happen`).
-/

namespace BookmarkSync

/-! ## Changes that leave the bookkeeping -/

namespace Store

/-- Whether the change leaves the metadata to the store: it is neither metadata nor a snapshot that someone
puts in, and an import brings no metadata along. -/
def Change.LeavesMetadata : Change → Prop
  | saveMetadata _ | replaceWith _ => False
  | importText text => ∀ doc, ExportDocument.ofText text = .ok doc → doc.syncMetadata = none
  | add _ | update _ | softDelete _ | hardDelete _ | save _ => True

/-- The entries can be read, and that of the metadata says what is in memory. -/
structure KeepsMetadata (s : Store) : Prop where
  reads : s.kv.failingReads = false
  inStep : MetadataInStep s

/-- Loading finds the metadata that the entry holds, and leaves the entry as it is. -/
theorem keepsMetadata_load {s : Store} {m : SyncMetadata} (hreads : s.kv.failingReads = false)
    (hholds : HoldsMetadata s.kv m) (now : Timestamp) (freshId : String) :
    KeepsMetadata (s.load now freshId) ∧ (s.load now freshId).metadata = m :=
  ⟨⟨(load_entries s now freshId).2.2.trans hreads, .load hreads hholds now freshId⟩,
    congrArg Prod.fst (readMetadata_of_holds hreads hholds now freshId)⟩

theorem KeepsMetadata.apply (s : Store) (e : Event) (h : KeepsMetadata s) : KeepsMetadata (e.apply s) := by
  cases e with
  | change c now =>
    refine c.preserves h ?_ ?_ now
    · intro bs m
      exact ⟨h.reads, holdsMetadata_committed s bs m⟩
    · intro m
      exact ⟨h.reads, holdsMetadata_withMetadata s m⟩
  | load now freshId => exact (keepsMetadata_load h.reads h.inStep now freshId).1
  | refuse readOnly failingKey => exact ⟨h.reads, h.inStep⟩

/-- A commit of stamped metadata, refused or not, leaves all but the time of the last change. -/
theorem metadata_answering_commit {α : Type} (a : α) (s : Store) (bs : List Bookmark) (now : Timestamp) :
    ∃ t, (answering a (s.commit bs (s.metadata.withLastModified now))).2.metadata
      = s.metadata.withLastModified t := by
  rcases answering_commit_cases a s bs (s.metadata.withLastModified now) with ⟨e, hrefused⟩ | hcommitted
  · rw [hrefused]
    exact ⟨s.metadata.lastModifiedTime, rfl⟩
  · rw [hcommitted]
    exact ⟨now, rfl⟩

/-- **A change that leaves the metadata to the store** touches nothing but the time of the last change. -/
theorem metadata_run {c : Change} (h : c.LeavesMetadata) (now : Timestamp) (s : Store) :
    ∃ t, (c.run now s).2.metadata = s.metadata.withLastModified t := by
  have hsame : ∃ t, s.metadata = s.metadata.withLastModified t := ⟨s.metadata.lastModifiedTime, rfl⟩
  cases c with
  | add b => exact metadata_answering_commit b.normalized s _ now
  | save bs => exact metadata_answering_commit () s bs now
  | update b =>
    show ∃ t, (s.update now b).2.metadata = s.metadata.withLastModified t
    unfold Store.update
    cases s.get b.id with
    | none => exact hsame
    | some stored => exact metadata_answering_commit _ s _ now
  | softDelete id =>
    show ∃ t, (s.softDelete now id).2.metadata = s.metadata.withLastModified t
    unfold Store.softDelete
    cases s.get id with
    | none => exact hsame
    | some stored => exact metadata_answering_commit _ s _ now
  | hardDelete id =>
    show ∃ t, (s.hardDelete now id).2.metadata = s.metadata.withLastModified t
    unfold Store.hardDelete
    cases s.get id with
    | none => exact hsame
    | some stored => exact metadata_answering_commit _ s _ now
  | importText text =>
    show ∃ t, (s.importText now text).2.metadata = s.metadata.withLastModified t
    unfold Store.importText
    cases hdoc : ExportDocument.ofText text with
    | error e => exact hsame
    | ok doc =>
      -- the document has no metadata, so the store's own is stamped
      simp only [h doc hdoc, Option.getD_none]
      exact metadata_answering_commit _ s _ now
  | saveMetadata m => exact h.elim
  | replaceWith f => exact h.elim

end Store

/-- **A sync keeps the identity of the device and the later version**, and its own time becomes that of the
last sync, whatever was found. -/
theorem Snapshot.metadata_synced (ours : Snapshot) (found : Option Snapshot) (now : Timestamp)
    (retention : Duration) :
    (ours.synced found now retention).metadata.deviceId = ours.metadata.deviceId ∧
    ours.metadata.version ≤ (ours.synced found now retention).metadata.version ∧
    (ours.synced found now retention).metadata.lastSyncTime = now := by
  cases found with
  | none => exact ⟨rfl, UInt32.le_refl _, rfl⟩
  | some theirs =>
    refine ⟨rfl, ?_, rfl⟩
    show ours.metadata.version
      ≤ if ours.metadata.version ≤ theirs.metadata.version then theirs.metadata.version
        else ours.metadata.version
    split
    · assumption
    · exact UInt32.le_refl _

/-! ## Runs in which the device may start again -/

/-- What can happen to a device: an action of the engine that runs on it, or a new start. -/
inductive Happening
  | action (action : Action)
  /-- The engine is gone, and another one starts over the entries that it leaves. -/
  | restart (settings : Settings) (config : SyncConfig)

/-- Whether the metadata is left to the store and to the syncs by what happens. -/
def Happening.LeavesMetadata : Happening → Prop
  | action (.event (.change c)) => c.LeavesMetadata
  | action (.edit (.importText text)) => (Store.Change.importText text).LeavesMetadata
  | _ => True

namespace Engine

variable {ρ : Type}

def metadata (e : Engine ρ) : SyncMetadata := e.device.store.metadata

/-- The engine after something has happened. -/
def happen (remote : Remote ρ) (e : Engine ρ) : Happening → Engine ρ
  | .action action => (e.act remote action).2
  | .restart settings config => new (e.device.restart true) settings config e.far

/-- The engine after everything that has happened, one thing after the other. -/
def lived (remote : Remote ρ) (e : Engine ρ) (past : List Happening) : Engine ρ := past.foldl (happen remote) e

/-- Whether by what happens next the cycle in flight commits: that is its stage, and it goes on from it. -/
def CommitsBy (remote : Remote ρ) (e : Engine ρ) : Happening → Prop
  | .action (.event .proceed) =>
    ∃ c found, e.inFlight = some c ∧ c.stage = .commit found ∧ (e.proceed remote).1 = none
  | _ => False

section Happenings

variable {remote : Remote ρ} {e : Engine ρ} {next : Happening}

/-- An edit that leaves the metadata to the store comes down to a change that does. -/
theorem leavesMetadata_of_edit {edit : Edit} (h : (Happening.action (.edit edit)).LeavesMetadata)
    {c : Store.Change} (hc : edit.change? e = some c) : c.LeavesMetadata := by
  cases edit with
  | importText text =>
    cases hc
    exact h
  | add | addBookmark | updateBookmark | delete =>
    cases hc
    exact trivial
  | update id p =>
    obtain ⟨b, -, rfl⟩ := Option.map_eq_some_iff.mp hc
    exact trivial
  | toggle name path isDirectory showInSidebar =>
    simp only [Edit.change?] at hc
    split at hc <;> cases hc <;> exact trivial

/-- A stage leaves the store, unless it is a commit that leads on. -/
theorem after_seenOfStage (remote : Remote ρ) (e : Engine ρ) (c : Cycle) :
    (∃ found stage e', c.stage = .commit found ∧ e.perform remote c = (.next stage, e')) ∨
    e.device.store.after (e.seenOfStage c.stage) = e.device.store := by
  -- the commit is the only stage that writes to the store
  cases hstage : c.stage with
  | commit found =>
    let f : Snapshot → Snapshot := fun ours => ours.synced found e.device.clock e.config.retention
    have hseen : e.device.store.after (e.seenOfStage (.commit found)) = (e.device.store.replaceWith f).2 := rfl
    rcases Store.replaceWith_cases e.device.store f with ⟨fault, hrefused, -⟩ | hcommitted
    · right
      rw [hseen, hrefused]
    · refine .inl ⟨found, ?_⟩
      unfold perform
      rw [hstage]
      simp only [commit, Device.change]
      rw [hcommitted]
      exact ⟨_, _, trivial, rfl⟩
  | _ => exact .inr rfl

/-- A cycle that does not commit leaves the metadata, also if its commit is refused. -/
theorem metadata_proceed (hnot : ¬ CommitsBy remote e (.action (.event .proceed))) :
    (e.proceed remote).2.metadata = e.metadata := by
  unfold metadata
  rw [(device_proceed remote e).2]
  cases hflight : e.inFlight with
  | none =>
    simp only [Event.seen, hflight, Option.elim_none]
    rfl
  | some c =>
    simp only [Event.seen, hflight, Option.elim_some]
    rcases after_seenOfStage remote e c with ⟨found, stage, e', hstage, hperform⟩ | hsame
    · refine absurd ⟨c, found, hflight, hstage, ?_⟩ hnot
      rw [proceed_of_next hflight hperform]
    · rw [hsame]

/-- A device that starts again has the metadata that it had. -/
theorem keepsMetadata_restart (hkept : e.device.store.KeepsMetadata) :
    (e.device.restart true).store.KeepsMetadata ∧ (e.device.restart true).store.metadata = e.metadata := by
  let empty := Store.create e.device.store.kv e.device.clock e.device.ids.fresh.1
  exact Store.keepsMetadata_load (s := empty) hkept.reads hkept.inStep _ _

theorem keepsMetadata_happen (next : Happening) (hkept : e.device.store.KeepsMetadata) :
    (e.happen remote next).device.store.KeepsMetadata := by
  cases next with
  | restart settings config => exact (keepsMetadata_restart hkept).1
  | action action =>
    show (e.act remote action).2.device.store.KeepsMetadata
    rw [store_act]
    exact Store.after_induction Store.KeepsMetadata.apply hkept _

theorem keepsMetadata_lived (past : List Happening) (hkept : e.device.store.KeepsMetadata) :
    (e.lived remote past).device.store.KeepsMetadata := by
  induction past generalizing e with
  | nil => exact hkept
  | cons next past ih => exact ih (keepsMetadata_happen next hkept)

/-- What does not commit touches nothing of the metadata but the time of the last change. -/
theorem metadata_happen_of_not_commitsBy (hleaves : next.LeavesMetadata)
    (hkept : e.device.store.KeepsMetadata) (hnot : ¬ CommitsBy remote e next) :
    ∃ t, (e.happen remote next).metadata = e.metadata.withLastModified t := by
  have hsame : ∃ t, e.metadata = e.metadata.withLastModified t := ⟨e.metadata.lastModifiedTime, rfl⟩
  cases next with
  | restart settings config => exact ⟨e.metadata.lastModifiedTime, (keepsMetadata_restart hkept).2⟩
  | action action =>
    show ∃ t, (e.act remote action).2.device.store.metadata = e.metadata.withLastModified t
    -- an edit stamps the metadata at most; of the events only a commit does more
    cases action with
    | edit edit =>
      rw [store_act]
      simp only [seenOfAction, Edit.seen]
      cases hchange : edit.change? e with
      | none => exact hsame
      | some c => exact Store.metadata_run (leavesMetadata_of_edit hleaves hchange) e.now e.device.store
    | event event =>
      cases event with
      | proceed => exact ⟨e.metadata.lastModifiedTime, metadata_proceed hnot⟩
      | change c => exact Store.metadata_run hleaves e.now e.device.store
      | load =>
        have hload := Store.keepsMetadata_load hkept.reads hkept.inStep e.now e.device.ids.fresh.1
        exact ⟨e.metadata.lastModifiedTime, hload.2⟩
      | _ =>
        rw [store_act]
        exact hsame

/-- What commits makes of the metadata what a sync makes of it. -/
theorem metadata_happen_of_commitsBy (hcommits : CommitsBy remote e next) :
    ∃ found, (e.happen remote next).metadata
      = (e.device.store.snapshot.synced found e.now e.config.retention).metadata := by
  unfold CommitsBy at hcommits
  split at hcommits
  · obtain ⟨c, found, hflight, hstage, hdone⟩ := hcommits
    exact ⟨found, congrArg metadata (proceed_commit remote hflight hstage hdone)⟩
  · exact hcommits.elim

/-- **One happening** keeps the identity, lets the version only rise, and moves the time of the last sync
exactly where a cycle commits. -/
theorem bookkeeping_happen (hleaves : next.LeavesMetadata) (hkept : e.device.store.KeepsMetadata) :
    (e.happen remote next).metadata.deviceId = e.metadata.deviceId ∧
    e.metadata.version ≤ (e.happen remote next).metadata.version ∧
    (CommitsBy remote e next → (e.happen remote next).metadata.lastSyncTime = e.now) ∧
    (¬ CommitsBy remote e next → (e.happen remote next).metadata.lastSyncTime = e.metadata.lastSyncTime) := by
  by_cases hcommits : CommitsBy remote e next
  · obtain ⟨found, hmetadata⟩ := metadata_happen_of_commitsBy hcommits
    obtain ⟨hdevice, hversion, htime⟩ :=
      e.device.store.snapshot.metadata_synced found e.now e.config.retention
    rw [hmetadata]
    exact ⟨hdevice, hversion, fun _ => htime, fun hnot => absurd hcommits hnot⟩
  · obtain ⟨t, hmetadata⟩ := metadata_happen_of_not_commitsBy hleaves hkept hcommits
    rw [hmetadata]
    exact ⟨rfl, UInt32.le_refl _, fun hc => absurd hc hcommits, fun _ => rfl⟩

theorem deviceId_lived {past : List Happening} (hleaves : ∀ happening ∈ past, happening.LeavesMetadata)
    (hkept : e.device.store.KeepsMetadata) : (e.lived remote past).metadata.deviceId = e.metadata.deviceId := by
  induction past generalizing e with
  | nil => rfl
  | cons next past ih =>
    rw [List.forall_mem_cons] at hleaves
    have hkept' : (e.happen remote next).device.store.KeepsMetadata := keepsMetadata_happen next hkept
    exact (ih hleaves.2 hkept').trans (bookkeeping_happen hleaves.1 hkept).1

end Happenings

/-! ## The bookkeeping of a device -/

/-- **The identity of a device and its bookkeeping are stable.** A device starts with its metadata persisted and
readable, and lives on in any way: the collection is edited and changed, backups without metadata are
imported, entries are loaded, writes are refused, engines are set up anew over what there is, and syncs run
against any far side. At every moment the next thing that happens leaves the identity as it was at first and
does not lower the version. It sets the time of the last sync to the clock if a cycle commits by it, and
leaves that time otherwise: a cycle that fails before its commit, or whose commit is refused, never touches
it, and what becomes of the uploads after a commit makes no difference. -/
theorem bookkeeping_stable (remote : Remote ρ) (start : Engine ρ) (hkept : start.device.store.KeepsMetadata)
    (past : List Happening) (next : Happening)
    (hleaves : ∀ happening ∈ past ++ [next], happening.LeavesMetadata) :
    let e := start.lived remote past
    let e' := e.happen remote next
    e'.metadata.deviceId = start.metadata.deviceId ∧
    e.metadata.version ≤ e'.metadata.version ∧
    (CommitsBy remote e next → e'.metadata.lastSyncTime = e.now) ∧
    (¬ CommitsBy remote e next → e'.metadata.lastSyncTime = e.metadata.lastSyncTime) := by
  intro e e'
  rw [List.forall_mem_append, List.forall_mem_singleton] at hleaves
  obtain ⟨hdevice, hversion, hcommits, hnot⟩ :=
    @bookkeeping_happen _ remote _ next hleaves.2 (keepsMetadata_lived past hkept)
  exact ⟨hdevice.trans (deviceId_lived hleaves.1 hkept), hversion, hcommits, hnot⟩

/-- A new device, over a far side without files. -/
def firstDevice : Engine Unit :=
  new (.start .empty 9 default true) { enabled := true, webdavUrl := "dav://h" } {} ()

/-- A bookmark is added, and a first sync comes as far as its commit; then the clock is set to 12. -/
def untilFirstCommit : List Happening :=
  .action (.edit (.add "notes" "/notes" false true)) :: .action (.event .call) ::
    List.replicate 3 (.action (.event .proceed)) ++ [.action (.event (.setClock 12))]

/-- The commit sets the time of the last sync, which is still there when the device has started again. -/
theorem bookkeeping_stable_commit :
    let e := firstDevice.lived Remote.obliging untilFirstCommit
    let e' := e.happen Remote.obliging (.action (.event .proceed))
    e.metadata.lastSyncTime = 0 ∧ e'.metadata.lastSyncTime = 12 ∧
    (e'.happen Remote.obliging (.restart {} {})).metadata.lastSyncTime = 12 ∧
    (e'.happen Remote.obliging (.restart {} {})).metadata.deviceId = firstDevice.metadata.deviceId := by
  intro e e'
  have hkept : firstDevice.device.store.KeepsMetadata := ⟨rfl, .of_text rfl⟩
  have hcommits : CommitsBy Remote.obliging e (.action (.event .proceed)) := ⟨_, none, rfl, rfl, rfl⟩
  have hcommit :=
    bookkeeping_stable Remote.obliging firstDevice hkept untilFirstCommit (.action (.event .proceed))
    (by simp [untilFirstCommit, Happening.LeavesMetadata])
  have hrestart := bookkeeping_stable Remote.obliging firstDevice hkept
    (untilFirstCommit ++ [.action (.event .proceed)]) (.restart {} {})
    (by simp [untilFirstCommit, Happening.LeavesMetadata])
  have htime : e'.metadata.lastSyncTime = 12 := hcommit.2.2.1 hcommits
  exact ⟨rfl, htime, (hrestart.2.2.2 id).trans htime, hrestart.1⟩

end Engine

end BookmarkSync
