import BookmarkSync.Proofs.Sync.CycleOutcome
import BookmarkSync.Proofs.Sync.Plan

/-!
# `BookmarkSync.Proofs.Sync.Uploads` — what leaves a device is in normal form

What a cycle uploads is what it has committed, and that was the store's collection a moment before
(`committed_perform`). The cycle carries it through the stages that follow, while the store goes on. So the
invariant speaks of three things at once: the store, what the cycle in flight has committed, and everything
that the far side was told to write (`KeepsNormal`).
-/

namespace BookmarkSync

/-- What the cycle has committed, from its commit on. -/
def Stage.committed? : Stage → Option Snapshot
  | writeBookmarks s | writeMetadata s => some s
  | _ => none

/-- A file that a sync writes: the collection of a snapshot in normal form, which is read as what it is, or
the metadata beside it. -/
inductive IsUpload : List UInt8 → Prop
  | bookmarks (s : Snapshot) : (∀ b ∈ s.bookmarks, b.IsNormal) →
      RemoteDocument.ofBytes s.bookmarksContent = .ok ⟨s.bookmarks⟩ → IsUpload s.bookmarksContent
  | metadata (s : Snapshot) : IsUpload s.metadataContent

/-- What a stage uploads is what was committed before it. -/
theorem isUpload_of_committed {stage : Stage} (h : ∀ s, stage.committed? = some s → InNormalForm s.bookmarks)
    {content : List UInt8} (hcontent : stage.upload? = some content) : IsUpload content := by
  cases stage with
  | writeBookmarks s =>
    obtain rfl : s.bookmarksContent = content := Option.some.inj hcontent
    have hnormal : InNormalForm s.bookmarks := h s rfl
    exact .bookmarks s (inNormalForm_iff.mp hnormal) (ofBytes_bookmarksContent hnormal)
  | writeMetadata s =>
    obtain rfl : s.metadataContent = content := Option.some.inj hcontent
    exact .metadata s
  | _ => cases hcontent

/-- Every file that the far side was told to write is one that a sync writes. -/
def OnlyUploads (log : List Heard) : Prop :=
  ∀ registry l content answer, .called registry (.write l content answer) ∈ log → IsUpload content

/-- What is heard later only has to be an upload itself. -/
theorem OnlyUploads.append {log log' : List Heard} (h : OnlyUploads log) (h' : OnlyUploads log') :
    OnlyUploads (log ++ log') := by
  intro registry l content answer hmem
  rcases List.mem_append.mp hmem with hmem | hmem
  · exact h registry l content answer hmem
  · exact h' registry l content answer hmem

/-- Credentials that come and go are no files. -/
theorem onlyUploads_opened (c : Credential) : OnlyUploads [.opened c] := by
  intro registry l content answer hmem
  cases List.mem_singleton.mp hmem

theorem onlyUploads_closed (a : Authority) : OnlyUploads [.closed a] := by
  intro registry l content answer hmem
  cases List.mem_singleton.mp hmem

/-- Of calls only those that write matter. -/
theorem onlyUploads_called {registry : Registry} {calls : List FileCall}
    (h : ∀ l content answer, .write l content answer ∈ calls → IsUpload content) :
    OnlyUploads (calls.map (.called registry)) := by
  intro registry' l content answer hmem
  obtain ⟨call, hcall, heq⟩ := List.mem_map.mp hmem
  cases heq
  exact h l content answer hcall

namespace Engine

variable {ρ : Type}

/-! ## Single stages -/

/-- What the turn carries on as committed was committed before, or is what the store holds. -/
def Carries (stage : Stage) (store : Store) (turn : Turn) : Prop :=
  ∀ later s, turn = .next later → later.committed? = some s → stage.committed? = some s ∨ s = store.snapshot

section Carries

variable {stage : Stage} {store : Store}

/-- A stage that has committed nothing carries nothing, and one after an upload carries what was uploaded. -/
theorem carries_next {later : Stage} (h : later.committed? = none ∨ later.committed? = stage.committed?) :
    Carries stage store (.next later) := by
  intro later' s hturn hs
  cases hturn
  rcases h with hnone | hsame
  · rw [hnone] at hs
    cases hs
  · exact .inl (hsame.symm.trans hs)

theorem carries_over (outcome : Except SyncError Unit) : Carries stage store (.over outcome) := by
  intro later s hturn
  cases hturn

/-- What the answers lead to decides; a failed call carries nothing. -/
theorem carries_after {α : Type} {turn : α → Turn} (h : ∀ a, Carries stage store (turn a))
    (answer : Except SyncError α) : Carries stage store (.after turn answer) := by
  cases answer with
  | ok a => exact h a
  | error error => exact carries_over _

/-- Reading leads to stages before the commit. -/
theorem carries_bookmarksRead (content : List UInt8) : Carries stage store (.bookmarksRead content) := by
  unfold Turn.bookmarksRead
  split <;> exact carries_next (.inl rfl)

theorem carries_metadataRead (bookmarks : List Bookmark) (content : List UInt8) :
    Carries stage store (.metadataRead bookmarks content) := by
  unfold Turn.metadataRead
  split <;> exact carries_next (.inl rfl)

theorem carries_metadataFound (e : Engine ρ) (bookmarks : List Bookmark) (answer : Except SyncError Bool) :
    Carries stage store (e.metadataFound bookmarks answer).1 := by
  rcases answer with error | found
  · exact carries_over _
  · cases found <;> exact carries_next (.inl rfl)

/-- What a commit carries on is what the store holds by then. -/
theorem carries_commit (e : Engine ρ) (found : Option Snapshot) :
    Carries stage (e.commit found).2.device.store (e.commit found).1 := by
  rcases Store.replaceWith_cases e.device.store
    fun ours => ours.synced found e.device.clock e.config.retention with ⟨f, h, -⟩ | h
  · simp only [commit, Device.change, h]
    exact carries_over _
  · simp only [commit, Device.change, h]
    intro later s hturn hs
    cases hturn
    exact .inr (Option.some.inj hs).symm

end Carries

/-- **What a cycle has committed** it has from before, or its store holds it at that moment. -/
theorem carries_perform (remote : Remote ρ) (e : Engine ρ) (c : Cycle) :
    Carries c.stage (e.perform remote c).2.device.store (e.perform remote c).1 := by
  unfold perform
  cases c.stage with
  | checkDirectory => exact carries_after (fun found => by cases found <;> exact carries_next (.inl rfl)) _
  | createDirectory => exact carries_after (fun _ => carries_next (.inl rfl)) _
  | checkBookmarks => exact carries_after (fun found => by cases found <;> exact carries_next (.inl rfl)) _
  | readBookmarks => exact carries_after carries_bookmarksRead _
  | checkMetadata bookmarks => exact carries_metadataFound _ bookmarks _
  | readMetadata bookmarks => exact carries_after (carries_metadataRead bookmarks) _
  | commit found => exact carries_commit e found
  | writeBookmarks s => exact carries_after (fun _ => carries_next (.inr rfl)) _
  | writeMetadata s => exact carries_after (fun _ => carries_over _) _

/-! ## Runs -/

/-- Only records in normal form are about. -/
structure KeepsNormal (e : Engine (ρ × List Heard)) : Prop where
  store : InNormalForm e.device.store.bookmarks
  /-- So is what the cycle in flight has committed and has still to upload. -/
  committed : ∀ c s, e.inFlight = some c → c.stage.committed? = some s → InNormalForm s.bookmarks
  uploads : OnlyUploads e.far.2

section Runs

variable {remote : Remote ρ} {e : Engine (ρ × List Heard)}

/-- No action takes the store out of normal form. -/
theorem inNormalForm_act (remote : Remote ρ) {e : Engine ρ} (h : InNormalForm e.device.store.bookmarks)
    (action : Action) : InNormalForm (e.act remote action).2.device.store.bookmarks := by
  rw [store_act remote e action]
  exact Store.after_induction (P := fun s => InNormalForm s.bookmarks) Store.inNormalForm_apply h _

/-- A cycle that starts has committed nothing. -/
theorem KeepsNormal.begin (h : KeepsNormal e) (hnone : e.inFlight = none) (origin : Origin)
    (settings : Settings) :
    KeepsNormal (e.begin remote.overheard origin settings).2 := by
  unfold Engine.begin
  split
  · refine ⟨h.store, ?_, h.uploads⟩
    intro c s hc
    cases hnone.symm.trans hc
  · refine ⟨h.store, ?_, h.uploads.append (onlyUploads_opened _)⟩
    -- a cycle that starts has committed nothing
    rintro c s ⟨⟩ ⟨⟩

/-- A stage uploads what was committed, and carries on that or what the store holds. -/
theorem KeepsNormal.proceed (h : KeepsNormal e)
    (hstore : InNormalForm (e.proceed remote.overheard).2.device.store.bookmarks) :
    KeepsNormal (e.proceed remote.overheard).2 := by
  cases hflight : e.inFlight with
  | none =>
    have hnothing : e.proceed remote.overheard = (none, e) := by simp only [Engine.proceed, hflight]
    rw [hnothing]
    exact h
  | some c =>
    obtain ⟨calls, -, hheard, hcalls⟩ := heard_perform remote e c
    have hcarries := carries_perform remote.overheard e c
    have huploads : OnlyUploads (e.perform remote.overheard c).2.far.2 := by
      rw [hheard]
      refine h.uploads.append (onlyUploads_called fun l content answer hmem => ?_)
      exact isUpload_of_committed (fun s => h.committed c s hflight) (hcalls l content answer hmem)
    rcases hperform : e.perform remote.overheard c with ⟨turn, next⟩
    rw [hperform] at hcarries huploads
    rcases turn with stage | outcome
    · rw [proceed_of_next hflight hperform] at hstore ⊢
      refine ⟨hstore, ?_, huploads⟩
      rintro c' s ⟨⟩ hs
      -- the snapshot that a stage carries is an old one or the store as it stands now
      rcases hcarries stage s rfl hs with hbefore | rfl
      · exact h.committed c s hflight hbefore
      · exact hstore
    · have hfar : (next.finish remote.overheard c outcome).2.far.2
          = next.far.2 ++ [.closed c.endpoint.authority] := rfl
      rw [proceed_of_over hflight hperform] at hstore ⊢
      refine ⟨hstore, ?_, ?_⟩
      · rintro c' s ⟨⟩
      · rw [hfar]
        exact huploads.append (onlyUploads_closed _)

/-- **Every action keeps records in normal form**, wherever they are. -/
theorem KeepsNormal.act (h : KeepsNormal e) (action : Action) :
    KeepsNormal (e.act remote.overheard action).2 := by
  have hstore := inNormalForm_act remote.overheard h.store action
  -- a launch begins a cycle without a snapshot; other actions leave the cycle as it was
  cases hlaunch : e.launch? action with
  | some l =>
    obtain ⟨hnone, prepared, hsame, hbegins⟩ := begins_of_launch? remote.overheard hlaunch
    rw [hbegins] at hstore ⊢
    rw [device_begin] at hstore
    refine KeepsNormal.begin ⟨hstore, ?_, ?_⟩ (hsame.inFlight.trans hnone) _ _
    · rw [hsame.inFlight]
      exact h.committed
    · rw [hsame.far]
      exact h.uploads
  | none =>
    by_cases haction : action = .event .proceed
    · subst haction
      exact h.proceed hstore
    · have hsame := sameCycles_of_launch? remote.overheard hlaunch haction
      refine ⟨hstore, ?_, ?_⟩
      · rw [hsame.inFlight]
        exact h.committed
      · rw [hsame.far]
        exact h.uploads

end Runs

/-- **Records are in normal form everywhere.** A device starts over any entries, its store loaded or not, with
an engine and an editor, and anything happens: edits, changes of the store and loads, writes being refused, a
clock that goes back as well as forward, syncs with a far side that answers whatever it likes. Then every
record in memory and on the stream has not changed before it was made, is shown in the sidebar only if it is
a directory, and has no blank notes. Once a change has gone through a commit, the entry of the collection is
the text of such records, and is read as them; and whatever file the far side was ever told to write is the
collection of such records, and is read as it, or metadata. -/
theorem records_normal_everywhere (remote : Remote ρ) (kv : KeyValue) (clock : Timestamp) (ids : IdSupply)
    (loaded : Bool) (settings : Settings) (config : SyncConfig) (far : ρ) (actions : List Action) :
    let start : Engine (ρ × List Heard) := new (.start kv clock ids loaded) settings config (far, [])
    let e := start.afterAll remote.overheard actions
    (∀ b ∈ e.device.store.bookmarks, b.IsNormal) ∧
    (∀ b ∈ e.device.store.bookmarkStream.value, b.IsNormal) ∧
    (start.device.store.HasCommitted (start.seenOfRun remote.overheard actions) →
      ∃ bs, (∀ b ∈ bs, b.IsNormal) ∧
        e.device.store.kv.lookup Store.bookmarksKey = some (Codec.bookmarksText bs) ∧
        Codec.bookmarksOfText (Codec.bookmarksText bs) = .ok bs) ∧
    ∀ registry l content answer, .called registry (.write l content answer) ∈ e.far.2 → IsUpload content := by
  intro start e
  have hstart : KeepsNormal start := by
    refine ⟨Device.inNormalForm_start kv clock ids loaded, ?_, ?_⟩
    · rintro c s ⟨⟩
    · rintro registry l content answer ⟨⟩
  -- the invariant holds at the start, and every action keeps it
  have hkept : KeepsNormal e :=
    (moments_induction (P := KeepsNormal) (fun m _ hm => hm.act m.action) hstart).2
  have hstore : e.device.store = start.device.store.after (start.seenOfRun remote.overheard actions) :=
    store_afterAll remote.overheard start actions
  have hpublished : Store.Published e.device.store := by
    rw [hstore]
    refine Store.after_induction Store.Published.apply ?_ _
    cases loaded <;> exact ⟨rfl, rfl⟩
  refine ⟨inNormalForm_iff.mp hkept.store, ?_, ?_, hkept.uploads⟩
  · rw [hpublished.bookmarks]
    exact inNormalForm_iff.mp hkept.store
  · intro hcommitted
    obtain ⟨bs, hbs, hentry⟩ := Store.normalEntry_after (.inr hcommitted)
    refine ⟨bs, inNormalForm_iff.mp hbs, ?_, ?_⟩
    · rw [hstore]
      exact hentry
    · rw [Codec.bookmarksOfText_bookmarksText, hbs.map_withoutBlankNotes]

/-- A device without bookmarks, and a far side without files. -/
def newcomer : Engine (Unit × List Heard) :=
  new (.start .empty 9 default true) { enabled := true, webdavUrl := "dav://[::1]" } {} ((), [])

/-- A bookmark is added, and a first sync comes as far as uploading the collection. -/
def firstUpload : List Action :=
  [.edit (.add "notes" "/notes" false true), .event .call] ++ List.replicate 5 (.event .proceed)

/-- The device when the collection is uploaded. -/
def uploading : Engine (Unit × List Heard) := newcomer.afterAll Remote.obliging.overheard firstUpload

set_option maxRecDepth 10000 in
/-- The first sync of a device commits and uploads records in normal form. -/
theorem records_normal_everywhere_uploaded :
    (∃ bs, (∀ b ∈ bs, b.IsNormal) ∧
      uploading.device.store.kv.lookup Store.bookmarksKey = some (Codec.bookmarksText bs) ∧
      Codec.bookmarksOfText (Codec.bookmarksText bs) = .ok bs) ∧
    ∃ registry l answer content, uploading.far.2.getLast? = some (.called registry (.write l content answer)) ∧
      content = uploading.device.store.snapshot.bookmarksContent ∧ IsUpload content := by
  have hcommitted : newcomer.device.store.HasCommitted
      (newcomer.seenOfRun Remote.obliging.overheard firstUpload) :=
    .inl ⟨trivial, _, rfl⟩
  obtain ⟨registry, l, hwritten⟩ : ∃ registry l, uploading.far.2.getLast? = some (.called registry
      (.write l uploading.device.store.snapshot.bookmarksContent (.ok ()))) := ⟨_, _, rfl⟩
  obtain ⟨-, -, hentry, huploads⟩ := records_normal_everywhere Remote.obliging .empty 9 default true
    { enabled := true, webdavUrl := "dav://[::1]" } {} () firstUpload
  refine ⟨hentry hcommitted, registry, l, .ok (), _, hwritten, rfl, ?_⟩
  have hheard := List.mem_of_getLast? hwritten
  exact huploads registry l _ (.ok ()) hheard

end Engine

end BookmarkSync
