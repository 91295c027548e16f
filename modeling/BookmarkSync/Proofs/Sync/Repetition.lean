import BookmarkSync.Proofs.Merge.Laws
import BookmarkSync.Proofs.Sync.CycleInduction
import BookmarkSync.Proofs.Sync.CycleOutcome

/-!
# `BookmarkSync.Proofs.Sync.Repetition` — a sync that is done again

A sync leaves on the far side what it leaves in the store. Done again, it finds its own collection there,
and a collection that is merged with itself loses its expired tombstones and nothing else
(`Merge.bookmarks_self`). So a sync is at rest after one round, but for tombstones that expire in between.
-/

namespace BookmarkSync

open Merge (Outlives)

/-! ## A store merged with its own collection -/

theorem InNormalForm.filter {bs : List Bookmark} (h : InNormalForm bs) (p : Bookmark → Bool) :
    InNormalForm (bs.filter p) :=
  fun b hb => h b (List.mem_filter.mp hb).1

theorem Merged.nodup_ids {found : Option Snapshot} {now : Timestamp} {retention : Duration}
    {before after : Store} (h : Merged found now retention before after) (hfound : found ≠ none) :
    (Merge.ids after.bookmarks).Nodup := by
  obtain ⟨theirs, rfl⟩ := Option.ne_none_iff_exists'.mp hfound
  rw [h.bookmarks]
  exact Merge.nodup_ids_normalized _ before.bookmarks theirs.bookmarks

/-- A store that is merged with its own collection keeps what has not expired. -/
theorem Merged.bookmarks_of_same {theirs : Snapshot} {now : Timestamp} {retention : Duration}
    {before after : Store} (h : Merged (some theirs) now retention before after)
    (hsame : theirs.bookmarks = before.bookmarks) (hnormal : InNormalForm before.bookmarks)
    (hnodup : (Merge.ids before.bookmarks).Nodup) :
    after.bookmarks = before.bookmarks.filter (Outlives now retention ·) := by
  have hmerge : (before.snapshot.merge (some theirs) now retention).bookmarks
      = before.bookmarks.filter (Merge.retained (Merge.cutoff now retention)) := by
    show Merge.bookmarks (Merge.cutoff now retention) before.bookmarks theirs.bookmarks = _
    rw [hsame, Merge.bookmarks_self _ hnodup]
  rw [h.bookmarks, hmerge, (hnormal.filter _).map_normalized]
  exact List.filter_congr fun b _ => Merge.retained_cutoff now retention b

/-! ## What a successful cycle has done -/

/-- The uploads of a cycle that has committed `s`. -/
def Cycle.uploads (c : Cycle) (config : SyncConfig) (s : Snapshot) : List FileCall :=
  [.write (c.bookmarksFile config) s.bookmarksContent (.ok ()),
    .write (c.metadataFile config) s.metadataContent (.ok ())]

/-- The calls of a cycle that has read `found`, merged it into the store, and uploaded the outcome. -/
structure Cycle.Completed (c : Cycle) (config : SyncConfig) (clock : Nat → Timestamp) (before after : Store)
    (reads : List FileCall) (found : Option Snapshot) (calls : List FileCall) : Prop where
  read : c.HasRead config clock reads found
  merged : Merged found (clock reads.length) config.retention before after
  calls : calls = reads ++ c.uploads config after.snapshot

section Completed

variable {ρ : Type} {c : Cycle} {config : SyncConfig} {clock : Nat → Timestamp} {before : Store}

/-- Only the last upload ends a cycle without a fault. -/
theorem Engine.StageDone.of_over {e e' : Engine (ρ × List FileCall)} {stage : Stage} {turn : Turn}
    (h : StageDone e c stage turn e') (hover : turn = .over (.ok ())) :
    ∃ s, stage = .writeMetadata s ∧
      Called e e' (.write (c.metadataFile e.config) s.metadataContent (.ok ())) := by
  -- the other stages lead on, or to a fault
  have hafter {α : Type} {f : α → Turn} {answer : Except SyncError α} (hf : ∀ a, f a ≠ .over (.ok ())) :
      Turn.after f answer ≠ .over (.ok ()) := by
    cases answer with
    | error error => exact nofun
    | ok a => exact hf a
  cases h with
  | @writeMetadata _ s answer hcalled =>
    cases answer with
    | error error => cases hover
    | ok done => exact ⟨s, rfl, hcalled⟩
  | checkDirectory _ | createDirectory _ | checkBookmarks _ | writeBookmarks _ =>
    exact absurd hover (hafter nofun)
  | readBookmarks _ =>
    refine absurd hover (hafter fun content => ?_)
    unfold Turn.bookmarksRead
    split <;> exact nofun
  | readMetadata _ =>
    refine absurd hover (hafter fun content => ?_)
    unfold Turn.metadataRead
    split <;> exact nofun
  | noMetadata _ _ | someMetadata _ | unknownMetadata _ | refused _ _ _ _ _ | committed _ _ _ _ => cases hover

/-- **What a successful cycle has done.** -/
theorem cycle_succeeded (remote : Remote ρ) {w : Meanwhile (ρ × List FileCall)} {origin : Origin}
    {settings : Settings} {e after : Engine (ρ × List FileCall)} {calls : List FileCall}
    (h : e.cycle remote.recorded w origin settings = (some ⟨origin, .succeeded⟩, after))
    (hcalls : after.far.2 = e.far.2 ++ calls) :
    ∃ endpoint reads found, Endpoint.parse settings.trimmedUrl settings.username = .ok endpoint ∧
      Cycle.Completed { origin, settings, endpoint } e.config w.clock e.device.store after.device.store reads
        found calls := by
  cases hparse : Endpoint.parse settings.trimmedUrl settings.username with
  | error f =>
    obtain ⟨failed, hbegin, -, -⟩ := e.begin_of_error remote.recorded origin hparse
    rw [Engine.cycle_of_ended hbegin] at h
    cases h
  | ok endpoint =>
    let c : Cycle := { origin, settings, endpoint }
    have hkept : Engine.KeptByStages remote.recorded c e.config w.clock
        (Written c e.config w.clock e.device.store e.far.2 []) := keptByStages_written remote e.far.2 [] hparse
    obtain ⟨stage, n, last, outcome, hreached, hends⟩ := Engine.cycle_induction w hparse hkept
      fun _ => ⟨[], (List.append_nil _).symm, .start⟩
    let done := (last.perform remote.recorded { c with stage }).2
    have hresult : (some (Ended.mk origin .succeeded), after)
        = (some (Ended.mk origin (.ofOutcome outcome)),
          (done.finish remote.recorded { c with stage } outcome).2) :=
      h.symm.trans hends.result
    have hsuccess := hends.outcome_of_succeeded h
    have hstore : after.device.store = done.device.store := congrArg (·.2.device.store) hresult
    have hfar : after.far.2 = done.far.2 := congrArg (·.2.far.2) hresult
    -- the stage that ended the cycle was the upload of the metadata
    have hover := hends.isOver
    rw [hsuccess] at hover
    obtain ⟨s, rfl, hcalled⟩ := (Engine.stageDone_perform remote last c stage).of_over hover
    obtain ⟨earlier, hearlier, hprogress⟩ := hreached.holds
    rw [List.nil_append, ← hcalled.store, ← hstore] at hprogress
    cases hprogress with
    | @uploaded reads found _ hread hmerged =>
      refine ⟨endpoint, reads, found, rfl, hread, hmerged, ?_⟩
      rw [hfar, hcalled.calls, hearlier, hreached.config, List.append_assoc,
        List.append_cancel_left_eq] at hcalls
      rw [← hcalls, List.append_assoc]
      rfl

end Completed

/-! ## Finding what was uploaded -/

/-- What the call is answered about this location is that this content is there. -/
def FileCall.Finds (l : Location) (content : List UInt8) : FileCall → Prop
  | has l' answer => l' = l → answer = .ok true
  | read l' answer => l' = l → answer = .ok content
  | createDirectories .. => True
  | write .. => True

/-- A cycle that finds both files as they were uploaded finds the snapshot that was uploaded. -/
theorem Found.of_finds {bookmarksFile metadataFile : Location} {clock : Nat → Timestamp} {n : Nat}
    {reading : List FileCall} {found : Option Snapshot} {s : Snapshot} (hnormal : InNormalForm s.bookmarks)
    (h : Found bookmarksFile metadataFile clock n reading found)
    (hbookmarks : ∀ call ∈ reading, call.Finds bookmarksFile s.bookmarksContent)
    (hmetadata : ∀ call ∈ reading, call.Finds metadataFile s.metadataContent) : found = some s := by
  have hread {content : List UInt8} (hmem : .read bookmarksFile (.ok content) ∈ reading) :
      RemoteDocument.ofBytes content = .ok ⟨s.bookmarks⟩ := by
    have hcontent : content = s.bookmarksContent := Except.ok.inj (hbookmarks _ hmem rfl)
    rw [hcontent]
    exact ofBytes_bookmarksContent hnormal
  have hreadMetadata {text : List UInt8} (hmem : .read metadataFile (.ok text) ∈ reading) :
      SyncMetadata.ofText (Text.Utf8.lossy text) = .ok s.metadata := by
    have htext : text = s.metadataContent := Except.ok.inj (hmetadata _ hmem rfl)
    rw [htext]
    exact ofText_metadataContent s
  -- the files hold what was written, so of the five ways to read only the last one is left
  cases h with
  | missing => cases hbookmarks _ (.head _) rfl
  | unreadable hcontent =>
    rw [hread (.tail _ (.head _))] at hcontent
    cases hcontent
  | withoutMetadata _ _ => cases hmetadata _ (.tail _ (.tail _ (.head _))) rfl
  | unreadableMetadata _ htext =>
    rw [hreadMetadata (.tail _ (.tail _ (.tail _ (.head _))))] at htext
    cases htext
  | whole hcontent htext =>
    rw [hread (.tail _ (.head _))] at hcontent
    rw [hreadMetadata (.tail _ (.tail _ (.tail _ (.head _))))] at htext
    cases hcontent
    cases htext
    rfl

/-- A completed cycle whose files hold what a snapshot would upload has found this snapshot. -/
theorem Cycle.Completed.found_of_finds {c : Cycle} {config : SyncConfig} {clock : Nat → Timestamp}
    {before after : Store} {reads calls : List FileCall} {found : Option Snapshot}
    (h : c.Completed config clock before after reads found calls) {s : Snapshot}
    (hnormal : InNormalForm s.bookmarks)
    (hfinds : ∀ l content, .write l content (.ok ()) ∈ c.uploads config s →
      ∀ call ∈ calls, call.Finds l content) : found = some s := by
  obtain ⟨ensuring, reading, hreads, -, hfound⟩ := h.read
  have hmem : ∀ call ∈ reading, call ∈ calls := by
    intro call hcall
    rw [h.calls, hreads]
    exact List.mem_append_left _ (List.mem_append_right _ hcall)
  refine hfound.of_finds hnormal (fun call hcall => ?_) (fun call hcall => ?_)
  · exact hfinds _ _ (.head _) call (hmem call hcall)
  · exact hfinds _ _ (.tail _ (.head _)) call (hmem call hcall)

section Repeated

variable {ρ : Type}

/-- **A repeated sync changes nothing but what has expired.** Two cycles of the same settings succeed, the
collection is not changed between them, and the second one finds the files as the first one wrote them. If
the first one has left no id twice, as is so whenever it had found something, then the second one leaves
the same collection without the tombstones that have expired by then; and if there are none of these, it
writes the same bookmarks file. -/
theorem repeated_sync_keeps_unexpired (remote : Remote ρ) {settings : Settings}
    {w₁ w₂ : Meanwhile (ρ × List FileCall)} {origin₁ origin₂ : Origin}
    {e₁ a₁ e₂ a₂ : Engine (ρ × List FileCall)} {calls₁ calls₂ : List FileCall}
    (hfirst : e₁.cycle remote.recorded w₁ origin₁ settings = (some ⟨origin₁, .succeeded⟩, a₁))
    (hcalls₁ : a₁.far.2 = e₁.far.2 ++ calls₁)
    (hsecond : e₂.cycle remote.recorded w₂ origin₂ settings = (some ⟨origin₂, .succeeded⟩, a₂))
    (hcalls₂ : a₂.far.2 = e₂.far.2 ++ calls₂)
    (hconfig : e₂.config = { e₁.config with debounce := e₂.config.debounce })
    (hlocal : e₂.device.store.bookmarks = a₁.device.store.bookmarks)
    (hfiles : ∀ l content, .write l content (.ok ()) ∈ calls₁ → ∀ call ∈ calls₂, call.Finds l content) :
    ∃ c₁ c₂ reads₁ reads₂ found₁ found₂,
      Cycle.Completed c₁ e₁.config w₁.clock e₁.device.store a₁.device.store reads₁ found₁ calls₁ ∧
      Cycle.Completed c₂ e₂.config w₂.clock e₂.device.store a₂.device.store reads₂ found₂ calls₂ ∧
      c₂.bookmarksFile e₂.config = c₁.bookmarksFile e₁.config ∧
      (found₁ ≠ none → (Merge.ids a₁.device.store.bookmarks).Nodup) ∧
      ((Merge.ids a₁.device.store.bookmarks).Nodup →
        a₂.device.store.bookmarks = a₁.device.store.bookmarks.filter
          (Outlives (w₂.clock reads₂.length) e₁.config.retention ·) ∧
        ((∀ b ∈ a₁.device.store.bookmarks, Outlives (w₂.clock reads₂.length) e₁.config.retention b) →
          a₂.device.store.snapshot.bookmarksContent = a₁.device.store.snapshot.bookmarksContent)) := by
  obtain ⟨endpoint, reads₁, found₁, hparse₁, hdone₁⟩ := cycle_succeeded remote hfirst hcalls₁
  obtain ⟨endpoint₂, reads₂, found₂, hparse₂, hdone₂⟩ := cycle_succeeded remote hsecond hcalls₂
  obtain rfl : endpoint = endpoint₂ := Except.ok.inj (hparse₁.symm.trans hparse₂)
  let c₁ : Cycle := { origin := origin₁, settings, endpoint }
  let c₂ : Cycle := { origin := origin₂, settings, endpoint }
  have hbookmarksFile : c₂.bookmarksFile e₂.config = c₁.bookmarksFile e₁.config := by rw [hconfig]; rfl
  have hmetadataFile : c₂.metadataFile e₂.config = c₁.metadataFile e₁.config := by rw [hconfig]; rfl
  have hretention : e₂.config.retention = e₁.config.retention := by rw [hconfig]
  have hnormal := hdone₁.merged.inNormalForm
  refine ⟨c₁, c₂, reads₁, reads₂, found₁, found₂, hdone₁, hdone₂, hbookmarksFile, hdone₁.merged.nodup_ids, ?_⟩
  intro hnodup
  -- the second cycle reads exactly the two files that the first one wrote
  have hfound : found₂ = some a₁.device.store.snapshot := by
    refine hdone₂.found_of_finds hnormal fun l content hwritten => hfiles l content ?_
    rw [Cycle.uploads, hbookmarksFile, hmetadataFile] at hwritten
    rw [hdone₁.calls]
    exact List.mem_append_right _ hwritten
  have hmerged := hdone₂.merged
  rw [hfound, hretention] at hmerged
  have hkept := hmerged.bookmarks_of_same hlocal.symm (hlocal ▸ hnormal) (hlocal ▸ hnodup)
  rw [hlocal] at hkept
  refine ⟨hkept, fun hlive => ?_⟩
  have hall : a₂.device.store.bookmarks = a₁.device.store.bookmarks := by
    rw [hkept, List.filter_eq_self]
    exact fun b hb => decide_eq_true (hlive b hb)
  show Text.Utf8.bytes (RemoteDocument.text ⟨a₂.device.store.bookmarks⟩) = _
  rw [hall]
  rfl

/-! ### A tombstone that expires between two syncs -/

/-- A bookmark and a tombstone, as the first sync leaves them. -/
def heldSnapshot : Snapshot where
  bookmarks := [.create "x" "n" "/n" false 3, (Bookmark.create "y" "m" "/m" false 3).tombstoned 4]
  metadata := { SyncMetadata.create "d" 1 with lastSyncTime := 5 }

def heldSettings : Settings := { enabled := true, webdavUrl := "dav://h" }

/-- The cycle that the settings lead to. -/
def heldCycle : Cycle := { origin := .caller, settings := heldSettings, endpoint := ⟨⟨.dav, "h", 80, ""⟩, ""⟩ }

/-- A far side with the directory of the sync files, which says whether they have been written. They are read
as the held snapshot. -/
def heldRemote : Remote Bool where
  opened _ far := far
  closed _ far := far
  has _ l far := (.ok (far || l = heldCycle.directory), far)
  createDirectories _ _ far := (.ok (), far)
  read _ l far :=
    (.ok (if l = heldCycle.bookmarksFile {} then heldSnapshot.bookmarksContent
      else heldSnapshot.metadataContent), far)
  write _ _ _ _ := (.ok (), true)

/-- An engine of a device with the bookmark and the tombstone, over a far side without files. -/
def heldEngine : Engine (Bool × List FileCall) where
  device :=
    let d := Device.start .empty 1 default false
    { d with store := d.store.committed heldSnapshot.bookmarks (.create "d" 1) }
  settings := heldSettings
  far := (false, [])

/-- The engine after the first sync. -/
def heldOnce : Engine (Bool × List FileCall) :=
  (heldEngine.cycle heldRemote.recorded (.ticking fun _ => 5) .caller heldSettings).2

/-- The calls of the first sync: it does not find a collection. -/
def heldCalls : List FileCall :=
  [.has heldCycle.directory (.ok true), .has (heldCycle.bookmarksFile {}) (.ok false)]
    ++ heldCycle.uploads {} heldSnapshot

set_option maxRecDepth 10000 in
theorem heldOnce_spec :
    heldEngine.cycle heldRemote.recorded (.ticking fun _ => 5) .caller heldSettings
      = (some ⟨.caller, .succeeded⟩, heldOnce) ∧
    heldOnce.device.store.snapshot = heldSnapshot ∧ heldOnce.far = (true, heldCalls) :=
  ⟨rfl, rfl, rfl⟩

/-- The call finds both files as they were held. -/
def FindsHeld (call : FileCall) : Prop :=
  ∀ l content, .write l content (.ok ()) ∈ heldCalls → call.Finds l content

/-- The files have been written, every call since then has found them, and the store takes every write. -/
def HeldThere (store : Store) (far : Bool × List FileCall) : Prop :=
  far.1 = true ∧ (∃ calls, far.2 = heldCalls ++ calls ∧ ∀ call ∈ calls, FindsHeld call) ∧
    store.IsWritable

theorem findsHeld_read (l : Location) : FindsHeld (.read l (.ok
    (if l = heldCycle.bookmarksFile {} then heldSnapshot.bookmarksContent
      else heldSnapshot.metadataContent))) := by
  intro l' content hwritten hl
  simp only [heldCalls, Cycle.uploads, List.mem_append, List.mem_cons, List.not_mem_nil, reduceCtorEq, or_false,
    false_or, FileCall.write.injEq, and_true] at hwritten
  rcases hwritten with ⟨hfile, hcontent⟩ | ⟨hfile, hcontent⟩
  · rw [if_pos (hl.trans hfile), hcontent]
  · rw [if_neg (by rw [hl, hfile]; decide), hcontent]

theorem HeldThere.called {store : Store} {far : Bool × List FileCall} {call : FileCall}
    (h : HeldThere store far) (hcall : FindsHeld call) : HeldThere store (true, far.2 ++ [call]) := by
  obtain ⟨-, ⟨calls, hcalls, hfinds⟩, hwritable⟩ := h
  refine ⟨rfl, ⟨calls ++ [call], by rw [hcalls, List.append_assoc], ?_⟩, hwritable⟩
  intro x hx
  rcases List.mem_append.mp hx with hx | hx
  · exact hfinds x hx
  · rw [List.mem_singleton.mp hx]
    exact hcall

theorem goesWell_held (c : Cycle) (n : Nat) (e : Engine (Bool × List FileCall))
    (h : HeldThere e.device.store e.far) :
    Engine.GoesWell (fun _ _ => HeldThere) HeldThere n (e.perform heldRemote.recorded c) := by
  obtain ⟨origin, settings, endpoint, stage⟩ := c
  obtain ⟨device, settings', config, registry, queue, status, lastStart, deferred, inFlight, waiting,
      there, log⟩ := e
  obtain rfl : there = true := h.1
  have hhas (l : Location) : HeldThere device.store (true, log ++ [.has l (.ok true)]) :=
    h.called fun _ _ _ _ => rfl
  have hwrite (l : Location) (content : List UInt8) :
      HeldThere device.store (true, log ++ [.write l content (.ok ())]) := h.called fun _ _ _ => trivial
  -- every stage makes one call at most, and the remote answers each of them well
  cases stage with
  | checkDirectory => exact .next (hhas _)
  | createDirectory => exact .next (h.called fun _ _ _ => trivial)
  | checkBookmarks => exact .next (hhas _)
  | readBookmarks =>
    show Engine.GoesWell _ _ _ (Turn.bookmarksRead _, _)
    generalize hturn : Turn.bookmarksRead _ = turn
    obtain ⟨stage, rfl⟩ : ∃ stage, turn = .next stage := hturn ▸ Engine.exists_bookmarksRead _
    exact .next (h.called (findsHeld_read _))
  | checkMetadata bs => exact .next (hhas _)
  | readMetadata bs =>
    show Engine.GoesWell _ _ _ (Turn.metadataRead bs _, _)
    generalize hturn : Turn.metadataRead bs _ = turn
    obtain ⟨stage, rfl⟩ : ∃ stage, turn = .next stage := hturn ▸ Engine.exists_metadataRead bs _
    exact .next (h.called (findsHeld_read _))
  | commit found =>
    show Engine.GoesWell _ _ _ (Engine.commit _ found)
    rw [Engine.commit_of_writable found h.2.2]
    exact .next ⟨rfl, h.2.1, h.2.2.committed _ _⟩
  | writeBookmarks s => exact .next (hwrite _ _)
  | writeMetadata s => exact .done (hwrite _ _)

/-- The second sync, a month after the first one, leaves the bookmark and drops the tombstone. -/
theorem repeated_sync_keeps_unexpired_month_later :
    ∃ after, heldOnce.cycle heldRemote.recorded (.ticking fun _ => 3000000000) .caller heldSettings
        = (some ⟨.caller, .succeeded⟩, after) ∧
      heldOnce.device.store.bookmarks = heldSnapshot.bookmarks ∧
      after.device.store.bookmarks = [.create "x" "n" "/n" false 3] := by
  obtain ⟨hfirst, hheld, hfar⟩ := heldOnce_spec
  have hparse : Endpoint.parse heldSettings.trimmedUrl heldSettings.username = .ok heldCycle.endpoint := by rfl
  have hstart : HeldThere heldOnce.device.store heldOnce.far := by
    rw [hfar]
    exact ⟨rfl, ⟨[], rfl, List.forall_mem_nil _⟩, rfl, rfl⟩
  have hwell (stage : Stage) (n : Nat) (e : Engine (Bool × List FileCall))
      (h : Engine.Reached (fun _ _ => HeldThere) heldOnce.config (fun _ => 3000000000) stage n e) :
      Engine.GoesWell (fun _ _ => HeldThere) HeldThere n
        (e.perform heldRemote.recorded { heldCycle with stage }) :=
    goesWell_held _ n e h.holds
  -- that the second cycle succeeds follows from its stages, without running it
  obtain ⟨after, far, hsecond, ⟨-, ⟨calls, hcalls, hfinds⟩, -⟩, hclosed⟩ :=
    Engine.cycle_succeeds (.ticking fun _ => 3000000000) hparse (fun _ => hstart) hwell
  have hbookmarks : heldOnce.device.store.bookmarks = heldSnapshot.bookmarks := congrArg (·.bookmarks) hheld
  refine ⟨after, hsecond, hbookmarks, ?_⟩
  have hcalls₁ : heldOnce.far.2 = heldEngine.far.2 ++ heldCalls := by
    rw [hfar]
    rfl
  have hcalls₂ : after.far.2 = heldOnce.far.2 ++ calls := by
    rw [hclosed, hfar]
    exact hcalls
  obtain ⟨-, -, -, reads₂, -, -, -, -, -, -, hkept⟩ := repeated_sync_keeps_unexpired heldRemote hfirst hcalls₁
    hsecond hcalls₂ rfl rfl fun l content hwritten call hcall => hfinds call hcall l content hwritten
  have hnodup : (Merge.ids heldOnce.device.store.bookmarks).Nodup := by
    rw [hbookmarks]
    decide
  rw [(hkept hnodup).1, hbookmarks]
  show heldSnapshot.bookmarks.filter (fun b => decide (Outlives 3000000000 Merge.defaultRetention b)) = _
  decide

end Repeated

end BookmarkSync
