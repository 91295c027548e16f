import BookmarkSync.Proofs.Store.NormalForm
import BookmarkSync.Proofs.Sync.Course
import BookmarkSync.Proofs.Sync.CycleInduction

/-!
# `BookmarkSync.Proofs.Sync.CycleOutcome` — every cycle ends in one of three ways

While a cycle runs, the calls it has made and the stage it has come to determine each other (`Progress`).
Each stage keeps this or ends the cycle (`Progress.step`), so the calls made until the last stage say how the
cycle ends.
-/

namespace BookmarkSync

open Store (HoldsBookmarks HoldsMetadata Published)

/-! ## What a commit leaves -/

/-- A commit keeps the metadata as it is given. -/
theorem metadata_committed (s : Store) (bookmarks : List Bookmark) (metadata : SyncMetadata) :
    (s.committed bookmarks metadata).metadata = metadata := rfl

/-- The metadata of a sync is that of the merge, but for the time of the last sync. -/
theorem Snapshot.synced_metadata (ours : Snapshot) (found : Option Snapshot) (now : Timestamp)
    (retention : Duration) :
    (ours.synced found now retention).metadata
      = (ours.merge found now retention).metadata.withLastSync now := rfl

/-- A store that has committed what a sync makes of it has the merge. -/
theorem merged_committed (found : Option Snapshot) (now : Timestamp) (retention : Duration) (s : Store) :
    Merged found now retention s (s.committed (s.snapshot.synced found now retention).bookmarks
      (s.snapshot.synced found now retention).metadata) where
  bookmarks := rfl
  lastSyncTime := by rw [metadata_committed, Snapshot.synced_metadata, SyncMetadata.lastSyncTime_withLastSync]
  deviceId := by rw [metadata_committed, Snapshot.synced_metadata, SyncMetadata.deviceId_withLastSync]
  version := by rw [metadata_committed, Snapshot.synced_metadata, SyncMetadata.version_withLastSync]
  lastModifiedTime := by
    rw [metadata_committed, Snapshot.synced_metadata, SyncMetadata.lastModifiedTime_withLastSync]
  bookmarksEntry := Store.holdsBookmarks_committed s _ _
  metadataEntry := Store.holdsMetadata_committed s _ _
  published := ⟨rfl, rfl⟩

/-- The bookmarks file of a collection in normal form is read as that collection. -/
theorem ofBytes_bookmarksContent {s : Snapshot} (h : InNormalForm s.bookmarks) :
    RemoteDocument.ofBytes s.bookmarksContent = .ok ⟨s.bookmarks⟩ := by
  rw [Snapshot.bookmarksContent, RemoteDocument.ofBytes_text]
  simp only [h.map_withoutBlankNotes]

/-- What is committed is in normal form, so it is written as it is and read back from that. -/
theorem Merged.inNormalForm {found : Option Snapshot} {now : Timestamp} {retention : Duration}
    {before after : Store} (h : Merged found now retention before after) : InNormalForm after.bookmarks := by
  rw [h.bookmarks]
  exact inNormalForm_map_normalized _

theorem Merged.ofBytes_content {found : Option Snapshot} {now : Timestamp} {retention : Duration}
    {before after : Store} (h : Merged found now retention before after) :
    RemoteDocument.ofBytes after.snapshot.bookmarksContent = .ok ⟨after.bookmarks⟩ :=
  ofBytes_bookmarksContent h.inNormalForm

/-- The metadata file is read back as the metadata. -/
theorem ofText_metadataContent (s : Snapshot) :
    SyncMetadata.ofText (Text.Utf8.lossy s.metadataContent) = .ok s.metadata := by
  rw [Snapshot.metadataContent, Text.Utf8.lossy_bytes, SyncMetadata.ofText_prettyText]

/-! ## Calls before the commit -/

/-- Calls that were answered and wrote nothing. -/
def Harmless (calls : List FileCall) : Prop := ∀ call ∈ calls, call.failure? = none ∧ call.isWrite = false

theorem Harmless.append {calls calls' : List FileCall} (h : Harmless calls) (h' : Harmless calls') :
    Harmless (calls ++ calls') := by
  intro call hcall
  rcases List.mem_append.mp hcall with hcall | hcall
  · exact h call hcall
  · exact h' call hcall

theorem Harmless.nil : Harmless [] := List.forall_mem_nil _

theorem Harmless.cons {call : FileCall} {calls : List FileCall} (hfailure : call.failure? = none)
    (hwrite : call.isWrite = false) (h : Harmless calls) : Harmless (call :: calls) := by
  intro x hx
  rcases List.mem_cons.mp hx with rfl | hx
  · exact ⟨hfailure, hwrite⟩
  · exact h x hx

/-- What is asked before the commit was answered, and wrote nothing: neither about the directory nor about the
files. -/
theorem Ensured.harmless {directory : Location} {calls : List FileCall} (h : Ensured directory calls) :
    Harmless calls := by
  cases h <;> simp [Harmless, FileCall.failure?, FileCall.cause?, FileCall.isWrite]

theorem Found.harmless {bookmarksFile metadataFile : Location} {clock : Nat → Timestamp} {n : Nat}
    {calls : List FileCall} {found : Option Snapshot}
    (h : Found bookmarksFile metadataFile clock n calls found) :
    Harmless calls := by
  cases h <;> simp [Harmless, FileCall.failure?, FileCall.cause?, FileCall.isWrite]

theorem Cycle.HasRead.harmless {c : Cycle} {config : SyncConfig} {clock : Nat → Timestamp}
    {reads : List FileCall} {found : Option Snapshot} (h : c.HasRead config clock reads found) :
    Harmless reads := by
  obtain ⟨ensuring, reading, rfl, hensured, hfound⟩ := h
  exact hensured.harmless.append hfound.harmless

/-! ## Progress -/

section Cycle

variable (c : Cycle) (config : SyncConfig) (clock : Nat → Timestamp) (before : Store)

/-- The cycle is at a stage, which is its stage number `n`; it has made these calls; and the store is now
like this. -/
inductive Progress : Stage → (n : Nat) → (calls : List FileCall) → (store : Store) → Prop
  | start : Progress .checkDirectory 0 [] before
  | noDirectory : Progress .createDirectory 1 [.has c.directory (.ok false)] before
  | ensured {ensuring : List FileCall} : Ensured c.directory ensuring →
      Progress .checkBookmarks ensuring.length ensuring before
  | bookmarksThere {ensuring : List FileCall} : Ensured c.directory ensuring →
      Progress .readBookmarks (ensuring.length + 1)
        (ensuring ++ [.has (c.bookmarksFile config) (.ok true)]) before
  | bookmarksRead {ensuring : List FileCall} {content : List UInt8} {d : RemoteDocument} :
      Ensured c.directory ensuring → RemoteDocument.ofBytes content = .ok d →
      Progress (.checkMetadata d.bookmarks) (ensuring.length + 2)
        (ensuring ++ [.has (c.bookmarksFile config) (.ok true), .read (c.bookmarksFile config) (.ok content)])
        before
  | metadataThere {ensuring : List FileCall} {content : List UInt8} {d : RemoteDocument} :
      Ensured c.directory ensuring → RemoteDocument.ofBytes content = .ok d →
      Progress (.readMetadata d.bookmarks) (ensuring.length + 3)
        (ensuring ++ [.has (c.bookmarksFile config) (.ok true), .read (c.bookmarksFile config) (.ok content),
          .has (c.metadataFile config) (.ok true)])
        before
  | read {reads : List FileCall} {found : Option Snapshot} : c.HasRead config clock reads found →
      Progress (.commit found) reads.length reads before
  | committed {reads : List FileCall} {found : Option Snapshot} {store : Store} :
      c.HasRead config clock reads found → Merged found (clock reads.length) config.retention before store →
      Progress (.writeBookmarks store.snapshot) (reads.length + 1) reads store
  | uploaded {reads : List FileCall} {found : Option Snapshot} {store : Store} :
      c.HasRead config clock reads found → Merged found (clock reads.length) config.retention before store →
      Progress (.writeMetadata store.snapshot) (reads.length + 2)
        (reads ++ [.write (c.bookmarksFile config) store.snapshot.bookmarksContent (.ok ())]) store

/-- The course of the cycle when it ends with this store, these calls and this outcome. -/
def course (after : Store) (calls : List FileCall) (outcome : Except SyncError Unit) : Course where
  origin := c.origin
  settings := c.settings
  config := config
  clock := clock
  before := before
  after := after
  calls := calls
  report := .ofOutcome outcome

end Cycle

/-- A course ends in one of the three ways. -/
def Course.Ends (k : Course) : Prop := k.Synced ∨ k.Untouched ∨ k.UploadFailed

section Steps

variable {ρ : Type} {c : Cycle} {config : SyncConfig} {clock : Nat → Timestamp} {before : Store}

/-- What a stage leads to: the next stage, or the end of the cycle. -/
inductive Continues (c : Cycle) (config : SyncConfig) (clock : Nat → Timestamp) (before : Store) (stage : Stage)
    (n : Nat) : Turn → (calls : List FileCall) → (store : Store) → Prop
  | next {stage' : Stage} {calls : List FileCall} {store : Store} : stage'.rank < stage.rank →
      Progress c config clock before stage' (n + 1) calls store →
      Continues c config clock before stage n (.next stage') calls store
  | ends {outcome : Except SyncError Unit} {calls : List FileCall} {store : Store} :
      (course c config clock before store calls outcome).Ends →
      Continues c config clock before stage n (.over outcome) calls store

/-- A call that fails before the commit ends the cycle for the same cause. -/
theorem continues_failedCall {stage : Stage} {n : Nat} {calls : List FileCall} {call : FileCall}
    {error : SyncError} (hcalls : Harmless calls) (hfailure : call.failure? = some error)
    (hwrite : call.isWrite = false) :
    Continues c config clock before stage n (.over (.error error)) (calls ++ [call]) before := by
  refine .ends (.inr (.inl ⟨rfl, ?_, ?_⟩))
  · intro x hx
    rcases List.mem_append.mp hx with hx | hx
    · exact (hcalls x hx).2
    · rw [List.mem_singleton.mp hx]
      exact hwrite
  · exact .failedCall rfl (fun x hx => (hcalls x hx).1) hfailure rfl

/-! ## One stage after the other -/

/-- The cycle looks for its directory, and makes it if it is not there. -/
theorem continues_checkDirectory (answer : Except SyncError Bool) :
    Continues c config clock before .checkDirectory 0 (.after .directoryFound answer)
      ([] ++ [.has c.directory answer]) before := by
  rcases answer with error | found
  · exact continues_failedCall .nil rfl rfl
  · cases found with
    | true => exact .next (by decide) (.ensured .there)
    | false => exact .next (by decide) .noDirectory

theorem continues_createDirectory (answer : Except SyncError Unit) :
    Continues c config clock before .createDirectory 1 (.after (fun _ => .next .checkBookmarks) answer)
      ([.has c.directory (.ok false)] ++ [.createDirectories c.directory answer]) before := by
  rcases answer with error | ⟨⟩
  · exact continues_failedCall (.cons rfl rfl .nil) rfl rfl
  · exact .next (by decide) (.ensured .made)

section Reading

variable {ensuring : List FileCall} (hensured : Ensured c.directory ensuring)
include hensured

/-- What was found is at hand when the calls that find it follow those that make sure of the directory. -/
theorem progress_read {reading : List FileCall} {found : Option Snapshot}
    (hfound : Found (c.bookmarksFile config) (c.metadataFile config) clock ensuring.length reading found)
    {n : Nat} (hn : n = ensuring.length + reading.length) :
    Progress c config clock before (.commit found) n (ensuring ++ reading) before := by
  rw [hn, ← List.length_append]
  exact .read ⟨ensuring, reading, rfl, hensured, hfound⟩

/-- Without a bookmarks file there is nothing to read, and the cycle goes on to its commit. -/
theorem continues_checkBookmarks (answer : Except SyncError Bool) :
    Continues c config clock before .checkBookmarks ensuring.length (.after .bookmarksFound answer)
      (ensuring ++ [.has (c.bookmarksFile config) answer]) before := by
  rcases answer with error | found
  · exact continues_failedCall hensured.harmless rfl rfl
  · cases found with
    | true => exact .next (by decide) (.bookmarksThere hensured)
    | false => exact .next (by simp [Stage.rank]) (progress_read hensured .missing rfl)

/-- A collection that cannot be read counts as none. -/
theorem continues_readBookmarks (answer : Except SyncError (List UInt8)) :
    Continues c config clock before .readBookmarks (ensuring.length + 1) (.after .bookmarksRead answer)
      (ensuring ++ [.has (c.bookmarksFile config) (.ok true)] ++ [.read (c.bookmarksFile config) answer])
      before := by
  rcases answer with error | content
  · exact continues_failedCall (hensured.harmless.append (.cons rfl rfl .nil)) rfl rfl
  · rw [List.append_assoc]
    -- a file that cannot be read counts as none, and one that can is followed by its metadata
    cases hread : RemoteDocument.ofBytes content with
    | error error =>
      have hturn : Turn.bookmarksRead content = .next (.commit none) := by rw [Turn.bookmarksRead, hread]
      rw [Turn.after, hturn]
      exact .next (by simp [Stage.rank]) (progress_read hensured (.unreadable hread) rfl)
    | ok d =>
      have hturn : Turn.bookmarksRead content = .next (.checkMetadata d.bookmarks) := by
        rw [Turn.bookmarksRead, hread]
      rw [Turn.after, hturn]
      exact .next (by simp [Stage.rank]) (.bookmarksRead hensured hread)

/-- Metadata is missing, or there, or it cannot be told. -/
theorem continues_unknownMetadata (content : List UInt8) (bs : List Bookmark) {error : SyncError} :
    Continues c config clock before (.checkMetadata bs) (ensuring.length + 2) (.over (.error error))
      (ensuring ++
          [.has (c.bookmarksFile config) (.ok true), .read (c.bookmarksFile config) (.ok content)] ++
        [.has (c.metadataFile config) (.error error)])
      before :=
  continues_failedCall (hensured.harmless.append (.cons rfl rfl (.cons rfl rfl .nil))) rfl rfl

section Metadata

variable {content : List UInt8} {d : RemoteDocument} (hread : RemoteDocument.ofBytes content = .ok d)
include hread

theorem continues_noMetadata (id : String) :
    Continues c config clock before (.checkMetadata d.bookmarks) (ensuring.length + 2)
      (.next (.commit (some ⟨d.bookmarks, .create id (clock (ensuring.length + 2))⟩)))
      (ensuring ++
          [.has (c.bookmarksFile config) (.ok true), .read (c.bookmarksFile config) (.ok content)] ++
        [.has (c.metadataFile config) (.ok false)])
      before := by
  rw [List.append_assoc]
  exact .next (by simp [Stage.rank]) (progress_read hensured (.withoutMetadata id hread) rfl)

theorem continues_someMetadata :
    Continues c config clock before (.checkMetadata d.bookmarks) (ensuring.length + 2)
      (.next (.readMetadata d.bookmarks))
      (ensuring ++
          [.has (c.bookmarksFile config) (.ok true), .read (c.bookmarksFile config) (.ok content)] ++
        [.has (c.metadataFile config) (.ok true)])
      before := by
  rw [List.append_assoc]
  exact .next (by simp [Stage.rank]) (.metadataThere hensured hread)

/-- Metadata that is there but cannot be read makes the whole collection count as none. -/
theorem continues_readMetadata (answer : Except SyncError (List UInt8)) :
    Continues c config clock before (.readMetadata d.bookmarks) (ensuring.length + 3)
      (.after (.metadataRead d.bookmarks) answer)
      (ensuring ++
          [.has (c.bookmarksFile config) (.ok true), .read (c.bookmarksFile config) (.ok content),
            .has (c.metadataFile config) (.ok true)] ++
        [.read (c.metadataFile config) answer])
      before := by
  rcases answer with error | text
  · exact continues_failedCall
      (hensured.harmless.append (.cons rfl rfl (.cons rfl rfl (.cons rfl rfl .nil)))) rfl rfl
  · rw [List.append_assoc]
    -- the same policy for the metadata: both files are taken or neither
    cases hmetadata : SyncMetadata.ofText (Text.Utf8.lossy text) with
    | error error =>
      have hturn : Turn.metadataRead d.bookmarks text = .next (.commit none) := by
        rw [Turn.metadataRead, hmetadata]
      rw [Turn.after, hturn]
      exact .next (by simp [Stage.rank]) (progress_read hensured (.unreadableMetadata hread hmetadata) rfl)
    | ok m =>
      have hturn : Turn.metadataRead d.bookmarks text = .next (.commit (some ⟨d.bookmarks, m⟩)) := by
        rw [Turn.metadataRead, hmetadata]
      rw [Turn.after, hturn]
      exact .next (by simp [Stage.rank]) (progress_read hensured (.whole hread hmetadata) rfl)

end Metadata

end Reading

section Committing

variable {reads : List FileCall} {found : Option Snapshot}
  (hfollows : Endpoint.parse c.settings.trimmedUrl c.settings.username = .ok c.endpoint)
  (hread : c.HasRead config clock reads found)
include hfollows hread

/-- The store refuses the merge, and the cycle ends before anything was written. -/
theorem continues_refused {f : KeyFault} (hfault : before.kv.writeFault? Store.bookmarksKey = some f ∨
    before.kv.writeFault? Store.metadataKey = some f) :
    Continues c config clock before (.commit found) reads.length (.over (.error (.storage (.backend f))))
      reads before :=
  .ends (.inr (.inl ⟨rfl, fun call hcall => (hread.harmless call hcall).2,
    .refused f ⟨rfl, hfollows⟩ hread hfault rfl⟩))

variable {store : Store} (hmerged : Merged found (clock reads.length) config.retention before store)
include hmerged

/-- The bookmarks are written first; if this fails, the metadata is not sent. -/
theorem continues_writeBookmarks (answer : Except SyncError Unit) :
    Continues c config clock before (.writeBookmarks store.snapshot) (reads.length + 1)
      (.after (fun _ => .next (.writeMetadata store.snapshot)) answer)
      (reads ++ [.write (c.bookmarksFile config) store.snapshot.bookmarksContent answer]) store := by
  rcases answer with error | ⟨⟩
  · exact .ends (.inr (.inr (.bookmarks ⟨⟨rfl, hfollows⟩, hread, hmerged⟩ rfl rfl)))
  · exact .next (by simp [Stage.rank]) (.uploaded hread hmerged)

/-- When the metadata is written the sync has succeeded. -/
theorem continues_writeMetadata (answer : Except SyncError Unit) :
    Continues c config clock before (.writeMetadata store.snapshot) (reads.length + 2)
      (.after (fun _ => .over (.ok ())) answer)
      (reads ++ [.write (c.bookmarksFile config) store.snapshot.bookmarksContent (.ok ())] ++
        [.write (c.metadataFile config) store.snapshot.metadataContent answer]) store := by
  rw [List.append_assoc]
  rcases answer with error | ⟨⟩
  · exact .ends (.inr (.inr (.metadata ⟨⟨rfl, hfollows⟩, hread, hmerged⟩ rfl hmerged.ofBytes_content rfl)))
  · exact .ends (.inl (.intro ⟨⟨rfl, hfollows⟩, hread, hmerged⟩ rfl hmerged.ofBytes_content
      (ofText_metadataContent store.snapshot) rfl))

end Committing

/-- What one call leads to, as the engine shows it. -/
theorem after_call {e e' : Engine (ρ × List FileCall)} {call : FileCall} {stage : Stage} {turn : Turn} {n : Nat}
    {calls : List FileCall} {store : Store} (hcalled : Engine.Called e e' call)
    (hstore : e.device.store = store)
    (h : Continues c e.config clock before stage n turn (calls ++ [call]) store) :
    ∃ more, e'.far.2 = e.far.2 ++ more ∧
      Continues c e.config clock before stage n turn (calls ++ more) e'.device.store := by
  refine ⟨[call], hcalled.calls, ?_⟩
  rw [hcalled.store, hstore]
  exact h

/-- **Each stage of a cycle keeps its progress, or ends it in one of the three ways.** -/
theorem Progress.step {e e' : Engine (ρ × List FileCall)} {stage : Stage} {turn : Turn} {n : Nat}
    {calls : List FileCall}
    (hfollows : Endpoint.parse c.settings.trimmedUrl c.settings.username = .ok c.endpoint)
    (h : Progress c e.config clock before stage n calls e.device.store) (hnow : e.now = clock n)
    (hdone : Engine.StageDone e c stage turn e') :
    ∃ more, e'.far.2 = e.far.2 ++ more ∧
      Continues c e.config clock before stage n turn (calls ++ more) e'.device.store := by
  generalize hstore : e.device.store = store at h
  cases hdone with
  | checkDirectory hcalled =>
    cases h
    exact after_call hcalled hstore (continues_checkDirectory _)
  | createDirectory hcalled =>
    cases h
    exact after_call hcalled hstore (continues_createDirectory _)
  | checkBookmarks hcalled =>
    cases h with
    | ensured hensured =>
      exact after_call hcalled hstore (continues_checkBookmarks hensured _)
  | readBookmarks hcalled =>
    cases h with
    | bookmarksThere hensured =>
      exact after_call hcalled hstore (continues_readBookmarks hensured _)
  | noMetadata id hcalled =>
    cases h with
    | bookmarksRead hensured hread =>
      rw [hnow]
      exact after_call hcalled hstore (continues_noMetadata hensured hread id)
  | someMetadata hcalled =>
    cases h with
    | bookmarksRead hensured hread =>
      exact after_call hcalled hstore (continues_someMetadata hensured hread)
  | unknownMetadata hcalled =>
    cases h with
    | bookmarksRead hensured hread =>
      exact after_call hcalled hstore (continues_unknownMetadata hensured _ _)
  | readMetadata hcalled =>
    cases h with
    | metadataThere hensured hread =>
      exact after_call hcalled hstore (continues_readMetadata hensured hread _)
  | refused f hsame _ hfar hfault =>
    cases h with
    | read hread =>
      refine ⟨[], by rw [hfar, List.append_nil], ?_⟩
      rw [List.append_nil, hsame, hstore]
      exact continues_refused hfollows hread (hstore ▸ hfault)
  | committed hmerged hcommitted _ hfar =>
    cases h with
    | read hread =>
      refine ⟨[], by rw [hfar, List.append_nil], ?_⟩
      rw [List.append_nil]
      -- `now` is the time of this very stage
      refine .next (by simp [Stage.rank]) (.committed hread ?_)
      rw [hcommitted, hmerged, hstore, hnow]
      exact merged_committed _ _ _ _
  | writeBookmarks hcalled =>
    cases h with
    | committed hread hmerged =>
      exact after_call hcalled hstore (continues_writeBookmarks hfollows hread hmerged _)
  | writeMetadata hcalled =>
    cases h with
    | uploaded hread hmerged =>
      exact after_call hcalled hstore (continues_writeMetadata hfollows hread hmerged _)

/-! ## Whole cycles -/

/-- The calls that have been written down since `log` are those that the cycle has made after `earlier`. -/
def Written (c : Cycle) (config : SyncConfig) (clock : Nat → Timestamp) (before : Store)
    (log earlier : List FileCall) : StageFact (ρ × List FileCall) :=
  fun stage n store far =>
    ∃ calls, far.2 = log ++ calls ∧ Progress c config clock before stage n (earlier ++ calls) store

/-- What a stage leads to when all calls have been written down. -/
theorem Written.step {log earlier : List FileCall} (remote : Remote ρ)
    (hfollows : Endpoint.parse c.settings.trimmedUrl c.settings.username = .ok c.endpoint)
    {stage : Stage} {n : Nat} {e : Engine (ρ × List FileCall)}
    (h : Engine.Reached (Written c config clock before log earlier) config clock stage n e) :
    ∃ calls, (e.perform remote.recorded { c with stage }).2.far.2 = log ++ calls ∧
      Continues c config clock before stage n (e.perform remote.recorded { c with stage }).1 (earlier ++ calls)
        (e.perform remote.recorded { c with stage }).2.device.store := by
  obtain ⟨calls, hfar, hprogress⟩ := h.holds
  have hdone := Engine.stageDone_perform remote e c stage
  rw [← h.config] at hprogress ⊢
  obtain ⟨more, hmore, hcontinues⟩ := hprogress.step hfollows h.now hdone
  refine ⟨calls ++ more, ?_, ?_⟩
  · rw [hmore, hfar, List.append_assoc]
  · rw [← List.append_assoc]
    exact hcontinues

/-- While calls are written down, the stages of a cycle keep its progress. -/
theorem keptByStages_written (remote : Remote ρ) (log earlier : List FileCall)
    (hfollows : Endpoint.parse c.settings.trimmedUrl c.settings.username = .ok c.endpoint) :
    Engine.KeptByStages remote.recorded c config clock (Written c config clock before log earlier) := by
  intro stage n e stage' hreached hnext
  obtain ⟨calls, hcalls, hcontinues⟩ := Written.step remote hfollows hreached
  rw [hnext] at hcontinues
  cases hcontinues with
  | next _ hprogress => exact ⟨calls, hcalls, hprogress⟩

/-- A cycle that has made progress ends, and ends in one of the three ways. -/
theorem goOn_ends (remote : Remote ρ) (w : Meanwhile (ρ × List FileCall))
    (hfollows : Endpoint.parse c.settings.trimmedUrl c.settings.username = .ok c.endpoint) {fuel n : Nat}
    {e : Engine (ρ × List FileCall)} {stage : Stage} {calls : List FileCall} (hfuel : stage.rank ≤ fuel)
    (hflight : e.inFlight = some { c with stage })
    (h : Progress c e.config w.clock before stage n calls e.device.store) :
    ∃ outcome after more, e.goOn remote.recorded w fuel n = (some ⟨c.origin, .ofOutcome outcome⟩, after) ∧
      after.far.2 = e.far.2 ++ more ∧
      (course c e.config w.clock before after.device.store (calls ++ more) outcome).Ends := by
  have hstart : Written c e.config w.clock before e.far.2 calls stage n e.device.store e.far :=
    ⟨[], (List.append_nil _).symm, by rw [List.append_nil]; exact h⟩
  obtain ⟨stage', n', last, outcome, hreached, hends⟩ :=
    Engine.goOn_induction (keptByStages_written remote e.far.2 calls hfollows) hfuel hflight rfl hstart
  obtain ⟨more, hmore, hcontinues⟩ := Written.step remote hfollows hreached
  rw [hends.isOver] at hcontinues
  cases hcontinues with
  | ends hways => exact ⟨outcome, _, more, hends.result, hmore, hways⟩

end Steps

/-- Exactly one of the three descriptions fits a course that ends. -/
theorem Course.Ends.exactly_one {k : Course} (h : k.Ends) :
    (k.Synced ∧ ¬ k.Untouched ∧ ¬ k.UploadFailed) ∨ (¬ k.Synced ∧ k.Untouched ∧ ¬ k.UploadFailed) ∨
      (¬ k.Synced ∧ ¬ k.Untouched ∧ k.UploadFailed) := by
  have hsynced : k.report.success = false → ¬ k.Synced := fun hfalse h => nomatch h.success.symm.trans hfalse
  rcases h with h | h | h
  · refine .inl ⟨h, fun hu => ?_, fun hf => ?_⟩
    · exact hsynced hu.no_success h
    · exact hsynced hf.no_success h
  · exact .inr (.inl ⟨hsynced h.no_success, h, h.not_uploadFailed⟩)
  · exact .inr (.inr ⟨hsynced h.no_success, fun hu => hu.not_uploadFailed h, h⟩)

/-- **Every cycle ends, and in exactly one of three ways.** Whatever the settings are, whatever the store
holds and refuses to write, and whatever the far side answers to each call, a cycle during which nobody
else changes the store ends within its nine stages. Either the sync succeeded: the store has the merge of
what it held with what the far side holds, and both remote files are read as exactly that. Or it failed
before its commit: the store is as it was, and no file was written. Or an upload failed: the store has the
merge all the same, and the metadata was not sent if it was the bookmarks that failed. -/
theorem cycle_ends_in_one_of_three_ways {ρ : Type} (remote : Remote ρ) (w : Meanwhile (ρ × List FileCall))
    (origin : Origin) (settings : Settings) (e : Engine (ρ × List FileCall)) :
    ∃ (report : Report) (after : Engine (ρ × List FileCall)) (calls : List FileCall),
      e.cycle remote.recorded w origin settings = (some ⟨origin, report⟩, after) ∧
      after.far.2 = e.far.2 ++ calls ∧
      let k : Course :=
        { origin, settings, config := e.config, clock := w.clock, before := e.device.store,
          after := after.device.store, calls, report }
      (k.Synced ∧ ¬ k.Untouched ∧ ¬ k.UploadFailed) ∨ (¬ k.Synced ∧ k.Untouched ∧ ¬ k.UploadFailed) ∨
        (¬ k.Synced ∧ ¬ k.Untouched ∧ k.UploadFailed) := by
  -- a bad address ends the cycle before any call; otherwise the stages are followed to their end
  cases hparse : Endpoint.parse settings.trimmedUrl settings.username with
  | error f =>
    obtain ⟨after, hbegin, hdevice, hfar⟩ := e.begin_of_error remote.recorded origin hparse
    refine ⟨.failed (.invalidConfig f.message), after, [], ?_, by rw [hfar, List.append_nil], ?_⟩
    · exact Engine.cycle_of_ended hbegin
    · rw [hdevice]
      refine Course.Ends.exactly_one (.inr (.inl ⟨rfl, List.forall_mem_nil _, ?_⟩))
      exact .noAddress f hparse rfl rfl
  | ok endpoint =>
    obtain ⟨started, hbegin, hflight, hdevice, hconfig, credential, hfar⟩ :=
      e.begin_of_ok remote.recorded origin hparse
    have hstart : Progress { origin, settings, endpoint } started.config w.clock e.device.store
        .checkDirectory 0 [] started.device.store := by
      rw [hdevice]
      exact .start
    obtain ⟨outcome, after, calls, hrun, hcalls, hends⟩ :=
      goOn_ends (c := { origin, settings, endpoint }) remote w hparse (Nat.le_refl _) hflight hstart
    refine ⟨.ofOutcome outcome, after, calls, ?_, ?_, ?_⟩
    · rw [Engine.cycle_of_started hbegin]
      exact hrun
    · rw [hcalls, hfar]
      rfl
    · rw [hconfig] at hends
      exact hends.exactly_one

end BookmarkSync
