import BookmarkSync.Proofs.Remote.Recorded
import BookmarkSync.Proofs.Store.Changes

/-!
# `BookmarkSync.Proofs.Sync.CycleRun` — a cycle from its start to its end

A cycle is carried out stage by stage, and between two stages time passes: the clock moves, and whatever
does not touch the store may happen. What a single stage asks, and what it leads to, is said once
(`StageDone`), so that facts about a whole cycle never look into a stage again.
-/

namespace BookmarkSync

variable {ρ : Type}

/-! ## Whole cycles -/

/-- What the cycle in flight depends on has stayed as it was. -/
structure Engine.Quiet (e e' : Engine ρ) : Prop where
  store : e'.device.store = e.device.store
  config : e'.config = e.config
  inFlight : e'.inFlight = e.inFlight
  far : e'.far = e.far

/-- What happens before the stages of a cycle, counted from zero, when nobody changes the store; and what
the clock then shows. -/
structure Meanwhile (ρ : Type) where
  clock : Nat → Timestamp
  act : Nat → Engine ρ → Engine ρ
  quiet : ∀ n e, (e : Engine ρ).Quiet (act n e)
  shows : ∀ n e, (act n e).now = clock n

/-- Only the clock moves. -/
def Meanwhile.ticking (clock : Nat → Timestamp) : Meanwhile ρ where
  clock := clock
  act n e := { e with device := { e.device with clock := clock n } }
  quiet _ _ := ⟨rfl, rfl, rfl, rfl⟩
  shows _ _ := rfl

instance : Inhabited (Meanwhile ρ) := ⟨.ticking fun _ => 0⟩

namespace Engine

/-- The cycle in flight goes on for at most `fuel` stages, the first of which is stage `n`. -/
def goOn (remote : Remote ρ) (w : Meanwhile ρ) : (fuel n : Nat) → Engine ρ → Option Ended × Engine ρ
  | 0, _, e => (none, e)
  | fuel + 1, n, e =>
    match (w.act n e).proceed remote with
    | (some ended, e) => (some ended, e)
    | (none, e) => goOn remote w fuel (n + 1) e

/-- A cycle starts, and goes on for as many stages as there are. -/
def cycle (remote : Remote ρ) (w : Meanwhile ρ) (origin : Origin) (settings : Settings) (e : Engine ρ) :
    Option Ended × Engine ρ :=
  match e.begin remote origin settings with
  | (some ended, e) => (some ended, e)
  | (none, e) => e.goOn remote w Stage.checkDirectory.rank 0

/-- A cycle whose address cannot be read ends at once, and has touched nothing. -/
theorem begin_of_error (remote : Remote ρ) (e : Engine ρ) (origin : Origin) {settings : Settings}
    {f : Endpoint.Fault} (h : Endpoint.parse settings.trimmedUrl settings.username = .error f) :
    ∃ after, e.begin remote origin settings = (some ⟨origin, .failed (.invalidConfig f.message)⟩, after) ∧
      after.device = e.device ∧ after.far = e.far := by
  unfold begin
  rw [h]
  exact ⟨_, rfl, rfl, rfl⟩

/-- Any other cycle is in flight afterwards, and the far side has heard of its credential. -/
theorem begin_of_ok (remote : Remote ρ) (e : Engine ρ) (origin : Origin) {settings : Settings}
    {endpoint : Endpoint} (h : Endpoint.parse settings.trimmedUrl settings.username = .ok endpoint) :
    ∃ after, e.begin remote origin settings = (none, after) ∧
      after.inFlight = some { origin, settings, endpoint } ∧ after.device = e.device ∧ after.config = e.config ∧
      ∃ credential, after.far = remote.opened credential e.far := by
  unfold begin
  rw [h]
  exact ⟨_, rfl, rfl, rfl, rfl, _, rfl⟩

/-- A whole cycle is its start, followed by its stages if it has any. -/
theorem cycle_of_ended {remote : Remote ρ} {w : Meanwhile ρ} {origin : Origin} {settings : Settings}
    {e after : Engine ρ} {ended : Ended} (h : e.begin remote origin settings = (some ended, after)) :
    e.cycle remote w origin settings = (some ended, after) := by
  unfold cycle
  rw [h]

theorem cycle_of_started {remote : Remote ρ} {w : Meanwhile ρ} {origin : Origin} {settings : Settings}
    {e started : Engine ρ} (h : e.begin remote origin settings = (none, started)) :
    e.cycle remote w origin settings = started.goOn remote w Stage.checkDirectory.rank 0 := by
  unfold cycle
  rw [h]

/-- A stage leads to the next one, with the cycle still in flight, or it ends the cycle. -/
theorem proceed_of_next {remote : Remote ρ} {e e' : Engine ρ} {c : Cycle} {stage : Stage}
    (hflight : e.inFlight = some c) (h : e.perform remote c = (.next stage, e')) :
    e.proceed remote = (none, { e' with inFlight := some { c with stage } }) := by
  simp only [proceed, hflight, h]

theorem proceed_of_over {remote : Remote ρ} {e e' : Engine ρ} {c : Cycle} {outcome : Except SyncError Unit}
    (hflight : e.inFlight = some c) (h : e.perform remote c = (.over outcome, e')) :
    e.proceed remote = (some ⟨c.origin, .ofOutcome outcome⟩, (e'.finish remote c outcome).2) := by
  simp only [proceed, hflight, h]
  rfl

end Engine

/-! ## Cycles that are listened to -/

/-- What happens between the stages happens in the same way to an engine whose calls are written down. -/
def Meanwhile.recorded (w : Meanwhile ρ) : Meanwhile (ρ × List FileCall) where
  clock := w.clock
  act n e :=
    let next := w.act n e.unrecorded
    { next with far := (next.far, e.far.2) }
  quiet n e := by
    have hquiet := w.quiet n e.unrecorded
    refine ⟨hquiet.store, hquiet.config, hquiet.inFlight, ?_⟩
    show ((w.act n e.unrecorded).far, e.far.2) = e.far
    rw [hquiet.far]
    rfl
  shows n e := w.shows n e.unrecorded

namespace Engine

/-- The stages of a cycle are the same whether calls are written down or not, however many of them there are. -/
theorem goOn_recorded (remote : Remote ρ) (w : Meanwhile ρ) (fuel n : Nat) (e : Engine (ρ × List FileCall)) :
    e.unrecorded.goOn remote w fuel n =
      ((e.goOn remote.recorded w.recorded fuel n).1,
        (e.goOn remote.recorded w.recorded fuel n).2.unrecorded) := by
  induction fuel generalizing n e with
  | zero => rfl
  | succ fuel ih =>
    -- what comes before the stage is the same, and so is the stage
    have hstage := proceed_recorded remote (w.recorded.act n e)
    have hact : (w.recorded.act n e).unrecorded = w.act n e.unrecorded := rfl
    rw [hact] at hstage
    rw [goOn, goOn, hstage]
    rcases (w.recorded.act n e).proceed remote.recorded with ⟨_ | ended, next⟩
    · exact ih (n + 1) next
    · rfl

/-- **A remote that is listened to does not change a cycle**, from its start to its end. So whatever is said
of the cycles of an engine whose calls are written down holds of those of any engine. -/
theorem cycle_recorded (remote : Remote ρ) (w : Meanwhile ρ) (origin : Origin) (settings : Settings)
    (e : Engine (ρ × List FileCall)) :
    e.unrecorded.cycle remote w origin settings =
      ((e.cycle remote.recorded w.recorded origin settings).1,
        (e.cycle remote.recorded w.recorded origin settings).2.unrecorded) := by
  have hbegin := begin_recorded remote e origin settings
  rcases hstarted : e.begin remote.recorded origin settings with ⟨_ | ended, next⟩
  · rw [hstarted] at hbegin
    rw [cycle_of_started hbegin, cycle_of_started hstarted, goOn_recorded]
  · rw [hstarted] at hbegin
    rw [cycle_of_ended hbegin, cycle_of_ended hstarted]

/-! ## Single stages -/

/-- The engine after a call of the far side: the store is as it was, and the call is written down. -/
structure Called (e e' : Engine (ρ × List FileCall)) (call : FileCall) : Prop where
  store : e'.device.store = e.device.store
  config : e'.config = e.config
  calls : e'.far.2 = e.far.2 ++ [call]

/-- What a stage of the cycle leads to, and what it does to the engine. -/
inductive StageDone (e : Engine (ρ × List FileCall)) (c : Cycle) :
    Stage → Turn → Engine (ρ × List FileCall) → Prop
  | checkDirectory {e' answer} : Called e e' (.has c.directory answer) →
      StageDone e c .checkDirectory (.after .directoryFound answer) e'
  | createDirectory {e' answer} : Called e e' (.createDirectories c.directory answer) →
      StageDone e c .createDirectory (.after (fun _ => .next .checkBookmarks) answer) e'
  | checkBookmarks {e' answer} : Called e e' (.has (c.bookmarksFile e.config) answer) →
      StageDone e c .checkBookmarks (.after .bookmarksFound answer) e'
  | readBookmarks {e' answer} : Called e e' (.read (c.bookmarksFile e.config) answer) →
      StageDone e c .readBookmarks (.after .bookmarksRead answer) e'
  | noMetadata {e' bookmarks} (id : String) : Called e e' (.has (c.metadataFile e.config) (.ok false)) →
      StageDone e c (.checkMetadata bookmarks) (.next (.commit (some ⟨bookmarks, .create id e.now⟩))) e'
  | someMetadata {e' bookmarks} : Called e e' (.has (c.metadataFile e.config) (.ok true)) →
      StageDone e c (.checkMetadata bookmarks) (.next (.readMetadata bookmarks)) e'
  | unknownMetadata {e' bookmarks error} : Called e e' (.has (c.metadataFile e.config) (.error error)) →
      StageDone e c (.checkMetadata bookmarks) (.over (.error error)) e'
  | readMetadata {e' bookmarks answer} : Called e e' (.read (c.metadataFile e.config) answer) →
      StageDone e c (.readMetadata bookmarks) (.after (.metadataRead bookmarks) answer) e'
  | refused {e' found} (f : KeyFault) : e'.device.store = e.device.store → e'.config = e.config →
      e'.far = e.far →
      (e.device.store.kv.writeFault? Store.bookmarksKey = some f ∨
        e.device.store.kv.writeFault? Store.metadataKey = some f) →
      StageDone e c (.commit found) (.over (.error (.storage (.backend f)))) e'
  | committed {e' found merged} : merged = e.device.store.snapshot.synced found e.now e.config.retention →
      e'.device.store = e.device.store.committed merged.bookmarks merged.metadata →
      e'.config = e.config → e'.far = e.far →
      StageDone e c (.commit found) (.next (.writeBookmarks e'.device.store.snapshot)) e'
  | writeBookmarks {e' s answer} : Called e e' (.write (c.bookmarksFile e.config) s.bookmarksContent answer) →
      StageDone e c (.writeBookmarks s) (.after (fun _ => .next (.writeMetadata s)) answer) e'
  | writeMetadata {e' s answer} : Called e e' (.write (c.metadataFile e.config) s.metadataContent answer) →
      StageDone e c (.writeMetadata s) (.after (fun _ => .over (.ok ())) answer) e'

section Asking

variable (remote : Remote ρ) (e : Engine (ρ × List FileCall))

/-- A commit calls nobody: it is refused for one of the two entries, or the store has the merge. -/
theorem stageDone_commit (c : Cycle) (found : Option Snapshot) :
    StageDone e c (.commit found) (e.commit found).1 (e.commit found).2 := by
  rcases Store.replaceWith_cases e.device.store
    fun ours => ours.synced found e.device.clock e.config.retention with ⟨f, h, hfault⟩ | h
  · simp only [commit, Device.change, h]
    exact .refused f rfl rfl rfl hfault
  · let merged := e.device.store.snapshot.synced found e.device.clock e.config.retention
    let after : Engine (ρ × List FileCall) :=
      { e with device := { e.device with store := e.device.store.committed merged.bookmarks merged.metadata } }
    have hdone : StageDone e c (.commit found) (.next (.writeBookmarks after.device.store.snapshot)) after :=
      .committed rfl rfl rfl rfl
    simp only [commit, Device.change, h]
    exact hdone

/-- Where the metadata is missing, fresh metadata is made at the time that the clock shows. -/
theorem stageDone_checkMetadata {e' : Engine (ρ × List FileCall)} (c : Cycle) (bs : List Bookmark)
    {answer : Except SyncError Bool} (h : Called e e' (.has (c.metadataFile e.config) answer))
    (hnow : e'.now = e.now) :
    StageDone e c (.checkMetadata bs) (e'.metadataFound bs answer).1 (e'.metadataFound bs answer).2 := by
  rcases answer with error | found
  · exact .unknownMetadata h
  · cases found with
    | true => exact .someMetadata h
    | false =>
      -- the fresh metadata takes an id from the supply, and nothing else
      have hcalled : Called e (e'.metadataFound bs (.ok false)).2
          (.has (c.metadataFile e.config) (.ok false)) :=
        ⟨h.store, h.config, h.calls⟩
      have hmade : (e'.metadataFound bs (.ok false)).1
          = .next (.commit (some ⟨bs, .create e'.device.ids.fresh.1 e.now⟩)) := by
        rw [← hnow]
        rfl
      rw [hmade]
      exact .noMetadata _ hcalled

/-- **What each stage does.** -/
theorem stageDone_perform (c : Cycle) (stage : Stage) :
    StageDone e c stage (e.perform remote.recorded { c with stage }).1
      (e.perform remote.recorded { c with stage }).2 := by
  unfold perform
  cases stage with
  | checkDirectory => exact .checkDirectory ⟨rfl, rfl, rfl⟩
  | createDirectory => exact .createDirectory ⟨rfl, rfl, rfl⟩
  | checkBookmarks => exact .checkBookmarks ⟨rfl, rfl, rfl⟩
  | readBookmarks => exact .readBookmarks ⟨rfl, rfl, rfl⟩
  | checkMetadata bs => exact stageDone_checkMetadata e c bs ⟨rfl, rfl, rfl⟩ rfl
  | readMetadata bs => exact .readMetadata ⟨rfl, rfl, rfl⟩
  | commit found => exact stageDone_commit e c found
  | writeBookmarks s => exact .writeBookmarks ⟨rfl, rfl, rfl⟩
  | writeMetadata s => exact .writeMetadata ⟨rfl, rfl, rfl⟩

end Asking

end Engine

end BookmarkSync
