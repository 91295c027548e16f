import BookmarkSync.Device
import BookmarkSync.Schedule.Queue
import BookmarkSync.Sync.Cycle

/-!
# `BookmarkSync.Sync.Engine` — who may sync when

The engine runs at most one sync cycle at a time. Someone who asks for a sync while one is in flight is
told that the engine is busy; an automatic sync waits for its turn instead, under the settings as they
were when it was asked for. While a cycle is in flight its credential is registered.

A change of the collection asks for an automatic sync. Outside the debounce window after the last start
the sync is scheduled at once; inside the window one deferred sync is scheduled for its end, and further
wishes join it. The rest of the window is a checked difference. Where it does not fit in 64 bits, the wish
ends in a fault and leaves the engine as it was.

The engine moves in events: someone asks for something, a task starts, the cycle in flight carries out
one stage. Between two events everything is at rest.
-/

namespace BookmarkSync

inductive Phase
  | idle
  | syncing
deriving DecidableEq, Repr

/-- What the engine publishes. -/
structure SyncStatus where
  phase : Phase := .idle
  /-- The report of the cycle that finished last. -/
  lastReport : Option Report := none
deriving DecidableEq, Repr

/-- What a scheduled task does. -/
inductive Job
  /-- An automatic sync, at the end of the debounce window if it was deferred. -/
  | automatic (deferred : Bool)
  /-- A sync whose report is handed to someone. -/
  | reported
deriving DecidableEq, Repr

/-- What became of the wish for an automatic sync. -/
inductive Decision
  | skipped
  | started
  | deferred
  | alreadyPending
deriving DecidableEq, Repr

/-- Why a wish for an automatic sync is not decided. -/
inductive TriggerFault
  /-- The rest of the debounce window does not fit in 64 bits. -/
  | overflow
deriving DecidableEq, Repr

/-- An automatic sync that waits for the cycle in flight. -/
structure Waiting where
  task : Nat
  settings : Settings
deriving DecidableEq, Repr

structure Engine (ρ : Type) where
  device : Device
  settings : Settings
  config : SyncConfig := {}
  registry : Registry := {}
  queue : Queue Job := {}
  status : Watched SyncStatus := { value := {} }
  /-- When a sync was last started, or scheduled to start at once. -/
  lastStart : Option Timestamp := none
  /-- The number of the deferred sync. -/
  deferred : Option Nat := none
  inFlight : Option Cycle := none
  /-- The automatic syncs that wait, the longest first. -/
  waiting : List Waiting := []
  /-- The far side. -/
  far : ρ

/-- What a screen of settings shows of an engine. -/
structure StatusInfo where
  enabled : Bool
  lastSyncTime : Timestamp
  deviceId : String
  phase : Phase
deriving DecidableEq, Repr

/-- A sync has ended with this report. -/
structure Ended where
  origin : Origin
  report : Report
deriving DecidableEq, Repr

namespace Engine

variable {ρ : Type}

def now (e : Engine ρ) : Timestamp := e.device.clock

/-- Whether a cycle is in flight, or an automatic sync has the next turn. -/
def isBusy (e : Engine ρ) : Bool := e.inFlight.isSome || !e.waiting.isEmpty

def isSyncing (e : Engine ρ) : Bool := e.status.value.phase = .syncing

def statusInfo (e : Engine ρ) : StatusInfo where
  enabled := e.settings.enabled
  lastSyncTime := e.device.store.metadata.lastSyncTime
  deviceId := e.device.store.metadata.deviceId
  phase := e.status.value.phase

/-! ## Cycles -/

/-- Ends the cycle in flight: its credential goes, and its report is published. -/
def finish (remote : Remote ρ) (e : Engine ρ) (c : Cycle) (outcome : Except SyncError Unit) :
    Ended × Engine ρ :=
  let report := Report.ofOutcome outcome
  (⟨c.origin, report⟩,
    { e with
      registry := e.registry.erase c.endpoint.authority
      far := remote.closed c.endpoint.authority e.far
      status := e.status.publish ⟨.idle, some report⟩
      inFlight := none })

/-- Starts a cycle. A cycle whose address cannot be read ends at once. -/
def begin (remote : Remote ρ) (e : Engine ρ) (origin : Origin) (settings : Settings) :
    Option Ended × Engine ρ :=
  let e := { e with
    lastStart := some e.now
    status := e.status.modify fun s => { s with phase := .syncing } }
  match Endpoint.parse settings.trimmedUrl settings.username with
  | .error f =>
    let report := Report.failed (.invalidConfig f.message)
    (some ⟨origin, report⟩, { e with status := e.status.publish ⟨.idle, some report⟩ })
  | .ok endpoint =>
    let c : Cycle := { origin, settings, endpoint }
    (none,
      { e with
        registry := e.registry.insert c.credential
        far := remote.opened c.credential e.far
        inFlight := some c })

/-- Joins what was found into the store as it is now. -/
def commit (e : Engine ρ) (found : Option Snapshot) : Turn × Engine ρ :=
  let (r, device) := e.device.change fun store now =>
    store.replaceWith fun ours => ours.synced found now e.config.retention
  let e := { e with device }
  match r with
  | .error f => (.over (.error (.storage f)), e)
  | .ok committed => (.next (.writeBookmarks committed), e)

/-- Fresh metadata for a collection without any. -/
def freshMetadata (e : Engine ρ) : SyncMetadata × Engine ρ :=
  let (id, ids) := e.device.ids.fresh
  (SyncMetadata.create id e.now, { e with device := { e.device with ids } })

/-- After asking for the metadata of a collection. -/
def metadataFound (e : Engine ρ) (bookmarks : List Bookmark) : Except SyncError Bool → Turn × Engine ρ
  | .ok false =>
    let (m, e) := e.freshMetadata
    (.next (.commit (some ⟨bookmarks, m⟩)), e)
  | .ok true => (.next (.readMetadata bookmarks), e)
  | .error f => (.over (.error f), e)

/-- Asks the far side. -/
def ask {α : Type} (e : Engine ρ) (f : Registry → ρ → Except SyncError α × ρ) : Except SyncError α × Engine ρ :=
  let (r, far) := f e.registry e.far
  (r, { e with far })

/-- Carries out one stage of a cycle. -/
def perform (remote : Remote ρ) (e : Engine ρ) (c : Cycle) : Turn × Engine ρ :=
  let answered {α : Type} (f : α → Turn) (r : Except SyncError α × Engine ρ) := (Turn.after f r.1, r.2)
  let bookmarksFile := c.bookmarksFile e.config
  let metadataFile := c.metadataFile e.config
  match c.stage with
  | .checkDirectory => answered .directoryFound (e.ask fun reg far => remote.has reg c.directory far)
  | .createDirectory =>
    answered (fun _ => .next .checkBookmarks)
      (e.ask fun reg far => remote.createDirectories reg c.directory far)
  | .checkBookmarks => answered .bookmarksFound (e.ask fun reg far => remote.has reg bookmarksFile far)
  | .readBookmarks => answered .bookmarksRead (e.ask fun reg far => remote.read reg bookmarksFile far)
  | .checkMetadata bookmarks =>
    let (r, e) := e.ask fun reg far => remote.has reg metadataFile far
    e.metadataFound bookmarks r
  | .readMetadata bookmarks =>
    answered (.metadataRead bookmarks) (e.ask fun reg far => remote.read reg metadataFile far)
  | .commit found => e.commit found
  | .writeBookmarks s =>
    answered (fun _ => .next (.writeMetadata s))
      (e.ask fun reg far => remote.write reg bookmarksFile s.bookmarksContent far)
  | .writeMetadata s =>
    answered (fun _ => .over (.ok ()))
      (e.ask fun reg far => remote.write reg metadataFile s.metadataContent far)

/-- The cycle in flight carries out its stage. -/
def proceed (remote : Remote ρ) (e : Engine ρ) : Option Ended × Engine ρ :=
  match e.inFlight with
  | none => (none, e)
  | some c =>
    match e.perform remote c with
    | (.next stage, e) => (none, { e with inFlight := some { c with stage } })
    | (.over outcome, e) =>
      let (ended, e) := e.finish remote c outcome
      (some ended, e)

/-! ## Asking for a sync -/

/-- A sync that someone waits for. It is refused, or it starts. -/
def sync (remote : Remote ρ) (e : Engine ρ) (origin : Origin) : Option Ended × Engine ρ :=
  match e.settings.refusal? with
  | some r => (some ⟨origin, .failed (.declined r)⟩, e)
  | none =>
    if e.isBusy then (some ⟨origin, .failed .busy⟩, e)
    else e.begin remote origin e.settings

/-- An automatic sync. It is refused, waits, or starts. -/
def autoSync (remote : Remote ρ) (e : Engine ρ) (task : Nat) : Option Ended × Engine ρ :=
  match e.settings.refusal? with
  | some r => (some ⟨.task task, .failed (.declined r)⟩, e)
  | none =>
    if e.isBusy then (none, { e with waiting := e.waiting ++ [⟨task, e.settings⟩] })
    else e.begin remote (.task task) e.settings

/-- The automatic sync that waits longest takes its turn, if no cycle is in flight. -/
def takeTurn (remote : Remote ρ) (e : Engine ρ) : Option Ended × Engine ρ :=
  match e.inFlight, e.waiting with
  | none, w :: waiting => { e with waiting }.begin remote (.task w.task) w.settings
  | _, _ => (none, e)

/-! ## Tasks -/

/-- Schedules a sync whose report is handed to someone. -/
def scheduleReported (e : Engine ρ) : Engine ρ :=
  { e with queue := e.queue.schedule e.now .zero .reported }

/-- Cancels a task, and answers whether it was pending. -/
def cancelTask (e : Engine ρ) (n : Nat) : Bool × Engine ρ :=
  let (done, queue) := e.queue.cancel n
  (done, { e with queue })

/-- A task does its work. -/
def work (remote : Remote ρ) (e : Engine ρ) (n : Nat) : Job → Option Ended × Engine ρ
  | .automatic true => { e with deferred := none, lastStart := some e.now }.autoSync remote n
  | .automatic false => e.autoSync remote n
  | .reported => e.sync remote (.task n)

/-- Starts the task that is due, and answers its number and job. -/
def startDue (remote : Remote ρ) (e : Engine ρ) : Option ((Nat × Job) × Option Ended × Engine ρ) :=
  match e.queue.firstDue? e.now with
  | none => none
  | some (t, n) => some ((n, t.job), { e with queue := e.queue.start n }.work remote n t.job)

/-! ## Automatic syncs -/

/-- The time since the last start, inside the debounce window. -/
def windowElapsed? (e : Engine ρ) : Option Int64 :=
  e.lastStart.bind fun last =>
    let elapsed := Timestamp.subClamped e.now last
    if elapsed < e.config.debounce.clamped then some elapsed else none

/-- The rest of the debounce window when so much of it has passed, if the rest fits in 64 bits. -/
def windowLeft? (e : Engine ρ) (elapsed : Int64) : Option Duration :=
  (Timestamp.subChecked? e.config.debounce.clamped elapsed).map fun left => ⟨left.toInt.toNat⟩

/-- Whether a deferred sync is pending. -/
def hasDeferred (e : Engine ρ) : Bool := e.deferred.any e.queue.isPending

/-- Asks for an automatic sync. -/
def trigger (e : Engine ρ) : Except TriggerFault Decision × Engine ρ :=
  if !e.settings.isConfigured then (.ok .skipped, e)
  else
    match e.windowElapsed? with
    | some elapsed =>
      if e.hasDeferred then (.ok .alreadyPending, e)
      else
        match e.windowLeft? elapsed with
        | none => (.error .overflow, e)
        | some left =>
          (.ok .deferred,
            { e with
              queue := e.queue.schedule e.now left (.automatic true)
              deferred := some e.queue.nextNumber })
    | none =>
      (.ok .started,
        { e with
          queue := e.queue.schedule e.now .zero (.automatic false)
          lastStart := some e.now })

/-- Cancels the deferred sync, and answers whether it was pending. -/
def cancelDeferred (e : Engine ρ) : Bool × Engine ρ :=
  match e.deferred with
  | none => (false, e)
  | some n => { e with deferred := none }.cancelTask n

/-- Changes the device. -/
def onDevice {α : Type} (e : Engine ρ) (f : Device → α × Device) : α × Engine ρ :=
  let (a, device) := f e.device
  (a, { e with device })

end Engine

end BookmarkSync
