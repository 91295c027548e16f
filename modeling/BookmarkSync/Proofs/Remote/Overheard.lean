import BookmarkSync.Proofs.Remote.Recorded
import BookmarkSync.Proofs.Sync.Events

/-!
# `BookmarkSync.Proofs.Remote.Overheard` — all that passes between an engine and the far side

Besides the file operations, the far side hears when a credential comes and when it goes, and each file
operation reaches it with the registry that it is to find its credential in. A remote that writes all of
this down does not change what an engine does (`after_overheard`): the run without it is seen by looking
away from what is written. This is shown once for every way of looking at a far side.
-/

namespace BookmarkSync

/-- What the far side hears. -/
inductive Heard
  | opened (c : Credential)
  | called (registry : Registry) (call : FileCall)
  | closed (a : Authority)

variable {ρ σ : Type}

/-- A remote that passes everything on, and writes down all that it hears. -/
def Remote.overheard (remote : Remote ρ) : Remote (ρ × List Heard) where
  opened c far := (remote.opened c far.1, far.2 ++ [.opened c])
  closed a far := (remote.closed a far.1, far.2 ++ [.closed a])
  has reg l far :=
    let (a, next) := remote.has reg l far.1
    (a, next, far.2 ++ [.called reg (.has l a)])
  createDirectories reg l far :=
    let (a, next) := remote.createDirectories reg l far.1
    (a, next, far.2 ++ [.called reg (.createDirectories l a)])
  read reg l far :=
    let (a, next) := remote.read reg l far.1
    (a, next, far.2 ++ [.called reg (.read l a)])
  write reg l content far :=
    let (a, next) := remote.write reg l content far.1
    (a, next, far.2 ++ [.called reg (.write l content a)])

/-- Looking away from what is written down leaves the remote that is listened to. -/
theorem Remote.overheard_seenAs (remote : Remote ρ) : remote.overheard.SeenAs Prod.fst remote where
  opened _ _ := rfl
  closed _ _ := rfl
  has _ _ _ := rfl
  createDirectories _ _ _ := rfl
  read _ _ _ := rfl
  write _ _ _ _ := rfl

/-! ## The file operations among what is heard -/

/-- The file operation that was heard, if it was one. -/
def Heard.call? : Heard → Option FileCall
  | called _ call => some call
  | _ => none

/-- A far side with the file operations that were heard, and nothing besides. -/
def Heard.callsOnly (far : ρ × List Heard) : ρ × List FileCall := (far.1, far.2.filterMap call?)

/-- The calls that were heard are the calls that were made. -/
theorem Heard.filterMap_called (registry : Registry) (calls : List FileCall) :
    (calls.map (Heard.called registry)).filterMap Heard.call? = calls := by
  rw [List.filterMap_map]
  exact List.filterMap_some

/-- A call is kept, and what is heard besides is not. -/
theorem Heard.callsOnly_called (next : ρ) (log : List Heard) (registry : Registry) (call : FileCall) :
    callsOnly (next, log ++ [called registry call]) = (next, log.filterMap call? ++ [call]) := by
  rw [callsOnly, List.filterMap_append]
  rfl

theorem Heard.callsOnly_of_none (next : ρ) (log : List Heard) {heard : Heard} (h : heard.call? = none) :
    callsOnly (next, log ++ [heard]) = (next, log.filterMap call?) := by
  rw [callsOnly, List.filterMap_append, List.filterMap_cons_none h, List.filterMap_nil, List.append_nil]

/-- Whoever hears everything and keeps the file operations has written down what a recording remote does. -/
theorem Remote.overheard_seenAs_recorded (remote : Remote ρ) :
    remote.overheard.SeenAs Heard.callsOnly remote.recorded where
  opened _ far := Heard.callsOnly_of_none _ far.2 rfl
  closed _ far := Heard.callsOnly_of_none _ far.2 rfl
  has reg _ far := congrArg (Prod.mk _) (Heard.callsOnly_called _ far.2 reg _)
  createDirectories reg _ far := congrArg (Prod.mk _) (Heard.callsOnly_called _ far.2 reg _)
  read reg _ far := congrArg (Prod.mk _) (Heard.callsOnly_called _ far.2 reg _)
  write reg _ _ far := congrArg (Prod.mk _) (Heard.callsOnly_called _ far.2 reg _)

namespace Engine

variable {view : σ → ρ}

/-- Planning does not look at the far side. -/
theorem trigger_seen (e : Engine σ) : (e.seen view).trigger = e.trigger.map id (seen view) := by
  have hsettings : (e.seen view).settings = e.settings := rfl
  have helapsed : (e.seen view).windowElapsed? = e.windowElapsed? := rfl
  have hleft : (e.seen view).windowLeft? = e.windowLeft? := rfl
  have hdeferred : (e.seen view).hasDeferred = e.hasDeferred := rfl
  unfold trigger
  rw [hsettings, helapsed, hleft, hdeferred]
  repeat' split
  all_goals rfl

theorem cancelDeferred_seen (e : Engine σ) : (e.seen view).cancelDeferred.2 = e.cancelDeferred.2.seen view := by
  have hdeferred : (e.seen view).deferred = e.deferred := rfl
  unfold cancelDeferred
  rw [hdeferred]
  cases e.deferred <;> rfl

section Through

variable {remote : Remote σ} {remote' : Remote ρ} (h : remote.SeenAs view remote')
include h

/-- Asking for a sync looks at the far side only if a cycle starts; so do automatic syncs, turns and tasks. -/
theorem sync_seen (e : Engine σ) (origin : Origin) :
    (e.seen view).sync remote' origin = (e.sync remote origin).map id (seen view) := by
  have hbegin := begin_seen h e origin e.settings
  have hsettings : (e.seen view).settings = e.settings := rfl
  have hbusy : (e.seen view).isBusy = e.isBusy := rfl
  unfold sync
  rw [hsettings, hbusy, hbegin]
  cases e.settings.refusal? with
  | some r => rfl
  | none =>
    cases e.isBusy with
    | true => simp only [if_true, Prod.map, id]
    | false => simp only [if_false, Bool.false_eq_true]

theorem autoSync_seen (e : Engine σ) (task : Nat) :
    (e.seen view).autoSync remote' task = (e.autoSync remote task).map id (seen view) := by
  have hbegin := begin_seen h e (.task task) e.settings
  have hsettings : (e.seen view).settings = e.settings := rfl
  have hbusy : (e.seen view).isBusy = e.isBusy := rfl
  unfold autoSync
  rw [hsettings, hbusy, hbegin]
  cases e.settings.refusal? with
  | some r => rfl
  | none =>
    cases e.isBusy with
    | true =>
      simp only [if_true]
      rfl
    | false => simp only [if_false, Bool.false_eq_true]

theorem takeTurn_seen (e : Engine σ) :
    (e.seen view).takeTurn remote' = (e.takeTurn remote).map id (seen view) := by
  have hflight : (e.seen view).inFlight = e.inFlight := rfl
  have hwaiting : (e.seen view).waiting = e.waiting := rfl
  unfold takeTurn
  rw [hflight, hwaiting]
  split
  · next w waiting _ _ => exact begin_seen h { e with waiting } (.task w.task) w.settings
  · rfl

theorem work_seen (e : Engine σ) (n : Nat) (job : Job) :
    (e.seen view).work remote' n job = (e.work remote n job).map id (seen view) := by
  cases job with
  | automatic deferred =>
    cases deferred with
    | true => exact autoSync_seen h { e with deferred := none, lastStart := some e.now } n
    | false => exact autoSync_seen h e n
  | reported => exact sync_seen h e (.task n)

theorem startDue_seen (e : Engine σ) :
    ((e.seen view).startDue remote').elim (none, e.seen view) Prod.snd
      = ((e.startDue remote).elim (none, e) Prod.snd).map id (seen view) := by
  have hqueue : (e.seen view).queue.firstDue? (e.seen view).now = e.queue.firstDue? e.now := rfl
  unfold startDue
  rw [hqueue]
  cases e.queue.firstDue? e.now with
  | none => rfl
  | some t => exact work_seen h { e with queue := e.queue.start t.2 } t.2 t.1.job

/-- Whatever happens, it is the same however the far side is looked at. -/
theorem apply_seen (e : Engine σ) (event : Event) :
    event.apply remote' (e.seen view) = (event.apply remote e).map id (seen view) := by
  cases event with
  | call => exact sync_seen h e .caller
  | proceed => exact proceed_seen h e
  | takeTurn => exact takeTurn_seen h e
  | startDue => exact startDue_seen h e
  | trigger => exact congrArg (Prod.mk none) (congrArg Prod.snd (trigger_seen e))
  | cancelDeferred => exact congrArg (Prod.mk none) (cancelDeferred_seen e)
  | _ => rfl

/-- **A far side that is looked at differently does not change a run.** -/
theorem after_seen (e : Engine σ) (events : List Event) :
    (e.seen view).after remote' events = (e.after remote events).seen view := by
  induction events generalizing e with
  | nil => rfl
  | cons event events ih =>
    rw [after_cons, after_cons, apply_seen h]
    exact ih (event.apply remote e).2

end Through

/-- **Listening to an engine does not change what it does.** -/
theorem after_overheard (remote : Remote ρ) (e : Engine (ρ × List Heard)) (events : List Event) :
    (e.after remote.overheard events).seen Prod.fst = (e.seen Prod.fst).after remote events :=
  (after_seen remote.overheard_seenAs e events).symm

end Engine

/-! ## What a stage lets the far side hear -/

/-- What the stage writes, if anything. -/
def Stage.upload? : Stage → Option (List UInt8)
  | writeBookmarks s => some s.bookmarksContent
  | writeMetadata s => some s.metadataContent
  | _ => none

namespace Engine

/-- Making metadata and committing call nobody. -/
theorem far_metadataFound (e : Engine ρ) (bookmarks : List Bookmark) (answer : Except SyncError Bool) :
    (e.metadataFound bookmarks answer).2.far = e.far := by
  rcases answer with error | found
  · rfl
  · cases found <;> rfl

theorem far_commit (e : Engine ρ) (found : Option Snapshot) : (e.commit found).2.far = e.far := by
  simp only [commit]
  split <;> rfl

/-- A stage that is a file operation calls once, with the registry as it is, and a commit does not call. What is
written is what the stage uploads. -/
theorem heard_perform (remote : Remote ρ) (e : Engine (ρ × List Heard)) (c : Cycle) :
    ∃ calls : List FileCall, calls.length = (if c.stage.isRemote then 1 else 0) ∧
      (e.perform remote.overheard c).2.far.2 = e.far.2 ++ calls.map (.called e.registry) ∧
      ∀ l content answer, .write l content answer ∈ calls → c.stage.upload? = some content := by
  unfold perform
  -- every stage but the commit makes one call, and only the last two of them write
  cases c.stage with
  | checkMetadata bookmarks =>
    let asked := e.ask fun reg far => remote.overheard.has reg (c.metadataFile e.config) far
    refine ⟨[.has (c.metadataFile e.config) asked.1], rfl, ?_, by simp⟩
    show (asked.2.metadataFound bookmarks asked.1).2.far.2 = _
    rw [far_metadataFound]
    rfl
  | commit found =>
    refine ⟨[], rfl, ?_, by simp⟩
    rw [far_commit, List.map_nil, List.append_nil]
  | writeBookmarks s =>
    refine ⟨[_], rfl, rfl, fun l content answer hmem => ?_⟩
    cases List.mem_singleton.mp hmem
    rfl
  | writeMetadata s =>
    refine ⟨[_], rfl, rfl, fun l content answer hmem => ?_⟩
    cases List.mem_singleton.mp hmem
    rfl
  | _ => exact ⟨[_], rfl, rfl, by simp⟩

end Engine

end BookmarkSync
