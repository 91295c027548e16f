import BookmarkSync.Proofs.Remote.Overheard
import BookmarkSync.Proofs.Sync.CycleOutcome

/-!
# `BookmarkSync.Proofs.Sync.Interleaved` — what a cycle finds while other things happen

Between the stages of a cycle anything may happen to an engine: someone edits the store, the clock is set,
other syncs are asked for. None of this touches the calls of the cycle. Until it commits, its calls and its
stage determine each other as they do when nothing comes in between (`Progress`), so what it is about to commit
is what it was answered (`hasFound_after`).
-/

namespace BookmarkSync

variable {ρ : Type}

/-! ## Calls in a run -/

/-- The cycle as it was when it started. -/
def Cycle.asStarted (c : Cycle) : Cycle := { c with stage := .checkDirectory }

/-- The cycle `c` has started in the engine `begun`, and in the course of the events `later` it has made these
calls, the `n`-th of them at the time `clock n`. The far side has heard of nothing else. -/
structure HasCalled (remote : Remote ρ) (begun : Engine (ρ × List Heard))
    (later : List Engine.Event) (c : Cycle) (clock : Nat → Timestamp) (calls : List FileCall) : Prop where
  started : begun.inFlight = some c.asStarted
  parsed : Endpoint.parse c.settings.trimmedUrl c.settings.username = .ok c.endpoint
  registry : (begun.after remote.overheard later).registry = begun.registry
  heard : (begun.after remote.overheard later).far.2 = begun.far.2 ++ calls.map (.called begun.registry)
  times : ∀ n, n < calls.length → ∃ between rest, later = between ++ .proceed :: rest ∧
    (begun.after remote.overheard between).far.2 = begun.far.2 ++ (calls.take n).map (.called begun.registry) ∧
    (begun.after remote.overheard between).now = clock n

/-- The cycle `c` has started in the course of `events`, and what it has found is what it was answered since. -/
def HasFound (remote : Remote ρ) (start : Engine (ρ × List Heard)) (events : List Engine.Event) (c : Cycle)
    (found : Option Snapshot) : Prop :=
  ∃ earlier later clock reads, events = earlier ++ later ∧
    HasCalled remote (start.after remote.overheard earlier) later c clock reads ∧
    c.HasRead start.config clock reads found

namespace Engine

section HasCalled

variable {remote : Remote ρ} {begun : Engine (ρ × List Heard)} {later : List Event} {c : Cycle}
  {clock : Nat → Timestamp} {calls : List FileCall}

/-- What comes between two calls can be told from more events. -/
theorem times_append (h : HasCalled remote begun later c clock calls) (event : Event) (n : Nat)
    (hn : n < calls.length) : ∃ between rest, later ++ [event] = between ++ .proceed :: rest ∧
      (begun.after remote.overheard between).far.2 = begun.far.2
        ++ (calls.take n).map (.called begun.registry) ∧
      (begun.after remote.overheard between).now = clock n := by
  obtain ⟨between, rest, hlater, hat⟩ := h.times n hn
  exact ⟨between, rest ++ [event], by rw [hlater, List.append_assoc, List.cons_append], hat⟩

/-- What happens beside the cycle adds no call. -/
theorem hasCalled_beside (h : HasCalled remote begun later c clock calls) {event : Event}
    (hsame : SameCycles (begun.after remote.overheard later)
      (event.apply remote.overheard (begun.after remote.overheard later)).2) :
    HasCalled remote begun (later ++ [event]) c clock calls where
  started := h.started
  parsed := h.parsed
  registry := by
    rw [after_append, after_cons, after_nil, hsame.registry, h.registry]
  heard := by
    rw [after_append, after_cons, after_nil, hsame.far, h.heard]
  times := times_append h event

/-- A stage that calls adds its call, at the time that the clock shows. -/
theorem hasCalled_proceed (h : HasCalled remote begun later c clock calls) {call : FileCall} (stage : Stage)
    {next : Engine (ρ × List Heard)}
    (hnext : ((begun.after remote.overheard later).proceed remote.overheard).2 = next)
    (hregistry : next.registry = begun.registry)
    (hheard : next.far.2 = (begun.after remote.overheard later).far.2 ++ [.called begun.registry call])
    {clock' : Nat → Timestamp} (hclock : ∀ n, n < calls.length → clock' n = clock n)
    (hnow : (begun.after remote.overheard later).now = clock' calls.length) :
    HasCalled remote begun (later ++ [.proceed]) { c with stage } clock' (calls ++ [call]) where
  started := h.started
  parsed := h.parsed
  registry := by
    rw [after_append, after_cons, after_nil, Event.apply, hnext, hregistry]
  heard := by
    rw [after_append, after_cons, after_nil, Event.apply, hnext, hheard, h.heard, List.append_assoc,
      List.map_append]
    rfl
  times := by
    intro n hn
    rw [List.length_append, List.length_singleton] at hn
    rcases Nat.lt_succ_iff_lt_or_eq.mp hn with hbefore | rfl
    · obtain ⟨between, rest, hlater, hfar, hat⟩ := times_append h .proceed n hbefore
      rw [List.take_append_of_le_length (Nat.le_of_lt hbefore), hclock n hbefore]
      exact ⟨between, rest, hlater, hfar, hat⟩
    · -- the last call is made by the last event
      refine ⟨later, [], rfl, ?_, hnow⟩
      rw [List.take_left, h.heard]

end HasCalled

end Engine

/-! ## Progress -/

/-- Before its commit, the progress of a cycle depends neither on the store nor on the times of its calls. -/
theorem Progress.reading {c : Cycle} {config : SyncConfig} {clock : Nat → Timestamp} {before store : Store}
    {stage : Stage} {n : Nat} {calls : List FileCall} (h : Progress c config clock before stage n calls store)
    (hreading : (Stage.commit none).rank < stage.rank) (clock' : Nat → Timestamp) (before' : Store) :
    Progress c config clock' before' stage n calls before' := by
  cases h with
  | start => exact .start
  | noDirectory => exact .noDirectory
  | ensured hensured => exact .ensured hensured
  | bookmarksThere hensured => exact .bookmarksThere hensured
  | bookmarksRead hensured hread => exact .bookmarksRead hensured hread
  | metadataThere hensured hread => exact .metadataThere hensured hread
  | read | committed | uploaded => exact absurd hreading (by simp [Stage.rank])

theorem Stage.isRemote_of_reading {stage : Stage} (h : (commit none).rank < stage.rank) :
    stage.isRemote = true := by
  cases stage <;> simp_all [rank, isRemote]

namespace Engine

variable {remote : Remote ρ} {start : Engine (ρ × List Heard)} {events : List Event}

/-- As long as the cycle in flight has not committed, its calls and its stage determine each other. -/
def Inquires (remote : Remote ρ) (start : Engine (ρ × List Heard)) (events : List Event) : Prop :=
  ∀ c, (start.after remote.overheard events).inFlight = some c → (Stage.commit none).rank ≤ c.stage.rank →
    ∃ earlier later clock calls before store, events = earlier ++ later ∧
      HasCalled remote (start.after remote.overheard earlier) later c clock calls ∧
      Progress c.asStarted start.config clock before c.stage calls.length calls store

/-- A cycle that has just started goes where its settings lead, and is at its first stage. -/
theorem inFlight_begin {remote : Remote ρ} {e : Engine ρ} {origin : Origin} {settings : Settings} {c : Cycle}
    (hnone : e.inFlight = none) (hflight : (e.begin remote origin settings).2.inFlight = some c) :
    Endpoint.parse c.settings.trimmedUrl c.settings.username = .ok c.endpoint ∧ c.stage = .checkDirectory := by
  unfold Engine.begin at hflight
  split at hflight
  · cases hnone.symm.trans hflight
  · next hparse =>
    cases hflight
    exact ⟨hparse, rfl⟩

/-- A cycle that starts has not called yet. -/
theorem inquires_begin {event : Event} (hstarted : ∀ c,
    (start.after remote.overheard (events ++ [event])).inFlight = some c →
      Endpoint.parse c.settings.trimmedUrl c.settings.username = .ok c.endpoint ∧ c.stage = .checkDirectory) :
    Inquires remote start (events ++ [event]) := by
  intro c hflight _
  obtain ⟨hparse, hstage⟩ := hstarted c hflight
  have hcycle : c = c.asStarted := by rw [Cycle.asStarted, ← hstage]
  refine ⟨events ++ [event], [], fun _ => 0, [], start.device.store, start.device.store,
    (List.append_nil _).symm, ⟨by rw [hflight, ← hcycle], hparse, rfl, (List.append_nil _).symm, nofun⟩, ?_⟩
  rw [hstage]
  exact .start

/-- What happens beside a cycle leaves what is known of it. -/
theorem Inquires.beside (h : Inquires remote start events) {event : Event}
    (hsame : SameCycles (start.after remote.overheard events)
      (event.apply remote.overheard (start.after remote.overheard events)).2) :
    Inquires remote start (events ++ [event]) := by
  intro c hflight hreading
  rw [after_append, after_cons, after_nil, hsame.inFlight] at hflight
  obtain ⟨earlier, later, clock, calls, before, store, rfl, hcalled, hprogress⟩ := h c hflight hreading
  rw [after_append] at hsame
  exact ⟨earlier, later ++ [event], clock, calls, before, store, List.append_assoc ..,
    hasCalled_beside hcalled hsame, hprogress⟩

/-- A stage before the commit makes one call, and leads to where the calls with this one lead. -/
theorem continues_perform (remote : Remote ρ) {e : Engine (ρ × List Heard)} {c : Cycle}
    {clock clock' : Nat → Timestamp} {before store : Store} {calls : List FileCall}
    (hparse : Endpoint.parse c.settings.trimmedUrl c.settings.username = .ok c.endpoint)
    (h : Progress c.asStarted e.config clock before c.stage calls.length calls store)
    (hreading : (Stage.commit none).rank < c.stage.rank) (hnow : e.now = clock' calls.length) :
    ∃ call, (e.perform remote.overheard c).2.far.2 = e.far.2 ++ [.called e.registry call] ∧
      Continues c.asStarted e.config clock' e.device.store c.stage calls.length (e.perform remote.overheard c).1
        (calls ++ [call]) (e.perform remote.overheard c).2.device.store := by
  obtain ⟨heard, hlength, hheard, -⟩ := heard_perform remote e c
  rw [Stage.isRemote_of_reading hreading, if_pos rfl] at hlength
  obtain ⟨call, rfl⟩ := List.length_eq_one_iff.mp hlength
  refine ⟨call, hheard, ?_⟩
  -- looked at without what else is heard, the stage is that of an engine whose calls are recorded
  let recorded := e.seen Heard.callsOnly
  have hprogress : Progress c.asStarted recorded.config clock' e.device.store c.stage calls.length calls
      recorded.device.store := h.reading hreading clock' e.device.store
  have hdone : StageDone recorded c.asStarted c.stage (recorded.perform remote.recorded c).1
      (recorded.perform remote.recorded c).2 := stageDone_perform remote recorded c.asStarted c.stage
  rw [perform_seen remote.overheard_seenAs_recorded e c] at hdone
  have hfollows : Endpoint.parse c.asStarted.settings.trimmedUrl c.asStarted.settings.username
      = .ok c.asStarted.endpoint := hparse
  obtain ⟨more, hmore, hcontinues⟩ := hprogress.step hfollows hnow hdone
  have hcall : more = [call] := by
    have hcalls : (e.perform remote.overheard c).2.far.2.filterMap Heard.call?
        = e.far.2.filterMap Heard.call? ++ more := hmore
    rw [hheard, List.filterMap_append, Heard.filterMap_called] at hcalls
    exact (List.append_cancel_left hcalls).symm
  rw [hcall] at hcontinues
  exact hcontinues

/-- A cycle that goes on to its commit, or to a stage before it, adds a call to those it has made. -/
theorem called_proceed {begun : Engine (ρ × List Heard)} {later : List Event} {c c' : Cycle}
    {clock : Nat → Timestamp} {calls : List FileCall} {before store : Store} {e : Engine (ρ × List Heard)}
    (hengine : begun.after remote.overheard later = e) (hflight : e.inFlight = some c)
    (hflight' : (e.proceed remote.overheard).2.inFlight = some c')
    (hreading : (Stage.commit none).rank ≤ c'.stage.rank) (hcalled : HasCalled remote begun later c clock calls)
    (hprogress : Progress c.asStarted e.config clock before c.stage calls.length calls store) :
    ∃ clock' calls' store', HasCalled remote begun (later ++ [.proceed]) c' clock' calls' ∧
      Progress c'.asStarted e.config clock' e.device.store c'.stage calls'.length calls' store' := by
  have hregistry : e.registry = begun.registry := hengine ▸ hcalled.registry
  -- the new call is dated by the clock of this step, and the earlier ones keep theirs
  let clock' : Nat → Timestamp := fun n => if n = calls.length then e.now else clock n
  have hnow : e.now = clock' calls.length := (if_pos rfl).symm
  obtain ⟨call, hheard, hcontinues⟩ := continues_perform remote hcalled.parsed hprogress
    (Nat.lt_of_le_of_lt hreading (rank_proceed remote.overheard hflight hflight')) hnow
  obtain ⟨device, far, hframe⟩ := e.perform_frame remote.overheard c
  rcases hperform : e.perform remote.overheard c with ⟨turn, next⟩
  rw [hperform] at hheard hcontinues hframe
  replace hframe : next = { e with device, far } := hframe
  cases hcontinues with
  | ends _ =>
    rw [proceed_of_over hflight hperform] at hflight'
    cases hflight'
  | @next stage _ _ _ hprogress' =>
    have hproceed := proceed_of_next hflight hperform
    rw [hproceed] at hflight'
    cases hflight'
    refine ⟨clock', calls ++ [call], next.device.store, ?_, ?_⟩
    · refine hasCalled_proceed hcalled stage (by rw [hengine, hproceed]) ?_ ?_ ?_ (by rw [hengine, hnow])
      · show next.registry = begun.registry
        rw [hframe, hregistry]
      · rw [hengine, ← hregistry]
        exact hheard
      · intro n hn
        exact if_neg (Nat.ne_of_lt hn)
    · rw [List.length_append]
      exact hprogress'

/-- A stage that calls adds its call, and its answer says which stage comes next. -/
theorem Inquires.proceed (h : Inquires remote start events) {c : Cycle}
    (hflight : (start.after remote.overheard events).inFlight = some c) :
    Inquires remote start (events ++ [.proceed]) := by
  intro c' hflight' hreading'
  rw [after_append, after_cons, after_nil, Event.apply] at hflight'
  have hrank : c'.stage.rank < c.stage.rank := rank_proceed remote.overheard hflight hflight'
  obtain ⟨earlier, later, clock, calls, before, store, rfl, hcalled, hprogress⟩ :=
    h c hflight (Nat.le_of_lt (Nat.lt_of_le_of_lt hreading' hrank))
  have hconfig := config_after remote.overheard start (earlier ++ later)
  rw [← hconfig] at hprogress
  obtain ⟨clock', calls', store', hcalled', hprogress'⟩ :=
    called_proceed (after_append ..).symm hflight hflight' hreading' hcalled hprogress
  rw [hconfig] at hprogress'
  exact ⟨earlier, later ++ [.proceed], clock', calls', _, store', List.append_assoc .., hcalled', hprogress'⟩

/-- **Whatever happens, the cycle in flight has found what it was answered.** -/
theorem Inquires.snoc (h : Inquires remote start events) (event : Event) :
    Inquires remote start (events ++ [event]) := by
  have hmoves := moves_apply remote.overheard (start.after remote.overheard events) event
  have hafter : start.after remote.overheard (events ++ [event])
      = (event.apply remote.overheard (start.after remote.overheard events)).2 := by
    rw [after_append, after_cons, after_nil]
  generalize hresult : event.apply remote.overheard (start.after remote.overheard events) = r at hmoves hafter
  -- an event leaves the cycle alone, begins one, or takes it a stage further
  cases hmoves with
  | @aside _ answer e' hbeside _ =>
    refine h.beside ?_
    rw [hresult]
    exact hbeside.toSameCycles
  | begins origin settings hnone hbeside =>
    refine inquires_begin fun c hflight => ?_
    rw [hafter] at hflight
    exact inFlight_begin (hbeside.inFlight.trans hnone) hflight
  | proceeds hflight => exact h.proceed hflight

theorem inquires_append (h : Inquires remote start events) (later : List Event) :
    Inquires remote start (events ++ later) := by
  induction later generalizing events with
  | nil => rwa [List.append_nil]
  | cons event later ih =>
    rw [List.append_cons]
    exact ih (h.snoc event)

/-- **What a cycle is about to commit is what it was answered**, whatever else has happened since it started. -/
theorem hasFound_after (hstart : start.inFlight = none) {c : Cycle} {found : Option Snapshot}
    (hflight : (start.after remote.overheard events).inFlight = some c) (hstage : c.stage = .commit found) :
    HasFound remote start events c found := by
  have hinquires : Inquires remote start [] := by
    intro c hc
    cases hstart.symm.trans hc
  obtain ⟨earlier, later, clock, calls, before, store, hevents, hcalled, hprogress⟩ :=
    inquires_append hinquires events c hflight (by rw [hstage]; exact Nat.le_refl _)
  rw [hstage] at hprogress
  refine ⟨earlier, later, clock, calls, hevents, hcalled, ?_⟩
  generalize calls.length = n at hprogress
  cases hprogress with
  | read hread => exact hread

end Engine

end BookmarkSync
