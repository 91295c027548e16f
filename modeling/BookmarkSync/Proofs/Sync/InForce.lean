import BookmarkSync.Proofs.Sync.Deferral
import BookmarkSync.Proofs.Sync.SingleFlight

/-!
# `BookmarkSync.Proofs.Sync.InForce` — the settings that a cycle follows

A cycle follows the settings it was launched with to its end, and these have passed the check. A cycle that
starts at once is launched with the settings in force. One that had to wait is launched with those that were
in force when its task started, and nobody checks again whether they still are: they are if the settings have
not been changed while someone was waiting (`settings_of_starts`), and need not be otherwise
(`not_cycles_always_start_in_force`).
-/

namespace BookmarkSync

/-- The cycle is the one that was launched, and goes where the settings of the launch lead. -/
structure Cycle.Follows (c : Cycle) (l : Launch) : Prop where
  origin : c.origin = l.origin
  settings : c.settings = l.settings
  login : c.FollowsSettings

theorem Cycle.Follows.goesOn {c : Cycle} {l : Launch} (h : c.Follows l) (stage : Stage) :
    { c with stage }.Follows l where
  origin := h.origin
  settings := h.settings
  login := ⟨h.login.endpoint, h.login.username, h.login.password⟩

namespace Engine

variable {ρ : Type} (remote : Remote ρ) {e : Engine ρ} {action : Action}

/-! ## The cycle in flight -/

/-- A cycle that is in flight after it was begun is the one that was begun. -/
theorem follows_of_begin {l : Launch} (hnone : e.inFlight = none) {c : Cycle}
    (hc : (e.begin remote l.origin l.settings).2.inFlight = some c) : c.Follows l := by
  unfold begin at hc
  cases hparse : Endpoint.parse l.settings.trimmedUrl l.settings.username with
  | error f =>
    rw [hparse] at hc
    cases hnone.symm.trans hc
  | ok endpoint =>
    rw [hparse] at hc
    cases hc
    exact ⟨rfl, rfl, hparse, Endpoint.username_of_parse hparse, rfl⟩

/-- A cycle that is in flight after a stage was in flight before. -/
theorem inFlight_proceed {c : Cycle} (hc : (e.proceed remote).2.inFlight = some c) :
    ∃ before, e.inFlight = some before ∧ c = { before with stage := c.stage } := by
  cases hflight : e.inFlight with
  | none =>
    rw [inFlight_proceed_of_none remote hflight] at hc
    cases hc
  | some before =>
    rcases hperform : e.perform remote before with ⟨stage | outcome, next⟩
    · rw [proceed_of_next hflight hperform] at hc
      cases hc
      exact ⟨before, rfl, rfl⟩
    · rw [proceed_of_over hflight hperform] at hc
      cases hc

/-- What is in flight after a launch follows it. -/
theorem follows_act {l : Launch} (hlaunch : e.launch? action = some l) {c : Cycle}
    (hc : (e.act remote action).2.inFlight = some c) : c.Follows l := by
  obtain ⟨hnone, prepared, hsame, hbegins⟩ := begins_of_launch? remote hlaunch
  rw [hbegins] at hc
  exact follows_of_begin remote (hsame.inFlight.trans hnone) hc

/-- What is in flight after anything else was in flight before. -/
theorem inFlight_act (hlaunch : e.launch? action = none) {c : Cycle}
    (hc : (e.act remote action).2.inFlight = some c) :
    ∃ before, e.inFlight = some before ∧ c = { before with stage := c.stage } := by
  by_cases haction : action = .event .proceed
  · subst haction
    exact inFlight_proceed remote hc
  · rw [(sameCycles_of_launch? remote hlaunch haction).inFlight] at hc
    exact ⟨c, hc, rfl⟩

/-- Whatever is in flight follows a launch of the run. -/
theorem follows_afterAll (hnone : e.inFlight = none) (actions : List Action) :
    ∀ c, (e.afterAll remote actions).inFlight = some c →
      ∃ m ∈ e.moments remote actions, ∃ l, m.launch? = some l ∧ c.Follows l := by
  let FollowsRun (c : Cycle) : Prop := ∃ m ∈ e.moments remote actions, ∃ l, m.launch? = some l ∧ c.Follows l
  refine (moments_induction (P := fun e' => ∀ c, e'.inFlight = some c → FollowsRun c) ?_ ?_).2
  · intro m hm h c hc
    cases hlaunch : m.launch? with
    | some l => exact ⟨m, hm, l, hlaunch, follows_act remote hlaunch hc⟩
    | none =>
      obtain ⟨before, hbefore, hstage⟩ := inFlight_act remote hlaunch hc
      obtain ⟨m', hm', l, hlaunched, hfollows⟩ := h before hbefore
      rw [hstage]
      exact ⟨m', hm', l, hlaunched, hfollows.goesOn c.stage⟩
  · intro c hc
    cases hnone.symm.trans hc

/-! ## The settings of those who wait -/

/-- Whoever waits has been checked, and waits with the settings that were in force when its task started. -/
structure WaitsChecked (start : Engine ρ) (actions : List Action) (w : Waiting) : Prop where
  ready : w.settings.refusal? = none
  asStarted : ∃ m ∈ start.moments remote actions, m.started? = some w.task ∧ m.engine.settings = w.settings

theorem waitsChecked_afterAll (hwaiting : e.waiting = []) (actions : List Action) :
    ∀ w ∈ (e.afterAll remote actions).waiting, WaitsChecked remote e actions w := by
  refine (plan_induction (P := fun p => ∀ w ∈ p.waiting, WaitsChecked remote e actions w)
    remote e actions ?_ ?_).2
  · intro m hm hreplans h w hw
    rcases hreplans.of_mem_waiting hw with hold | ⟨haction, hready, hsettings, t, hdue⟩
    · exact h w hold
    · refine ⟨hsettings ▸ hready, m, hm, ?_, hsettings.symm⟩
      rw [Moment.started?, haction]
      exact congrArg (Option.map Prod.snd) hdue
  · intro w hw
    rw [plan, hwaiting] at hw
    cases hw

/-- While the settings are changed only when nobody waits, whoever waits does so with the settings in force. -/
theorem settings_of_waiting (hwaiting : e.waiting = []) {actions : List Action}
    (hchanges : ∀ m ∈ e.moments remote actions,
      (m.next remote).settings = m.engine.settings ∨ m.engine.waiting = []) :
    ∀ w ∈ (e.afterAll remote actions).waiting, w.settings = (e.afterAll remote actions).settings := by
  -- a run takes the settings as it starts to wait, so they stay in force unless they are changed
  refine (plan_induction (P := fun p => ∀ w ∈ p.waiting, w.settings = p.settings) remote e actions ?_ ?_).2
  · intro m hm hreplans h w hw
    rcases hreplans.of_mem_waiting hw with hold | ⟨haction, -, hsettings, -⟩
    · rcases hchanges m hm with hsame | hnobody
      · exact (h w hold).trans hsame.symm
      · rw [hnobody] at hold
        cases hold
    · rcases hreplans.settings with hsame | ⟨settings, hconfigure⟩
      · exact hsettings.trans hsame.symm
      · cases haction.symm.trans hconfigure
  · intro w hw
    rw [plan, hwaiting] at hw
    cases hw

/-! ## Starts -/

/-- What is known of the settings of the cycles that start in the run, and of one that starts next. -/
structure StartsChecked (start : Engine ρ) (actions : List Action) : Prop where
  /-- The settings of a cycle that starts have passed the check. -/
  ready : ∀ action l, (start.afterAll remote actions).launch? action = some l → l.settings.refusal? = none
  /-- A cycle that starts at once is launched with the settings in force. -/
  atOnce : ∀ action l, (start.afterAll remote actions).launch? action = some l → action ≠ .event .takeTurn →
    l.settings = (start.afterAll remote actions).settings
  /-- One that takes its turn is launched with those that were in force when its task started. -/
  asStarted : ∀ l, (start.afterAll remote actions).launch? (.event .takeTurn) = some l →
    ∃ m ∈ start.moments remote actions, ∃ n, m.started? = some n ∧ l.origin = .task n ∧
      l.settings = m.engine.settings
  /-- These are still in force, if the settings have been changed only while nobody was waiting. -/
  inForce : (∀ m ∈ start.moments remote actions,
      (m.next remote).settings = m.engine.settings ∨ m.engine.waiting = []) →
    ∀ action l, (start.afterAll remote actions).launch? action = some l →
      l.settings = (start.afterAll remote actions).settings
  /-- The cycle that is in flight after a launch follows the settings of the launch. -/
  launched : ∀ action l c, (start.afterAll remote actions).launch? action = some l →
    ((start.afterAll remote actions).act remote action).2.inFlight = some c → c.Follows l
  /-- So does every cycle that has come further. -/
  follows : ∀ c, (start.afterAll remote actions).inFlight = some c →
    ∃ m ∈ start.moments remote actions, ∃ l, m.launch? = some l ∧ c.Follows l

/-- **A cycle follows settings that have passed the check**, whatever happens to an engine and in whatever
order; and unless it had to wait, they are those in force when it starts. -/
theorem settings_of_starts (device : Device) (settings : Settings) (config : SyncConfig) (far : ρ)
    (actions : List Action) : StartsChecked remote (new device settings config far) actions := by
  let start := new device settings config far
  have hlaunch {action : Action} {l : Launch} (h : (start.afterAll remote actions).launch? action = some l) :=
    (h ▸ replans_act remote (start.afterAll remote actions) action).of_launch
  -- whoever waits was checked when its task was started
  have hchecked := waitsChecked_afterAll remote (e := start) rfl actions
  refine ⟨?_, ?_, ?_, ?_, fun _ _ _ hl hc => follows_act remote hl hc, follows_afterAll remote rfl actions⟩
  · intro action l h
    rcases hlaunch h with ⟨-, hready, hsettings⟩ | ⟨-, w, hw, -, hsettings⟩
    · exact hsettings ▸ hready
    · exact hsettings ▸ (hchecked w hw).ready
  · intro action l h hnot
    rcases hlaunch h with ⟨-, -, hsettings⟩ | ⟨hturn, -⟩
    · exact hsettings
    · exact absurd hturn hnot
  · intro l h
    rcases hlaunch h with ⟨hnot, -⟩ | ⟨-, w, hw, horigin, hsettings⟩
    · exact absurd rfl hnot
    · obtain ⟨m, hm, hstarted, hinForce⟩ := (hchecked w hw).asStarted
      exact ⟨m, hm, w.task, hstarted, horigin, hsettings.trans hinForce.symm⟩
  · intro hchanges action l h
    rcases hlaunch h with ⟨-, -, hsettings⟩ | ⟨-, w, hw, -, hsettings⟩
    · exact hsettings
    · exact hsettings.trans (settings_of_waiting remote rfl hchanges w hw)

/-- An automatic sync waits for a cycle; when its turn comes, sync has been disabled. -/
def disabledWhileWaiting : List Action :=
  [.event .call, .event (.setClock 6000), .event .trigger, .event .startDue, .event (.configure {}),
    .event .proceed]

set_option maxRecDepth 10000 in
/-- A cycle can start though the settings in force do not ask for a sync. -/
theorem not_cycles_always_start_in_force :
    ¬ ∀ actions action l, (burstEngine.afterAll unreachable actions).launch? action = some l →
      (burstEngine.afterAll unreachable actions).settings.refusal? = none ∧
        l.settings = (burstEngine.afterAll unreachable actions).settings := by
  intro hinForce
  have hlaunch : (burstEngine.afterAll unreachable disabledWhileWaiting).launch? (.event .takeTurn)
      = some ⟨true, .task 0, burstEngine.settings⟩ := by decide
  have hready := (hinForce disabledWhileWaiting _ _ hlaunch).1
  revert hready
  decide

end Engine

end BookmarkSync
