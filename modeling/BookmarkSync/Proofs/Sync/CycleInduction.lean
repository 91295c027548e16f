import BookmarkSync.Proofs.Sync.SingleFlight

/-!
# `BookmarkSync.Proofs.Sync.CycleInduction` — a cycle, proved one stage at a time

A fact about whole cycles is proved by what is to hold at each of their stages. When every stage that
leads to another one keeps it, it holds at the stage that ends the cycle (`cycle_induction`); what that
stage makes of it is what the cycle makes of it.
-/

namespace BookmarkSync

/-- What is to hold when a cycle is at a stage, which is its stage number `n`: of the store and of the far
side. -/
abbrev StageFact (ρ : Type) := Stage → (n : Nat) → Store → ρ → Prop

namespace Engine

variable {ρ : Type}

/-- The engine is to carry out a stage of a cycle, under this configuration. -/
structure Reached (I : StageFact ρ) (config : SyncConfig) (clock : Nat → Timestamp) (stage : Stage) (n : Nat)
    (e : Engine ρ) : Prop where
  holds : I stage n e.device.store e.far
  config : e.config = config
  now : e.now = clock n

/-- Every stage of the cycle that leads to another one keeps the fact. -/
def KeptByStages (remote : Remote ρ) (c : Cycle) (config : SyncConfig) (clock : Nat → Timestamp)
    (I : StageFact ρ) : Prop :=
  ∀ stage n (e : Engine ρ) stage', Reached I config clock stage n e →
    (e.perform remote { c with stage }).1 = .next stage' →
    I stage' (n + 1) (e.perform remote { c with stage }).2.device.store
      (e.perform remote { c with stage }).2.far

/-- When the engine `last` carries out this stage of the cycle `c`, the cycle is over, and `r` is how it
ends. -/
structure EndsWith (remote : Remote ρ) (c : Cycle) (stage : Stage) (last : Engine ρ)
    (outcome : Except SyncError Unit) (r : Option Ended × Engine ρ) : Prop where
  isOver : (last.perform remote { c with stage }).1 = .over outcome
  result : r = (some ⟨c.origin, .ofOutcome outcome⟩,
    ((last.perform remote { c with stage }).2.finish remote { c with stage } outcome).2)

variable {remote : Remote ρ} {c : Cycle} {config : SyncConfig} {I : StageFact ρ}

/-- The report tells the outcome. -/
theorem EndsWith.outcome_of_succeeded {stage : Stage} {last after : Engine ρ} {outcome : Except SyncError Unit}
    {r : Option Ended × Engine ρ} (h : EndsWith remote c stage last outcome r)
    (hr : r = (some ⟨c.origin, .succeeded⟩, after)) : outcome = .ok () := by
  have hresult := hr.symm.trans h.result
  cases outcome with
  | ok _ => rfl
  | error fault => cases hresult

/-- A cycle in flight ends, and a fact that its stages keep holds at its last stage. -/
theorem goOn_induction {w : Meanwhile ρ} (hkept : KeptByStages remote c config w.clock I) {fuel n : Nat}
    {e : Engine ρ} {stage : Stage} (hfuel : stage.rank ≤ fuel) (hflight : e.inFlight = some { c with stage })
    (hconfig : e.config = config) (h : I stage n e.device.store e.far) :
    ∃ stage' n' last outcome, Reached I config w.clock stage' n' last ∧
      EndsWith remote c stage' last outcome (e.goOn remote w fuel n) := by
  -- the fuel lasts, since every stage leads to one of a lower rank
  induction fuel generalizing n e stage with
  | zero => exact absurd hfuel (Nat.not_le.mpr stage.rank_pos)
  | succ fuel ih =>
    have hquiet := w.quiet n e
    have hflight' : (w.act n e).inFlight = some { c with stage } := hquiet.inFlight.trans hflight
    have hreached : Reached I config w.clock stage n (w.act n e) :=
      ⟨by rw [hquiet.store, hquiet.far]; exact h, hquiet.config.trans hconfig, w.shows n e⟩
    have hfollows := follows_perform remote (w.act n e) { c with stage }
    have hnext := hkept stage n (w.act n e)
    obtain ⟨device, far, hframe⟩ := perform_frame remote (w.act n e) { c with stage }
    rcases hperform : (w.act n e).perform remote { c with stage } with ⟨turn, e'⟩
    rw [hperform] at hfollows hnext hframe
    cases hfollows with
    | @goesOn later hrank =>
      have hconfig' : e'.config = config := (congrArg Engine.config hframe).trans hreached.config
      obtain ⟨stage', n', last, outcome, hlast, hends⟩ :=
        ih (e := { e' with inFlight := some { c with stage := later } }) (n := n + 1)
          (Nat.le_of_lt_succ (Nat.lt_of_lt_of_le hrank hfuel)) rfl hconfig' (hnext later hreached rfl)
      refine ⟨stage', n', last, outcome, hlast, hends.isOver, ?_⟩
      rw [goOn, proceed_of_next hflight' hperform]
      exact hends.result
    | @ends outcome _ =>
      refine ⟨stage, n, w.act n e, outcome, hreached, congrArg Prod.fst hperform, ?_⟩
      rw [goOn, proceed_of_over hflight' hperform, hperform]

/-- **Induction on a cycle.** A cycle whose address can be read ends with one of its stages, and a fact that
holds when it starts and is kept by its stages holds at that stage. -/
theorem cycle_induction (w : Meanwhile ρ) {e : Engine ρ} {origin : Origin} {settings : Settings}
    {endpoint : Endpoint} (hparse : Endpoint.parse settings.trimmedUrl settings.username = .ok endpoint)
    (hkept : KeptByStages remote { origin, settings, endpoint } e.config w.clock I)
    (hstart : ∀ credential, I .checkDirectory 0 e.device.store (remote.opened credential e.far)) :
    ∃ stage n last outcome, Reached I e.config w.clock stage n last ∧
      EndsWith remote { origin, settings, endpoint } stage last outcome (e.cycle remote w origin settings) := by
  obtain ⟨started, hbegin, hflight, hdevice, hconfig, credential, hfar⟩ := e.begin_of_ok remote origin hparse
  rw [cycle_of_started hbegin]
  refine goOn_induction hkept (Nat.le_refl _) hflight hconfig ?_
  rw [hdevice, hfar]
  exact hstart credential

/-! ## Cycles that succeed -/

/-- Reading a file of the far side leads on, whatever the file is. -/
theorem exists_bookmarksRead (content : List UInt8) : ∃ stage, Turn.bookmarksRead content = .next stage := by
  unfold Turn.bookmarksRead
  split <;> exact ⟨_, rfl⟩

/-- Whether the metadata can be read or not, a stage follows. -/
theorem exists_metadataRead (bookmarks : List Bookmark) (content : List UInt8) :
    ∃ stage, Turn.metadataRead bookmarks content = .next stage := by
  unfold Turn.metadataRead
  split <;> exact ⟨_, rfl⟩

/-- A commit to a store that takes writes goes through. -/
theorem commit_of_writable {e : Engine ρ} (found : Option Snapshot) (hwritable : e.device.store.IsWritable) :
    let merged := e.device.store.snapshot.synced found e.now e.config.retention
    let store := e.device.store.committed merged.bookmarks merged.metadata
    e.commit found
      = (.next (.writeBookmarks store.snapshot), { e with device := { e.device with store } }) := by
  intro merged store
  have hcommitted : e.device.store.commit merged.bookmarks merged.metadata = (.ok (), store) :=
    Store.commit_of_writable hwritable merged.bookmarks merged.metadata
  simp only [commit, Device.change, Store.replaceWith]
  rw [show e.device.clock = e.now from rfl, hcommitted]
  rfl

/-- A stage goes well: it keeps the fact and leads on, or the sync has succeeded, and `Q` holds of the store
and the far side. -/
inductive GoesWell (I : StageFact ρ) (Q : Store → ρ → Prop) (n : Nat) : Turn × Engine ρ → Prop
  | next {stage : Stage} {e : Engine ρ} : I stage (n + 1) e.device.store e.far → GoesWell I Q n (.next stage, e)
  | done {e : Engine ρ} : Q e.device.store e.far → GoesWell I Q n (.over (.ok ()), e)

/-- **A cycle whose stages go well succeeds.** -/
theorem cycle_succeeds (w : Meanwhile ρ) {e : Engine ρ} {origin : Origin} {settings : Settings}
    {endpoint : Endpoint} {Q : Store → ρ → Prop}
    (hparse : Endpoint.parse settings.trimmedUrl settings.username = .ok endpoint)
    (hstart : ∀ credential, I .checkDirectory 0 e.device.store (remote.opened credential e.far))
    (hwell : ∀ stage n (e' : Engine ρ), Reached I e.config w.clock stage n e' →
      GoesWell I Q n (e'.perform remote { origin, settings, endpoint, stage })) :
    ∃ after far, e.cycle remote w origin settings = (some ⟨origin, .succeeded⟩, after) ∧
      Q after.device.store far ∧ after.far = remote.closed endpoint.authority far := by
  -- a stage that goes well keeps `I`, which is all that the induction over a cycle asks for
  have hkept : KeptByStages remote { origin, settings, endpoint } e.config w.clock I := by
    intro stage n e' stage' hreached hnext
    have h := hwell stage n e' hreached
    generalize e'.perform remote { origin, settings, endpoint, stage } = r at h hnext ⊢
    cases h with
    | next hholds =>
      cases hnext
      exact hholds
    | done _ => cases hnext
  obtain ⟨stage, n, last, outcome, hreached, hends⟩ := cycle_induction w hparse hkept hstart
  have h := hwell stage n last hreached
  have hover := hends.isOver
  have hresult := hends.result
  generalize last.perform remote { origin, settings, endpoint, stage } = r at h hover hresult
  cases h with
  | next _ => cases hover
  | done hdone =>
    cases hover
    exact ⟨_, _, hresult, hdone, rfl⟩

end Engine

end BookmarkSync
