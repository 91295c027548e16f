import BookmarkSync.Sync.Engine

/-!
# `BookmarkSync.Proofs.Remote.Seen` — looking at a far side

A remote may keep more than another one and still do the same: seen through a `view` that looks away from
what it keeps besides, each of its operations is the other's. An engine does the same with both
(`begin_seen`, `proceed_seen`).
-/

namespace BookmarkSync

/-- A far side where there is nothing, where everything can be made, and which keeps nothing of it. -/
def Remote.obliging : Remote Unit where
  opened _ far := far
  closed _ far := far
  has _ _ far := (.ok false, far)
  createDirectories _ _ far := (.ok (), far)
  read _ _ far := (.ok [], far)
  write _ _ _ far := (.ok (), far)

variable {ρ σ : Type}

/-- Seen through `view`, the first remote does what the second one does. -/
structure Remote.SeenAs (view : σ → ρ) (remote : Remote σ) (seen : Remote ρ) : Prop where
  opened : ∀ c far, view (remote.opened c far) = seen.opened c (view far)
  closed : ∀ a far, view (remote.closed a far) = seen.closed a (view far)
  has : ∀ reg l far, (remote.has reg l far).map id view = seen.has reg l (view far)
  createDirectories : ∀ reg l far, (remote.createDirectories reg l far).map id view
    = seen.createDirectories reg l (view far)
  read : ∀ reg l far, (remote.read reg l far).map id view = seen.read reg l (view far)
  write : ∀ reg l content far, (remote.write reg l content far).map id view
    = seen.write reg l content (view far)

namespace Engine

/-- The engine with its far side seen through `view`. -/
def seen (view : σ → ρ) (e : Engine σ) : Engine ρ := { e with far := view e.far }

variable {view : σ → ρ}

/-- An answer is the same however the far side is looked at, and the engine is looked at likewise. -/
theorem map_seen {α : Type} (r : α × Engine σ) : r.map id (seen view) = (r.1, r.2.seen view) := rfl

/-- A question to the far side is seen as the question to what is seen of it. -/
theorem ask_seen {α : Type} {f : Registry → σ → Except SyncError α × σ}
    {f' : Registry → ρ → Except SyncError α × ρ}
    (hf : ∀ reg far, (f reg far).map id view = f' reg (view far)) (e : Engine σ) :
    (e.seen view).ask f' = (e.ask f).map id (seen view) := by
  simp only [ask, seen, ← hf]
  rfl

/-- A commit is between the engine and its store. -/
theorem commit_seen (e : Engine σ) (found : Option Snapshot) :
    (e.seen view).commit found = (e.commit found).map id (seen view) := by
  rcases hr : e.device.change fun store now =>
    store.replaceWith fun ours => ours.synced found now e.config.retention with ⟨r, device⟩
  simp only [commit, seen, hr]
  cases r <;> rfl

theorem metadataFound_seen (e : Engine σ) (bs : List Bookmark) (a : Except SyncError Bool) :
    (e.seen view).metadataFound bs a = (e.metadataFound bs a).map id (seen view) := by
  rcases a with error | found
  · rfl
  · cases found <;> rfl

/-- A stage that asks the far side and goes on by the answer. -/
theorem answered_seen {α : Type} {f : Registry → σ → Except SyncError α × σ}
    {f' : Registry → ρ → Except SyncError α × ρ} (turn : α → Turn)
    (hf : ∀ reg far, (f reg far).map id view = f' reg (view far)) (e : Engine σ) :
    (Turn.after turn ((e.seen view).ask f').1, ((e.seen view).ask f').2)
      = (Turn.after turn (e.ask f).1, (e.ask f).2).map id (seen view) := by
  rw [ask_seen hf]
  rfl

section Through

variable {remote : Remote σ} {remote' : Remote ρ} (h : remote.SeenAs view remote')
include h

/-- The far side hears of the credential either way. -/
theorem begin_seen (e : Engine σ) (origin : Origin) (settings : Settings) :
    (e.seen view).begin remote' origin settings = (e.begin remote origin settings).map id (seen view) := by
  unfold begin
  cases Endpoint.parse settings.trimmedUrl settings.username with
  | error f => rfl
  | ok endpoint => simp only [seen, now, ← h.opened, Prod.map, id]

/-- Each stage asks what it asks, and goes on by the answer. -/
theorem perform_seen (e : Engine σ) (c : Cycle) :
    (e.seen view).perform remote' c = (e.perform remote c).map id (seen view) := by
  unfold perform
  -- every stage asks the remote once or not at all, and sees the same answer through the view
  cases c.stage with
  | checkDirectory => exact answered_seen _ (fun reg far => h.has reg c.directory far) e
  | createDirectory => exact answered_seen _ (fun reg far => h.createDirectories reg c.directory far) e
  | checkBookmarks => exact answered_seen _ (fun reg far => h.has reg (c.bookmarksFile e.config) far) e
  | readBookmarks => exact answered_seen _ (fun reg far => h.read reg (c.bookmarksFile e.config) far) e
  | checkMetadata bs =>
    have hask := ask_seen (fun reg far => h.has reg (c.metadataFile e.config) far) e
    let asked := e.ask fun reg far => remote.has reg (c.metadataFile e.config) far
    simp only [seen] at hask ⊢
    rw [hask]
    exact metadataFound_seen asked.2 bs asked.1
  | readMetadata bs => exact answered_seen _ (fun reg far => h.read reg (c.metadataFile e.config) far) e
  | commit found => exact commit_seen e found
  | writeBookmarks s =>
    exact answered_seen _ (fun reg far => h.write reg (c.bookmarksFile e.config) s.bookmarksContent far) e
  | writeMetadata s =>
    exact answered_seen _ (fun reg far => h.write reg (c.metadataFile e.config) s.metadataContent far) e

theorem finish_seen (e : Engine σ) (c : Cycle) (outcome : Except SyncError Unit) :
    (e.seen view).finish remote' c outcome = (e.finish remote c outcome).map id (seen view) := by
  simp only [finish, seen, ← h.closed, Prod.map, id]

/-- So a cycle is carried on in the same way, and ends in the same way. -/
theorem proceed_seen (e : Engine σ) :
    (e.seen view).proceed remote' = (e.proceed remote).map id (seen view) := by
  have hflight : (e.seen view).inFlight = e.inFlight := rfl
  unfold proceed
  rw [hflight]
  cases e.inFlight with
  | none => rfl
  | some c =>
    simp only [perform_seen h]
    obtain ⟨stage | outcome, next⟩ := e.perform remote c
    · rfl
    · have hfinish := finish_seen h next c outcome
      simp only [Prod.map, id] at hfinish ⊢
      rw [hfinish]

end Through

end Engine

end BookmarkSync
