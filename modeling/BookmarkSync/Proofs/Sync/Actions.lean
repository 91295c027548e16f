import BookmarkSync.Proofs.Store.Atomic
import BookmarkSync.Proofs.Sync.Events
import BookmarkSync.Sync.Editor

/-!
# `BookmarkSync.Proofs.Sync.Actions` — an engine with an editor attached

Besides its events, an engine meets the edits of an editor that is attached to it. An edit is a change of
the store followed by a wish for an automatic sync; when nothing is committed, there is no wish either
(`edited_apply`). A run is told by its moments, each an engine and the action that comes next: what is
assumed of a run, and what is found in it, is said about its moments.
-/

namespace BookmarkSync

variable {ρ : Type}

/-! ## Edits -/

/-- What a user can do to the collection with an editor. -/
inductive Edit
  | add (name path : String) (isDirectory showInSidebar : Bool)
  | addBookmark (b : Bookmark)
  | update (id : String) (p : Patch)
  | updateBookmark (b : Bookmark)
  | delete (id : String)
  | toggle (name path : String) (isDirectory showInSidebar : Bool)
  | importText (text : String)

namespace Edit

/-- The editor after an edit. -/
def run (ed : Editor ρ) : Edit → Editor ρ
  | add name path isDirectory showInSidebar => (ed.add name path isDirectory showInSidebar).2
  | addBookmark b => (ed.addBookmark b).2
  | update id p => (ed.update id p).2
  | updateBookmark b => (ed.updateBookmark b).2
  | delete id => (ed.delete id).2
  | toggle name path isDirectory showInSidebar => (ed.toggle name path isDirectory showInSidebar).2
  | importText text => (ed.importText text).2

/-- The engine after an edit with an editor that is attached to it. -/
def apply (e : Engine ρ) (edit : Edit) : Engine ρ := (edit.run ⟨e, true⟩).engine

/-- The bookmark that is added under a new id. -/
def newBookmark (e : Engine ρ) (name path : String) (isDirectory showInSidebar : Bool) : Bookmark :=
  (e.device.newBookmark name path isDirectory).1.withSidebar showInSidebar

/-- The change of the store that an edit comes down to, if to any. -/
def change? (e : Engine ρ) : Edit → Option Store.Change
  | add name path isDirectory showInSidebar => some (.add (newBookmark e name path isDirectory showInSidebar))
  | addBookmark b => some (.add b)
  | update id p => (e.device.store.get id).map fun b => .update (p.apply b)
  | updateBookmark b => some (.update b)
  | delete id => some (.softDelete id)
  | toggle name path isDirectory showInSidebar =>
    match e.device.store.findActiveByPath path with
    | some b => some (.softDelete b.id)
    | none => some (.add (newBookmark e name path isDirectory showInSidebar))
  | importText text => some (.importText text)

/-- What the store sees of an edit. -/
def seen (e : Engine ρ) (edit : Edit) : List Store.Event := ((edit.change? e).map (.change · e.now)).toList

end Edit

namespace Engine

/-- What an edit does to an engine whose store sees `seen` of it. -/
inductive Edited (e : Engine ρ) (seen : List Store.Event) : Engine ρ → Prop
  /-- Nothing is committed; at most an identifier is used up. -/
  | inVain (ids : IdSupply) : e.device.store.after seen = e.device.store →
      Edited e seen { e with device := { e.device with ids } }
  /-- What the edit comes down to is carried out, and a sync is asked for. -/
  | asked (ids : IdSupply) :
      Edited e seen { e with device := ⟨e.device.store.after seen, e.device.clock, ids⟩ }.trigger.2

section Edits

variable (e : Engine ρ)

/-- A change by an editor asks for a sync, unless it answers that there was nothing to change. -/
theorem edited_change (ids : IdSupply) (c : Store.Change) (isChange : c.Answer → Bool)
    (hnothing : ∀ a, (c.run e.now e.device.store).1 = .ok a → isChange a = false →
      (c.run e.now e.device.store).2 = e.device.store) :
    Edited e [.change c e.now] ((⟨{ e with device := { e.device with ids } }, true⟩ : Editor ρ).change isChange
      fun store now => c.run now store).2.engine := by
  have hseen : e.device.store.after [.change c e.now] = (c.run e.now e.device.store).2 := rfl
  rcases hrun : c.run e.now e.device.store with ⟨answer, store⟩
  rw [hrun] at hseen hnothing
  have hclock : c.run e.device.clock e.device.store = (answer, store) := hrun
  -- only an edit that was stored and counts as a change asks for a sync
  cases answer with
  | error fault =>
    have hkept : store = e.device.store := by
      have hfailed := Store.run_of_error (congrArg Prod.fst hrun)
      rwa [hrun] at hfailed
    simp only [Editor.change, onDevice, Device.change, hclock, hkept]
    exact .inVain ids (hseen.trans hkept)
  | ok a =>
    simp only [Editor.change, onDevice, Device.change, hclock]
    cases hchange : isChange a with
    | false =>
      have hkept : store = e.device.store := hnothing a rfl hchange
      rw [hkept]
      exact .inVain ids (hseen.trans hkept)
    | true =>
      rw [← show _ = store from hseen]
      exact .asked ids

theorem edited_add (ids : IdSupply) (b : Bookmark) : Edited e [.change (.add b) e.now]
    ((⟨{ e with device := { e.device with ids } }, true⟩ : Editor ρ).addBookmark b).2.engine :=
  edited_change e ids (.add b) (fun _ => true) nofun

theorem edited_update (b : Bookmark) : Edited e [.change (.update b) e.now]
    ((⟨e, true⟩ : Editor ρ).updateBookmark b).2.engine := by
  refine edited_change e e.device.ids (.update b) Option.isSome fun a hanswer hnone => ?_
  have hrun : (Store.Change.update b).run e.now e.device.store = e.device.store.update e.now b := rfl
  rw [hrun] at hanswer ⊢
  unfold Store.update at hanswer ⊢
  cases hget : e.device.store.get b.id with
  | none => rfl
  | some stored =>
    -- a record that is there is updated, and the answer says so
    simp only [hget, Store.answering] at hanswer
    cases hcommit : (e.device.store.commitStamped e.now _).1 with
    | error fault =>
      rw [hcommit] at hanswer
      cases hanswer
    | ok done =>
      rw [hcommit] at hanswer
      cases hanswer
      cases hnone

theorem edited_delete (id : String) : Edited e [.change (.softDelete id) e.now]
    ((⟨e, true⟩ : Editor ρ).delete id).2.engine := by
  refine edited_change e e.device.ids (.softDelete id) (fun deleted => deleted) fun a hanswer hnone => ?_
  have hrun : (Store.Change.softDelete id).run e.now e.device.store = e.device.store.softDelete e.now id := rfl
  rw [hrun] at hanswer ⊢
  -- deleting an unknown id answers no without writing anything
  unfold Store.softDelete at hanswer ⊢
  cases hget : e.device.store.get id with
  | none => rfl
  | some stored =>
    simp only [hget, Store.answering] at hanswer
    cases hcommit : (e.device.store.commitStamped e.now _).1 with
    | error fault =>
      rw [hcommit] at hanswer
      cases hanswer
    | ok done =>
      rw [hcommit] at hanswer
      cases hanswer
      cases hnone

/-- **An edit commits nothing, or it asks for a sync** once it is carried out. -/
theorem edited_apply (edit : Edit) : Edited e (edit.seen e) (edit.apply e) := by
  -- the two edits that read first are a change only if they find what they need
  cases edit with
  | add name path isDirectory showInSidebar => exact edited_add e _ _
  | addBookmark b => exact edited_add e e.device.ids b
  | updateBookmark b => exact edited_update e b
  | delete id => exact edited_delete e id
  | importText text => exact edited_change e e.device.ids (.importText text) (fun _ => true) nofun
  | update id p =>
    simp only [Edit.seen, Edit.apply, Edit.change?, Edit.run, Editor.update, Editor.store]
    cases e.device.store.get id with
    | none => exact .inVain e.device.ids rfl
    | some b => exact edited_update e (p.apply b)
  | toggle name path isDirectory showInSidebar =>
    simp only [Edit.seen, Edit.apply, Edit.change?, Edit.run, Editor.toggle, Editor.store]
    cases e.device.store.findActiveByPath path with
    | some b => exact edited_delete e b.id
    | none => exact edited_add e _ _

end Edits

end Engine

/-! ## Runs -/

/-- What can happen to an engine with an editor attached. -/
inductive Action
  | event (event : Engine.Event)
  | edit (edit : Edit)

namespace Engine

/-- The engine after an action, and the sync that has ended by it or was turned away. -/
def act (remote : Remote ρ) (e : Engine ρ) : Action → Option Ended × Engine ρ
  | .event event => event.apply remote e
  | .edit edit => (none, edit.apply e)

/-- The engine after some actions, one after the other. -/
def afterAll (remote : Remote ρ) (e : Engine ρ) (actions : List Action) : Engine ρ :=
  actions.foldl (fun e action => (e.act remote action).2) e

/-- A moment of a run: an engine, and the action that comes next. -/
structure Moment (ρ : Type) where
  engine : Engine ρ
  action : Action

/-- The engine after the moment. -/
def Moment.next (remote : Remote ρ) (m : Moment ρ) : Engine ρ := (m.engine.act remote m.action).2

/-- The moments of a run, in order. -/
def moments (remote : Remote ρ) : Engine ρ → List Action → List (Moment ρ)
  | _, [] => []
  | e, action :: actions => ⟨e, action⟩ :: moments remote (e.act remote action).2 actions

section Runs

variable (remote : Remote ρ) (e : Engine ρ)

theorem afterAll_cons (action : Action) (actions : List Action) :
    e.afterAll remote (action :: actions) = (e.act remote action).2.afterAll remote actions := rfl

variable {remote e}

/-- What every moment of a run preserves holds at all of its moments, and after it. -/
theorem moments_induction {P : Engine ρ → Prop} {actions : List Action}
    (hstep : ∀ m ∈ e.moments remote actions, P m.engine → P (m.next remote)) (h : P e) :
    (∀ m ∈ e.moments remote actions, P m.engine) ∧ P (e.afterAll remote actions) := by
  induction actions generalizing e with
  | nil => exact ⟨List.forall_mem_nil _, h⟩
  | cons action actions ih =>
    rw [moments, List.forall_mem_cons] at hstep
    obtain ⟨hmoments, hafter⟩ := ih hstep.2 (hstep.1 h)
    rw [moments, List.forall_mem_cons]
    exact ⟨⟨h, hmoments⟩, hafter⟩

/-- The action of a moment is one of the run's. -/
theorem action_mem_of_moment {actions : List Action} {m : Moment ρ} (hm : m ∈ e.moments remote actions) :
    m.action ∈ actions := by
  induction actions generalizing e with
  | nil => cases hm
  | cons action actions ih =>
    rcases List.mem_cons.mp hm with rfl | hm
    · exact List.mem_cons_self
    · exact List.mem_cons_of_mem _ (ih hm)

end Runs

/-! ## What the store sees of a run -/

/-- What the store sees of an action. -/
def seenOfAction (e : Engine ρ) : Action → List Store.Event
  | .event event => event.seen e
  | .edit edit => edit.seen e

/-- What the store sees of a run. -/
def seenOfRun (remote : Remote ρ) (e : Engine ρ) (actions : List Action) : List Store.Event :=
  (e.moments remote actions).flatMap fun m => m.engine.seenOfAction m.action

theorem store_act (remote : Remote ρ) (e : Engine ρ) (action : Action) :
    (e.act remote action).2.device.store = e.device.store.after (e.seenOfAction action) := by
  cases action with
  | event event => exact store_apply remote e event
  | edit edit =>
    show (edit.apply e).device.store = e.device.store.after (edit.seen e)
    have hedited := edited_apply e edit
    generalize edit.apply e = e' at hedited
    cases hedited with
    | inVain ids hkept => exact hkept.symm
    | asked ids => rw [device_trigger]

/-- **The store after a run** is what the edits, the changes and the commits of the run have made of it. -/
theorem store_afterAll (remote : Remote ρ) (e : Engine ρ) (actions : List Action) :
    (e.afterAll remote actions).device.store = e.device.store.after (e.seenOfRun remote actions) := by
  induction actions generalizing e with
  | nil => rfl
  | cons action actions ih =>
    rw [afterAll_cons, ih, store_act]
    exact List.foldl_append.symm

end Engine

end BookmarkSync
