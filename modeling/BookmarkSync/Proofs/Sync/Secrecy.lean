import BookmarkSync.Proofs.Sync.Erasure

/-!
# `BookmarkSync.Proofs.Sync.Secrecy` — the password does not leak

Two engines that differ in passwords only go through the same operations, with a server whose replies do not
depend on logins. After each operation they differ in passwords only (`alike_operation`), and the server has
been sent the same requests but for what the logins say. Whatever can be seen of an engine is a function of
the engine without its passwords, so the two runs cannot be told apart by what can be seen of them.
-/

namespace BookmarkSync

namespace Engine

variable {ρ : Type}

/-- The two engines differ in passwords only, and their far sides are related by `R`. -/
structure Alike (R : ρ → ρ → Prop) (e e' : Engine ρ) : Prop where
  same : e.withoutPasswords = e'.withoutPasswords
  far : R e.far e'.far

section Steps

variable {R : ρ → ρ → Prop} {remote : Remote ρ} {e e' : Engine ρ}

theorem sameAnswer_of_same {α : Type} {r r' : α × Engine ρ}
    (hsame : r.map id withoutPasswords = r'.map id withoutPasswords) (hfar : R r.2.far r'.2.far) :
    SameAnswer (Alike R) r r' := by
  obtain ⟨hanswer, hengine⟩ := Prod.mk.inj hsame
  exact ⟨hanswer, hengine, hfar⟩

/-! ## The cycle in flight -/

theorem sameAnswer_ask {α : Type} {f f' : Registry → ρ → Except SyncError α × ρ} (h : Alike R e e')
    (hf : SameAnswer R (f e.registry e.far) (f' e'.registry e'.far)) :
    SameAnswer (Alike R) (e.ask f) (e'.ask f') :=
  ⟨hf.answer, h.same, hf.state⟩

theorem sameAnswer_metadataFound {asked asked' : Except SyncError Bool × Engine ρ}
    (h : SameAnswer (Alike R) asked asked') (bookmarks : List Bookmark) :
    SameAnswer (Alike R) (asked.2.metadataFound bookmarks asked.1)
      (asked'.2.metadataFound bookmarks asked'.1) := by
  rw [← h.answer]
  apply sameAnswer_of_same
  · rw [metadataFound_withoutPasswords, metadataFound_withoutPasswords, h.state.same]
  · rw [far_metadataFound, far_metadataFound]
    exact h.state.far

theorem sameAnswer_commit (h : Alike R e e') (found : Option Snapshot) :
    SameAnswer (Alike R) (e.commit found) (e'.commit found) := by
  apply sameAnswer_of_same
  · rw [commit_withoutPasswords, commit_withoutPasswords, h.same]
  · rw [far_commit, far_commit]
    exact h.far

/-- **A stage of a cycle** does not depend on passwords. -/
theorem sameAnswer_perform (hblind : remote.Blind R) (h : Alike R e e') {c c' : Cycle}
    (hc : c.withoutPassword = c'.withoutPassword) :
    SameAnswer (Alike R) (e.perform remote c) (e'.perform remote c') := by
  have hstage : c.stage = c'.stage := show c.withoutPassword.stage = c'.withoutPassword.stage by rw [hc]
  have hdirectory : c.directory = c'.directory :=
    show c.withoutPassword.directory = c'.withoutPassword.directory by rw [hc]
  have hconfig : e.config = e'.config :=
    show e.withoutPasswords.config = e'.withoutPasswords.config by rw [h.same]
  have hregistry : e.registry.withoutPasswords = e'.registry.withoutPasswords :=
    show e.withoutPasswords.registry = e'.withoutPasswords.registry by rw [h.same]
  have hbookmarks : c.bookmarksFile e.config = c'.bookmarksFile e'.config := by
    rw [Cycle.bookmarksFile, Cycle.bookmarksFile, hdirectory, hconfig]
  have hmetadata : c.metadataFile e.config = c'.metadataFile e'.config := by
    rw [Cycle.metadataFile, Cycle.metadataFile, hdirectory, hconfig]
  unfold perform
  rw [← hstage, ← hdirectory, ← hbookmarks, ← hmetadata]
  -- the same call goes out on both sides, and the server answers it alike
  cases c.stage with
  | checkDirectory =>
    exact (sameAnswer_ask h (hblind.has hregistry _ _ _ h.far)).map (Turn.after .directoryFound)
  | createDirectory =>
    exact (sameAnswer_ask h (hblind.createDirectories hregistry _ _ _ h.far)).map
      (Turn.after fun _ => .next .checkBookmarks)
  | checkBookmarks =>
    exact (sameAnswer_ask h (hblind.has hregistry _ _ _ h.far)).map (Turn.after .bookmarksFound)
  | readBookmarks =>
    exact (sameAnswer_ask h (hblind.read hregistry _ _ _ h.far)).map (Turn.after .bookmarksRead)
  | checkMetadata bookmarks =>
    let look (reg : Registry) (far : ρ) := remote.has reg (c.metadataFile e.config) far
    have hlooked : SameAnswer (Alike R) (e.ask look) (e'.ask look) :=
      sameAnswer_ask h (hblind.has hregistry (c.metadataFile e.config) _ _ h.far)
    exact sameAnswer_metadataFound hlooked bookmarks
  | readMetadata bookmarks =>
    exact (sameAnswer_ask h (hblind.read hregistry _ _ _ h.far)).map (Turn.after (.metadataRead bookmarks))
  | commit found => exact sameAnswer_commit h found
  | writeBookmarks s =>
    exact (sameAnswer_ask h (hblind.write hregistry _ _ _ _ h.far)).map
      (Turn.after fun _ => .next (.writeMetadata s))
  | writeMetadata s =>
    exact (sameAnswer_ask h (hblind.write hregistry _ _ _ _ h.far)).map (Turn.after fun _ => .over (.ok ()))

theorem sameAnswer_finish (hblind : remote.Blind R) (h : Alike R e e') {c c' : Cycle}
    (hc : c.withoutPassword = c'.withoutPassword) (outcome : Except SyncError Unit) :
    SameAnswer (Alike R) (e.finish remote c outcome) (e'.finish remote c' outcome) := by
  apply sameAnswer_of_same
  · rw [finish_withoutPasswords remote .obliging, finish_withoutPasswords remote .obliging, h.same, hc]
  · show R (remote.closed c.endpoint.authority e.far) (remote.closed c'.endpoint.authority e'.far)
    rw [hblind.closed, hblind.closed]
    exact h.far

theorem sameAnswer_proceed (hblind : remote.Blind R) (h : Alike R e e') :
    SameAnswer (Alike R) (e.proceed remote) (e'.proceed remote) := by
  have hflights : e.inFlight.map Cycle.withoutPassword = e'.inFlight.map Cycle.withoutPassword :=
    show e.withoutPasswords.inFlight = e'.withoutPasswords.inFlight by rw [h.same]
  cases hflight : e.inFlight with
  | none =>
    have hflight' : e'.inFlight = none := by
      rw [hflight] at hflights
      exact Option.map_eq_none_iff.mp hflights.symm
    simp only [proceed, hflight, hflight']
    exact ⟨rfl, h⟩
  | some c =>
    obtain ⟨c', hflight', hc⟩ : ∃ c', e'.inFlight = some c' ∧ c'.withoutPassword = c.withoutPassword := by
      rw [hflight] at hflights
      exact Option.map_eq_some_iff.mp hflights.symm
    obtain ⟨turn, next, next', hperform, hperform', hnext⟩ := (sameAnswer_perform hblind h hc.symm).split
    -- both cycles go on to the same stage, or both end with the same outcome
    rcases turn with stage | outcome
    · rw [proceed_of_next hflight hperform, proceed_of_next hflight' hperform']
      refine ⟨rfl, ?_, hnext.far⟩
      show { next.withoutPasswords with inFlight := some { c.withoutPassword with stage } }
        = { next'.withoutPasswords with inFlight := some { c'.withoutPassword with stage } }
      rw [hnext.same, hc]
    · rw [proceed_of_over hflight hperform, proceed_of_over hflight' hperform']
      exact (sameAnswer_finish hblind hnext hc.symm outcome).map some

/-! ## Everything else -/

theorem far_begin (hblind : remote.Blind R) (origin : Origin) (settings : Settings) :
    (e.begin remote origin settings).2.far = e.far := by
  unfold begin
  split
  · rfl
  · exact hblind.opened _ _

/-- The far side takes part only in what the cycle in flight does. -/
theorem far_apply (hblind : remote.Blind R) {event : Event} (hevent : event ≠ .proceed) :
    (event.apply remote e).2.far = e.far := by
  have hmoves := moves_apply remote e event
  generalize event.apply remote e = r at hmoves ⊢
  cases hmoves with
  | aside hbeside _ => exact hbeside.far
  | begins origin settings _ hbeside => exact (far_begin hblind origin settings).trans hbeside.far
  | proceeds _ => exact absurd rfl hevent

theorem Event.withoutPassword_eq_proceed {event : Event} :
    event.withoutPassword = .proceed ↔ event = .proceed := by
  cases event <;> simp [withoutPassword]

end Steps

end Engine

/-! ## Operations -/

/-- What can be asked of an engine, and of the registry that its requests find credentials in. -/
inductive Operation
  | event (event : Engine.Event)
  | register (c : Credential)
  | unregister (a : Authority)

/-- What an operation answers. -/
inductive Answer
  /-- The report of a sync that has ended or was turned away, if there is one. -/
  | reported (ended : Option Ended)
  /-- What has become of a wish, or why it is not decided. -/
  | decided (decision : Except TriggerFault Decision)
  | cancelled (wasPending : Bool)
deriving Repr

/-- What can be seen of an engine after an operation, and of the requests until then. -/
structure Shown where
  answer : Answer
  status : Watched SyncStatus
  info : StatusInfo
  /-- The settings in words. -/
  settings : String
  /-- The registered credentials in words. -/
  credentials : List String
  /-- The store with its entries, the clock, and the identifiers. -/
  device : Device
  queue : Queue Job
  /-- The requests so far, in order, without what their logins say. -/
  requests : List Dav.Request

namespace Operation

variable {ρ : Type}

/-- The operation, without the passwords that come with it. -/
def withoutPassword : Operation → Operation
  | event e => event e.withoutPassword
  | register c => register c.withoutPassword
  | unregister a => unregister a

def answer (remote : Remote ρ) (e : Engine ρ) : Operation → Answer
  | event .trigger => .decided e.trigger.1
  | event .cancelDeferred => .cancelled e.cancelDeferred.1
  | event (.cancelTask n) => .cancelled (e.cancelTask n).1
  | event ev => .reported (ev.apply remote e).1
  | register _ | unregister _ => .reported none

/-- The engine after an operation. -/
def apply (remote : Remote ρ) (e : Engine ρ) : Operation → Engine ρ
  | event ev => (ev.apply remote e).2
  | register c => { e with registry := e.registry.insert c, far := remote.opened c e.far }
  | unregister a => { e with registry := e.registry.erase a, far := remote.closed a e.far }

end Operation

namespace Engine

variable {ρ σ : Type}

/-- The engine after some operations, one after the other. -/
def operated (remote : Remote ρ) (e : Engine ρ) (ops : List Operation) : Engine ρ :=
  ops.foldl (fun e op => op.apply remote e) e

/-- The engine, with a far side that writes requests down. -/
def listening (e : Engine σ) : Engine (σ × List Dav.Request) := { e with far := (e.far, []) }

/-- What can be seen of the engine after an operation that has answered, and of the requests until then. -/
def shown (e : Engine ρ) (answer : Answer) (requests : List Dav.Request) : Shown where
  answer := answer
  status := e.status
  info := e.statusInfo
  settings := e.settings.describe
  credentials := e.registry.credentials.map Credential.describe
  device := e.device
  queue := e.queue
  requests := requests.map Dav.Request.redacted

/-- What can be seen in the course of some operations, after each of them. -/
def course (remote : Remote (σ × List Dav.Request)) :
    Engine (σ × List Dav.Request) → List Operation → List Shown
  | _, [] => []
  | e, op :: ops =>
    let next := op.apply remote e
    next.shown (op.answer remote e) next.far.2 :: course remote next ops

section Operations

variable {R : ρ → ρ → Prop} {remote : Remote ρ} {e e' : Engine ρ}

/-- No operation looks at a password, except that the cycle in flight goes on. -/
theorem operation_withoutPasswords (remote : Remote ρ) (mute : Remote Unit) (e : Engine ρ) {op : Operation}
    (hop : op ≠ .event .proceed) :
    op.answer remote e = op.withoutPassword.answer mute e.withoutPasswords ∧
      (op.apply remote e).withoutPasswords = op.withoutPassword.apply mute e.withoutPasswords := by
  -- only `proceed` is answered by the remote, so for the others any remote will do
  cases op with
  | register c =>
    refine ⟨rfl, ?_⟩
    simp only [Operation.apply, withoutPasswords, Registry.withoutPasswords_insert]
    rfl
  | unregister a =>
    refine ⟨rfl, ?_⟩
    simp only [Operation.apply, withoutPasswords, Registry.withoutPasswords_erase]
    rfl
  | event event =>
    have hevent : event ≠ .proceed := fun h => hop (congrArg Operation.event h)
    obtain ⟨hended, happly⟩ := Prod.mk.inj (apply_withoutPasswords remote mute e hevent)
    refine ⟨?_, happly⟩
    cases event with
    | trigger => exact congrArg (fun r => Answer.decided r.1) (trigger_withoutPasswords e)
    | cancelDeferred => exact congrArg (fun r => Answer.cancelled r.1) (cancelDeferred_withoutPasswords e)
    | cancelTask n => rfl
    | _ => exact congrArg Answer.reported hended

theorem far_operation (hblind : remote.Blind R) {op : Operation} (hop : op ≠ .event .proceed) :
    (op.apply remote e).far = e.far := by
  cases op with
  | register c => exact hblind.opened c e.far
  | unregister a => exact hblind.closed a e.far
  | event event => exact far_apply hblind fun h => hop (congrArg Operation.event h)

theorem Operation.withoutPassword_eq_proceed {op : Operation} :
    op.withoutPassword = .event .proceed ↔ op = .event .proceed := by
  cases op with
  | event event => simp [Operation.withoutPassword, Event.withoutPassword_eq_proceed]
  | register c => simp [Operation.withoutPassword]
  | unregister a => simp [Operation.withoutPassword]

/-- **No operation depends on passwords**, those that come with it included. -/
theorem alike_operation (hblind : remote.Blind R) (h : Alike R e e') {op op' : Operation}
    (hop : op.withoutPassword = op'.withoutPassword) :
    op.answer remote e = op'.answer remote e' ∧ Alike R (op.apply remote e) (op'.apply remote e') := by
  -- only the cycle in flight asks the server, and the server is asked with a password
  by_cases hproceed : op = .event .proceed
  · have hproceed' : op' = .event .proceed := by
      rw [← Operation.withoutPassword_eq_proceed, ← hop, hproceed]
      rfl
    obtain ⟨hended, halike⟩ := sameAnswer_proceed hblind h
    rw [hproceed, hproceed']
    exact ⟨congrArg Answer.reported hended, halike⟩
  · have hproceed' : op' ≠ .event .proceed := by
      rwa [ne_eq, ← Operation.withoutPassword_eq_proceed, ← hop, Operation.withoutPassword_eq_proceed]
    obtain ⟨hanswer, happly⟩ := operation_withoutPasswords remote .obliging e hproceed
    obtain ⟨hanswer', happly'⟩ := operation_withoutPasswords remote .obliging e' hproceed'
    refine ⟨?_, ?_, ?_⟩
    · rw [hanswer, hanswer', h.same, hop]
    · rw [happly, happly', h.same, hop]
    · rw [far_operation hblind hproceed, far_operation hblind hproceed']
      exact h.far

end Operations

/-! ## Whole runs -/

section Runs

variable {server : Dav.Server σ} {e e' : Engine (σ × List Dav.Request)}

/-- What can be seen of an engine can be seen of it without its passwords. -/
theorem shown_withoutPasswords (e : Engine ρ) (answer : Answer) (requests : List Dav.Request) :
    e.withoutPasswords.shown answer requests = e.shown answer requests := by
  simp only [shown, withoutPasswords, Registry.withoutPasswords, List.map_map]
  rfl

theorem shown_of_alike (h : Alike (Dav.Unnoticed server) e e') (answer : Answer) :
    e.shown answer e.far.2 = e'.shown answer e'.far.2 := by
  rw [← shown_withoutPasswords e, ← shown_withoutPasswords e', h.same, shown, shown, h.far.requests]

theorem course_of_alike {remote : Remote (σ × List Dav.Request)} (hblind : remote.Blind (Dav.Unnoticed server))
    (h : Alike (Dav.Unnoticed server) e e') {ops ops' : List Operation}
    (hops : ops.map Operation.withoutPassword = ops'.map Operation.withoutPassword) :
    e.course remote ops = e'.course remote ops' ∧
      Alike (Dav.Unnoticed server) (e.operated remote ops) (e'.operated remote ops') := by
  -- operation by operation: each shows the same and leaves both engines alike
  induction ops generalizing e e' ops' with
  | nil =>
    cases ops' with
    | nil => exact ⟨rfl, h⟩
    | cons op' ops' => cases hops
  | cons op ops ih =>
    cases ops' with
    | nil => cases hops
    | cons op' ops' =>
      obtain ⟨hop, hops⟩ := List.cons.inj hops
      obtain ⟨hanswer, hnext⟩ := alike_operation hblind h hop
      obtain ⟨hcourse, hafter⟩ := ih hnext hops
      refine ⟨?_, hafter⟩
      simp only [course, hanswer, shown_of_alike hnext, hcourse]

/-- Writing requests down does not change what an engine does. -/
theorem operated_listening (server : Dav.Server σ) (e : Engine (σ × List Dav.Request)) (ops : List Operation) :
    (e.operated (Dav.remote (Dav.listened server)) ops).seen Prod.fst
      = (e.seen Prod.fst).operated (Dav.remote server) ops := by
  induction ops generalizing e with
  | nil => rfl
  | cons op ops ih =>
    have hstep : op.apply (Dav.remote server) (e.seen Prod.fst)
        = (op.apply (Dav.remote (Dav.listened server)) e).seen Prod.fst := by
      cases op with
      | event event => exact congrArg Prod.snd (apply_seen (Dav.listened_seenAs server) e event)
      | register c => rfl
      | unregister a => rfl
    show ((op.apply _ e).operated _ ops).seen Prod.fst = (op.apply _ (e.seen Prod.fst)).operated _ ops
    rw [ih, hstep]

end Runs

/-- **The password does not leak.** Two engines that differ in passwords only, in whichever places, go through
the same operations, but for the passwords of the settings and credentials that these bring with them; and the
server, from where it is, replies the same to the same requests whatever their logins say. Then everything
that can be seen after each of the operations is the same for both: what is answered, the status, what is
shown of it, the settings and the credentials in words, the store with its entries, the tasks, and all
requests but for what their logins say. At the end the engines still differ in passwords only. Writing the
requests down has changed nothing. -/
theorem password_does_not_leak (server : Dav.Server σ) (e e' : Engine σ) (ops ops' : List Operation)
    (hsame : e.withoutPasswords = e'.withoutPasswords) (hserver : Dav.RepliesAlike server e.far e'.far)
    (hops : ops.map Operation.withoutPassword = ops'.map Operation.withoutPassword) :
    let remote := Dav.remote (Dav.listened server)
    e.listening.course remote ops = e'.listening.course remote ops' ∧
    (e.listening.operated remote ops).withoutPasswords = (e'.listening.operated remote ops').withoutPasswords ∧
    (e.listening.operated remote ops).seen Prod.fst = e.operated (Dav.remote server) ops := by
  intro remote
  have halike : Alike (Dav.Unnoticed server) e.listening e'.listening := ⟨hsame, hserver, rfl⟩
  obtain ⟨hcourse, hafter⟩ := course_of_alike (Dav.blind_remote server) halike hops
  exact ⟨hcourse, hafter.same, operated_listening server e.listening ops⟩

/-- An engine that logs in with this password to a server without any resources. -/
def loggingIn (password : String) : Engine Dav.Tree where
  device := .start .empty 9 default true
  settings := { enabled := true, webdavUrl := "dav://[::1]", username := "me", password }
  far := {}

/-- Another credential is registered, a sync looks for its directory, and the password is changed meanwhile. -/
def firstSteps (password : String) : List Operation :=
  [.register ⟨⟨.dav, "[::2]", 80, "me"⟩, password, "", "other"⟩, .event .call, .event .proceed,
    .event (.configure
      { enabled := true, webdavUrl := "dav://[::1]", username := "me", password := password ++ "!" }),
    .event .trigger]

set_option maxRecDepth 10000 in
/-- Two first syncs with different passwords cannot be told apart, though their requests are different. -/
theorem password_does_not_leak_first_sync :
    let remote := Dav.remote (Dav.listened Dav.Tree.reply)
    (loggingIn "one").listening.course remote (firstSteps "one")
      = (loggingIn "two").listening.course remote (firstSteps "two") ∧
    ((loggingIn "one").listening.operated remote (firstSteps "one")).far.2
      ≠ ((loggingIn "two").listening.operated remote (firstSteps "two")).far.2 := by
  intro remote
  have hserver : Dav.RepliesAlike Dav.Tree.reply {} {} := Dav.repliesAlike_of_blind Dav.Tree.reply_redacted _
  obtain ⟨hcourse, -, -⟩ := password_does_not_leak Dav.Tree.reply (loggingIn "one") (loggingIn "two")
    (firstSteps "one") (firstSteps "two") rfl hserver rfl
  refine ⟨hcourse, ?_⟩
  decide +kernel

end Engine

end BookmarkSync
