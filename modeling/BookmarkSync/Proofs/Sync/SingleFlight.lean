import BookmarkSync.Dav.Client
import BookmarkSync.Proofs.Remote.Overheard
import BookmarkSync.Proofs.Sync.CycleRun
import BookmarkSync.Remote.Memory

/-!
# `BookmarkSync.Proofs.Sync.SingleFlight` — one cycle at a time

What happens to an engine is told by the cycle in flight: an event leaves it, starts it, carries it on,
or ends it (`Passage`). An engine is orderly when what it publishes and whom it has registered fit the cycle
in flight. Every event keeps an engine orderly and is a passage; so the far side hears of one session after
the other (`Sessions`), and what was published last is the report of the cycle that finished last.
-/

namespace BookmarkSync

/-! ## Reports, logins, sessions -/

/-- Whether a report tells how a cycle went, and not that someone was turned away. -/
def Report.isOfCycle (r : Report) : Bool := r.kind != some .declined && r.kind != some .busy

/-- The cycle goes where its settings lead, and logs in as they say. -/
structure Cycle.FollowsSettings (c : Cycle) : Prop where
  endpoint : Endpoint.parse c.settings.trimmedUrl c.settings.username = .ok c.endpoint
  username : c.credential.authority.username = c.settings.username
  password : c.credential.password = c.settings.password

/-- What the far side hears when cycles follow each other: a credential comes, calls are made while the
registry holds it and nothing else, and it goes again. The first argument is the credential that is there
at the end. -/
inductive Sessions : Option Credential → List Heard → Prop
  | nil : Sessions none []
  | opened {log : List Heard} (c : Credential) : Sessions none log → Sessions (some c) (log ++ [.opened c])
  | called {c : Credential} {log : List Heard} (call : FileCall) : Sessions (some c) log →
      Sessions (some c) (log ++ [.called ⟨[c]⟩ call])
  | closed {c : Credential} {log : List Heard} : Sessions (some c) log →
      Sessions none (log ++ [.closed c.authority])

/-- A session goes on by calls, as long as the registry holds its credential alone. -/
theorem Sessions.calls {c : Credential} {log : List Heard} (h : Sessions (some c) log) (calls : List FileCall) :
    Sessions (some c) (log ++ calls.map (.called ⟨[c]⟩)) := by
  induction calls generalizing log with
  | nil => rwa [List.map_nil, List.append_nil]
  | cons call calls ih =>
    have hcall := ih (h.called call)
    rwa [List.append_assoc] at hcall

/-- The user of an endpoint is the one of the settings, whatever stands in the URL. -/
theorem Endpoint.username_of_parse {url username : String} {endpoint : Endpoint}
    (h : Endpoint.parse url username = .ok endpoint) : endpoint.authority.username = username := by
  simp only [parse, bind, Except.bind, pure, Except.pure] at h
  repeat' split at h
  all_goals first | cases h; rfl | cases h

/-- Every stage is still to be carried out, and none has more to come than the first. -/
theorem Stage.rank_pos (stage : Stage) : 0 < stage.rank := by
  cases stage <;> simp [rank]

theorem Stage.rank_le (stage : Stage) : stage.rank ≤ checkDirectory.rank := by
  cases stage <;> simp [rank]

/-! ## Remotes that turn nobody away -/

/-- The answer is no failure for a cause for which someone is turned away. -/
def NoRefusal {α : Type} (answer : Except SyncError α) : Prop :=
  ∀ error, answer = .error error → (Report.failed error).isOfCycle = true

theorem noRefusal_ok {α : Type} (a : α) : NoRefusal (.ok a) := nofun

/-- A remote that says in words why it failed turns nobody away. -/
theorem noRefusal_transport {α : Type} (detail : String) :
    NoRefusal (α := α) (.error (.transport detail)) := by
  rintro error ⟨⟩
  rfl

/-- The remote fails for causes of its own only. It never answers that the settings ask for no sync or that a
sync is in progress, which is for the engine to say. -/
structure Remote.TurnsNobodyAway {ρ : Type} (remote : Remote ρ) : Prop where
  has : ∀ reg l far, NoRefusal (remote.has reg l far).1
  createDirectories : ∀ reg l far, NoRefusal (remote.createDirectories reg l far).1
  read : ∀ reg l far, NoRefusal (remote.read reg l far).1
  write : ∀ reg l content far, NoRefusal (remote.write reg l content far).1

/-- Listening to a remote does not change its answers. -/
theorem Remote.TurnsNobodyAway.overheard {ρ : Type} {remote : Remote ρ} (h : remote.TurnsNobodyAway) :
    remote.overheard.TurnsNobodyAway where
  has reg l far := h.has reg l far.1
  createDirectories reg l far := h.createDirectories reg l far.1
  read reg l far := h.read reg l far.1
  write reg l content far := h.write reg l content far.1

/-- An operation that was made to fail fails in words. -/
theorem Memory.noRefusal_attempt {α : Type} (m : Memory) (operation : FileOperation) (l : Location)
    {act : Memory → Except SyncError α × Memory} (hact : ∀ m, NoRefusal (act m).1) :
    NoRefusal (m.attempt operation l act).1 := by
  unfold attempt
  split
  · exact noRefusal_transport _
  · exact hact m

/-- Files in memory fail in words only. -/
theorem Memory.turnsNobodyAway_remote : Memory.remote.TurnsNobodyAway where
  has _ l m := m.noRefusal_attempt .exists l fun _ => noRefusal_ok _
  createDirectories _ l m := m.noRefusal_attempt .mkdirs l fun _ => noRefusal_ok _
  read _ l m := m.noRefusal_attempt .read l fun m => by
    cases m.file? l.path with
    | none => exact noRefusal_transport _
    | some content => exact noRefusal_ok _
  write _ l _ m := m.noRefusal_attempt .write l fun _ => noRefusal_ok _

/-- The faults of requests are told in words. -/
theorem Dav.noRefusal_inWords {α σ : Type} (r : Except Fault α × σ) : NoRefusal (inWords r).1 := by
  obtain ⟨f | a, s⟩ := r
  · exact noRefusal_transport _
  · exact noRefusal_ok _

/-- A server turns nobody away, whatever it answers. -/
theorem Dav.turnsNobodyAway_remote {σ : Type} (server : Server σ) : (remote server).TurnsNobodyAway where
  has _ _ _ := noRefusal_inWords _
  createDirectories _ _ _ := noRefusal_inWords _
  read _ _ _ := noRefusal_inWords _
  write _ _ _ _ := noRefusal_inWords _

namespace Engine

/-! ## Single stages -/

variable {ρ : Type}

/-- What a stage can lead to: a later stage, or the end of the cycle. The report that the cycle then ends with
turns nobody away, if the remote does not. -/
inductive Follows (remote : Remote ρ) (stage : Stage) : Turn → Prop
  | goesOn {later : Stage} : later.rank < stage.rank → Follows remote stage (.next later)
  | ends {outcome : Except SyncError Unit} :
      (remote.TurnsNobodyAway → (Report.ofOutcome outcome).isOfCycle = true) →
      Follows remote stage (.over outcome)

section Follows

variable {remote : Remote ρ}

/-- What a stage that calls leads to by its answers, and by the failure of its call. -/
theorem follows_after {α : Type} {stage : Stage} {turn : α → Turn} {answer : Except SyncError α}
    (hturn : ∀ a, Follows remote stage (turn a))
    (hcall : remote.TurnsNobodyAway → NoRefusal answer) : Follows remote stage (.after turn answer) := by
  cases answer with
  | ok a => exact hturn a
  | error error => exact .ends fun h => hcall h error rfl

/-- Whether a collection can be read or not, the cycle goes on. -/
theorem follows_bookmarksRead (content : List UInt8) :
    Follows remote .readBookmarks (.bookmarksRead content) := by
  unfold Turn.bookmarksRead
  split <;> exact .goesOn (by simp [Stage.rank])

theorem follows_metadataRead (bookmarks : List Bookmark) (content : List UInt8) :
    Follows remote (.readMetadata bookmarks) (.metadataRead bookmarks content) := by
  unfold Turn.metadataRead
  split <;> exact .goesOn (by simp [Stage.rank])

/-- Metadata that is missing is made, so only a failed call ends the cycle here. -/
theorem follows_metadataFound (e : Engine ρ) (bookmarks : List Bookmark) {answer : Except SyncError Bool}
    (hcall : remote.TurnsNobodyAway → NoRefusal answer) :
    Follows remote (.checkMetadata bookmarks) (e.metadataFound bookmarks answer).1 := by
  rcases answer with error | found
  · exact .ends fun h => hcall h error rfl
  · cases found <;> exact .goesOn (by simp [Stage.rank])

/-- A commit is refused by the store, which turns nobody away, or the cycle goes on to its uploads. -/
theorem follows_commit (e : Engine ρ) (found : Option Snapshot) :
    Follows remote (.commit found) (e.commit found).1 := by
  simp only [commit]
  split
  · exact .ends fun _ => rfl
  · exact .goesOn (by simp [Stage.rank])

variable (remote) in
/-- **A stage leads to a later one, or ends the cycle.** -/
theorem follows_perform (e : Engine ρ) (c : Cycle) : Follows remote c.stage (e.perform remote c).1 := by
  unfold perform
  cases c.stage with
  | checkDirectory =>
    exact follows_after (fun found => .goesOn (by cases found <;> decide)) fun h => h.has _ _ _
  | createDirectory => exact follows_after (fun _ => .goesOn (by decide)) fun h => h.createDirectories _ _ _
  | checkBookmarks =>
    exact follows_after (fun found => .goesOn (by cases found <;> simp [Stage.rank])) fun h => h.has _ _ _
  | readBookmarks => exact follows_after follows_bookmarksRead fun h => h.read _ _ _
  | checkMetadata bookmarks => exact follows_metadataFound _ bookmarks fun h => h.has _ _ _
  | readMetadata bookmarks => exact follows_after (follows_metadataRead bookmarks) fun h => h.read _ _ _
  | commit found => exact follows_commit e found
  | writeBookmarks s =>
    exact follows_after (fun _ => .goesOn (by simp [Stage.rank])) fun h => h.write _ _ _ _
  | writeMetadata s => exact follows_after (fun _ => .ends fun _ => rfl) fun h => h.write _ _ _ _

end Follows

/-- A cycle that is still in flight after a stage is at a later one. -/
theorem rank_proceed (remote : Remote ρ) {e : Engine ρ} {c c' : Cycle} (hflight : e.inFlight = some c)
    (h : (e.proceed remote).2.inFlight = some c') : c'.stage.rank < c.stage.rank := by
  have hfollows := follows_perform remote e c
  rcases hperform : e.perform remote c with ⟨turn, next⟩
  rw [hperform] at hfollows
  cases hfollows with
  | goesOn hlater =>
    rw [proceed_of_next hflight hperform] at h
    cases h
    exact hlater
  | ends _ =>
    rw [proceed_of_over hflight hperform] at h
    cases h

/-- Carrying on starts no cycle. -/
theorem inFlight_proceed_of_none (remote : Remote ρ) {e : Engine ρ} (h : e.inFlight = none) :
    (e.proceed remote).2.inFlight = none := by
  simp only [proceed, h]

/-- The cycle in flight ends when it has gone on often enough. -/
theorem inFlight_after_proceeds (remote : Remote ρ) (e : Engine ρ) (n : Nat)
    (h : ∀ c, e.inFlight = some c → c.stage.rank ≤ n) :
    (e.after remote (List.replicate n .proceed)).inFlight = none := by
  induction n generalizing e with
  | zero =>
    cases hflight : e.inFlight with
    | none => exact hflight
    | some c => exact absurd (h c hflight) (Nat.not_le.mpr c.stage.rank_pos)
  | succ n ih =>
    refine ih (e.proceed remote).2 fun c' hc' => ?_
    cases hflight : e.inFlight with
    | none =>
      rw [inFlight_proceed_of_none remote hflight] at hc'
      cases hc'
    | some c => exact Nat.le_of_lt_succ (Nat.lt_of_lt_of_le (rank_proceed remote hflight hc') (h c hflight))

/-! ## Passages -/

/-- What happens to the cycle in flight: the engine before, what is answered, the engine after, and what
the far side hears. -/
inductive Passage (remote : Remote ρ) (e : Engine ρ) : Option Ended → Engine ρ → List Heard → Prop
  /-- It is as it was; but someone may have been turned away. -/
  | aside {answer : Option Ended} {e' : Engine ρ} : SameCycles e e' →
      (∀ ended, answer = some ended → TurnedAway e ended.report) → Passage remote e answer e' []
  /-- A cycle starts, none being in flight. -/
  | starts {c : Cycle} {e' : Engine ρ} : e.inFlight = none → e'.inFlight = some c → c.FollowsSettings →
      e'.registry = ⟨[c.credential]⟩ → e'.status.value = ⟨.syncing, e.status.value.lastReport⟩ →
      Passage remote e none e' [.opened c.credential]
  /-- A cycle starts while none is in flight, and ends at once. -/
  | startsAndEnds {ended : Ended} {e' : Engine ρ} : e.inFlight = none → e'.inFlight = none →
      e'.registry = e.registry → e'.status.value = ⟨.idle, some ended.report⟩ → ended.report.isOfCycle = true →
      Passage remote e (some ended) e' []
  /-- It goes on to a later stage. -/
  | goesOn {c : Cycle} {stage : Stage} {e' : Engine ρ} {calls : List FileCall} : e.inFlight = some c →
      e'.inFlight = some { c with stage } → stage.rank < c.stage.rank → e'.registry = e.registry →
      e'.status = e.status → calls.length = (if c.stage.isRemote then 1 else 0) →
      Passage remote e none e' (calls.map (.called ⟨[c.credential]⟩))
  /-- It ends, and its report is handed out and published. The report turns nobody away, if the remote does
  not. -/
  | ends {c : Cycle} {ended : Ended} {e' : Engine ρ} {calls : List FileCall} : e.inFlight = some c →
      e'.inFlight = none → ended.origin = c.origin → e'.registry = {} →
      e'.status.value = ⟨.idle, some ended.report⟩ →
      (remote.TurnsNobodyAway → ended.report.isOfCycle = true) →
      calls.length = (if c.stage.isRemote then 1 else 0) →
      Passage remote e (some ended) e' (calls.map (.called ⟨[c.credential]⟩) ++ [.closed c.endpoint.authority])

/-- What is published, and who is registered, fits the cycle in flight. -/
structure Orderly (e : Engine ρ) : Prop where
  phase : e.isSyncing = e.inFlight.isSome
  registry : e.registry = ⟨(e.inFlight.map Cycle.credential).toList⟩
  login : ∀ c, e.inFlight = some c → c.FollowsSettings

section Passages

variable {remote : Remote ρ} {e e' : Engine ρ} {answer : Option Ended} {heard : List Heard}

/-- In an orderly engine the cycle in flight alone is registered, and nobody is if none is in flight. -/
theorem Orderly.registry_of_flight (h : e.Orderly) {c : Cycle} (hc : e.inFlight = some c) :
    e.registry = ⟨[c.credential]⟩ := by
  rw [h.registry, hc]
  rfl

theorem Orderly.registry_of_none (h : e.Orderly) (hc : e.inFlight = none) : e.registry = {} := by
  rw [h.registry, hc]
  rfl

/-- **Every passage keeps an engine orderly.** -/
theorem Orderly.passage (h : e.Orderly) (hpassage : Passage remote e answer e' heard) : e'.Orderly := by
  -- each passage says what becomes of the status, the registry and the cycle
  cases hpassage with
  | aside hsame _ =>
    refine ⟨?_, ?_, ?_⟩
    · rw [isSyncing, hsame.status, hsame.inFlight]
      exact h.phase
    · rw [hsame.registry, hsame.inFlight]
      exact h.registry
    · rw [hsame.inFlight]
      exact h.login
  | starts _ hflight hfollows hregistry hstatus =>
    refine ⟨?_, ?_, ?_⟩
    · rw [isSyncing, hstatus, hflight]
      rfl
    · rw [hregistry, hflight]
      rfl
    · rw [hflight]
      rintro c ⟨⟩
      exact hfollows
  | startsAndEnds hnone hflight hregistry hstatus _ =>
    refine ⟨?_, ?_, ?_⟩
    · rw [isSyncing, hstatus, hflight]
      rfl
    · rw [hregistry, hflight, h.registry_of_none hnone]
      rfl
    · rw [hflight]
      nofun
  | @goesOn c stage _ _ hbefore hflight _ hregistry hstatus _ =>
    refine ⟨?_, ?_, ?_⟩
    · rw [isSyncing, hstatus, hflight]
      rw [← isSyncing, h.phase, hbefore]
      rfl
    · rw [hregistry, hflight, h.registry_of_flight hbefore]
      rfl
    · rw [hflight]
      rintro c' ⟨⟩
      have hlogin := h.login c hbefore
      exact ⟨hlogin.endpoint, hlogin.username, hlogin.password⟩
  | ends _ hflight _ hregistry hstatus _ _ =>
    refine ⟨?_, ?_, ?_⟩
    · rw [isSyncing, hstatus, hflight]
      rfl
    · rw [hregistry, hflight]
      rfl
    · rw [hflight]
      nofun

/-- **Every passage goes on with the sessions that the far side hears of.** -/
theorem sessions_passage {log : List Heard} (h : Sessions (e.inFlight.map Cycle.credential) log)
    (hpassage : Passage remote e answer e' heard) :
    Sessions (e'.inFlight.map Cycle.credential) (log ++ heard) := by
  cases hpassage with
  | aside hsame _ =>
    rw [hsame.inFlight, List.append_nil]
    exact h
  | @starts c _ hnone hflight _ _ _ =>
    rw [hnone] at h
    rw [hflight]
    exact h.opened c.credential
  | startsAndEnds hnone hflight _ _ _ =>
    rw [hnone] at h
    rw [hflight, List.append_nil]
    exact h
  | @goesOn c stage _ calls hbefore hflight _ _ _ _ =>
    rw [hbefore] at h
    rw [hflight]
    exact h.calls calls
  | @ends c _ _ calls hbefore hflight _ _ _ _ _ =>
    rw [hbefore] at h
    rw [hflight, ← List.append_assoc]
    exact (h.calls calls).closed

/-- Who is turned away is not told how a cycle went. -/
theorem TurnedAway.not_isOfCycle {report : Report} (h : TurnedAway e report) : report.isOfCycle = false := by
  rcases h with ⟨r, rfl⟩ | ⟨rfl, _⟩ <;> rfl

/-- The report is that of a cycle, if it is handed out as the engine goes from `e` to `e'`: the cycle in flight
is over by then, or the report turns nobody away. -/
def endsCycle (e e' : Engine ρ) (r : Report) : Bool := (e.inFlight.isSome && e'.inFlight.isNone) || r.isOfCycle

/-- A passage publishes the report that it hands out, if that is the report of a cycle, and no other. -/
theorem Passage.lastReport (h : Passage remote e answer e' heard) :
    e'.status.value.lastReport
      = (((answer.map Ended.report).toList.filter (e.endsCycle e')).getLast?).or e.status.value.lastReport := by
  -- the last report changes with the end of a cycle and with nothing else
  cases h with
  | aside hsame haway =>
    rw [hsame.status]
    cases answer with
    | none => rfl
    | some ended =>
      have hover : e.endsCycle e' ended.report = false := by
        rw [endsCycle, hsame.inFlight, (haway ended rfl).not_isOfCycle]
        cases e.inFlight <;> rfl
      simp only [Option.map_some, Option.toList_some, List.filter_cons, hover, List.filter_nil]
      rfl
  | starts _ _ _ _ hstatus =>
    rw [hstatus]
    rfl
  | @startsAndEnds ended _ _ _ _ hstatus hkind =>
    have hover : e.endsCycle e' ended.report = true := by rw [endsCycle, hkind, Bool.or_true]
    rw [hstatus]
    simp only [Option.map_some, Option.toList_some, List.filter_cons, hover, if_true, List.filter_nil]
    rfl
  | goesOn _ _ _ _ hstatus _ =>
    rw [hstatus]
    rfl
  | @ends c ended _ _ hflight hnone _ _ hstatus _ _ =>
    have hover : e.endsCycle e' ended.report = true := by
      rw [endsCycle, hflight, hnone]
      rfl
    rw [hstatus]
    simp only [Option.map_some, Option.toList_some, List.filter_cons, hover, if_true, List.filter_nil]
    rfl

/-- If the remote turns nobody away, the report of a cycle is told from others by its kind. -/
theorem Passage.endsCycle_eq (h : Passage remote e answer e' heard) (hremote : remote.TurnsNobodyAway) :
    (answer.map Ended.report).toList.filter (e.endsCycle e')
      = (answer.map Ended.report).toList.filter Report.isOfCycle := by
  refine List.filter_congr fun r hr => ?_
  cases h with
  | aside hsame _ =>
    rw [endsCycle, hsame.inFlight]
    cases e.inFlight <;> rfl
  | starts | goesOn => cases hr
  | startsAndEnds hnone _ _ _ _ =>
    rw [endsCycle, hnone]
    rfl
  | ends _ _ _ _ _ hkind _ =>
    obtain rfl := List.mem_singleton.mp hr
    rw [endsCycle, hkind hremote, Bool.or_true]

end Passages

/-! ## Every event is a passage -/

section Events

variable (remote : Remote ρ) {e e' : Engine (ρ × List Heard)}

/-- What an event leads to, told as a passage. -/
def IsPassage (e : Engine (ρ × List Heard)) (r : Option Ended × Engine (ρ × List Heard)) : Prop :=
  ∃ heard, r.2.far.2 = e.far.2 ++ heard ∧ Passage remote.overheard e r.1 r.2 heard

/-- A start is a passage: its address is read and it is registered alone, or it ends at once. -/
theorem isPassage_begin (h : e.Orderly) (hbeside : Beside e e') (hnone : e.inFlight = none) (origin : Origin)
    (settings : Settings) : IsPassage remote e (e'.begin remote.overheard origin settings) := by
  have hregistry := hbeside.registry.trans (h.registry_of_none hnone)
  unfold begin
  -- a bad address ends the cycle as it begins, and opens no session
  cases hparse : Endpoint.parse settings.trimmedUrl settings.username with
  | error f =>
    refine ⟨[], ?_, .startsAndEnds hnone (hbeside.inFlight.trans hnone) hbeside.registry rfl rfl⟩
    rw [List.append_nil]
    exact congrArg Prod.snd hbeside.far
  | ok endpoint =>
    let c : Cycle := { origin, settings, endpoint }
    have hfollows : c.FollowsSettings := ⟨hparse, Endpoint.username_of_parse hparse, rfl⟩
    refine ⟨[.opened c.credential], ?_, .starts hnone rfl hfollows ?_ ?_⟩
    · show e'.far.2 ++ _ = _
      rw [hbeside.far]
    · show e'.registry.insert c.credential = _
      rw [hregistry]
      rfl
    · show SyncStatus.mk .syncing e'.status.value.lastReport = _
      rw [hbeside.status]

/-- When the credential of the cycle goes, none is left. -/
theorem erase_credential (c : Cycle) : (Registry.mk [c.credential]).erase c.endpoint.authority = {} := by
  simp [Registry.erase, Cycle.credential]

/-- Carrying the cycle on is a passage: it goes on to a later stage, or its credential goes with it. -/
theorem isPassage_proceed (h : e.Orderly) {c : Cycle} (hflight : e.inFlight = some c) :
    IsPassage remote e (e.proceed remote.overheard) := by
  obtain ⟨device, far, hframe⟩ := e.perform_frame remote.overheard c
  obtain ⟨calls, hlength, hheard, -⟩ := heard_perform remote e c
  have hfollows := follows_perform remote.overheard e c
  rcases hperform : e.perform remote.overheard c with ⟨turn, next⟩
  rw [hperform] at hframe hheard hfollows
  replace hframe : next = { e with device, far } := hframe
  have hregistry := h.registry_of_flight hflight
  rw [hregistry] at hheard
  -- whether the cycle goes on or ends, its session is the only one that is open
  cases hfollows with
  | goesOn hlater =>
    rw [proceed_of_next hflight hperform]
    refine ⟨_, hheard, .goesOn hflight rfl hlater ?_ ?_ hlength⟩
    · show next.registry = e.registry
      rw [hframe]
    · show next.status = e.status
      rw [hframe]
  | ends hkind =>
    rw [proceed_of_over hflight hperform]
    refine ⟨calls.map (.called ⟨[c.credential]⟩) ++ [.closed c.endpoint.authority], ?_,
      .ends hflight rfl rfl ?_ rfl hkind hlength⟩
    · show next.far.2 ++ _ = _
      rw [show next.far.2 = _ from hheard, List.append_assoc]
    · show next.registry.erase c.endpoint.authority = {}
      rw [hframe]
      show e.registry.erase c.endpoint.authority = {}
      rw [hregistry, erase_credential]

/-- **What happens to an orderly engine is a passage.** -/
theorem isPassage_apply (h : e.Orderly) (event : Event) :
    IsPassage remote e (event.apply remote.overheard e) := by
  have hmoves := moves_apply remote.overheard e event
  generalize event.apply remote.overheard e = r at hmoves ⊢
  cases hmoves with
  | aside hbeside haway =>
    refine ⟨[], ?_, .aside hbeside.toSameCycles haway⟩
    rw [List.append_nil]
    exact congrArg Prod.snd hbeside.far
  | begins origin settings hnone hbeside => exact isPassage_begin remote h hbeside hnone origin settings
  | proceeds hflight => exact isPassage_proceed remote h hflight

theorem orderly_apply (h : e.Orderly) (event : Event) : (event.apply remote.overheard e).2.Orderly := by
  obtain ⟨heard, -, hpassage⟩ := isPassage_apply remote h event
  exact h.passage hpassage

/-! ## Whole runs -/

/-- An engine that is orderly at first is so at every moment. -/
theorem orderly_after (h : e.Orderly) (events : List Event) : (e.after remote.overheard events).Orderly :=
  after_induction (P := Orderly) remote.overheard e (fun _ event he => orderly_apply remote he event) h events

/-- What the far side hears in a run are sessions, the last of which lasts if a cycle is in flight. -/
theorem sessions_after (h : e.Orderly) (hlog : Sessions (e.inFlight.map Cycle.credential) e.far.2)
    (events : List Event) :
    Sessions ((e.after remote.overheard events).inFlight.map Cycle.credential)
      (e.after remote.overheard events).far.2 := by
  induction events generalizing e with
  | nil => exact hlog
  | cons event events ih =>
    obtain ⟨heard, hfar, hpassage⟩ := isPassage_apply remote h event
    refine ih (h.passage hpassage) ?_
    rw [hfar]
    exact sessions_passage hlog hpassage

/-- The reports of the cycles that end in the course of some events, in order. -/
def cycleReports (remote : Remote ρ) : Engine ρ → List Event → List Report
  | _, [] => []
  | e, event :: events =>
    let r := event.apply remote e
    (r.1.map Ended.report).toList.filter (e.endsCycle r.2) ++ r.2.cycleReports remote events

/-- What is published last is the last report of a cycle, or what was published before. -/
theorem lastReport_after (h : e.Orderly) (events : List Event) :
    (e.after remote.overheard events).status.value.lastReport
      = ((e.cycleReports remote.overheard events).getLast?).or e.status.value.lastReport := by
  induction events generalizing e with
  | nil => rfl
  | cons event events ih =>
    obtain ⟨heard, -, hpassage⟩ := isPassage_apply remote h event
    have hrest := ih (h.passage hpassage)
    rw [hpassage.lastReport] at hrest
    rw [after_cons, hrest, cycleReports, List.getLast?_append, Option.or_assoc]

/-- If the remote turns nobody away, the reports of cycles are those that are handed out and turn nobody away.
-/
theorem cycleReports_eq (h : e.Orderly) (hremote : remote.TurnsNobodyAway) (events : List Event) :
    e.cycleReports remote.overheard events
      = (e.reports remote.overheard events).filter Report.isOfCycle := by
  induction events generalizing e with
  | nil => rfl
  | cons event events ih =>
    obtain ⟨heard, -, hpassage⟩ := isPassage_apply remote h event
    rw [cycleReports, reports, List.filter_append, hpassage.endsCycle_eq hremote.overheard,
      ih (h.passage hpassage)]

/-- While a cycle is in flight, someone who calls is told so, and nothing else happens. -/
theorem sync_of_flight {c : Cycle} (remote : Remote ρ) {e : Engine ρ} (hflight : e.inFlight = some c)
    (hready : e.settings.refusal? = none) (origin : Origin) :
    e.sync remote origin = (some ⟨origin, .failed .busy⟩, e) := by
  have hbusy : e.isBusy = true := by
    rw [isBusy, hflight]
    rfl
  simp only [sync, hready, hbusy, if_true]

/-- Only a busy engine answers that it is busy. -/
theorem Passage.isBusy_of_busy {remote : Remote ρ} {e e' : Engine ρ} {answer : Option Ended}
    {heard : List Heard} (h : Passage remote e answer e' heard) {ended : Ended} (hanswer : answer = some ended)
    (hkind : ended.report.kind = some .busy) : e.isBusy = true := by
  have hnot : ended.report.isOfCycle = false := by
    rw [Report.isOfCycle, hkind]
    rfl
  -- such an answer comes from beside a cycle or ends one, and either way the engine was busy
  cases h with
  | aside _ haway =>
    rcases haway ended hanswer with ⟨r, hreport⟩ | ⟨_, hbusy⟩
    · rw [hreport] at hkind
      cases hkind
    · exact hbusy
  | starts => cases hanswer
  | goesOn => cases hanswer
  | startsAndEnds _ _ _ _ hcycle =>
    cases hanswer
    rw [hnot] at hcycle
    cases hcycle
  | ends hflight _ _ _ _ _ _ =>
    rw [isBusy, hflight]
    rfl

end Events

/-- What holds of an engine at every moment. -/
structure FliesSingly (remote : Remote ρ) (e : Engine (ρ × List Heard)) : Prop where
  /-- What is published, and who is registered, fits the cycle in flight. -/
  orderly : e.Orderly
  /-- The far side has heard of one session after the other, and of calls in sessions only. -/
  sessions : Sessions (e.inFlight.map Cycle.credential) e.far.2
  /-- Whatever happens next leaves, starts, carries on or ends the cycle in flight. -/
  next : ∀ event : Event, IsPassage remote e (event.apply remote.overheard e)
  /-- However far the cycle in flight has come, it ends when it is carried on. -/
  ends : (e.after remote.overheard (List.replicate Stage.checkDirectory.rank .proceed)).inFlight = none
  /-- Someone who calls for a sync while a cycle is in flight is told so, and nothing else happens, whatever
  tasks are queued. -/
  busy : ∀ c, e.inFlight = some c → e.settings.refusal? = none → ∀ origin queue,
    { e with queue }.sync remote.overheard origin = (some ⟨origin, .failed .busy⟩, { e with queue })
  /-- Nobody is told so while no cycle is in flight and no automatic sync waits for its turn. -/
  busyOnly : ∀ (event : Event) (ended : Ended), (event.apply remote.overheard e).1 = some ended →
    ended.report.kind = some .busy → e.inFlight ≠ none ∨ e.waiting ≠ []

/-- All of it follows from the engine being orderly and from what the far side has heard. -/
theorem fliesSingly_of_orderly (remote : Remote ρ) {e : Engine (ρ × List Heard)} (horderly : e.Orderly)
    (hsessions : Sessions (e.inFlight.map Cycle.credential) e.far.2) : FliesSingly remote e where
  orderly := horderly
  sessions := hsessions
  next := isPassage_apply remote horderly
  ends := inFlight_after_proceeds remote.overheard e _ fun c _ => c.stage.rank_le
  busy := by
    intro c hflight hready origin queue
    let queued : Engine (ρ × List Heard) := { e with queue }
    have hqueued : queued.inFlight = some c := hflight
    exact sync_of_flight remote.overheard hqueued hready origin
  busyOnly := by
    intro event ended hanswer hkind
    obtain ⟨heard, -, hpassage⟩ := isPassage_apply remote horderly event
    have hbusy := hpassage.isBusy_of_busy hanswer hkind
    -- busy means that a cycle runs or that somebody waits
    by_cases hnone : e.inFlight = none
    · refine .inr fun hwaiting => ?_
      rw [isBusy_eq_false_iff.mpr ⟨hnone, hwaiting⟩] at hbusy
      cases hbusy
    · exact .inl hnone

/-- **At most one cycle is in flight**, whatever happens to an engine and in whatever order; and what it
published last is the report of the cycle that finished last. Unless the remote answers that the settings ask
for no sync, or that a sync is in progress, no report of a cycle says so either. Listening to the engine
changes nothing. -/
theorem single_flight (remote : Remote ρ) (device : Device) (settings : Settings)
    (config : SyncConfig) (far : ρ) (events : List Event) :
    let start : Engine (ρ × List Heard) := { device, settings, config, far := (far, []) }
    let e := start.after remote.overheard events
    e.seen Prod.fst = (start.seen Prod.fst).after remote events ∧ FliesSingly remote e ∧
      e.status.value.lastReport = (start.cycleReports remote.overheard events).getLast? ∧
      (remote.TurnsNobodyAway →
        start.cycleReports remote.overheard events
            = (start.reports remote.overheard events).filter Report.isOfCycle ∧
          ∀ r, e.status.value.lastReport = some r → r.isOfCycle = true) := by
  intro start e
  have hstart : start.Orderly := ⟨rfl, rfl, nofun⟩
  have hsessions := sessions_after remote hstart .nil events
  -- nothing has been reported before the first event
  have hlast : e.status.value.lastReport = (start.cycleReports remote.overheard events).getLast? := by
    rw [lastReport_after remote hstart, Option.or_none]
  refine ⟨after_overheard remote start events, ?_, hlast, fun hremote => ?_⟩
  · exact fliesSingly_of_orderly remote (orderly_after remote hstart events) hsessions
  · have hreports := cycleReports_eq remote hstart hremote events
    refine ⟨hreports, fun r hr => ?_⟩
    rw [hlast, hreports] at hr
    exact (List.mem_filter.mp (List.mem_of_getLast? hr)).2

/-- A far side that refuses every question whether something is there. -/
def refusingQuestions : Memory := { refusals := [(.exists, none)] }

set_option maxRecDepth 10000 in
/-- A second caller is turned away while a cycle is in flight. Then the cycle fails, and its report is the one
that is published. -/
theorem single_flight_second_caller :
    let start : Engine (Memory × List Heard) :=
      { device := .start .empty 0 default false, settings := { enabled := true, webdavUrl := "dav://h" },
        config := {}, far := (refusingQuestions, []) }
    let events : List Event := [.call, .call, .proceed]
    let e := start.after Memory.remote.overheard events
    let fault : Report := .failed (.transport "exists http://h/bookmarks refused")
    Memory.remote.TurnsNobodyAway ∧ FliesSingly Memory.remote e ∧
      start.reports Memory.remote.overheard events = [.failed .busy, fault] ∧
      start.cycleReports Memory.remote.overheard events = [fault] ∧ e.status.value.lastReport = some fault := by
  intro start events e fault
  have hreports : start.reports Memory.remote.overheard events = [.failed .busy, fault] := by decide +kernel
  obtain ⟨-, hflies, hlast, honly⟩ := single_flight Memory.remote (.start .empty 0 default false)
    { enabled := true, webdavUrl := "dav://h" } {} refusingQuestions events
  have hcycles : start.cycleReports Memory.remote.overheard events = [fault] := by
    rw [(honly Memory.turnsNobodyAway_remote).1, hreports]
    rfl
  refine ⟨Memory.turnsNobodyAway_remote, hflies, hreports, hcycles, ?_⟩
  have hpublished := hlast.trans (congrArg List.getLast? hcycles)
  -- with the names in place, comparing the two sides would carry the run out
  subst e start events fault
  exact hpublished

end Engine

end BookmarkSync
