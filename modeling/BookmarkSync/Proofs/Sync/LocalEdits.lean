import BookmarkSync.Proofs.Merge.Reference
import BookmarkSync.Proofs.Store.NormalForm
import BookmarkSync.Proofs.Sync.Interleaved

/-!
# `BookmarkSync.Proofs.Sync.LocalEdits` — a sync and the edits made beside it

While a cycle reads, commits and uploads, the store may change at any time. The commit joins what was found
into the collection as it stands then, in one step, so an edit made before it takes part in the merge; and
what is uploaded is what was committed, so an edit made after it waits for the next cycle.
-/

namespace BookmarkSync

open Merge (lookup Outlives)

/-! ## What a commit leaves for an id -/

/-- What a commit leaves for the id of `l`, which is its first record here, when the cycle has found
`found`. -/
inductive Settles (found : Option Snapshot) (now : Timestamp) (retention : Duration) (l : Bookmark) :
    Option Bookmark → Prop
  /-- Nothing was found, and nothing changes. -/
  | alone : found = none → Settles found now retention l (some l)
  /-- The far side has no later record of the id. -/
  | ours {theirs : Snapshot} : found = some theirs →
      (∀ r, lookup l.id theirs.bookmarks = some r → r.modifiedAt ≤ l.modifiedAt) →
      Outlives now retention l → Settles found now retention l (some l)
  /-- The first record of the far side is later. -/
  | theirs {theirs : Snapshot} {r : Bookmark} : found = some theirs →
      lookup l.id theirs.bookmarks = some r → l.modifiedAt < r.modifiedAt →
      Outlives now retention r → Settles found now retention l (some r.normalized)
  /-- As `ours`, but the record is a tombstone that has expired. -/
  | oursExpired {theirs : Snapshot} : found = some theirs →
      (∀ r, lookup l.id theirs.bookmarks = some r → r.modifiedAt ≤ l.modifiedAt) →
      l.isDeleted = true → ¬ Outlives now retention l → Settles found now retention l none
  /-- As `theirs`, but the record is a tombstone that has expired. -/
  | theirsExpired {theirs : Snapshot} {r : Bookmark} : found = some theirs →
      lookup l.id theirs.bookmarks = some r → l.modifiedAt < r.modifiedAt →
      r.isDeleted = true → ¬ Outlives now retention r → Settles found now retention l none

section Settles

variable {found : Option Snapshot} {now : Timestamp} {retention : Duration} {l : Bookmark}

/-- **The merged collection settles every id** that the local one has. -/
theorem settles_merge {ours : Snapshot} (found : Option Snapshot) (now : Timestamp) (retention : Duration)
    (hl : lookup l.id ours.bookmarks = some l) (hnormal : l.normalized = l) :
    Settles found now retention l
      (lookup l.id ((ours.merge found now retention).bookmarks.map Bookmark.normalized)) := by
  rw [Merge.lookup_map_normalized]
  cases found with
  | none =>
    rw [show lookup l.id (ours.merge none now retention).bookmarks = some l from hl, Option.map_some, hnormal]
    exact .alone rfl
  | some theirs =>
    have href := Merge.reference_bookmarks now retention ours.bookmarks theirs.bookmarks
    show Settles _ _ _ _ ((lookup l.id (Merge.bookmarks (Merge.cutoff now retention) ours.bookmarks
      theirs.bookmarks)).map Bookmark.normalized)
    -- our record stays unless it has expired
    have hours (hnotLater : ∀ r, lookup l.id theirs.bookmarks = some r → r.modifiedAt ≤ l.modifiedAt)
        (hlookup : lookup l.id (Merge.bookmarks (Merge.cutoff now retention) ours.bookmarks theirs.bookmarks)
          = if Outlives now retention l then some l else none) :
        Settles (some theirs) now retention l ((lookup l.id (Merge.bookmarks (Merge.cutoff now retention)
          ours.bookmarks theirs.bookmarks)).map Bookmark.normalized) := by
      rw [hlookup]
      by_cases hout : Outlives now retention l
      · rw [if_pos hout, Option.map_some, hnormal]
        exact .ours rfl hnotLater hout
      · rw [if_neg hout]
        exact .oursExpired rfl hnotLater (Merge.isDeleted_of_not_outlives hout) hout
    cases hr : lookup l.id theirs.bookmarks with
    | none => exact hours (by rw [hr]; nofun) (href.oursOnly l.id l hl hr)
    | some r =>
      by_cases hlater : l.modifiedAt < r.modifiedAt
      · rw [href.theirsLater l.id l r hl hr (Int64.lt_iff_toInt_lt.mp hlater)]
        by_cases hout : Outlives now retention r
        · rw [if_pos hout]
          exact .theirs rfl hr hlater hout
        · rw [if_neg hout]
          exact .theirsExpired rfl hr hlater (Merge.isDeleted_of_not_outlives hout) hout
      · have hle : r.modifiedAt.toInt ≤ l.modifiedAt.toInt :=
          Int.not_lt.mp fun h => hlater (Int64.lt_iff_toInt_lt.mpr h)
        refine hours ?_ (href.theirsNotLater l.id l r hl hr hle)
        intro r' hr'
        rw [hr] at hr'
        cases hr'
        exact Int64.le_iff_toInt_le.mpr hle

/-- When the record `l`, last changed at `changed`, is left as it is: the far side has no later one, and it
is no tombstone that has expired. -/
structure Stays (found : Option Snapshot) (now : Timestamp) (retention : Duration) (l : Bookmark)
    (changed : Timestamp) : Prop where
  notLater : ∀ theirs r, found = some theirs → lookup l.id theirs.bookmarks = some r → r.modifiedAt ≤ changed
  notExpired : ∀ theirs, found = some theirs → l.isDeleted = true → Merge.cutoff now retention < changed

theorem Settles.eq_iff {kept : Option Bookmark} (h : Settles found now retention l kept) :
    kept = some l ↔ Stays found now retention l l.modifiedAt := by
  cases h with
  | alone hfound =>
    subst hfound
    exact ⟨fun _ => ⟨nofun, nofun⟩, fun _ => rfl⟩
  | ours hfound hnotLater hout =>
    subst hfound
    refine ⟨fun _ => ⟨?_, fun _ _ => Merge.outlives_iff.mp hout⟩, fun _ => rfl⟩
    rintro _ r ⟨⟩ hr
    exact hnotLater r hr
  | @theirs _ r hfound hr hlater _ =>
    constructor
    · intro heq
      -- the normal form of a later record is later still
      have hle := r.modifiedAt_le_normalized
      rw [Option.some.inj heq] at hle
      exact absurd hlater (Int64.not_lt.mpr hle)
    · intro hstays
      exact absurd hlater (Int64.not_lt.mpr (hstays.notLater _ r hfound hr))
  | oursExpired hfound _ _ hout =>
    refine ⟨nofun, fun hstays => absurd (Merge.outlives_iff.mpr (hstays.notExpired _ hfound)) hout⟩
  | @theirsExpired _ r hfound hr hlater _ _ =>
    exact ⟨nofun, fun hstays => absurd hlater (Int64.not_lt.mpr (hstays.notLater _ r hfound hr))⟩

end Settles

/-! ## The commit and the upload -/

namespace Engine

variable {ρ : Type}

/-- A commit that goes through joins what was found into the store as it stands. -/
theorem proceed_commit (remote : Remote ρ) {e : Engine ρ} {c : Cycle} {found : Option Snapshot}
    (hflight : e.inFlight = some c) (hstage : c.stage = .commit found) (hdone : (e.proceed remote).1 = none) :
    let merged := e.device.store.snapshot.synced found e.now e.config.retention
    let store := e.device.store.committed merged.bookmarks merged.metadata
    (e.proceed remote).2
      = { e with
          device := { e.device with store }
          inFlight := some { c with stage := .writeBookmarks store.snapshot } } := by
  intro merged store
  have hperform : e.perform remote c = e.commit found := by
    unfold perform
    rw [hstage]
  -- a refused write would have ended the cycle with a report
  rcases Store.replaceWith_cases e.device.store
    fun ours => ours.synced found e.now e.config.retention with ⟨f, hrefused, -⟩ | hcommitted
  · have hover : e.perform remote c = (.over (.error (.storage (.backend f))), e) := by
      rw [hperform]
      simp only [commit, Device.change]
      rw [show e.device.clock = e.now from rfl, hrefused]
      rfl
    rw [proceed_of_over hflight hover] at hdone
    cases hdone
  · have hnext : e.perform remote c
        = (.next (.writeBookmarks store.snapshot), { e with device := { e.device with store } }) := by
      rw [hperform]
      simp only [commit, Device.change]
      rw [show e.device.clock = e.now from rfl, hcommitted]
    rw [proceed_of_next hflight hnext]

/-- Reading a collection that can be read leads to its metadata. -/
theorem proceed_readBookmarks (remote : Remote ρ) {e : Engine ρ} {c : Cycle} {content : List UInt8} {far : ρ}
    {d : RemoteDocument} (hflight : e.inFlight = some c) (hstage : c.stage = .readBookmarks)
    (hread : remote.read e.registry (c.bookmarksFile e.config) e.far = (.ok content, far))
    (hcontent : RemoteDocument.ofBytes content = .ok d) :
    e.proceed remote
      = (none, { e with far, inFlight := some { c with stage := .checkMetadata d.bookmarks } }) := by
  have hperform : e.perform remote c = (.next (.checkMetadata d.bookmarks), { e with far }) := by
    unfold perform
    rw [hstage]
    simp only [ask, hread, Turn.after, Turn.bookmarksRead, hcontent]
  rw [proceed_of_next hflight hperform]

/-- However the engine goes on until the cycle does, the next that the far side hears is a document with
these bookmarks. -/
def UploadsNext (remote : Remote ρ) (e : Engine (ρ × List Heard)) (c : Cycle)
    (bookmarks : List Bookmark) : Prop :=
  ∀ between : List Event, (∀ event ∈ between, event ≠ .proceed) → ∃ content answer rest,
    ((e.after remote.overheard between).proceed remote.overheard).2.far.2
      = e.far.2 ++ .called e.registry (.write (c.bookmarksFile e.config) content answer) :: rest ∧
    RemoteDocument.ofBytes content = .ok ⟨bookmarks⟩

/-- The first upload of a cycle writes what the cycle holds. -/
theorem proceed_writeBookmarks (remote : Remote ρ) {e : Engine (ρ × List Heard)} {c : Cycle} {s : Snapshot}
    (hflight : e.inFlight = some c) (hstage : c.stage = .writeBookmarks s) :
    ∃ answer rest, (e.proceed remote.overheard).2.far.2
      = e.far.2
        ++ .called e.registry (.write (c.bookmarksFile e.config) s.bookmarksContent answer) :: rest := by
  let file := c.bookmarksFile e.config
  let asked := e.ask fun reg far => remote.overheard.write reg file s.bookmarksContent far
  have hperform : e.perform remote.overheard c
      = (.after (fun _ => .next (.writeMetadata s)) asked.1, asked.2) := by
    unfold perform
    rw [hstage]
  have hfar : asked.2.far.2 = e.far.2 ++ [.called e.registry (.write file s.bookmarksContent asked.1)] := rfl
  -- the upload is heard in either case; if it fails, the session is closed after it
  rcases hanswer : asked.1 with error | done
  · rw [hanswer] at hperform
    refine ⟨asked.1, [.closed c.endpoint.authority], ?_⟩
    rw [proceed_of_over hflight hperform]
    show asked.2.far.2 ++ _ = _
    rw [hfar, List.append_assoc]
    rfl
  · rw [hanswer] at hperform
    refine ⟨asked.1, [], ?_⟩
    rw [proceed_of_next hflight hperform]
    exact hfar

theorem uploadsNext_of_flight (remote : Remote ρ) {e : Engine (ρ × List Heard)} {c : Cycle} {s : Snapshot}
    (hflight : e.inFlight = some { c with stage := .writeBookmarks s }) (hnormal : InNormalForm s.bookmarks) :
    e.UploadsNext remote c s.bookmarks := by
  intro between hbetween
  have hsame := sameCycles_after remote.overheard hflight hbetween
  obtain ⟨answer, rest, hfar⟩ := proceed_writeBookmarks remote (hsame.inFlight.trans hflight) rfl
  refine ⟨s.bookmarksContent, answer, rest, ?_, ?_⟩
  · rw [hfar, hsame.far, hsame.registry, hsame.config]
    rfl
  · exact ofBytes_bookmarksContent hnormal

/-! ## Edits beside a sync -/

/-- What the commit of the cycle `c`, which has found `found`, makes of the engine `e`. -/
structure CommitSettles (remote : Remote ρ) (e : Engine (ρ × List Heard)) (c : Cycle) (found : Option Snapshot)
    (e' : Engine (ρ × List Heard)) : Prop where
  /-- What is merged is the collection as it stands at the commit. -/
  merged : e'.device.store.bookmarks
    = (e.device.store.snapshot.merge found e.now e.config.retention).bookmarks.map Bookmark.normalized
  unique : found ≠ none → (Merge.ids e'.device.store.bookmarks).Nodup
  settles : ∀ x l, lookup x e.device.store.bookmarks = some l →
    Settles found e.now e.config.retention l (lookup x e'.device.store.bookmarks)
  uploads : e'.UploadsNext remote c e'.device.store.bookmarks

theorem inNormalForm_after (remote : Remote ρ) {start : Engine ρ}
    (hstart : InNormalForm start.device.store.bookmarks)
    (events : List Event) : InNormalForm (start.after remote events).device.store.bookmarks :=
  store_induction (P := fun s => InNormalForm s.bookmarks) remote start Store.inNormalForm_apply hstart events

theorem commitSettles_proceed (remote : Remote ρ) {e : Engine (ρ × List Heard)} {c : Cycle}
    {found : Option Snapshot} (hnormal : InNormalForm e.device.store.bookmarks) (hflight : e.inFlight = some c)
    (hstage : c.stage = .commit found) (hdone : (e.proceed remote.overheard).1 = none) :
    CommitSettles remote e c found (e.proceed remote.overheard).2 := by
  rw [proceed_commit remote.overheard hflight hstage hdone]
  refine ⟨rfl, ?_, ?_, ?_⟩
  · intro hfound
    obtain ⟨theirs, rfl⟩ := Option.ne_none_iff_exists'.mp hfound
    exact Merge.nodup_ids_normalized _ e.device.store.bookmarks theirs.bookmarks
  · intro x l hl
    obtain rfl := Merge.id_of_lookup hl
    exact settles_merge found e.now e.config.retention hl (hnormal l (Merge.mem_of_lookup hl))
  · let merged := e.device.store.snapshot.synced found e.now e.config.retention
    let store := e.device.store.committed merged.bookmarks merged.metadata
    have hcommitted : InNormalForm store.snapshot.bookmarks :=
      e.device.store.inNormalForm_committed merged.bookmarks merged.metadata
    exact uploadsNext_of_flight remote rfl hcommitted

/-- In the committed collection the first record of an id is there for itself. -/
theorem CommitSettles.mem_iff {remote : Remote ρ} {e e' : Engine (ρ × List Heard)} {c : Cycle}
    {found : Option Snapshot} (h : CommitSettles remote e c found e') {x : String} {l : Bookmark}
    (hl : lookup x e.device.store.bookmarks = some l) :
    l ∈ e'.device.store.bookmarks ↔ Stays found e.now e.config.retention l l.modifiedAt := by
  have hsettles := h.settles x l hl
  rw [← hsettles.eq_iff]
  refine ⟨fun hmem => ?_, Merge.mem_of_lookup⟩
  cases found with
  | none =>
    generalize lookup x e'.device.store.bookmarks = kept at hsettles
    cases hsettles with
    | alone _ => rfl
    | ours hfound | theirs hfound | oursExpired hfound | theirsExpired hfound => cases hfound
  | some theirs =>
    rw [← Merge.id_of_lookup hl]
    exact Merge.lookup_of_mem (h.unique nofun) hmem

/-- **A sync never loses an edit to older data.** Whatever happens beside a cycle, its commit settles every
record that is there at the commit; and a record that was edited at some time before is still there after the
commit, and so in the document that is uploaded next, exactly if the far side has no later record of it and it
is no expired tombstone. What the commit merges in is what the cycle was answered when it read, provided that
the cycle was started in the run. -/
theorem local_edits_survive (remote : Remote ρ) {start e : Engine (ρ × List Heard)} {kv : KeyValue}
    {clock : Timestamp} {ids : IdSupply} {loaded : Bool} (hstart : start.device = .start kv clock ids loaded)
    {events : List Event} (hrun : start.after remote.overheard events = e) {c : Cycle} {found : Option Snapshot}
    (hflight : e.inFlight = some c) (hstage : c.stage = .commit found)
    (hdone : (e.proceed remote.overheard).1 = none) :
    CommitSettles remote e c found (e.proceed remote.overheard).2 ∧
    (∀ earlier change later x l, events = earlier ++ .change change :: later → change.Edits x →
      let edited := start.after remote.overheard earlier
      let outcome := change.run edited.now edited.device.store
      (∃ answer, outcome.1 = .ok answer) → lookup x outcome.2.bookmarks = some l →
      lookup x e.device.store.bookmarks = some l →
      (l ∈ (e.proceed remote.overheard).2.device.store.bookmarks ↔
        Stays found e.now e.config.retention l (max edited.now l.createdAt))) ∧
    (start.inFlight = none → HasFound remote start events c found) := by
  -- every store reached from a start holds records in normal form, whatever happened to it
  have hnormal : InNormalForm e.device.store.bookmarks := by
    rw [← hrun]
    refine inNormalForm_after remote.overheard ?_ events
    rw [hstart]
    exact Device.inNormalForm_start kv clock ids loaded
  have hsettles := commitSettles_proceed remote hnormal hflight hstage hdone
  refine ⟨hsettles, ?_, ?_⟩
  · intro earlier change later x l _ hedits edited outcome hok houtcome hl
    rw [hsettles.mem_iff hl, Store.modifiedAt_of_edits hedits hok houtcome]
  · intro hnone
    rw [← hrun] at hflight
    exact hasFound_after hnone hflight hstage

/-! ### A bookmark that is deleted while a sync reads -/

/-- A bookmark that both sides have at first. -/
def sharedBookmark : Bookmark := .create "x" "n" "/n" false 3

/-- A far side that has the shared bookmark, and keeps what it will answer when it is asked for files. -/
def holdingRemote : Remote (List Bool) where
  opened _ far := far
  closed _ far := far
  has _ _ far := (.ok (far.headD true), far.tail)
  createDirectories _ _ far := (.ok (), far)
  read _ _ far := (.ok (Text.Utf8.bytes (RemoteDocument.text ⟨[sharedBookmark]⟩)), far)
  write _ _ _ far := (.ok (), far)

/-- An engine of a new device, over a far side with the directory and the collection, but no metadata. -/
def newEngine : Engine (List Bool × List Heard) where
  device := .start .empty 1 default false
  settings := { enabled := true, webdavUrl := "dav://h" }
  far := ([true, true, false], [])

/-- Before the deletion the cycle makes sure that the collection is there; it has read nothing yet. -/
def untilDeletion : List Event :=
  [.change (.add sharedBookmark), .call, .proceed, .proceed, .setClock 7]

/-- The bookmark is deleted, and the cycle reads the collection. -/
def untilCommit : List Event := untilDeletion ++ .change (.softDelete "x") :: [.proceed, .proceed]

set_option maxRecDepth 10000 in
theorem inFlight_untilCommit : ∃ c m, (newEngine.after holdingRemote.overheard untilCommit).inFlight = some c ∧
    c.stage = .commit (some ⟨[sharedBookmark], m⟩) ∧
    ((newEngine.after holdingRemote.overheard untilCommit).proceed holdingRemote.overheard).1 = none ∧
    (newEngine.after holdingRemote.overheard untilCommit).now = 7 ∧
    (newEngine.after holdingRemote.overheard untilCommit).config = {} ∧
    lookup "x" (newEngine.after holdingRemote.overheard untilCommit).device.store.bookmarks
      = some (sharedBookmark.tombstoned 7) := by
  have hreading : (newEngine.after holdingRemote.overheard
      (untilDeletion ++ [.change (.softDelete "x")])).inFlight.map (·.stage) = some .readBookmarks := by rfl
  obtain ⟨c, hflight, hstage⟩ := Option.map_eq_some_iff.mp hreading
  have hread := proceed_readBookmarks holdingRemote.overheard hflight hstage rfl (RemoteDocument.ofBytes_text _)
  have hevents : untilCommit = untilDeletion ++ [.change (.softDelete "x")] ++ [.proceed, .proceed] := rfl
  rw [hevents, after_append, after_cons, after_cons, after_nil, Event.apply, Event.apply, hread]
  exact ⟨_, _, rfl, rfl, rfl, rfl, rfl, rfl⟩

/-- The tombstone made while the cycle was reading is what the commit leaves, though the cycle has read the
bookmark. -/
theorem local_edits_survive_deletion :
    sharedBookmark.tombstoned 7 ∈ ((newEngine.after holdingRemote.overheard untilCommit).proceed
      holdingRemote.overheard).2.device.store.bookmarks ∧
    ∃ c m, HasFound holdingRemote newEngine untilCommit c (some ⟨[sharedBookmark], m⟩) := by
  obtain ⟨c, m, hflight, hstage, hdone, hnow, hconfig, hlookup⟩ := inFlight_untilCommit
  have hstart : newEngine.device = .start .empty 1 default false := rfl
  obtain ⟨-, hedits, hfound⟩ := local_edits_survive holdingRemote hstart rfl hflight hstage hdone
  refine ⟨?_, c, m, hfound rfl⟩
  refine (hedits untilDeletion (.softDelete "x") [.proceed, .proceed] "x" _ rfl (.softDelete "x")
    ⟨true, rfl⟩ rfl
    hlookup).mpr ⟨?_, ?_⟩
  · rintro _ r ⟨⟩ hr
    cases hr
    decide
  · intro _ _ _
    rw [hnow, hconfig]
    decide

end Engine

end BookmarkSync
