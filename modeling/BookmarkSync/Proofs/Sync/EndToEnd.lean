import BookmarkSync.Dav.Client
import BookmarkSync.Proofs.Dav.Operations
import BookmarkSync.Proofs.Sync.Repetition

/-!
# `BookmarkSync.Proofs.Sync.EndToEnd` — a sync against a server

Against a conforming server a cycle does what it is for: it succeeds, the server then has the directory and
both files, which are read as what the store holds, and nothing else on the server has changed
(`sync_against_conforming_server`). What the server shows at each stage is said by `Cycle.Serving`, and each
stage takes it to the next (`Cycle.goesWell_served`).

An address can be accepted and still lead nowhere: other schemes than those of the web allow hosts that no
request can have. A request that can be made about the metadata file is what a sync needs
(`reachable_of_succeeded`), and all that it needs.
-/

namespace BookmarkSync

open Dav (Resource Resources Conforms Reachable Reaches LevelsReached)

/-! ## The files of a sync on a server -/

/-- Requests can be made about all that a cycle has to do with, whose files have their default names. -/
structure Cycle.FilesReached (c : Cycle) (config : SyncConfig) : Prop where
  bookmarksPath : (c.bookmarksFile config).segments = c.directory.segments ++ ["bookmarks.json"]
  metadataPath : (c.metadataFile config).segments = c.directory.segments ++ [".sync_metadata.json"]
  levels : LevelsReached c.directory
  bookmarks : Reaches (c.bookmarksFile config) (c.bookmarksFile config).url
  metadata : Reaches (c.metadataFile config) (c.metadataFile config).url

/-- **The metadata file vouches for the rest**, since nothing else has a longer URL. -/
theorem Cycle.filesReached_of_reachable {c : Cycle} {config : SyncConfig} {url username : String}
    (hparse : Endpoint.parse url username = .ok c.endpoint)
    (hbookmarks : config.bookmarksFile = "bookmarks.json")
    (hmetadata : config.metadataFile = ".sync_metadata.json")
    (hdots : ∀ s ∈ c.directory.segments, s ≠ "." ∧ s ≠ "..") (hreachable : Reachable (c.metadataFile config)) :
    c.FilesReached config := by
  have hbookmarksPath : (c.bookmarksFile config).segments = c.directory.segments ++ ["bookmarks.json"] := by
    rw [bookmarksFile, hbookmarks]
    rfl
  have hmetadataPath : (c.metadataFile config).segments = c.directory.segments ++ [".sync_metadata.json"] := by
    rw [metadataFile, hmetadata]
    rfl
  have hdirectory : ∀ s ∈ c.directory.segments, s ≠ "" := by
    intro s hs
    rcases List.mem_append.mp hs with hs | hs
    · exact Location.ne_empty_of_mem_pieces hs
    · exact Location.ne_empty_of_mem_pieces hs
  have hwritten {l : Location} {name : String} (hauthority : l.authority = c.endpoint.authority)
      (hpath : l.segments = c.directory.segments ++ [name]) (hname : name ≠ "" ∧ name ≠ "." ∧ name ≠ "..") :
      l.IsWritten := by
    refine ⟨hauthority ▸ Endpoint.isHostText_of_parse hparse, fun s hs => ?_, fun s hs => ?_⟩
    all_goals
      rw [hpath] at hs
      rcases List.mem_append.mp hs with hs | hs
    · exact hdirectory s hs
    · exact List.mem_singleton.mp hs ▸ hname.1
    · exact hdots s hs
    · exact List.mem_singleton.mp hs ▸ hname.2
  have hmetadataWritten := hwritten rfl hmetadataPath (by decide)
  have hbookmarksWritten := hwritten rfl hbookmarksPath (by decide)
  -- both files lie in one directory, and the metadata has the longer name
  have hshort : (String.ofList (Url.Path.render (c.bookmarksFile config).encoded)).utf8ByteSize ≤
      (String.ofList (Url.Path.render (c.metadataFile config).encoded)).utf8ByteSize := by
    rw [Dav.render_encoded (by simp [hbookmarksPath]), Dav.render_encoded (by simp [hmetadataPath]),
      hbookmarksPath, hmetadataPath, Dav.writtenPath_append, Dav.writtenPath_append, String.ofList_append,
      String.ofList_append, String.utf8ByteSize_append, String.utf8ByteSize_append]
    exact Nat.add_le_add_left (by decide) _
  exact
    { bookmarksPath := hbookmarksPath
      metadataPath := hmetadataPath
      levels := Dav.levelsReached_of_file (by rfl) hmetadataPath hmetadataWritten hreachable
      bookmarks := Dav.reaches_url hmetadataWritten hreachable hbookmarksWritten rfl hshort
      metadata := Dav.reaches_url hmetadataWritten hreachable hmetadataWritten rfl (Nat.le_refl _) }

/-! ## Stage by stage -/

section Stages

variable {σ : Type} {server : Dav.Server σ} {resources : σ → Resources} {c : Cycle} {config : SyncConfig}

/-- The server can take a sync: its resources form a tree, no level of the directory is a file, and neither
file name is taken by a collection. -/
structure Cycle.CanBeServed (c : Cycle) (config : SyncConfig) (start : Resources) : Prop where
  tree : start.IsTree
  noFile : ∀ level content, level <+: c.directory.segments → start level ≠ some (.file content)
  bookmarks : start (c.bookmarksFile config).segments ≠ some .collection
  metadata : start (c.metadataFile config).segments ≠ some .collection

namespace Cycle

variable (c : Cycle) (config : SyncConfig) (start : Resources)

/-- The resources when the directory is there. -/
def ensured : Resources := start.withLevels c.directory.segments

/-- The resources when the bookmarks file has been written. -/
def bookmarksWritten (s : Snapshot) : Resources :=
  Function.update (c.ensured start) (c.bookmarksFile config).segments (some (.file s.bookmarksContent))

/-- The resources when both files have been written. -/
def allWritten (s : Snapshot) : Resources :=
  Function.update (c.bookmarksWritten config start s) (c.metadataFile config).segments
    (some (.file s.metadataContent))

/-- What the server shows at each stage of a cycle, and what the stage has to work with. -/
def Serving (resources : σ → Resources) : StageFact σ := fun stage _ store far =>
  store.IsWritable ∧
  match stage with
  | .checkDirectory | .createDirectory => resources far = start
  | .checkBookmarks | .checkMetadata _ | .commit _ => resources far = c.ensured start
  | .readBookmarks => resources far = c.ensured start ∧ c.ensured start (c.bookmarksFile config).segments ≠ none
  | .readMetadata _ => resources far = c.ensured start ∧ c.ensured start (c.metadataFile config).segments ≠ none
  | .writeBookmarks s => resources far = c.ensured start ∧ s = store.snapshot ∧ InNormalForm store.bookmarks
  | .writeMetadata s =>
    resources far = c.bookmarksWritten config start s ∧ s = store.snapshot ∧ InNormalForm store.bookmarks

/-- What a served cycle leaves. -/
def Served (resources : σ → Resources) (store : Store) (far : σ) : Prop :=
  resources far = c.allWritten config start store.snapshot ∧ InNormalForm store.bookmarks

end Cycle

/-- What is there and is no collection is a file. -/
theorem Dav.exists_file {resource : Option Resource} (hthere : resource ≠ none)
    (hnot : resource ≠ some .collection) :
    ∃ content, resource = some (.file content) := by
  obtain ⟨resource, rfl⟩ := Option.ne_none_iff_exists'.mp hthere
  cases resource with
  | collection => exact absurd rfl hnot
  | file content => exact ⟨content, rfl⟩

section Facts

variable {start : Resources} (hfiles : c.FilesReached config) (hserved : c.CanBeServed config start)

/-- Once the directory is made sure of it is there, and the files in it are as they were. -/
theorem Cycle.ensured_directory : c.ensured start c.directory.segments = some .collection :=
  Resources.withLevels_level List.prefix_rfl

/-- A file in the directory is none of its levels. -/
theorem Cycle.not_level {path : List String} {name : String} (hpath : path = c.directory.segments ++ [name]) :
    ¬ path <+: c.directory.segments := by
  intro hlevel
  have hlength := hlevel.length_le
  rw [hpath, List.length_append] at hlength
  exact absurd hlength (by simp)

theorem Cycle.ensured_file {path : List String} {name : String}
    (hpath : path = c.directory.segments ++ [name]) :
    c.ensured start path = start path :=
  Resources.withLevels_other (c.not_level hpath)

include hserved in
/-- A directory that is there is there with all its levels. -/
theorem Cycle.ensured_of_there (hthere : start c.directory.segments ≠ none) : c.ensured start = start := by
  refine hserved.tree.withLevels_of_collection ?_
  obtain ⟨resource, hresource⟩ := Option.ne_none_iff_exists'.mp hthere
  cases resource with
  | collection => exact hresource
  | file content => exact absurd hresource (hserved.noFile _ content List.prefix_rfl)

include hfiles hserved in
/-- Neither of the two files has become a collection by that, and they are different. -/
theorem Cycle.ensured_bookmarks_ne : c.ensured start (c.bookmarksFile config).segments ≠ some .collection := by
  rw [c.ensured_file hfiles.bookmarksPath]
  exact hserved.bookmarks

include hfiles hserved in
theorem Cycle.ensured_metadata_ne : c.ensured start (c.metadataFile config).segments ≠ some .collection := by
  rw [c.ensured_file hfiles.metadataPath]
  exact hserved.metadata

include hfiles in
theorem Cycle.paths_ne : (c.metadataFile config).segments ≠ (c.bookmarksFile config).segments := by
  rw [hfiles.metadataPath, hfiles.bookmarksPath]
  simp

end Facts

namespace Engine

variable {ρ : Type}

/-- A stage that asks the far side goes well if what the answer leads to goes well. -/
theorem goesWell_ask {α : Type} {I : StageFact ρ} {Q : Store → ρ → Prop} {n : Nat} {e : Engine ρ}
    {f : Registry → ρ → Except SyncError α × ρ} {turn : α → Turn} {a : α} {far : ρ}
    (hask : f e.registry e.far = (.ok a, far)) (h : GoesWell I Q n (turn a, { e with far })) :
    GoesWell I Q n (Turn.after turn (e.ask f).1, (e.ask f).2) := by
  have hasked : e.ask f = (.ok a, { e with far }) := by simp only [ask, hask]
  rw [hasked]
  exact h

/-- After asking for the metadata file, the cycle goes on from the answer. -/
theorem perform_checkMetadata {remote : Remote ρ} {e : Engine ρ} {c : Cycle} {bookmarks : List Bookmark}
    {found : Bool} {far : ρ} (hstage : c.stage = .checkMetadata bookmarks)
    (hask : remote.has e.registry (c.metadataFile e.config) e.far = (.ok found, far)) :
    e.perform remote c = { e with far }.metadataFound bookmarks (.ok found) := by
  simp only [perform, hstage, ask, hask]

end Engine

/-- An operation that succeeded needs no words. -/
theorem Dav.inWords_of_ok {α ρ : Type} {r : Except Fault α × ρ} {a : α} {far : ρ} (h : r = (.ok a, far)) :
    inWords r = (.ok a, far) := by
  rw [h]
  rfl

/-! ### One lemma for each stage -/

/-- The cycle's stage goes well with the server, when the engine carries it out. -/
def Cycle.ServedWell (c : Cycle) (server : Dav.Server σ) (resources : σ → Resources)
    (start : Resources) (n : Nat) (e : Engine σ) (stage : Stage) : Prop :=
  Engine.GoesWell (c.Serving e.config start resources) (c.Served e.config start resources) n
    (e.perform (Dav.remote server) { c with stage })

namespace Cycle

section ServedWell

variable {start : Resources} {n : Nat} {e : Engine σ} (hserver : Conforms server resources)
  (hfiles : c.FilesReached e.config) (hserved : c.CanBeServed e.config start)
  (hwritable : e.device.store.IsWritable)

include hserver hfiles hserved hwritable in
/-- The directory is found there, or the cycle goes on to make it. -/
theorem servedWell_checkDirectory (h : resources e.far = start) :
    c.ServedWell server resources start n e .checkDirectory := by
  obtain ⟨far, hhas, hsame⟩ :=
    Dav.Client.has_spec e.registry hserver (hfiles.levels.url _ List.prefix_rfl) e.far
  refine Engine.goesWell_ask (Dav.inWords_of_ok hhas) (.next ⟨hwritable, ?_⟩)
  rw [h] at hsame ⊢
  cases hfound : start c.directory.segments with
  | none => exact hsame
  | some resource =>
    -- no directory is made: on a tree, one that is there has all its levels already
    show resources far = c.ensured start
    rw [hsame, c.ensured_of_there hserved (hfound.trans_ne nofun)]

include hserver hfiles hserved hwritable in
/-- A conforming server makes the directory and all levels above it. -/
theorem servedWell_createDirectory (h : resources e.far = start) :
    c.ServedWell server resources start n e .createDirectory := by
  obtain ⟨far, hcreate, hmade⟩ := Dav.Client.createDirectories_spec e.registry hserver hfiles.levels
    (h ▸ hserved.tree) (h ▸ hserved.noFile)
  refine Engine.goesWell_ask (Dav.inWords_of_ok hcreate) (.next ⟨hwritable, ?_⟩)
  show resources far = c.ensured start
  rw [hmade, h]
  rfl

include hserver hfiles hwritable in
/-- The server says whether there is a bookmarks file, and what else the cycle does depends on it. -/
theorem servedWell_checkBookmarks (h : resources e.far = c.ensured start) :
    c.ServedWell server resources start n e .checkBookmarks := by
  obtain ⟨far, hhas, hsame⟩ := Dav.Client.has_spec e.registry hserver hfiles.bookmarks e.far
  refine Engine.goesWell_ask (Dav.inWords_of_ok hhas) (.next ⟨hwritable, ?_⟩)
  rw [h] at hsame ⊢
  cases hfound : c.ensured start (c.bookmarksFile e.config).segments with
  | none => exact hsame
  | some resource => exact ⟨hsame, Option.some_ne_none _⟩

include hserver hfiles hserved hwritable in
/-- Whatever the bookmarks file holds, the cycle goes on after reading it. -/
theorem servedWell_readBookmarks (h : resources e.far = c.ensured start)
    (hthere : c.ensured start (c.bookmarksFile e.config).segments ≠ none) :
    c.ServedWell server resources start n e .readBookmarks := by
  obtain ⟨content, hfile⟩ := Dav.exists_file hthere (c.ensured_bookmarks_ne hfiles hserved)
  rw [← h] at hfile
  obtain ⟨far, hread, hsame⟩ := Dav.Client.read_spec e.registry hserver hfiles.bookmarks hfile
  refine Engine.goesWell_ask (Dav.inWords_of_ok hread) ?_
  unfold Turn.bookmarksRead
  split
  · exact .next ⟨hwritable, hsame.trans h⟩
  · exact .next ⟨hwritable, hsame.trans h⟩

include hserver hfiles hwritable in
/-- Where there is no metadata file, fresh metadata is what the cycle finds. -/
theorem servedWell_checkMetadata (bookmarks : List Bookmark) (h : resources e.far = c.ensured start) :
    c.ServedWell server resources start n e (.checkMetadata bookmarks) := by
  obtain ⟨far, hhas, hsame⟩ := Dav.Client.has_spec e.registry hserver hfiles.metadata e.far
  rw [ServedWell, Engine.perform_checkMetadata rfl (Dav.inWords_of_ok hhas)]
  rw [h] at hsame ⊢
  cases hfound : c.ensured start (c.metadataFile e.config).segments with
  | none => exact .next ⟨hwritable, hsame⟩
  | some resource => exact .next ⟨hwritable, hsame, hfound.trans_ne (Option.some_ne_none _)⟩

include hserver hfiles hserved hwritable in
/-- Whatever the metadata file holds, the cycle goes on after reading it. -/
theorem servedWell_readMetadata (bookmarks : List Bookmark) (h : resources e.far = c.ensured start)
    (hthere : c.ensured start (c.metadataFile e.config).segments ≠ none) :
    c.ServedWell server resources start n e (.readMetadata bookmarks) := by
  obtain ⟨content, hfile⟩ := Dav.exists_file hthere (c.ensured_metadata_ne hfiles hserved)
  rw [← h] at hfile
  obtain ⟨far, hread, hsame⟩ := Dav.Client.read_spec e.registry hserver hfiles.metadata hfile
  refine Engine.goesWell_ask (Dav.inWords_of_ok hread) ?_
  unfold Turn.metadataRead
  split
  · exact .next ⟨hwritable, hsame.trans h⟩
  · exact .next ⟨hwritable, hsame.trans h⟩

include hwritable in
/-- From the commit on the bookmarks are in normal form, without which the file that is written would not be
read back as them. -/
theorem servedWell_commit (found : Option Snapshot) (h : resources e.far = c.ensured start) :
    c.ServedWell server resources start n e (.commit found) := by
  let merged := e.device.store.snapshot.synced found e.now e.config.retention
  have hnormal := Store.inNormalForm_committed e.device.store merged.bookmarks merged.metadata
  show Engine.GoesWell _ _ _ (e.commit found)
  rw [Engine.commit_of_writable found hwritable]
  exact .next ⟨hwritable.committed _ _, h, rfl, hnormal⟩

include hserver hfiles hserved hwritable in
/-- A file can be put where the directory is there, so the upload succeeds, and the file is read as what it
holds. -/
theorem servedWell_writeBookmarks {s : Snapshot} (h : resources e.far = c.ensured start)
    (hsnapshot : s = e.device.store.snapshot) (hnormal : InNormalForm e.device.store.bookmarks) :
    c.ServedWell server resources start n e (.writeBookmarks s) := by
  obtain ⟨far, hwrite, hafter⟩ := Dav.Client.write_spec e.registry hserver hfiles.bookmarks hfiles.bookmarksPath
    s.bookmarksContent (s := e.far) (h ▸ c.ensured_directory) (h ▸ c.ensured_bookmarks_ne hfiles hserved)
  refine Engine.goesWell_ask (Dav.inWords_of_ok hwrite) (.next ⟨hwritable, ?_, hsnapshot, hnormal⟩)
  rw [hafter, h]
  rfl

include hserver hfiles hserved in
/-- The bookmarks file just written is neither the directory nor the metadata file. -/
theorem servedWell_writeMetadata {s : Snapshot} (h : resources e.far = c.bookmarksWritten e.config start s)
    (hsnapshot : s = e.device.store.snapshot) (hnormal : InNormalForm e.device.store.bookmarks) :
    c.ServedWell server resources start n e (.writeMetadata s) := by
  have hdirectory : resources e.far c.directory.segments = some .collection := by
    rw [h, bookmarksWritten, Function.update_of_ne]
    · exact c.ensured_directory
    · rw [hfiles.bookmarksPath]
      simp
  have hfile : resources e.far (c.metadataFile e.config).segments ≠ some .collection := by
    rw [h, bookmarksWritten, Function.update_of_ne (c.paths_ne hfiles)]
    exact c.ensured_metadata_ne hfiles hserved
  obtain ⟨far, hwrite, hafter⟩ := Dav.Client.write_spec e.registry hserver hfiles.metadata hfiles.metadataPath
    s.metadataContent hdirectory hfile
  refine Engine.goesWell_ask (Dav.inWords_of_ok hwrite) (.done ⟨?_, hnormal⟩)
  rw [hafter, h, ← hsnapshot]
  rfl

end ServedWell

end Cycle

/-- **Every stage of a cycle against a conforming server goes well.** -/
theorem Cycle.goesWell_served {start : Resources} (hserver : Conforms server resources)
    (hfiles : c.FilesReached config) (hserved : c.CanBeServed config start) {stage : Stage} {n : Nat}
    {e : Engine σ}
    (hconfig : e.config = config) (h : c.Serving config start resources stage n e.device.store e.far) :
    Engine.GoesWell (c.Serving config start resources) (c.Served config start resources) n
      (e.perform (Dav.remote server) { c with stage }) := by
  subst hconfig
  obtain ⟨hwritable, h⟩ := h
  -- each stage has a lemma of its own, which says what the server answers there
  cases stage with
  | checkDirectory => exact servedWell_checkDirectory hserver hfiles hserved hwritable h
  | createDirectory => exact servedWell_createDirectory hserver hfiles hserved hwritable h
  | checkBookmarks => exact servedWell_checkBookmarks hserver hfiles hwritable h
  | readBookmarks => exact servedWell_readBookmarks hserver hfiles hserved hwritable h.1 h.2
  | checkMetadata bookmarks => exact servedWell_checkMetadata hserver hfiles hwritable bookmarks h
  | readMetadata bookmarks => exact servedWell_readMetadata hserver hfiles hserved hwritable bookmarks h.1 h.2
  | commit found => exact servedWell_commit hwritable found h
  | writeBookmarks s => exact servedWell_writeBookmarks hserver hfiles hserved hwritable h.1 h.2.1 h.2.2
  | writeMetadata s => exact servedWell_writeMetadata hserver hfiles hserved h.1 h.2.1 h.2.2

/-- What a sync of this store makes of the resources of a server: the directory is there with all its levels,
both files are read as what the store holds, and nothing else has changed. -/
structure Cycle.LeavesSynced (c : Cycle) (config : SyncConfig) (start after : Resources)
    (store : Store) : Prop where
  levels : ∀ level, level <+: c.directory.segments → after level = some .collection
  bookmarks : ∃ content, after (c.bookmarksFile config).segments = some (.file content) ∧
    RemoteDocument.ofBytes content = .ok ⟨store.bookmarks⟩
  metadata : ∃ content, after (c.metadataFile config).segments = some (.file content) ∧
    SyncMetadata.ofText (Text.Utf8.lossy content) = .ok store.metadata
  others : ∀ path, ¬ path <+: c.directory.segments → path ≠ (c.bookmarksFile config).segments →
    path ≠ (c.metadataFile config).segments → after path = start path

/-- What the last stage leaves is what a sync is to leave. -/
theorem Cycle.Served.leavesSynced {start : Resources} {store : Store} {far : σ} (hfiles : c.FilesReached config)
    (h : c.Served config start resources store far) :
    c.LeavesSynced config start (resources far) store where
  levels := by
    intro level hlevel
    -- no directory has the path of one of the two files, so neither file hides it
    have hmetadata : level ≠ (c.metadataFile config).segments := by
      rintro rfl
      exact c.not_level hfiles.metadataPath hlevel
    have hbookmarks : level ≠ (c.bookmarksFile config).segments := by
      rintro rfl
      exact c.not_level hfiles.bookmarksPath hlevel
    rw [h.1, allWritten, Function.update_of_ne hmetadata, bookmarksWritten, Function.update_of_ne hbookmarks]
    exact Resources.withLevels_level hlevel
  bookmarks := by
    refine ⟨store.snapshot.bookmarksContent, ?_, ofBytes_bookmarksContent h.2⟩
    rw [h.1, allWritten, Function.update_of_ne (c.paths_ne hfiles).symm]
    exact Function.update_self _ _ _
  metadata := by
    refine ⟨store.snapshot.metadataContent, ?_, ofText_metadataContent store.snapshot⟩
    rw [h.1]
    exact Function.update_self _ _ _
  others := by
    intro path hlevel hbookmarks hmetadata
    rw [h.1, allWritten, Function.update_of_ne hmetadata, bookmarksWritten, Function.update_of_ne hbookmarks]
    exact Resources.withLevels_other hlevel

/-- **A sync against a conforming server works end to end**, whatever the server holds and whatever the store
holds, as long as a request can be made about the metadata file. -/
theorem sync_against_conforming_server (hserver : Conforms server resources) (w : Meanwhile σ) {e : Engine σ}
    {c : Cycle} (hparse : Endpoint.parse c.settings.trimmedUrl c.settings.username = .ok c.endpoint)
    (hbookmarks : e.config.bookmarksFile = "bookmarks.json")
    (hmetadata : e.config.metadataFile = ".sync_metadata.json")
    (hwritable : e.device.store.IsWritable) (hdots : ∀ s ∈ c.directory.segments, s ≠ "." ∧ s ≠ "..")
    (hserved : c.CanBeServed e.config (resources e.far)) (hreachable : Reachable (c.metadataFile e.config)) :
    ∃ after, e.cycle (Dav.remote server) w c.origin c.settings = (some ⟨c.origin, .succeeded⟩, after) ∧
      c.LeavesSynced e.config (resources e.far) (resources after.far) after.device.store := by
  have hfiles : c.FilesReached e.config :=
    c.filesReached_of_reachable hparse hbookmarks hmetadata hdots hreachable
  -- the invariant says which resources are there after each stage
  have hwell (stage : Stage) (n : Nat) (e' : Engine σ)
      (h : Engine.Reached (c.Serving e.config (resources e.far) resources) e.config w.clock stage n e') :
      Engine.GoesWell (c.Serving e.config (resources e.far) resources)
        (c.Served e.config (resources e.far) resources)
        n (e'.perform (Dav.remote server) { c with stage }) :=
    c.goesWell_served hserver hfiles hserved h.config h.holds
  obtain ⟨after, far, hcycle, hdone, hfar⟩ := Engine.cycle_succeeds w hparse (fun _ => ⟨hwritable, rfl⟩) hwell
  refine ⟨after, hcycle, ?_⟩
  rw [show after.far = far from hfar]
  exact hdone.leavesSynced hfiles

end Stages

/-! ### A first sync -/

/-- An engine of a device with one bookmark, and a server without any resources. -/
def firstEngine (settings : Settings) : Engine Dav.Tree where
  device :=
    let d := Device.start .empty 1 default false
    { d with store := d.store.committed [.create "x" "n" "/n" false 3] (.create "d" 1) }
  settings
  far := {}

/-- Nothing keeps the entries of a new device from being written. -/
theorem isWritable_firstEngine (settings : Settings) :
    (firstEngine settings).device.store.IsWritable := ⟨rfl, rfl⟩

/-- An empty tree has its root, and nothing else. -/
theorem Dav.Tree.resources_empty (path : List String) :
    ({} : Dav.Tree).resources path = if path = [] then some .collection else none := by
  by_cases hpath : path = []
  · rw [hpath]
    rfl
  · have hkey : key path ≠ "" := fun hkey => hpath (key_injective hkey)
    rw [if_neg hpath, resources, resource?, isCollection, decide_eq_false hkey]
    rfl

/-- A server without any resources can take every sync. -/
theorem Cycle.canBeServed_empty {c : Cycle} {config : SyncConfig}
    (hbookmarks : (c.bookmarksFile config).segments ≠ [])
    (hmetadata : (c.metadataFile config).segments ≠ []) : c.CanBeServed config (Dav.Tree.resources {}) where
  tree := by
    refine ⟨rfl, fun path name hthere => ?_⟩
    rw [Dav.Tree.resources_empty, if_neg (by simp)] at hthere
    exact absurd rfl hthere
  noFile := by
    intro level content _
    rw [Dav.Tree.resources_empty]
    split
    · exact nofun
    · exact nofun
  bookmarks := by
    rw [Dav.Tree.resources_empty, if_neg hbookmarks]
    exact nofun
  metadata := by
    rw [Dav.Tree.resources_empty, if_neg hmetadata]
    exact nofun

/-- The cycle of the address of a server by its IPv6 address. -/
def localCycle : Cycle where
  origin := .caller
  settings := { enabled := true, webdavUrl := "dav://[::1]" }
  endpoint := ⟨⟨.dav, "[::1]", 80, ""⟩, ""⟩

/-- The first sync with the server makes the directory and both files. -/
theorem sync_against_conforming_server_first :
    ∃ after, (firstEngine localCycle.settings).cycle (Dav.remote Dav.Tree.reply) (.ticking fun _ => 5) .caller
        localCycle.settings = (some ⟨.caller, .succeeded⟩, after) ∧
      localCycle.LeavesSynced {} (Dav.Tree.resources {}) after.far.resources after.device.store := by
  have hparse : Endpoint.parse localCycle.settings.trimmedUrl localCycle.settings.username
      = .ok localCycle.endpoint := by
    rfl
  have hreachable : Reachable (localCycle.metadataFile {}) := by
    refine ⟨⟨"http", some (.ipv6 [0, 0, 0, 0, 0, 0, 0, 1]), none,
      some ["bookmarks".toList, ".sync_metadata.json".toList]⟩, ?_, ?_⟩
    · rfl
    · decide
  exact sync_against_conforming_server (e := firstEngine localCycle.settings) (c := localCycle)
    Dav.Tree.conforms_reply (.ticking fun _ => 5) hparse rfl rfl (isWritable_firstEngine _) (by decide)
    (Cycle.canBeServed_empty (by decide) (by decide)) hreachable

/-! ## Addresses that lead nowhere -/

/-- Only the upload of the metadata ends a cycle without a fault. -/
theorem Engine.wroteMetadata_of_over {ρ : Type} {remote : Remote ρ} {e : Engine ρ} {c : Cycle} {stage : Stage}
    (h : (e.perform remote { c with stage }).1 = .over (.ok ())) :
    ∃ s : Snapshot, (remote.write e.registry (c.metadataFile e.config) s.metadataContent e.far).1 = .ok () := by
  -- a remote that is listened to tells which stage it was
  let e' : Engine (ρ × List FileCall) := { e with far := (e.far, []) }
  have hseen := perform_seen remote.recorded_seenAs e' { c with stage }
  have hover : (e'.perform remote.recorded { c with stage }).1 = .over (.ok ()) := by
    rw [← h]
    exact (congrArg Prod.fst hseen).symm
  obtain ⟨s, rfl, -⟩ := (stageDone_perform remote e' c stage).of_over hover
  refine ⟨s, ?_⟩
  have hwritten : Turn.after (fun _ => .over (.ok ()))
      (remote.write e.registry (c.metadataFile e.config) s.metadataContent e.far).1 = .over (.ok ()) := h
  cases hwrite : (remote.write e.registry (c.metadataFile e.config) s.metadataContent e.far).1 with
  | error error =>
    rw [hwrite] at hwritten
    cases hwritten
  | ok done => rfl

/-- Only a write whose request can be made succeeds. -/
theorem Dav.reachable_of_write {σ : Type} {server : Server σ} {registry : Registry} {l : Location}
    {content : List UInt8} {s : σ} (h : ((remote server).write registry l content s).1 = .ok ()) :
    Reachable l := by
  have hfailed {f : Fault} (hrequest : Request.of registry .put l l.url content = .error f) :
      ((remote server).write registry l content s).1 = .error (.transport f.message) := by
    show (inWords (Client.write server registry l content s)).1 = _
    rw [Client.write, Client.send, hrequest]
    rfl
  cases hread : Url.parse l.url with
  | error e =>
    rw [hfailed (f := .invalidUrl) (by rw [Request.of, hread])] at h
    cases h
  | ok url =>
    by_cases haddressable : isAddressable url = true
    · exact ⟨url, hread, haddressable⟩
    · rw [hfailed (f := .unaddressable url) (by rw [Request.of, hread]; exact if_neg haddressable)] at h
      cases h

/-- **A sync against a server succeeds only if a request can be made about its metadata file.** -/
theorem reachable_of_succeeded {σ : Type} {server : Dav.Server σ} {w : Meanwhile σ}
    {e after : Engine σ} {c : Cycle}
    (hparse : Endpoint.parse c.settings.trimmedUrl c.settings.username = .ok c.endpoint)
    (h : e.cycle (Dav.remote server) w c.origin c.settings = (some ⟨c.origin, .succeeded⟩, after)) :
    Reachable (c.metadataFile e.config) := by
  let started : Cycle := { origin := c.origin, settings := c.settings, endpoint := c.endpoint }
  -- nothing has to be known of the stages but how the last one ends
  have hkept : Engine.KeptByStages (Dav.remote server) started e.config w.clock fun _ _ _ _ => True :=
    fun _ _ _ _ _ _ => trivial
  obtain ⟨stage, n, last, outcome, hreached, hends⟩ := Engine.cycle_induction w hparse hkept fun _ => trivial
  have hover := hends.isOver
  rw [hends.outcome_of_succeeded h] at hover
  obtain ⟨s, hwrite⟩ := Engine.wroteMetadata_of_over hover
  rw [hreached.config] at hwrite
  exact Dav.reachable_of_write hwrite

/-- The cycle of an address whose host no request can have: it does not stand for a text. -/
def brokenCycle : Cycle where
  origin := .caller
  settings := { enabled := true, webdavUrl := "dav://%ff" }
  endpoint := ⟨⟨.dav, "%ff", 80, ""⟩, ""⟩

/-- Without a request about the metadata file, an address can be accepted by settings that are ready, and a
sync with a conforming server fails all the same. -/
theorem not_every_accepted_address_syncs :
    ¬ ∀ (σ : Type) (server : Dav.Server σ) (resources : σ → Resources) (w : Meanwhile σ)
      (e : Engine σ) (c : Cycle),
      Conforms server resources → c.settings.refusal? = none →
      Endpoint.parse c.settings.trimmedUrl c.settings.username = .ok c.endpoint →
      e.config.bookmarksFile = "bookmarks.json" → e.config.metadataFile = ".sync_metadata.json" →
      e.device.store.IsWritable → (∀ s ∈ c.directory.segments, s ≠ "." ∧ s ≠ "..") →
      c.CanBeServed e.config (resources e.far) →
      ∃ after, e.cycle (Dav.remote server) w c.origin c.settings = (some ⟨c.origin, .succeeded⟩, after) ∧
        c.LeavesSynced e.config (resources e.far) (resources after.far) after.device.store := by
  intro h
  have hparse : Endpoint.parse brokenCycle.settings.trimmedUrl brokenCycle.settings.username
      = .ok brokenCycle.endpoint := by
    rfl
  obtain ⟨after, hcycle, -⟩ := h Dav.Tree Dav.Tree.reply Dav.Tree.resources (.ticking fun _ => 5)
    (firstEngine brokenCycle.settings) brokenCycle Dav.Tree.conforms_reply rfl hparse rfl rfl
    (isWritable_firstEngine _) (by decide) (Cycle.canBeServed_empty (by decide) (by decide))
  -- a cycle that succeeds has sent a request about the metadata, so its address must parse
  obtain ⟨url, hread, -⟩ := reachable_of_succeeded hparse hcycle
  have hurl : (brokenCycle.metadataFile (firstEngine brokenCycle.settings).config).url
      = "http://%ff/bookmarks/.sync_metadata.json" := by
    rfl
  have hfails : Url.parse "http://%ff/bookmarks/.sync_metadata.json" = .error .invalidDomain := by
    decide +kernel
  rw [hurl, hfails] at hread
  cases hread

end BookmarkSync
