import SbsServer.Api.SourceHandlers
import SbsServer.CLib.System

/-!
# The two copies of a mute

A source is muted while nothing shows it and shown sources are heard.  The handlers of
items keep the flag in the graph and the one in the supervisor together; a new entry of the
supervisor starts with its own, and the removal of a scene takes references away without a
look at the sources.
-/

namespace SbsServer
namespace Api

open CLib SceneGraph Supervisor

/-- Some item of a scene shows a source. -/
def SceneShows
    (scene : SceneState)
    (id : CStr) : Prop :=
  ∃ item ∈ scene.items, item.sourceId = id

instance (scene : SceneState) (id : CStr) : Decidable (SceneShows scene id) :=
  inferInstanceAs (Decidable (∃ item ∈ scene.items, _))

/-- Some item of a graph shows a source. -/
def Shown
    (graph : SceneGraph)
    (id : CStr) : Prop :=
  ∃ sceneId scene, graph.scenes.lookup sceneId = some scene ∧ SceneShows scene id

theorem countSourceRefs_eq_zero_iff
    (graph : SceneGraph)
    (id : CStr) :
    countSourceRefs graph id = 0 ↔ ¬ Shown graph id := by
  unfold countSourceRefs
  rw [List.sum_eq_zero_iff]
  constructor
  · rintro none ⟨sceneId, scene, found, item, member, shows⟩
    have empty := none _ (List.mem_map.mpr ⟨(sceneId, scene), HashTable.mem_toList found, rfl⟩)
    have filtered : item ∈ scene.items.filter fun item => item.sourceId = id :=
      List.mem_filter.mpr ⟨member, decide_eq_true shows⟩
    rw [List.length_eq_zero_iff.mp empty] at filtered
    cases filtered
  · intro notShown count counted
    obtain ⟨entry, member, rfl⟩ := List.mem_map.mp counted
    rw [List.length_eq_zero_iff, List.filter_eq_nil_iff]
    intro item inScene shows
    exact notShown ⟨entry.1, entry.2, HashTable.lookup_of_mem_toList member, item, inScene,
      of_decide_eq_true shows⟩

theorem countSourceRefs_pos_iff
    (graph : SceneGraph)
    (id : CStr) :
    0 < countSourceRefs graph id ↔ Shown graph id := by
  rw [Nat.pos_iff_ne_zero, ne_eq, countSourceRefs_eq_zero_iff, not_not]

variable {graph : SceneGraph}

/-- A scene that a change leaves with the references it had shows what it showed. -/
theorem shown_of_modifyScene
    {sceneId id : CStr}
    {change : SceneState → SceneState}
    (keeps : ∀ scene, graph.scenes.lookup sceneId = some scene →
      SceneShows (change scene) id → SceneShows scene id)
    (shown : Shown (graph.modifyScene sceneId change) id) :
    Shown graph id := by
  obtain ⟨other, scene, found, shows⟩ := shown
  unfold SceneGraph.modifyScene at found
  rw [HashTable.lookup_modify] at found
  split at found
  next same =>
    obtain ⟨stored, isStored, rfl⟩ := Option.map_eq_some_iff.mp found
    exact ⟨other, stored, isStored, keeps stored (same ▸ isStored) shows⟩
  next => exact ⟨other, scene, found, shows⟩

theorem shown_modifyScene
    {sceneId id : CStr}
    {change : SceneState → SceneState}
    (keeps : ∀ scene, graph.scenes.lookup sceneId = some scene →
      SceneShows scene id → SceneShows (change scene) id)
    (shown : Shown graph id) :
    Shown (graph.modifyScene sceneId change) id := by
  obtain ⟨other, scene, found, shows⟩ := shown
  by_cases same : other = sceneId
  · subst same
    refine ⟨other, change scene, ?_, keeps scene found shows⟩
    unfold SceneGraph.modifyScene
    rw [HashTable.lookup_modify, if_pos rfl, found]
    rfl
  · refine ⟨other, scene, ?_, shows⟩
    unfold SceneGraph.modifyScene
    rw [HashTable.lookup_modify, if_neg same]
    exact found

theorem sceneShows_addItem
    (scene : SceneState)
    (item : SceneItemState)
    (id : CStr) :
    SceneShows (scene.addItem item) id ↔ SceneShows scene id ∨ item.sourceId = id := by
  unfold SceneShows SceneState.addItem SceneState.sortItems
  simp only [PtrArray.mem_sort, List.mem_append, List.mem_singleton, or_and_right, exists_or,
    exists_eq_left]

/-- Only the source of the item that is removed loses a reference. -/
theorem sceneShows_removeItem
    {scene : SceneState}
    {itemId : CStr}
    {item : SceneItemState}
    (found : scene.findItem itemId = some item)
    (id : CStr) :
    (SceneShows (scene.removeItem itemId) id → SceneShows scene id) ∧
      (id ≠ item.sourceId → SceneShows scene id → SceneShows (scene.removeItem itemId) id) := by
  obtain ⟨matches_, before, rest, split, earlier⟩ := List.find?_eq_some_iff_append.mp found
  have erased : (scene.removeItem itemId).items = before ++ rest := by
    unfold SceneState.removeItem
    dsimp only
    rw [split, List.eraseP_append_right _ fun other member => by simpa using earlier other member]
    simp [of_decide_eq_true matches_]
  unfold SceneShows
  rw [erased, split]
  constructor
  · rintro ⟨kept, member, shows⟩
    refine ⟨kept, ?_, shows⟩
    rw [List.mem_append, List.mem_cons]
    exact (List.mem_append.mp member).imp (fun first => first) .inr
  · rintro different ⟨kept, member, shows⟩
    refine ⟨kept, ?_, shows⟩
    rw [List.mem_append, List.mem_cons] at member
    rw [List.mem_append]
    obtain first | rfl | last := member
    · exact .inl first
    · exact absurd shows.symm different
    · exact .inr last

theorem shown_removeSource
    {id : CStr}
    (present : graph.sources.contains id = true)
    (other : CStr) :
    (Shown (graph.removeSource (some id)).2 other → Shown graph other) ∧
      (other ≠ id → Shown graph other → Shown (graph.removeSource (some id)).2 other) := by
  unfold removeSource
  dsimp only
  rw [present]
  constructor
  · rintro ⟨sceneId, scene, found, item, member, shows⟩
    obtain ⟨stored, isStored, rfl⟩ :=
      Option.map_eq_some_iff.mp ((HashTable.lookup_mapValues _ _ _).symm.trans found)
    exact ⟨sceneId, stored, isStored, item, (List.mem_filter.mp member).1, shows⟩
  · rintro different ⟨sceneId, scene, found, item, member, shows⟩
    refine ⟨sceneId, scene.dropSource id, ?_, item, List.mem_filter.mpr ⟨member, ?_⟩, shows⟩
    · exact (HashTable.lookup_mapValues _ _ _).trans (congrArg (Option.map _) found)
    · exact decide_eq_true (shows ▸ different)

namespace SourceServer

/-- For every running source that is not an audio source the two flags are equal. -/
def FlagsAgree (server : SourceServer) : Prop :=
  ∀ id source, server.graph.getSource id = some source → source.running = true →
    source.kind ≠ .alsaAudio → server.sourceSup.lookup id = some source.muted

/-- A running source without `keep_alive` that lost its last reference is muted. -/
def MutesUnshown (server after : SourceServer) : Prop :=
  ∀ id source, after.graph.getSource id = some source → source.running = true →
    source.keepAlive = false → 0 < countSourceRefs server.graph id →
      countSourceRefs after.graph id = 0 → source.muted = true

/-- `scene.item.add` leaves no source muted that some item shows. -/
def UnmutesShown (method : SourceMethod) (after : SourceServer) : Prop :=
  method = .sceneItemAdd → ∀ id source, after.graph.getSource id = some source →
    0 < countSourceRefs after.graph id → source.muted = false

/-- The server after a call. -/
def next (server : SourceServer) (call : SourceCall) : Option SourceServer :=
  some (server.handle call).2

/-- A server whose sources were started, or not, and none of which is muted. -/
structure Initial (server : SourceServer) : Prop where
  ids : ∀ id source, server.graph.getSource id = some source → source.id = id
  entries : ∀ id, server.sourceSup.lookup id =
    ((server.graph.getSource id).filter fun source =>
      source.running && decide (source.kind ≠ .alsaAudio)).map fun _ => false
  unmuted : ∀ id source, server.graph.getSource id = some source → source.muted = false

/-- The runs of a server. -/
def muteRuns : System SourceServer SourceCall :=
  .ofNext Initial next

/-- A call that starts the worker of a source does not meet a mute of an earlier worker, and
a scene is not removed under the last reference to a running source. -/
def MeetsNoMute (server : SourceServer) (call : SourceCall) : Prop :=
  match call.method with
  | .sourceStart =>
      ∀ found ∈ server.requestedSource call.params "id",
        found.2.muted = true → found.2.kind ≠ .alsaAudio → found.2.running = false →
          call.answers.launches = false
  | .sourceUpdate =>
      ∀ found ∈ server.requestedSource call.params "id",
        found.2.muted = true → found.2.kind ≠ .alsaAudio → found.2.running = true →
          CJson.isObject (CJson.getObjectItem call.params "config") = true →
            call.answers.launches = false
  | .sceneItemAdd =>
      (server.graph.addItem (CJson.str call.params "scene_id")
          (some (itemCreateParams call.params))).1 = .ok →
        ∀ found ∈ server.requestedSource call.params "source_id",
          found.2.muted = true → found.2.running = true
  | .sceneRemove =>
      ∀ sceneId ∈ CJson.str call.params "id",
        (server.graph.removeScene (some sceneId)).1 = .ok →
          ∀ scene ∈ server.graph.scenes.lookup sceneId,
            server.graph.sources.All fun id source =>
              source.running = true → source.keepAlive = false → SceneShows scene id →
                countSourceRefs (server.graph.removeScene (some sceneId)).2 id ≠ 0
  | _ => True

instance (server : SourceServer) (call : SourceCall) : Decidable (server.MeetsNoMute call) := by
  unfold MeetsNoMute
  split <;> infer_instance

/-- What the flags of a source depend on. -/
structure Marks where
  id : CStr
  kind : SourceKind
  keepAlive : Bool
  running : Bool
  muted : Bool

/-- The marks of a source. -/
def marksOf (source : SourceState) : Marks where
  id := source.id
  kind := source.kind
  keepAlive := source.keepAlive
  running := source.running
  muted := source.muted

/-- The marks of a source of the graph. -/
def marks
    (server : SourceServer)
    (id : CStr) : Option Marks :=
  (server.graph.getSource id).map marksOf

/-- The `muted` of the entry that a source with these marks has, if it has one. -/
def Marks.entry (marks : Marks) : Option Bool :=
  if marks.running = true ∧ marks.kind ≠ .alsaAudio then some marks.muted else none

/-- The marks of a source fit its entry and the references to it. -/
structure SoundMarks
    (id : CStr)
    (marks : Option Marks)
    (entry : Option Bool)
    (shown : Prop) : Prop where
  entry : entry = marks.bind Marks.entry
  named : ∀ found ∈ marks, found.id = id
  heard : ∀ found ∈ marks, found.muted = true → ¬ shown

theorem soundMarks_some
    {id : CStr}
    {found : Marks}
    {entry : Option Bool}
    {shown : Prop} :
    SoundMarks id (some found) entry shown ↔
      entry = found.entry ∧ found.id = id ∧ (found.muted = true → ¬ shown) := by
  constructor
  · exact fun ⟨entry, named, heard⟩ => ⟨entry, named found rfl, heard found rfl⟩
  · rintro ⟨entry, named, heard⟩
    refine ⟨entry, ?_, ?_⟩
    · rintro _ ⟨⟩
      exact named
    · rintro _ ⟨⟩
      exact heard

/-- The invariant of the runs that meet no mute of an earlier worker. -/
def Sound (server : SourceServer) : Prop :=
  ∀ id, SoundMarks id (server.marks id) (server.sourceSup.lookup id) (Shown server.graph id)

/-- Only the marks and the entry of one source change, and no reference does. -/
structure Becomes
    (server : SourceServer)
    (id : CStr)
    (marks : Option Marks)
    (entry : Option Bool)
    (after : SourceServer) : Prop where
  scenes : after.graph.scenes = server.graph.scenes
  marks : ∀ other, after.marks other = if other = id then marks else server.marks other
  entries : ∀ other, after.sourceSup.lookup other =
    if other = id then entry else server.sourceSup.lookup other

variable {server middle after : SourceServer} {id : CStr} {marks : Option Marks}
  {entry : Option Bool}

theorem becomes_self (server : SourceServer) (id : CStr) :
    server.Becomes id (server.marks id) (server.sourceSup.lookup id) server where
  scenes := rfl
  marks other := by
    split
    next same => rw [same]
    next => rfl
  entries other := by
    split
    next same => rw [same]
    next => rfl

theorem Becomes.trans
    {later : Option Marks}
    {laterEntry : Option Bool}
    (first : server.Becomes id marks entry middle)
    (second : middle.Becomes id later laterEntry after) :
    server.Becomes id later laterEntry after where
  scenes := second.scenes.trans first.scenes
  marks other := by
    rw [second.marks]
    split
    next => rfl
    next different => rw [first.marks, if_neg different]
  entries other := by
    rw [second.entries]
    split
    next => rfl
    next different => rw [first.entries, if_neg different]

theorem Becomes.marks_self (becomes : server.Becomes id marks entry after) :
    after.marks id = marks := by
  rw [becomes.marks, if_pos rfl]

theorem Becomes.entry_self (becomes : server.Becomes id marks entry after) :
    after.sourceSup.lookup id = entry := by
  rw [becomes.entries, if_pos rfl]

theorem Becomes.shown
    (becomes : server.Becomes id marks entry after)
    (other : CStr) :
    Shown after.graph other ↔ Shown server.graph other := by
  unfold Shown
  rw [becomes.scenes]

/-- A change of one source keeps the invariant if it does there. -/
theorem Becomes.sound
    (becomes : server.Becomes id marks entry after)
    (sound : server.Sound)
    (soundAt : SoundMarks id marks entry (Shown server.graph id)) :
    after.Sound := by
  intro other
  rw [becomes.marks, becomes.entries, propext (becomes.shown other)]
  by_cases same : other = id
  · rw [if_pos same, if_pos same, same]
    exact soundAt
  · rw [if_neg same, if_neg same]
    exact sound other

/-- A publication changes no source. -/
theorem Becomes.published
    (becomes : server.Becomes id marks entry after)
    (topic published : CStr)
    (answers : SourceAnswers) :
    server.Becomes id marks entry (after.publishSourceEvent topic published answers) :=
  ⟨becomes.scenes, becomes.marks, becomes.entries⟩

theorem becomes_modifySource
    {change : SourceState → SourceState}
    {changed : Marks → Marks}
    (fits : ∀ source, marksOf (change source) = changed (marksOf source)) :
    server.Becomes id ((server.marks id).map changed) (server.sourceSup.lookup id)
      (server.modifySource id change) where
  scenes := rfl
  marks other := by
    unfold SourceServer.marks SourceServer.modifySource SceneGraph.modifySource getSource
    dsimp only
    rw [HashTable.lookup_modify]
    split
    next same =>
      subst same
      cases server.graph.sources.lookup other with
      | none => rfl
      | some source => exact congrArg some (fits source)
    next => rfl
  entries other := (becomes_self server id).entries other

/-- A change that leaves the marks alone. -/
theorem becomes_unmarked
    {change : SourceState → SourceState}
    (fits : ∀ source, marksOf (change source) = marksOf source) :
    server.Becomes id (server.marks id) (server.sourceSup.lookup id)
      (server.modifySource id change) := by
  have becomes := @becomes_modifySource server id change (fun found => found) fits
  simpa using becomes

theorem exists_updateTransitionRuntime (graph : SceneGraph) (now : Int64) :
    ∃ runtime, graph.updateTransitionRuntime now = { graph with transitionRuntime := runtime } := by
  unfold SceneGraph.updateTransitionRuntime
  dsimp only
  repeat' split
  all_goals exact ⟨_, rfl⟩

theorem becomes_refreshScene (server : SourceServer) (id : CStr) (answers : SourceAnswers) :
    server.Becomes id (server.marks id) (server.sourceSup.lookup id)
      (server.refreshScene answers) := by
  unfold refreshScene
  split
  next =>
    obtain ⟨runtime, updated⟩ := exists_updateTransitionRuntime server.graph answers.now
    rw [updated]
    exact ⟨rfl, (becomes_self server id).marks, (becomes_self server id).entries⟩
  next => exact becomes_self server id

theorem marksOf_startConfigFill (graph : SceneGraph) (id : CStr) (source : SourceState) :
    marksOf (startConfigFill graph id source) = marksOf source := by
  unfold startConfigFill
  split <;> rfl

theorem marksOf_syncAlsaAudioSourceConfig (source : SourceState) :
    marksOf (syncAlsaAudioSourceConfig source) = marksOf source := by
  unfold syncAlsaAudioSourceConfig
  split <;> rfl

variable {params : Option CJson} {source : SourceState} {answers : SourceAnswers}

theorem requestedSource_eq_some
    {key : CStr}
    {found : CStr × SourceState}
    (requested : server.requestedSource params key = some found) :
    CJson.str params key = some found.1 ∧ server.graph.getSource found.1 = some found.2 := by
  unfold requestedSource at requested
  obtain ⟨named, isNamed, rest⟩ := Option.bind_eq_some_iff.mp requested
  obtain ⟨source, isSource, same⟩ := Option.bind_eq_some_iff.mp rest
  cases same
  exact ⟨isNamed, isSource⟩

theorem marks_of_getSource
    (found : server.graph.getSource id = some source) :
    server.marks id = some (marksOf source) := by
  unfold SourceServer.marks
  rw [found]
  rfl

/-- What `source.start` makes of the source that it finds. -/
inductive Started (source : SourceState) (before : Option Bool) (launches : Bool) :
    Option Marks → Option Bool → Prop
  /-- Nothing is started. -/
  | refused
      (refused : source.kind = .alsaAudio ∨ before.isSome = true ∨ launches = false) :
      Started source before launches (some (marksOf source)) before
  /-- An audio source is a branch of the mixer. -/
  | audio
      (isAudio : source.kind = .alsaAudio) :
      Started source before launches (some { marksOf source with running := true }) before
  /-- A worker is launched under a new entry. -/
  | launched
      (notAudio : source.kind ≠ .alsaAudio)
      (absent : before = none)
      (forks : launches = true) :
      Started source before launches (some { marksOf source with running := true }) (some false)

theorem becomes_sourceStart
    (requested : server.requestedSource params "id" = some (id, source))
    (named : source.id = id)
    (answers : SourceAnswers) :
    ∃ marks entry, Started source (server.sourceSup.lookup id) answers.launches marks entry ∧
      server.Becomes id marks entry (server.sourceStart params answers).2 := by
  obtain ⟨-, found⟩ := requestedSource_eq_some requested
  have marked := marks_of_getSource found
  have filled : server.Becomes id (some (marksOf source)) (server.sourceSup.lookup id)
      (server.modifySource id (startConfigFill server.graph id)) := by
    rw [← marked]
    exact becomes_unmarked (marksOf_startConfigFill server.graph id)
  have runs : ∀ {middle : SourceServer} {change : SourceState → SourceState} {before : Option Bool},
      server.Becomes id (some (marksOf source)) before middle →
      (∀ source, marksOf (change source) = { marksOf source with running := true }) →
      server.Becomes id (some { marksOf source with running := true }) before
        (middle.modifySource id change) := by
    intro middle change before becomes fits
    have changed := @becomes_modifySource middle id change
      (fun found => { found with running := true }) fits
    rw [becomes.marks_self, becomes.entry_self] at changed
    exact becomes.trans changed
  unfold sourceStart
  rw [requested]
  dsimp only
  by_cases isAudio : source.kind = .alsaAudio
  · rw [if_pos isAudio]
    have synced : server.Becomes id (some (marksOf source)) (server.sourceSup.lookup id)
        ((server.modifySource id (startConfigFill server.graph id)).modifySource id
          syncAlsaAudioSourceConfig) := by
      have changed := @becomes_unmarked
        (server.modifySource id (startConfigFill server.graph id)) id _
        marksOf_syncAlsaAudioSourceConfig
      rw [filled.marks_self, filled.entry_self] at changed
      exact filled.trans changed
    split
    next => exact ⟨_, _, .refused (.inl isAudio), synced⟩
    next => exact ⟨_, _, .audio isAudio, (runs synced fun _ => rfl).published _ _ _⟩
  · rw [if_neg isAudio, named]
    unfold MuteTable.startSource
    cases present : server.sourceSup.contains id with
    | true =>
        have isSome : (server.sourceSup.lookup id).isSome = true := present
        exact ⟨_, _, .refused (.inr (.inl isSome)), filled⟩
    | false =>
        have absent := HashTable.contains_eq_false.mp present
        cases launches : answers.launches with
        | false => exact ⟨_, _, .refused (.inr (.inr rfl)), filled⟩
        | true =>
            have entered : server.Becomes id (some (marksOf source)) (some false)
                { server.modifySource id (startConfigFill server.graph id) with
                  sourceSup := server.sourceSup.insert id false } :=
              ⟨filled.scenes, filled.marks, fun other =>
                HashTable.lookup_insert server.sourceSup id other false⟩
            exact ⟨_, _, .launched isAudio absent rfl, (runs entered fun _ => rfl).published _ _ _⟩

/-! ## Handlers of sources -/

/-- One source changes, and its flags still fit. -/
def ChangesSoundly (server after : SourceServer) : Prop :=
  ∃ id marks entry, server.Becomes id marks entry after ∧
    SoundMarks id marks entry (Shown server.graph id)

theorem Sound.unchanged
    (sound : server.Sound)
    (id : CStr) :
    server.ChangesSoundly server :=
  ⟨id, _, _, becomes_self server id, sound id⟩

theorem Started.soundMarks
    {before : Option Bool}
    {launches : Bool}
    {shown : Prop}
    (started : Started source before launches marks entry)
    (isSound : SoundMarks id (some (marksOf source)) before shown)
    (meets : source.muted = true → source.kind ≠ .alsaAudio → source.running = false →
      launches = false) :
    SoundMarks id marks entry shown := by
  rw [soundMarks_some] at isSound
  obtain ⟨fits, named, heard⟩ := isSound
  cases started with
  | refused => exact soundMarks_some.mpr ⟨fits, named, heard⟩
  | audio isAudio =>
      refine soundMarks_some.mpr ⟨?_, named, heard⟩
      rw [fits]
      simp [Marks.entry, marksOf, isAudio]
  | launched notAudio absent forks =>
      have stopped : source.running = false := by
        rw [absent] at fits
        simpa [Marks.entry, marksOf, notAudio] using fits
      have unmuted : source.muted = false := by
        cases muted : source.muted with
        | false => rfl
        | true => exact absurd ((meets muted notAudio stopped).symm.trans forks) (by decide)
      refine soundMarks_some.mpr ⟨?_, named, heard⟩
      simp [Marks.entry, marksOf, notAudio, unmuted]

theorem Sound.named
    (sound : server.Sound)
    (found : server.graph.getSource id = some source) :
    source.id = id :=
  (sound id).named (marksOf source) (marks_of_getSource found)

theorem Sound.sourceStart
    (sound : server.Sound)
    (meets : server.MeetsNoMute ⟨.sourceStart, params, answers⟩) :
    server.ChangesSoundly (server.sourceStart params answers).2 := by
  cases requested : server.requestedSource params "id" with
  | none =>
      have same : (server.sourceStart params answers).2 = server := by
        unfold SourceServer.sourceStart
        rw [requested]
        rfl
      rw [same]
      exact sound.unchanged ""
  | some found =>
      obtain ⟨id, source⟩ := found
      have present := (requestedSource_eq_some requested).2
      obtain ⟨marks, entry, started, becomes⟩ :=
        becomes_sourceStart requested (sound.named present) answers
      refine ⟨id, marks, entry, becomes, started.soundMarks ?_ (meets _ requested)⟩
      rw [← marks_of_getSource present]
      exact sound id

variable {graph : SceneGraph}

/-- The marks of a source that `createSource` inserts. -/
theorem becomes_createSource
    {params : SourceCreateParams}
    (named : params.id = some id)
    (created : server.graph.createSource (some params) = (.ok, graph)) :
    server.graph.getSource id = none ∧
      server.Becomes id (some (marksOf (newSource id params))) (server.sourceSup.lookup id)
        { server with graph := graph } := by
  unfold createSource at created
  simp only [named] at created
  split at created
  next => cases created
  next =>
    split at created
    next => cases created
    next absent =>
      cases created
      have missing : server.graph.sources.lookup id = none := by
        rw [← HashTable.contains_eq_false]
        exact Bool.not_eq_true _ ▸ absent
      refine ⟨missing, rfl, fun other => ?_, (becomes_self server id).entries⟩
      unfold SourceServer.marks getSource
      dsimp only [bumpVersion]
      rw [HashTable.lookup_insert]
      split <;> rfl

theorem requestedSource_idParams
    (found : server.graph.getSource id = some source) :
    server.requestedSource (idParams id) "id" = some (id, source) := by
  have named : CJson.str (idParams id) "id" = some id := rfl
  unfold requestedSource
  rw [named, Option.bind_eq_bind, Option.bind_some, found]
  rfl

theorem createSource_named
    {params : SourceCreateParams}
    {after : SceneGraph}
    (created : graph.createSource (some params) = (.ok, after)) :
    ∃ id, params.id = some id := by
  cases named : params.id with
  | none =>
      unfold createSource at created
      simp [named] at created
  | some id => exact ⟨id, rfl⟩

theorem Sound.sourceCreate
    (sound : server.Sound) :
    server.ChangesSoundly (server.sourceCreate params answers).2 := by
  unfold SourceServer.sourceCreate
  split
  next => exact sound.unchanged ""
  next kind _ =>
    dsimp only
    split
    next graph created =>
      obtain ⟨id, named⟩ := createSource_named created
      obtain ⟨missing, inserted⟩ := becomes_createSource named created
      rw [named, Option.getD_some]
      have absent : server.sourceSup.lookup id = none := by
        have fits := (sound id).entry
        unfold SourceServer.marks at fits
        rw [missing] at fits
        exact fits
      have synced := inserted.trans
        (@becomes_unmarked { server with graph := graph } id _ marksOf_syncAlsaAudioSourceConfig)
      rw [inserted.marks_self, inserted.entry_self] at synced
      have isSound : SoundMarks id (some (marksOf (newSource id (sourceCreateParams params kind))))
          (server.sourceSup.lookup id) (Shown server.graph id) := by
        rw [absent]
        exact soundMarks_some.mpr ⟨rfl, rfl, fun muted => nomatch muted⟩
      have published := synced.published "source.created" id answers
      split
      next =>
        have marked := published.marks_self
        unfold SourceServer.marks at marked
        obtain ⟨source, present, same⟩ := Option.map_eq_some_iff.mp marked
        have requested := requestedSource_idParams present
        obtain ⟨marks, entry, started, becomes⟩ :=
          becomes_sourceStart requested (congrArg Marks.id same) answers
        refine ⟨id, marks, entry, published.trans becomes, started.soundMarks ?_ ?_⟩
        · rw [published.entry_self, same]
          exact isSound
        · intro muted
          have unmuted : source.muted = false := congrArg Marks.muted same
          rw [unmuted] at muted
          cases muted
      next => exact ⟨id, _, _, published, isSound⟩
    next => exact sound.unchanged ""

theorem lookup_stopSource (sup : MuteTable) (id other : CStr) :
    (sup.stopSource id).2.lookup other = if other = id then none else sup.lookup other := by
  unfold MuteTable.stopSource
  split
  next => exact HashTable.lookup_remove sup id other
  next absent =>
      split
      next same =>
        rw [same]
        exact HashTable.contains_eq_false.mp (Bool.not_eq_true _ ▸ absent)
      next => rfl

/-- The entry of a source is removed, and the source does not run. -/
theorem becomes_stopped
    {change : SourceState → SourceState}
    (fits : ∀ source, marksOf (change source) = { marksOf source with running := false }) :
    server.Becomes id ((server.marks id).map ({ · with running := false })) none
      ({ server with sourceSup := (server.sourceSup.stopSource id).2 }.modifySource id change) := by
  have changed := @becomes_modifySource
    { server with sourceSup := (server.sourceSup.stopSource id).2 } id change
    ({ · with running := false }) fits
  refine ⟨changed.scenes, changed.marks, fun other => ?_⟩
  exact lookup_stopSource server.sourceSup id other

theorem SoundMarks.stopped
    {shown : Prop}
    (isSound : SoundMarks id marks entry shown) :
    SoundMarks id (marks.map ({ · with running := false })) none shown := by
  obtain ⟨-, named, heard⟩ := isSound
  cases marks with
  | none => exact ⟨rfl, nofun, nofun⟩
  | some found => exact soundMarks_some.mpr ⟨rfl, named found rfl, heard found rfl⟩

theorem Sound.sourceStop
    (sound : server.Sound) :
    server.ChangesSoundly (server.sourceStop params answers).2 := by
  unfold SourceServer.sourceStop
  cases requested : server.requestedSource params "id" with
  | none => exact sound.unchanged ""
  | some found =>
      obtain ⟨id, source⟩ := found
      have marked := marks_of_getSource (requestedSource_eq_some requested).2
      dsimp only
      split
      next isAudio =>
        refine ⟨id, _, _, (@becomes_modifySource server id _ ({ · with running := false })
          fun _ => rfl).published _ _ _, ?_⟩
        have isSound := sound id
        rw [marked, soundMarks_some] at isSound
        rw [marked]
        refine soundMarks_some.mpr ⟨?_, isSound.2⟩
        rw [isSound.1]
        simp [Marks.entry, marksOf, isAudio]
      next =>
        split
        next => exact ⟨id, _, _, (becomes_stopped fun _ => rfl).published _ _ _, (sound id).stopped⟩
        next => exact sound.unchanged ""

theorem becomes_updateSource
    {update : SourceUpdateParams}
    (updated : server.graph.updateSource (some id) (some update) = (.ok, graph)) :
    ∃ source, server.graph.getSource id = some source ∧
      server.Becomes id (some (marksOf (source.update update))) (server.sourceSup.lookup id)
        { server with graph := graph } := by
  unfold updateSource at updated
  dsimp only at updated
  split at updated
  next => cases updated
  next source found =>
    cases updated
    refine ⟨source, found, ?_⟩
    have changed := @becomes_modifySource server id (·.update update)
      (fun marks => { marks with
        keepAlive := if update.setKeepAlive then update.keepAlive else marks.keepAlive })
      fun _ => rfl
    rw [marks_of_getSource found] at changed
    exact ⟨rfl, changed.marks, changed.entries⟩

/-- A worker is launched again under a new entry, or the source does not run. -/
theorem becomes_restartWorker
    (found : server.graph.getSource id = some source)
    (answers : SourceAnswers) :
    server.Becomes id (some { marksOf source with running := answers.launches })
      (if answers.launches = true then some false else none) (server.restartWorker id answers) := by
  have stopped := @becomes_stopped server id
    (fun source => { source with running := false, frameStats := answers.flushed }) fun _ => rfl
  rw [marks_of_getSource found] at stopped
  have filled := stopped.trans (becomes_unmarked (marksOf_startConfigFill server.graph id))
  rw [stopped.marks_self, stopped.entry_self] at filled
  have absent : (server.sourceSup.stopSource id).2.contains id = false :=
    HashTable.contains_eq_false.mpr stopped.entry_self
  unfold restartWorker MuteTable.startSource
  dsimp only [SourceServer.modifySource] at absent ⊢
  rw [absent]
  cases launches : answers.launches with
  | false => exact filled
  | true =>
      have entered : server.Becomes id (some { marksOf source with running := false })
          (some false) { (({ server with
            sourceSup := (server.sourceSup.stopSource id).2 }.modifySource id fun source =>
              { source with running := false, frameStats := answers.flushed }).modifySource id
                (startConfigFill server.graph id)) with
            sourceSup := (server.sourceSup.stopSource id).2.insert id false } := by
        refine ⟨filled.scenes, filled.marks, fun other => ?_⟩
        rw [HashTable.lookup_insert, lookup_stopSource]
        split <;> rfl
      have changed := entered.trans (@becomes_modifySource _ id (fun source =>
        { source with running := true, runtimeState := some "starting" })
        ({ · with running := true }) fun _ => rfl)
      rw [entered.marks_self, entered.entry_self] at changed
      exact changed.published _ _ _

theorem Sound.sourceUpdate
    (sound : server.Sound)
    (meets : server.MeetsNoMute ⟨.sourceUpdate, params, answers⟩) :
    server.ChangesSoundly (server.sourceUpdate params answers).2 := by
  unfold SourceServer.sourceUpdate
  cases named : CJson.str params "id" with
  | none => exact sound.unchanged ""
  | some id =>
      dsimp only
      split
      next graph updated =>
        obtain ⟨source, found, becomes⟩ := becomes_updateSource updated
        have synced := becomes.trans
          (@becomes_unmarked { server with graph := graph } id _ marksOf_syncAlsaAudioSourceConfig)
        rw [becomes.marks_self, becomes.entry_self] at synced
        have published := synced.published "source.updated" id answers
        have isSound := sound id
        rw [marks_of_getSource found, soundMarks_some] at isSound
        obtain ⟨fits, isNamed, heard⟩ := isSound
        split
        next restarts =>
          obtain ⟨setsConfig, runs⟩ := Bool.and_eq_true_iff.mp restarts
          obtain ⟨later, present, running⟩ := (Option.any_eq_true _ _).mp runs
          have marked := published.marks_self
          rw [marks_of_getSource present, Option.some_inj] at marked
          obtain ⟨isRunning, notAudio⟩ := Bool.and_eq_true_iff.mp running
          have sameKind : later.kind = source.kind := congrArg Marks.kind marked
          have wasRunning : source.running = true :=
            (congrArg Marks.running marked).symm.trans isRunning
          have wasNotAudio : source.kind ≠ .alsaAudio := sameKind ▸ of_decide_eq_true notAudio
          have requested : server.requestedSource params "id" = some (id, source) := by
            unfold requestedSource
            rw [named, Option.bind_eq_bind, Option.bind_some, found]
            rfl
          refine ⟨id, _, _, published.trans (becomes_restartWorker present answers), ?_⟩
          rw [marked]
          refine soundMarks_some.mpr ⟨?_, isNamed, heard⟩
          cases launches : answers.launches with
          | false => rfl
          | true =>
              have unmuted : source.muted = false := by
                cases muted : source.muted with
                | false => rfl
                | true =>
                    have fails := meets _ requested muted wasNotAudio wasRunning setsConfig
                    exact absurd (fails.symm.trans launches) (by decide)
              simp [Marks.entry, marksOf, SourceState.update, wasNotAudio, unmuted]
        next => exact ⟨id, _, _, published, soundMarks_some.mpr ⟨fits, isNamed, heard⟩⟩
      next => exact sound.unchanged ""

/-! ## Handlers that change references -/

theorem SoundMarks.mono
    {shown fewer : Prop}
    (isSound : SoundMarks id marks entry shown)
    (mono : fewer → shown) :
    SoundMarks id marks entry fewer :=
  ⟨isSound.entry, isSound.named, fun found member muted =>
    mt mono (isSound.heard found member muted)⟩

/-- No references are gone after a call that leaves those of every source. -/
theorem mutesUnshown_of_shown
    (keeps : ∀ other source, after.graph.getSource other = some source →
      Shown server.graph other → Shown after.graph other) :
    server.MutesUnshown after := by
  intro other source found _ _ before gone
  have kept := keeps other source found ((countSourceRefs_pos_iff server.graph other).mp before)
  exact absurd kept ((countSourceRefs_eq_zero_iff after.graph other).mp gone)

theorem marks_removeSource
    (present : server.graph.sources.contains id = true)
    (other : CStr) :
    SourceServer.marks { server with graph := (server.graph.removeSource (some id)).2 } other =
      if other = id then none else server.marks other := by
  unfold SourceServer.marks getSource removeSource
  dsimp only
  rw [present]
  dsimp only [bumpVersion]
  rw [Bool.not_true, if_neg Bool.false_ne_true, HashTable.lookup_remove]
  split <;> rfl

/-- A source that does not run has no entry. -/
theorem Sound.becomes_idle
    (sound : server.Sound)
    (found : server.graph.getSource id = some source)
    (idle : (source.running && decide (source.kind ≠ .alsaAudio)) = false) :
    server.Becomes id (some (marksOf source)) none server := by
  have self := becomes_self server id
  have isSound := sound id
  rw [marks_of_getSource found] at self isSound
  have none : (marksOf source).entry = none := by
    unfold Marks.entry marksOf
    simpa using idle
  rw [(soundMarks_some.mp isSound).1, none] at self
  exact self

theorem Sound.sourceRemove
    (sound : server.Sound) :
    (server.sourceRemove params answers).2.Sound ∧
      server.MutesUnshown (server.sourceRemove params answers).2 := by
  have unchanged : server.Sound ∧ server.MutesUnshown server :=
    ⟨sound, mutesUnshown_of_shown fun _ _ _ shown => shown⟩
  unfold SourceServer.sourceRemove
  dsimp only
  split
  next => exact unchanged
  next id _ =>
    split
    next => exact unchanged
    next source found =>
      generalize stops : (if (source.running && decide (source.kind ≠ .alsaAudio)) = true then
        server.stopWorker id answers else server) = stopped
      have becomes : ∃ mark, server.Becomes id (some mark) none stopped := by
        rw [← stops]
        split
        next =>
          have changed := @becomes_stopped server id (fun source =>
            { source with
              running := false
              runtimeState := some "disabled"
              frameStats := answers.flushed }) fun _ => rfl
          rw [marks_of_getSource found] at changed
          exact ⟨_, changed⟩
        next idle => exact ⟨_, sound.becomes_idle found (Bool.not_eq_true _ ▸ idle)⟩
      obtain ⟨mark, becomes⟩ := becomes
      have published := becomes.published "source.removed" id answers
      generalize stopped.publishSourceEvent "source.removed" id answers = middle at published
      have present : middle.graph.sources.contains id = true := by
        have marked := published.marks_self
        unfold SourceServer.marks at marked
        obtain ⟨stored, isStored, -⟩ := Option.map_eq_some_iff.mp marked
        exact HashTable.contains_eq_true.mpr ⟨stored, isStored⟩
      have removedMarks := marks_removeSource present
      have removedShown := shown_removeSource present
      have refreshed := becomes_refreshScene
        { middle with graph := (middle.graph.removeSource (some id)).2 } id answers
      rw [removedMarks id, if_pos rfl, published.entry_self] at refreshed
      dsimp only [succeeded]
      generalize SourceServer.refreshScene _ answers = after at refreshed ⊢
      constructor
      · intro other
        have fewer : Shown after.graph other → Shown server.graph other := fun shown =>
          (published.shown other).mp ((removedShown other).1 ((refreshed.shown other).mp shown))
        rw [refreshed.marks, refreshed.entries]
        split
        next same =>
          refine ⟨rfl, ?_, ?_⟩
          · intro found isMarked
            exact absurd isMarked (Option.not_mem_none found)
          · intro found isMarked
            exact absurd isMarked (Option.not_mem_none found)
        next different =>
          have isSound := sound other
          rw [removedMarks, if_neg different, published.marks, if_neg different]
          dsimp only
          rw [published.entries, if_neg different]
          exact isSound.mono fewer
      · refine mutesUnshown_of_shown fun other source isSource shown => ?_
        have different : other ≠ id := by
          rintro rfl
          have marked := marks_of_getSource isSource
          rw [refreshed.marks_self] at marked
          cases marked
        exact (refreshed.shown other).mpr
          ((removedShown other).2 different ((published.shown other).mpr shown))

theorem addItem_ok
    {graph added : SceneGraph}
    {sceneId : Option CStr}
    {params : SceneItemCreateParams}
    (ok : graph.addItem sceneId (some params) = (.ok, added)) :
    ∃ id, params.sourceId = some id ∧ added.sources = graph.sources ∧
      (graph.getSource id).isSome = true ∧
      ∀ other, Shown added other ↔ Shown graph other ∨ other = id := by
  unfold addItem at ok
  split at ok
  next sceneId _ given =>
    cases given
    split at ok
    next => cases ok
    next id named =>
      split at ok
      next => cases ok
      next scene found =>
        split at ok
        next => cases ok
        next source isSource =>
          split at ok
          next => cases ok
          next =>
            cases ok
            refine ⟨id, named, rfl, Option.isSome_iff_exists.mpr ⟨source, isSource⟩,
              fun other => ?_⟩
            constructor
            · intro shown
              by_cases same : other = id
              · exact .inr same
              · refine .inl (shown_of_modifyScene (fun scene _ shows => ?_) shown)
                exact ((sceneShows_addItem scene _ other).mp shows).resolve_right (Ne.symm same)
            · rintro (shown | rfl)
              · exact shown_modifyScene
                  (fun scene _ shows => (sceneShows_addItem scene _ other).mpr (.inl shows)) shown
              · refine ⟨sceneId, scene.addItem (newItem params source other), ?_,
                  (sceneShows_addItem scene _ other).mpr (.inr rfl)⟩
                exact (HashTable.lookup_modify _ _ _ _).trans
                  ((if_pos rfl).trans (congrArg (Option.map _) found))
  next => cases ok

theorem lookup_setMuted (muted : Bool) (sup : MuteTable) (id other : CStr) :
    (sup.setMuted muted id).2.lookup other =
      if other = id then (sup.lookup id).map fun _ => muted else sup.lookup other := by
  unfold MuteTable.setMuted
  split
  next =>
    dsimp only
    rw [HashTable.lookup_modify]
    split
    next same => rw [same]
    next => rfl
  next absent =>
      split
      next same =>
        rw [same, HashTable.contains_eq_false.mp (Bool.not_eq_true _ ▸ absent)]
        rfl
      next => rfl

/-- Both copies of the flag are written. -/
theorem becomes_setMuted
    (muted : Bool)
    (server : SourceServer)
    (id : CStr) :
    server.Becomes id ((server.marks id).map ({ · with muted := muted }))
      ((server.sourceSup.lookup id).map fun _ => muted)
      { server.modifySource id fun source => { source with muted := muted } with
        sourceSup := (server.sourceSup.setMuted muted id).2 } := by
  have changed := @becomes_modifySource server id
    (fun source => { source with muted := muted }) ({ · with muted := muted }) fun _ => rfl
  exact ⟨changed.scenes, changed.marks, lookup_setMuted muted server.sourceSup id⟩

theorem Marks.entry_muted (marks : Marks) (muted : Bool) :
    Marks.entry { marks with muted := muted } = marks.entry.map fun _ => muted := by
  unfold Marks.entry
  split <;> rfl

/-- A source that is brought up is not muted. -/
theorem becomes_bringUp
    {source : SourceState}
    (found : server.graph.getSource id = some source)
    (isSound : SoundMarks id (server.marks id) (server.sourceSup.lookup id) False)
    (meets : source.muted = true → source.running = true)
    (answers : SourceAnswers) :
    ∃ marks entry, server.Becomes id marks entry (server.bringUp id source answers) ∧
      SoundMarks id marks entry True := by
  have marked := marks_of_getSource found
  rw [marked, soundMarks_some] at isSound
  obtain ⟨fits, named, -⟩ := isSound
  have isNamed : source.id = id := named
  unfold bringUp
  cases running : source.running with
  | false =>
      have unmuted : source.muted = false := by
        cases muted : source.muted with
        | false => rfl
        | true => exact absurd ((meets muted).symm.trans running) (by decide)
      rw [isNamed]
      obtain ⟨marks, entry, started, becomes⟩ :=
        becomes_sourceStart (requestedSource_idParams found) isNamed answers
      refine ⟨marks, entry, becomes, started.soundMarks (soundMarks_some.mpr ⟨fits, named, ?_⟩) ?_⟩
      · exact fun muted => absurd (unmuted.symm.trans muted) (by decide)
      · exact fun muted => absurd (unmuted.symm.trans muted) (by decide)
  | true =>
      rw [Bool.not_true, if_neg Bool.false_ne_true, isNamed]
      split
      next =>
        refine ⟨_, _, (becomes_setMuted false server id).published _ _ _, ?_⟩
        rw [marked, fits]
        refine soundMarks_some.mpr ⟨?_, named, nofun⟩
        exact (Marks.entry_muted (marksOf source) false).symm
      next unmuted =>
        refine ⟨_, _, becomes_self server id, ?_⟩
        rw [marked]
        exact soundMarks_some.mpr ⟨fits, named, fun muted => absurd muted unmuted⟩

theorem Sound.sceneItemAdd
    (sound : server.Sound)
    (meets : server.MeetsNoMute ⟨.sceneItemAdd, params, answers⟩) :
    (server.sceneItemAdd params answers).2.Sound ∧
      server.MutesUnshown (server.sceneItemAdd params answers).2 := by
  unfold SourceServer.sceneItemAdd
  dsimp only
  split
  next graph ok =>
    obtain ⟨id, named, sources, present, shown⟩ := addItem_ok ok
    obtain ⟨source, found⟩ := Option.isSome_iff_exists.mp present
    have addedFound : graph.getSource id = some source := by
      unfold getSource
      rw [sources]
      exact found
    have sameMarks : ∀ other,
        SourceServer.marks { server with graph := graph } other = server.marks other := by
      intro other
      unfold SourceServer.marks getSource
      rw [sources]
    have requested : ∀ {asked : SourceServer}, asked.graph.getSource id = some source →
        asked.requestedSource params "source_id" = some (id, source) := by
      intro asked isSource
      have isNamed : CJson.str params "source_id" = some id := named
      unfold requestedSource
      rw [isNamed, Option.bind_eq_bind, Option.bind_some, isSource]
      rfl
    rw [requested addedFound]
    have isSound : SoundMarks id (SourceServer.marks { server with graph := graph } id)
        (server.sourceSup.lookup id) False := by
      rw [sameMarks]
      exact (sound id).mono False.elim
    obtain ⟨marks, entry, becomes, soundAt⟩ := @becomes_bringUp { server with graph := graph } id
      source addedFound isSound
      (meets (congrArg Prod.fst ok) (id, source) (requested found)) answers
    have refreshed := becomes.trans (becomes_refreshScene
      (SourceServer.bringUp { server with graph := graph } id source answers) id answers)
    rw [becomes.marks_self, becomes.entry_self] at refreshed
    dsimp only [succeeded, publish]
    generalize SourceServer.refreshScene _ answers = after at refreshed ⊢
    have shownAfter : ∀ other, Shown after.graph other ↔ Shown server.graph other ∨ other = id :=
      fun other => (refreshed.shown other).trans (shown other)
    constructor
    · intro other
      have isSound := sound other
      have marked := refreshed.marks other
      have entered := refreshed.entries other
      rw [sameMarks] at marked
      by_cases same : other = id
      · rw [if_pos same] at marked entered
        refine SoundMarks.mono ?_ fun _ => trivial
        exact marked ▸ entered ▸ same ▸ soundAt
      · rw [if_neg same] at marked entered
        refine SoundMarks.mono ?_ fun shown => ((shownAfter other).mp shown).resolve_right same
        exact marked ▸ entered ▸ isSound
    · exact mutesUnshown_of_shown fun other _ _ shown => (shownAfter other).mpr (.inl shown)
  next => exact ⟨sound, mutesUnshown_of_shown fun _ _ _ shown => shown⟩

theorem removeItem_ok
    {graph removed : SceneGraph}
    {sceneId itemId : Option CStr}
    (ok : graph.removeItem sceneId itemId = (.ok, removed)) :
    ∃ id, itemSource graph sceneId itemId = some id ∧ removed.sources = graph.sources ∧
      ∀ other, (Shown removed other → Shown graph other) ∧
        (other ≠ id → Shown graph other → Shown removed other) := by
  unfold removeItem at ok
  split at ok
  next sceneId itemId =>
    split at ok
    next => cases ok
    next scene isScene =>
      split at ok
      next => cases ok
      next item isItem =>
        cases ok
        refine ⟨item.sourceId, ?_, rfl, fun other => ⟨?_, fun different => ?_⟩⟩
        · unfold itemSource
          simp [isScene, isItem]
        · refine shown_of_modifyScene fun found stored => ?_
          cases isScene.symm.trans stored
          exact (sceneShows_removeItem isItem other).1
        · refine shown_modifyScene fun found stored => ?_
          cases isScene.symm.trans stored
          exact (sceneShows_removeItem isItem other).2 different
  next => cases ok

/-- A source that nothing shows is muted if it runs and is not kept alive. -/
theorem becomes_muteUnshown
    (isSound : SoundMarks id (server.marks id) (server.sourceSup.lookup id) (Shown server.graph id))
    (answers : SourceAnswers) :
    ∃ marks entry, server.Becomes id marks entry (server.muteUnshown id answers) ∧
      SoundMarks id marks entry (Shown server.graph id) ∧
      ∀ found ∈ marks, found.running = true → found.keepAlive = false →
        ¬ Shown server.graph id → found.muted = true := by
  unfold muteUnshown
  have self := becomes_self server id
  split
  next absent =>
    refine ⟨_, _, self, isSound, ?_⟩
    unfold SourceServer.marks
    rw [absent]
    nofun
  next source found =>
    have marked := marks_of_getSource found
    rw [marked] at isSound self
    split
    next mutes =>
      simp only [Bool.and_eq_true, decide_eq_true_eq, countSourceRefs_eq_zero_iff] at mutes
      obtain ⟨⟨⟨running, notKept⟩, unshown⟩, unmuted⟩ := mutes
      obtain ⟨fits, named, -⟩ := soundMarks_some.mp isSound
      refine ⟨_, _, (becomes_setMuted true server id).published _ _ _, ?_, ?_⟩
      · rw [marked, fits]
        refine soundMarks_some.mpr ⟨?_, named, fun _ => unshown⟩
        exact (Marks.entry_muted (marksOf source) true).symm
      · rw [marked]
        rintro _ ⟨⟩ _ _ _
        rfl
    next leaves =>
      refine ⟨_, _, self, isSound, ?_⟩
      rintro _ ⟨⟩ running notKept unshown
      rw [← countSourceRefs_eq_zero_iff] at unshown
      have isRunning : source.running = true := running
      have isNotKept : source.keepAlive = false := notKept
      cases muted : source.muted with
      | true => exact muted
      | false => exact absurd (by simp [isRunning, isNotKept, unshown, muted]) leaves

theorem Sound.sceneItemRemove
    (sound : server.Sound) :
    (server.sceneItemRemove params answers).2.Sound ∧
      server.MutesUnshown (server.sceneItemRemove params answers).2 := by
  have unchanged : server.Sound ∧ server.MutesUnshown server :=
    ⟨sound, mutesUnshown_of_shown fun _ _ _ shown => shown⟩
  unfold SourceServer.sceneItemRemove
  dsimp only
  split
  next => exact unchanged
  next =>
    split
    next graph ok =>
      obtain ⟨id, removed, sources, shown⟩ := removeItem_ok ok
      rw [removed]
      have sameMarks : ∀ other,
          SourceServer.marks { server with graph := graph } other = server.marks other := by
        intro other
        unfold SourceServer.marks getSource
        rw [sources]
      have isSound : SoundMarks id (SourceServer.marks { server with graph := graph } id)
          (server.sourceSup.lookup id) (Shown graph id) := by
        rw [sameMarks]
        exact (sound id).mono (shown id).1
      obtain ⟨marks, entry, becomes, soundAt, mutes⟩ :=
        @becomes_muteUnshown { server with graph := graph } id isSound answers
      have refreshed := becomes.trans (becomes_refreshScene
        (SourceServer.muteUnshown { server with graph := graph } id answers) id answers)
      rw [becomes.marks_self, becomes.entry_self] at refreshed
      dsimp only [succeeded]
      generalize SourceServer.refreshScene _ answers = after at refreshed ⊢
      have shownAfter : ∀ other, Shown after.graph other ↔ Shown graph other := refreshed.shown
      constructor
      · intro other
        have isSound := sound other
        have marked := refreshed.marks other
        have entered := refreshed.entries other
        rw [sameMarks] at marked
        rw [propext (shownAfter other)]
        by_cases same : other = id
        · rw [if_pos same] at marked entered
          exact marked ▸ entered ▸ same ▸ soundAt
        · rw [if_neg same] at marked entered
          exact marked ▸ entered ▸ isSound.mono (shown other).1
      · intro other source found running notKept before gone
        rw [countSourceRefs_pos_iff] at before
        rw [countSourceRefs_eq_zero_iff, shownAfter] at gone
        by_cases same : other = id
        · subst same
          have marked := marks_of_getSource found
          rw [refreshed.marks_self] at marked
          exact mutes (marksOf source) (marked ▸ rfl) running notKept gone
        · exact absurd ((shown other).2 same before) gone
    next => exact unchanged

theorem shown_removeScene
    {graph removed : SceneGraph}
    {sceneId : CStr}
    (ok : graph.removeScene (some sceneId) = (.ok, removed)) :
    removed.sources = graph.sources ∧ (∃ scene, graph.scenes.lookup sceneId = some scene) ∧
      ∀ other, (Shown removed other → Shown graph other) ∧
        (Shown graph other → ¬ Shown removed other →
          ∀ scene, graph.scenes.lookup sceneId = some scene → SceneShows scene other) := by
  unfold removeScene at ok
  dsimp only at ok
  split at ok
  next => cases ok
  next present =>
    split at ok
    next => cases ok
    next =>
      cases ok
      have isScene : graph.scenes.contains sceneId = true := by
        rw [Bool.not_eq_true, Bool.not_eq_false'] at present
        exact present
      refine ⟨rfl, HashTable.contains_eq_true.mp isScene, fun other => ⟨?_, ?_⟩⟩
      · rintro ⟨otherScene, scene, found, shows⟩
        dsimp only [bumpVersion] at found
        rw [HashTable.lookup_remove] at found
        split at found
        next => cases found
        next => exact ⟨otherScene, scene, found, shows⟩
      · rintro ⟨otherScene, scene, found, shows⟩ gone removedScene isRemoved
        by_cases same : otherScene = sceneId
        · cases (same ▸ found : graph.scenes.lookup sceneId = some scene).symm.trans isRemoved
          exact shows
        · refine absurd ⟨otherScene, scene, ?_, shows⟩ gone
          exact (HashTable.lookup_remove _ _ _).trans ((if_neg same).trans found)

theorem Sound.sceneRemove
    (sound : server.Sound)
    (meets : server.MeetsNoMute ⟨.sceneRemove, params, answers⟩) :
    (server.sceneRemove params).2.Sound ∧
      server.MutesUnshown (server.sceneRemove params).2 := by
  unfold SourceServer.sceneRemove
  unfold MeetsNoMute at meets
  dsimp only at meets
  cases named : CJson.str params "id" with
  | none => exact ⟨sound, mutesUnshown_of_shown fun _ _ _ shown => shown⟩
  | some sceneId =>
      split
      next graph ok =>
        obtain ⟨sources, ⟨scene, isScene⟩, shown⟩ := shown_removeScene ok
        constructor
        · intro other
          have isSound := (sound other).mono (shown other).1
          unfold SourceServer.marks getSource at isSound ⊢
          dsimp only [succeeded]
          rw [sources]
          exact isSound
        · intro id source found running notKept before gone
          have isSource : server.graph.sources.lookup id = some source := by
            rw [← sources]
            exact found
          rw [countSourceRefs_pos_iff] at before
          have shows :=
            (shown id).2 before ((countSourceRefs_eq_zero_iff _ _).mp gone) scene isScene
          have kept := meets sceneId named (congrArg Prod.fst ok) scene isScene id source isSource
            running notKept shows
          rw [ok] at kept
          exact absurd gone kept
      next => exact ⟨sound, mutesUnshown_of_shown fun _ _ _ shown => shown⟩

theorem ChangesSoundly.step
    (sound : server.Sound)
    (changes : server.ChangesSoundly after) :
    after.Sound ∧ server.MutesUnshown after := by
  obtain ⟨id, marks, entry, becomes, soundAt⟩ := changes
  exact ⟨becomes.sound sound soundAt, mutesUnshown_of_shown fun other _ _ shown =>
    (becomes.shown other).mpr shown⟩

/-- A call that meets no mute of an earlier worker keeps the two flags together. -/
theorem Sound.handle
    (sound : server.Sound)
    {call : SourceCall}
    (meets : server.MeetsNoMute call) :
    (server.handle call).2.Sound ∧ server.MutesUnshown (server.handle call).2 := by
  obtain ⟨method, params, answers⟩ := call
  cases method with
  | sourceCreate => exact ChangesSoundly.step sound sound.sourceCreate
  | sourceUpdate => exact ChangesSoundly.step sound (sound.sourceUpdate meets)
  | sourceStart => exact ChangesSoundly.step sound (sound.sourceStart meets)
  | sourceStop => exact ChangesSoundly.step sound sound.sourceStop
  | sourceRemove => exact sound.sourceRemove
  | sceneItemAdd => exact sound.sceneItemAdd meets
  | sceneItemRemove => exact sound.sceneItemRemove
  | sceneRemove => exact sound.sceneRemove meets

theorem Initial.sound (initial : server.Initial) : server.Sound := by
  intro id
  refine ⟨?_, ?_, ?_⟩
  · rw [initial.entries]
    unfold SourceServer.marks
    cases found : server.graph.getSource id with
    | none => rfl
    | some source =>
        have unmuted := initial.unmuted id source found
        simp only [Option.filter_some, Option.map_some, Option.bind_some, Marks.entry, marksOf,
          Bool.and_eq_true, decide_eq_true_eq, unmuted]
        split <;> rfl
  · intro mark marked
    obtain ⟨source, found, rfl⟩ := Option.map_eq_some_iff.mp marked
    exact initial.ids id source found
  · intro mark marked muted
    obtain ⟨source, found, rfl⟩ := Option.map_eq_some_iff.mp marked
    exact absurd ((initial.unmuted id source found).symm.trans muted) (by decide)

theorem Sound.flagsAgree (sound : server.Sound) : server.FlagsAgree := by
  intro id source found running notAudio
  rw [(sound id).entry, marks_of_getSource found]
  exact if_pos ⟨running, notAudio⟩

theorem Sound.unmutesShown
    (sound : server.Sound)
    (method : SourceMethod) :
    server.UnmutesShown method := by
  intro _ id source found shown
  cases muted : source.muted with
  | false => rfl
  | true =>
      exact absurd ((countSourceRefs_pos_iff _ _).mp shown)
        ((sound id).heard (marksOf source) (marks_of_getSource found) muted)

/-- In a run whose calls meet no mute of an earlier worker the two flags of every running source
agree, a source is muted with its last reference and no source is muted that an item shows. -/
theorem mutes_agree
    (reachable : muteRuns.ReachableWhen MeetsNoMute server) :
    server.FlagsAgree ∧ ∀ call, server.MeetsNoMute call →
      server.MutesUnshown (server.handle call).2 ∧
        UnmutesShown call.method (server.handle call).2 := by
  have sound : server.Sound := by
    refine @System.ReachableWhen.invariant _ _ muteRuns MeetsNoMute Sound ?_ ?_ server reachable
    · exact fun _ initial => initial.sound
    · rintro before call _ sound meets ⟨⟩
      exact (sound.handle meets).1
  refine ⟨sound.flagsAgree, fun call meets => ?_⟩
  obtain ⟨soundAfter, mutes⟩ := sound.handle meets
  exact ⟨mutes, soundAfter.unmutesShown call.method⟩

/-- A server with two scenes and no source. -/
def twoSceneServer : SourceServer where
  graph :=
    ((newDefault.createScene (some { id := some "main", name := none })).2.createScene
      (some { id := some "other", name := none })).2
  sourceSup := .empty
  audio := false
  compThread := false
  saveTimeout := false
  published := []

/-- A worker is launched whenever it is asked for. -/
def launched : SourceAnswers where
  launches := true
  mixer := .ok
  flushed := { produced := 0, dropped := 0, consumed := 0, held := 0 }
  gstElementAvailable := fun _ => true
  now := 0

/-- A request with members that are all strings. -/
def request (method : SourceMethod) (members : List (CStr × CStr)) : SourceCall where
  method := method
  params := some (.object (members.map fun member => (member.1, .string member.2)))
  answers := launched

/-- A camera is shown and is not shown any more, so that it is muted. -/
def mutedCamera : List SourceCall := [
  request .sourceCreate [("id", "camera"), ("type", "videotestsrc")],
  request .sceneItemAdd [("scene_id", "other"), ("source_id", "camera"), ("id", "item")],
  request .sceneItemRemove [("scene_id", "other"), ("item_id", "item")]]

theorem twoSceneServer_initial : twoSceneServer.Initial where
  ids _ _ found := nomatch found
  entries _ := rfl
  unmuted _ _ found := nomatch found

/-- A camera that is muted when its only item is removed. -/
theorem mutes_agree_mutedCamera :
    ∃ server : SourceServer,
      muteRuns.ReachableWhen MeetsNoMute server ∧ server.sourceSup.lookup "camera" = some true ∧
        server.FlagsAgree ∧ ∀ call, server.MeetsNoMute call →
          server.MutesUnshown (server.handle call).2 ∧
            UnmutesShown call.method (server.handle call).2 := by
  have runs : (System.run (System.guarded MeetsNoMute next) twoSceneServer mutedCamera).map
      (fun server => server.sourceSup.lookup "camera") = some (some true) := by
    decide +kernel
  obtain ⟨server, final, muted⟩ := Option.map_eq_some_iff.mp runs
  have reachable : muteRuns.ReachableWhen MeetsNoMute server :=
    System.reachableWhen_of_run (.initial twoSceneServer_initial) final
  exact ⟨server, reachable, muted, mutes_agree reachable⟩

/-- A worker that is started again is heard though its source is muted, the removal of a scene
leaves its source heard, and a source that is started to be shown stays muted. -/
theorem mutes_disagree :
    (¬∀ server : SourceServer, muteRuns.Reachable server → server.FlagsAgree) ∧
      (¬∀ server : SourceServer, muteRuns.Reachable server →
        ∀ call, server.MutesUnshown (server.handle call).2) ∧
      ¬∀ server : SourceServer, muteRuns.Reachable server →
        ∀ call, UnmutesShown call.method (server.handle call).2 := by
  have initial : muteRuns.Reachable twoSceneServer := .initial twoSceneServer_initial
  refine ⟨fun agree => ?_, fun mutes => ?_, fun unmutes => ?_⟩
  · have runs : (System.run next twoSceneServer (mutedCamera ++ [
        request .sourceStop [("id", "camera")], request .sourceStart [("id", "camera")]])).map
        (fun server => (server.sourceSup.lookup "camera", (server.graph.getSource "camera").map
          fun source => (source.running, source.muted, source.kind))) =
        some (some false, some (true, true, .videotestsrc)) := by
      decide +kernel
    obtain ⟨server, final, facts⟩ := Option.map_eq_some_iff.mp runs
    obtain ⟨entry, inGraph⟩ := Prod.mk.inj facts
    obtain ⟨source, found, flags⟩ := Option.map_eq_some_iff.mp inGraph
    simp only [Prod.mk.injEq] at flags
    have agrees := agree server (System.reachable_of_run initial final) "camera" source found
      flags.1 (by rw [flags.2.2]; decide)
    rw [entry, flags.2.1] at agrees
    cases agrees
  · have runs : (System.run next twoSceneServer (mutedCamera.take 2)).map
        (fun server => (decide (0 < countSourceRefs server.graph "camera"),
          let after := (server.handle (request .sceneRemove [("id", "other")])).2
          (countSourceRefs after.graph "camera", (after.graph.getSource "camera").map
            fun source => (source.running, source.keepAlive, source.muted)))) =
        some (true, 0, some (true, false, false)) := by
      decide +kernel
    obtain ⟨server, final, facts⟩ := Option.map_eq_some_iff.mp runs
    simp only [Prod.mk.injEq, decide_eq_true_eq] at facts
    obtain ⟨before, gone, inGraph⟩ := facts
    obtain ⟨source, found, flags⟩ := Option.map_eq_some_iff.mp inGraph
    simp only [Prod.mk.injEq] at flags
    have muted := mutes server (System.reachable_of_run initial final) _ "camera" source found
      flags.1 flags.2.1 before gone
    rw [flags.2.2] at muted
    cases muted
  · have runs : (System.run next twoSceneServer
        (mutedCamera ++ [request .sourceStop [("id", "camera")]])).map
        (fun server =>
          let after := (server.handle (request .sceneItemAdd
            [("scene_id", "main"), ("source_id", "camera"), ("id", "item")])).2
          (decide (0 < countSourceRefs after.graph "camera"),
            (after.graph.getSource "camera").map fun source => source.muted)) =
        some (true, some true) := by
      decide +kernel
    obtain ⟨server, final, facts⟩ := Option.map_eq_some_iff.mp runs
    simp only [Prod.mk.injEq, decide_eq_true_eq] at facts
    obtain ⟨shown, inGraph⟩ := facts
    obtain ⟨source, found, muted⟩ := Option.map_eq_some_iff.mp inGraph
    have unmuted := unmutes server (System.reachable_of_run initial final) _ rfl "camera" source
      found shown
    exact absurd (unmuted.symm.trans muted) (by decide)

end SourceServer
end Api
end SbsServer
