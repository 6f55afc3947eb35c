import SbsServer.Config.Bundle

/-!
# What the loader does with one entry

One equation for each loop body of `apply_scene_graph_bundle`: an entry with a
fresh valid key is inserted into its table, any other entry is skipped.  Only
the version counter is left unspecified.
-/

namespace SbsServer
namespace SceneGraph

open CLib

variable {graph : SceneGraph}

/-- A key that a create function accepts for a table. -/
def Creatable (table : HashTable CStr V) (key : Option CStr) : Prop :=
  ∃ id, key = some id ∧ validGraphId id = true ∧ table.lookup id = none

variable {id : CStr}

theorem createSource_eq
    {params : SourceCreateParams}
    (named : params.id = some id)
    (valid : validGraphId id = true)
    (absent : graph.sources.lookup id = none) :
    graph.createSource (some params) =
      (.ok, { graph with
        sources := graph.sources.insert id (newSource id params) }.bumpVersion) := by
  simp only [createSource, named, valid, HashTable.contains_eq_false.mpr absent,
    Bool.not_true, Bool.false_eq_true, if_false]

theorem createSource_refused
    {params : SourceCreateParams}
    (refused : ¬Creatable graph.sources params.id) :
    graph.createSource (some params) = (.inval, graph) := by
  cases named : params.id with
  | none => simp only [createSource, named]
  | some id =>
      by_cases valid : validGraphId id = true
      · have present : graph.sources.contains id = true := by
          by_contra missing
          exact refused ⟨id, named, valid,
            HashTable.contains_eq_false.mp (Bool.eq_false_iff.mpr missing)⟩
        simp only [createSource, named, present, if_true, ite_self]
      · simp only [createSource, named, valid, Bool.not_false, if_true]

theorem createScene_eq
    {params : SceneCreateParams}
    (named : params.id = some id)
    (valid : validGraphId id = true)
    (absent : graph.scenes.lookup id = none) :
    graph.createScene (some params) =
      (.ok, { graph with
        scenes := graph.scenes.insert id (newScene id params)
        activeSceneId := some (graph.activeSceneId.getD id) }.bumpVersion) := by
  simp only [createScene, named, valid, HashTable.contains_eq_false.mpr absent,
    Bool.not_true, Bool.false_eq_true, if_false]

theorem createScene_refused
    {params : SceneCreateParams}
    (refused : ¬Creatable graph.scenes params.id) :
    graph.createScene (some params) = (.inval, graph) := by
  cases named : params.id with
  | none => simp only [createScene, named]
  | some id =>
      by_cases valid : validGraphId id = true
      · have present : graph.scenes.contains id = true := by
          by_contra missing
          exact refused ⟨id, named, valid,
            HashTable.contains_eq_false.mp (Bool.eq_false_iff.mpr missing)⟩
        simp only [createScene, named, present, if_true, ite_self]
      · simp only [createScene, named, valid, Bool.not_false, if_true]

theorem createOutput_eq
    {params : OutputCreateParams}
    (named : params.id = some id)
    (valid : validGraphId id = true)
    (absent : graph.outputs.lookup id = none) :
    graph.createOutput (some params) =
      (.ok, { graph with
        outputs := graph.outputs.insert id (newOutput id params) }.bumpVersion) := by
  simp only [createOutput, named, valid, HashTable.contains_eq_false.mpr absent,
    Bool.not_true, Bool.false_eq_true, if_false]

theorem createTransition_eq
    {params : TransitionCreateParams}
    (named : params.id = some id)
    (valid : validGraphId id = true)
    (absent : graph.transitions.lookup id = none) :
    graph.createTransition (some params) =
      (.ok, { graph with
        transitions :=
          graph.transitions.insert id (newTransition id params) }.bumpVersion) := by
  simp only [createTransition, named, valid, HashTable.contains_eq_false.mpr absent,
    Bool.not_true, Bool.false_eq_true, if_false]

theorem addItem_eq
    {sceneId sourceId : CStr}
    {params : SceneItemCreateParams}
    {scene : SceneState}
    {source : SourceState}
    (sourced : params.sourceId = some sourceId)
    (found : graph.scenes.lookup sceneId = some scene)
    (sourceFound : graph.sources.lookup sourceId = some source)
    (fresh : ∀ id, params.id = some id → scene.findItem id = none) :
    graph.addItem (some sceneId) (some params) =
      (.ok, (graph.modifyScene sceneId
        (·.addItem (newItem params source sourceId))).bumpVersion) := by
  have unused : (params.id.bind scene.findItem).isSome = false := by
    cases named : params.id with
    | none => rfl
    | some id => simp only [Option.bind_some, fresh id named, Option.isSome_none]
  simp only [addItem, sourced, getScene, getSource, found, sourceFound, unused,
    Bool.false_eq_true, if_false]

end SceneGraph

namespace Config

open CLib SceneGraph

variable {graph : SceneGraph}

/-- The filters after one element of a filter array was offered. -/
def appendFilter (filters : List FilterState) (filter : CJson) : List FilterState :=
  match (filterParams filter).type with
  | none => filters
  | some type =>
      match filterArrayAdd type (filterParams filter) filters with
      | .ok extended => extended
      | .error _ => filters

variable {sourceId sceneId id : CStr}

variable {source : SourceState} {scene : SceneState}

/-- Writing back the filters of a source changes nothing. -/
private theorem modifySource_same
    (found : graph.sources.lookup sourceId = some source) :
    graph.modifySource sourceId ({ · with filters := source.filters }) = graph := by
  unfold modifySource
  rw [HashTable.modify_eq_self]
  intro stored lookedUp
  rw [found] at lookedUp
  cases lookedUp
  rfl

/-- Writing back the filters of a scene changes nothing. -/
private theorem modifyScene_same
    (found : graph.scenes.lookup sceneId = some scene) :
    graph.modifyScene sceneId ({ · with filters := scene.filters }) = graph := by
  unfold modifyScene
  rw [HashTable.modify_eq_self]
  intro stored lookedUp
  rw [found] at lookedUp
  cases lookedUp
  rfl

theorem addFilter_appendFilter
    (found : graph.sources.lookup sourceId = some source)
    (filter : CJson) :
    ∃ version, (graph.addFilter (some sourceId) (some (filterParams filter))).2 =
      { graph.modifySource sourceId
          ({ · with filters := appendFilter source.filters filter }) with
        version := version } := by
  unfold addFilter appendFilter
  cases typed : (filterParams filter).type with
  | none =>
      refine ⟨graph.version, ?_⟩
      simp only [Option.bind_some, typed, modifySource_same found]
  | some type =>
      simp only [Option.bind_some, typed, editSourceFilters, getSource, found]
      cases filterArrayAdd type (filterParams filter) source.filters with
      | error code =>
          refine ⟨graph.version, ?_⟩
          simp only [modifySource_same found]
      | ok extended => exact ⟨_, rfl⟩

theorem addSceneFilter_appendFilter
    (found : graph.scenes.lookup sceneId = some scene)
    (filter : CJson) :
    ∃ version, (graph.addSceneFilter (some sceneId) (some (filterParams filter))).2 =
      { graph.modifyScene sceneId
          ({ · with filters := appendFilter scene.filters filter }) with
        version := version } := by
  unfold addSceneFilter appendFilter
  cases typed : (filterParams filter).type with
  | none =>
      refine ⟨graph.version, ?_⟩
      simp only [Option.bind_some, typed, modifyScene_same found]
  | some type =>
      simp only [Option.bind_some, typed, editSceneFilters, getScene, found]
      cases filterArrayAdd type (filterParams filter) scene.filters with
      | error code =>
          refine ⟨graph.version, ?_⟩
          simp only [modifyScene_same found]
      | ok extended => exact ⟨_, rfl⟩

variable (graph : SceneGraph)

/-- The loop over a filter array changes the filters of one source. -/
theorem foldl_addFilter
    (found : graph.sources.lookup sourceId = some source)
    (filters : List CJson) :
    ∃ version,
      filters.foldl (fun graph filter =>
        (graph.addFilter (some sourceId) (some (filterParams filter))).2) graph =
      { graph.modifySource sourceId
          ({ · with filters := filters.foldl appendFilter source.filters }) with
        version := version } := by
  induction filters generalizing graph source with
  | nil =>
      refine ⟨graph.version, ?_⟩
      simp only [List.foldl_nil, modifySource_same found]
  | cons filter rest ih =>
      obtain ⟨version, added⟩ := addFilter_appendFilter found filter
      have stored :
          (graph.sources.modify sourceId
            ({ · with filters := appendFilter source.filters filter })).lookup sourceId =
            some { source with filters := appendFilter source.filters filter } := by
        rw [HashTable.lookup_modify, if_pos rfl, found]
        rfl
      rw [List.foldl_cons, added]
      obtain ⟨last, folded⟩ := ih
        { graph.modifySource sourceId
          ({ · with filters := appendFilter source.filters filter }) with
            version := version } stored
      refine ⟨last, folded.trans ?_⟩
      simp only [modifySource, HashTable.modify_modify, List.foldl_cons]

/-- The loop over a filter array changes the filters of one scene. -/
theorem foldl_addSceneFilter
    (found : graph.scenes.lookup sceneId = some scene)
    (filters : List CJson) :
    ∃ version,
      filters.foldl (fun graph filter =>
        (graph.addSceneFilter (some sceneId) (some (filterParams filter))).2) graph =
      { graph.modifyScene sceneId
          ({ · with filters := filters.foldl appendFilter scene.filters }) with
        version := version } := by
  induction filters generalizing graph scene with
  | nil =>
      refine ⟨graph.version, ?_⟩
      simp only [List.foldl_nil, modifyScene_same found]
  | cons filter rest ih =>
      obtain ⟨version, added⟩ := addSceneFilter_appendFilter found filter
      have stored :
          (graph.scenes.modify sceneId
            ({ · with filters := appendFilter scene.filters filter })).lookup sceneId =
            some { scene with filters := appendFilter scene.filters filter } := by
        rw [HashTable.lookup_modify, if_pos rfl, found]
        rfl
      rw [List.foldl_cons, added]
      obtain ⟨last, folded⟩ := ih
        { graph.modifyScene sceneId
          ({ · with filters := appendFilter scene.filters filter }) with
            version := version } stored
      refine ⟨last, folded.trans ?_⟩
      simp only [modifyScene, HashTable.modify_modify, List.foldl_cons]

theorem loadFilterArrayForSource_eq
    (sourceId : CStr)
    (filters : Option CJson)
    (onlyIfEmpty : Bool) :
    ∃ change version,
      loadFilterArrayForSource graph sourceId filters onlyIfEmpty =
        { graph.modifySource sourceId change with version := version } := by
  have same : graph.sources.modify sourceId id = graph.sources :=
    HashTable.modify_eq_self fun _ _ => rfl
  have unchanged : graph = { graph.modifySource sourceId id with version := graph.version } := by
    simp only [modifySource, same]
  unfold loadFilterArrayForSource getSource
  split
  · exact ⟨id, graph.version, unchanged⟩
  · next source found =>
      split
      · exact ⟨id, graph.version, unchanged⟩
      · obtain ⟨version, folded⟩ := foldl_addFilter graph found (CJson.arrayItems filters)
        exact ⟨_, version, folded⟩

/-! ## Sources -/

/-- The source that an accepted entry becomes. -/
def loadedSource (id : CStr) (entry : CJson) (kind : SourceKind) : SourceState :=
  let config := jsonObjectToMap (CJson.getObjectItem (some entry) "config")
  let filters := CJson.arrayItems (CJson.getObjectItem (some entry) "filters")
  { newSource id (sourceParams (some id) entry kind) with
    keepAlive := (kind = .v4l2src ∨ kind = .vfmcap) ||
      CJson.boolean (some entry) "keep_alive" false
    config := config
    filters := filters.foldl appendFilter []
    audio := loadSourceAudio entry kind config }

/-- Loading filters into a source that was just inserted. -/
private theorem loadFilterArray_inserted
    (id : CStr)
    (source : SourceState)
    (absent : graph.sources.lookup id = none)
    (filters : Option CJson)
    (version : UInt64) :
    ∃ last,
      loadFilterArrayForSource
          { graph with sources := graph.sources.insert id source, version := version }
          id filters false =
        { graph with
          sources := graph.sources.insert id
            { source with
              filters := (CJson.arrayItems filters).foldl appendFilter source.filters }
          version := last } := by
  let inserted := { graph with sources := graph.sources.insert id source, version := version }
  have found : inserted.sources.lookup id = some source := by
    rw [HashTable.lookup_insert, if_pos rfl]
  obtain ⟨last, folded⟩ := foldl_addFilter inserted found (CJson.arrayItems filters)
  refine ⟨last, ?_⟩
  have opened : loadFilterArrayForSource inserted id filters false =
      (CJson.arrayItems filters).foldl (fun graph filter =>
        (graph.addFilter (some id) (some (filterParams filter))).2) inserted := by
    simp only [loadFilterArrayForSource, getSource, found, Bool.false_and,
      Bool.false_eq_true, if_false]
  rw [opened, folded]
  simp only [modifySource, inserted, HashTable.modify_insert absent]

theorem loadSource_eq
    (valid : validGraphId id = true)
    (absent : graph.sources.lookup id = none)
    (entry : CJson)
    (kind : SourceKind) :
    ∃ version, loadSource graph (some id) entry kind =
      { graph with
        sources := graph.sources.insert id (loadedSource id entry kind)
        version := version } := by
  have created :
      graph.createSource (some (sourceParams (some id) entry kind)) =
        (.ok, { graph with
          sources := graph.sources.insert id
            (newSource id (sourceParams (some id) entry kind)) }.bumpVersion) :=
    createSource_eq rfl valid absent
  unfold loadSource
  simp only [created, bumpVersion, modifySource]
  by_cases capture : kind = .v4l2src ∨ kind = .vfmcap
  · simp only [capture, if_true, HashTable.modify_insert absent]
    obtain ⟨version, loaded⟩ := loadFilterArray_inserted graph id _ absent
      (CJson.getObjectItem (some entry) "filters") (graph.version + 1)
    refine ⟨version, ?_⟩
    rw [loaded]
    simp only [HashTable.modify_insert absent, loadedSource, capture, decide_true,
      Bool.true_or]
    rfl
  · simp only [capture, if_false, HashTable.modify_insert absent]
    obtain ⟨version, loaded⟩ := loadFilterArray_inserted graph id _ absent
      (CJson.getObjectItem (some entry) "filters") (graph.version + 1)
    refine ⟨version, ?_⟩
    rw [loaded]
    simp only [HashTable.modify_insert absent, loadedSource, capture, decide_false,
      Bool.false_or]
    rfl

/-- An entry whose key is not accepted is skipped. -/
theorem loadSource_refused
    {key : Option CStr}
    (refused : ¬Creatable graph.sources key)
    (entry : CJson)
    (kind : SourceKind) :
    loadSource graph key entry kind = graph := by
  have failed :
      graph.createSource (some (sourceParams key entry kind)) = (.inval, graph) :=
    createSource_refused refused
  unfold loadSource
  rw [failed]
  cases key <;> rfl

/-- The scene that an accepted entry becomes before its items are loaded. -/
def openedScene (id : CStr) (entry : CJson) : SceneState :=
  let filters := CJson.arrayItems (CJson.getObjectItem (some entry) "filters")
  { newScene id { id := some id, name := CJson.str (some entry) "name" } with
    filters := filters.foldl appendFilter [] }

theorem loadScene_eq
    (valid : validGraphId id = true)
    (absent : graph.scenes.lookup id = none)
    (entry : CJson) :
    ∃ version, loadScene graph (some id, entry) =
      (CJson.arrayItems (CJson.getObjectItem (some entry) "items")).foldl (loadItem id)
        { graph with
          scenes := graph.scenes.insert id (openedScene id entry)
          activeSceneId := some (graph.activeSceneId.getD id)
          version := version } := by
  let params : SceneCreateParams :=
    { id := some id, name := CJson.str (some entry) "name" }
  let created := { graph with
    scenes := graph.scenes.insert id (newScene id params)
    activeSceneId := some (graph.activeSceneId.getD id) }.bumpVersion
  have creates : graph.createScene (some params) = (.ok, created) :=
    createScene_eq rfl valid absent
  have found : created.scenes.lookup id = some (newScene id params) := by
    simp only [created, bumpVersion, HashTable.lookup_insert, if_true]
  obtain ⟨version, folded⟩ := foldl_addSceneFilter created found
    (CJson.arrayItems (CJson.getObjectItem (some entry) "filters"))
  refine ⟨version, ?_⟩
  unfold loadScene loadFilterArrayForScene
  simp only [creates, params] at *
  rw [folded]
  simp only [modifyScene, created, bumpVersion, HashTable.modify_insert absent,
    openedScene]
  rfl

theorem loadScene_refused
    {entry : Option CStr × CJson}
    (refused : ¬Creatable graph.scenes entry.1) :
    loadScene graph entry = graph := by
  have failed :
      graph.createScene (some { id := entry.1, name := CJson.str (some entry.2) "name" }) =
        (.inval, graph) :=
    createScene_refused refused
  unfold loadScene
  simp only [failed]
  cases entry.1 <;> rfl

/-- The id under which an item of a bundle is added. -/
def effectiveId (item : CJson) : CStr :=
  (CJson.str (some item) "id").getD "item-auto"

/-- An item with an unused id and an existing source is added to its scene; its
filters can only change its source. -/
theorem loadItem_eq
    {item : CJson}
    (sourced : CJson.str (some item) "source_id" = some sourceId)
    (found : graph.scenes.lookup sceneId = some scene)
    (sourceFound : graph.sources.lookup sourceId = some source)
    (fresh : ∀ id, CJson.str (some item) "id" = some id → scene.findItem id = none) :
    loadItem sceneId graph item =
      loadFilterArrayForSource
        (graph.modifyScene sceneId
          (·.addItem (newItem (itemParams item) source sourceId))).bumpVersion
        sourceId (CJson.getObjectItem (some item) "filters") true := by
  have named : (itemParams item).sourceId = some sourceId := sourced
  have added := addItem_eq named found sourceFound fresh
  unfold loadItem
  simp only [named, added]

/-- An item is skipped when its explicit id is in use. -/
theorem loadItem_refused
    {item : CJson}
    (found : graph.scenes.lookup sceneId = some scene)
    (named : CJson.str (some item) "id" = some id)
    (used : (scene.findItem id).isSome = true) :
    loadItem sceneId graph item = graph := by
  have blocked : ((itemParams item).id.bind scene.findItem).isSome = true := by
    have given : (itemParams item).id = some id := named
    simp only [given, Option.bind_some, used]
  unfold loadItem
  cases sourced : (itemParams item).sourceId with
  | none => simp only [addItem, sourced]
  | some sourceId =>
      cases sourceFound : graph.sources.lookup sourceId with
      | none => simp only [addItem, sourced, getScene, getSource, found, sourceFound]
      | some source =>
          simp only [addItem, sourced, getScene, getSource, found, sourceFound, blocked,
            if_true]

end Config
end SbsServer
