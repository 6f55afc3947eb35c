import SbsServer.SceneGraph.State

/-!
# Operations of the scene graph

The functions `sbs_scene_graph_*` that change a graph.  Each returns a result
code together with the graph it leaves behind, so a function that fails after
it has written something shows it.  Arguments that may be NULL are options, and
a graph argument is never NULL.
-/

namespace SbsServer
namespace SceneGraph

open CLib

/-- `sbs_source_create_params_t`. -/
structure SourceCreateParams where
  id : Option CStr
  name : Option CStr
  kind : SourceKind
  enabled : Bool
  keepAlive : Bool
  config : Option StrMap

/-- `sbs_source_update_params_t`. -/
structure SourceUpdateParams where
  setName : Bool
  name : Option CStr
  setEnabled : Bool
  enabled : Bool
  setKeepAlive : Bool
  keepAlive : Bool
  setConfig : Bool
  config : Option StrMap

/-- `sbs_scene_create_params_t`. -/
structure SceneCreateParams where
  id : Option CStr
  name : Option CStr

/-- `sbs_scene_item_create_params_t`. -/
structure SceneItemCreateParams where
  id : Option CStr
  sourceId : Option CStr
  visible : Bool
  locked : Bool
  zOrder : Int32
  transform : SceneItemTransform
  audio : Option AudioBinding

/-- `sbs_scene_item_update_params_t`. -/
structure SceneItemUpdateParams where
  setVisible : Bool
  visible : Bool
  setLocked : Bool
  locked : Bool
  setZOrder : Bool
  zOrder : Int32
  setTransform : Bool
  transform : SceneItemTransform

/-- `sbs_filter_create_params_t`. -/
structure FilterCreateParams where
  id : Option CStr
  type : Option CStr
  enabled : Bool
  params : Option StrMap

/-- `sbs_filter_update_params_t`. -/
structure FilterUpdateParams where
  setEnabled : Bool
  enabled : Bool
  params : Option StrMap

/-- `sbs_output_create_params_t`. -/
structure OutputCreateParams where
  id : Option CStr
  name : Option CStr
  enabled : Bool
  autostart : Bool

/-- `sbs_transition_create_params_t`. -/
structure TransitionCreateParams where
  id : Option CStr
  kind : TransitionKind
  durationMs : UInt32

/-- `graph_bump_version`. -/
def bumpVersion (graph : SceneGraph) : SceneGraph :=
  { graph with version := graph.version + 1 }

/-- Change through the pointer of `sbs_scene_graph_get_source`. -/
def modifySource
    (graph : SceneGraph)
    (id : CStr)
    (change : SourceState → SourceState) : SceneGraph :=
  { graph with sources := graph.sources.modify id change }

/-- Change through the pointer of `sbs_scene_graph_get_scene`. -/
def modifyScene
    (graph : SceneGraph)
    (id : CStr)
    (change : SceneState → SceneState) : SceneGraph :=
  { graph with scenes := graph.scenes.modify id change }

/-- Change through the pointer of `scene_find_item`. -/
def SceneState.modifyItem
    (scene : SceneState)
    (itemId : CStr)
    (change : SceneItemState → SceneItemState) : SceneState :=
  { scene with
    items := PtrArray.modifyFirst (fun item => item.id = itemId) change scene.items }

/-- The source that `sbs_scene_graph_create_source` allocates. -/
def newSource (id : CStr) (params : SourceCreateParams) : SourceState where
  id := id
  name := params.name.getD id
  kind := params.kind
  enabled := params.enabled
  keepAlive := params.keepAlive
  config := params.config.getD .empty
  filters := []
  audio := { AudioBinding.zero with
    volume := .finite 1
    leftGain := .finite 1
    rightGain := .finite 1 }
  frameStats := { produced := 0, dropped := 0, consumed := 0, held := 0 }
  frameWidth := 0
  frameHeight := 0
  running := false
  muted := false
  runtimeState := some "created"
  v4l2EffectiveDecodeMode := none
  errorMessage := none

/-- `sbs_scene_graph_create_source`. -/
def createSource
    (graph : SceneGraph)
    (params : Option SourceCreateParams) : SbsResult × SceneGraph :=
  match params with
  | none => (.inval, graph)
  | some params =>
      match params.id with
      | none => (.inval, graph)
      | some id =>
          if !validGraphId id then (.inval, graph)
          else if graph.sources.contains id then (.inval, graph)
          else (.ok, { graph with
            sources := graph.sources.insert id (newSource id params) }.bumpVersion)

/-- The fields that `sbs_scene_graph_update_source` writes. -/
def SourceState.update
    (source : SourceState)
    (params : SourceUpdateParams) : SourceState :=
  { source with
    name := if params.setName then params.name.getD source.name else source.name
    enabled := if params.setEnabled then params.enabled else source.enabled
    keepAlive := if params.setKeepAlive then params.keepAlive else source.keepAlive
    config := if params.setConfig then params.config.getD source.config else source.config }

/-- `sbs_scene_graph_update_source`. -/
def updateSource
    (graph : SceneGraph)
    (id : Option CStr)
    (params : Option SourceUpdateParams) : SbsResult × SceneGraph :=
  match id, params with
  | some id, some params =>
      match graph.getSource id with
      | none => (.notFound, graph)
      | some _ => (.ok, (graph.modifySource id (·.update params)).bumpVersion)
  | _, _ => (.inval, graph)

/-- A scene without the items that show a source. -/
def SceneState.dropSource (scene : SceneState) (id : CStr) : SceneState :=
  { scene with items := scene.items.filter fun item => item.sourceId ≠ id }

/-- `sbs_scene_graph_remove_source`. -/
def removeSource
    (graph : SceneGraph)
    (id : Option CStr) : SbsResult × SceneGraph :=
  match id with
  | none => (.inval, graph)
  | some id =>
      if !graph.sources.contains id then (.notFound, graph)
      else
        (.ok, { graph with
          scenes := graph.scenes.mapValues fun _ (scene : SceneState) => scene.dropSource id
          sources := graph.sources.remove id }.bumpVersion)

/-- `sbs_scene_graph_steal_source`, which hands the source to its caller and
leaves the items that show it. -/
def stealSource
    (graph : SceneGraph)
    (id : Option CStr) : Option SourceState × SceneGraph :=
  match id with
  | none => (none, graph)
  | some id =>
      match graph.getSource id with
      | none => (none, graph)
      | some source => (some source, { graph with sources := graph.sources.remove id })

/-- The scene that `sbs_scene_graph_create_scene` allocates. -/
def newScene (id : CStr) (params : SceneCreateParams) : SceneState where
  id := id
  name := params.name.getD id
  items := []
  filters := []

/-- `sbs_scene_graph_create_scene`. -/
def createScene
    (graph : SceneGraph)
    (params : Option SceneCreateParams) : SbsResult × SceneGraph :=
  match params with
  | none => (.inval, graph)
  | some params =>
      match params.id with
      | none => (.inval, graph)
      | some id =>
          if !validGraphId id then (.inval, graph)
          else if graph.scenes.contains id then (.inval, graph)
          else (.ok, { graph with
            scenes := graph.scenes.insert id (newScene id params)
            activeSceneId := some (graph.activeSceneId.getD id) }.bumpVersion)

/-- `sbs_scene_graph_update_scene_name`. -/
def updateSceneName
    (graph : SceneGraph)
    (id name : Option CStr) : SbsResult × SceneGraph :=
  match id.bind graph.getScene, id, name with
  | some _, some id, some name =>
      (.ok, (graph.modifyScene id ({ · with name := name })).bumpVersion)
  | some _, _, _ => (.inval, graph)
  | none, _, _ => (.notFound, graph)

/-- `sbs_scene_graph_remove_scene`. -/
def removeScene
    (graph : SceneGraph)
    (id : Option CStr) : SbsResult × SceneGraph :=
  match id with
  | none => (.inval, graph)
  | some id =>
      if !graph.scenes.contains id then (.notFound, graph)
      else if graph.activeSceneId = some id then (.inval, graph)
      else
        (.ok, { graph with
          previewSceneId :=
            if graph.previewSceneId = some id then none else graph.previewSceneId
          scenes := graph.scenes.remove id }.bumpVersion)

/-- The item that `sbs_scene_graph_add_item` allocates for a source. -/
def newItem
    (params : SceneItemCreateParams)
    (source : SourceState)
    (sourceId : CStr) : SceneItemState where
  id := params.id.getD "item-auto"
  sourceId := sourceId
  visible := params.visible
  locked := params.locked
  zOrder := params.zOrder
  transform := sceneItemTransformCopy params.transform
  audio := audioBindingCopy (some (params.audio.getD source.audio))
  filters := []

/-- A scene with one more item, sorted again. -/
def SceneState.addItem (scene : SceneState) (item : SceneItemState) : SceneState :=
  { scene with items := scene.items ++ [item] }.sortItems

/-- `sbs_scene_graph_add_item`. -/
def addItem
    (graph : SceneGraph)
    (sceneId : Option CStr)
    (params : Option SceneItemCreateParams) : SbsResult × SceneGraph :=
  match sceneId, params with
  | some sceneId, some params =>
      match params.sourceId with
      | none => (.inval, graph)
      | some sourceId =>
          match graph.getScene sceneId with
          | none => (.notFound, graph)
          | some scene =>
              match graph.getSource sourceId with
              | none => (.notFound, graph)
              | some source =>
                  if (params.id.bind scene.findItem).isSome then (.inval, graph)
                  else (.ok, (graph.modifyScene sceneId
                    (·.addItem (newItem params source sourceId))).bumpVersion)
  | _, _ => (.inval, graph)

/-- The fields that `sbs_scene_graph_update_item` writes. -/
def SceneItemState.update
    (item : SceneItemState)
    (params : SceneItemUpdateParams) : SceneItemState :=
  { item with
    visible := if params.setVisible then params.visible else item.visible
    locked := if params.setLocked then params.locked else item.locked
    zOrder := if params.setZOrder then params.zOrder else item.zOrder
    transform :=
      if params.setTransform then sceneItemTransformCopy params.transform
      else item.transform }

/-- `sbs_scene_graph_update_item`. -/
def updateItem
    (graph : SceneGraph)
    (sceneId itemId : Option CStr)
    (params : Option SceneItemUpdateParams) : SbsResult × SceneGraph :=
  match sceneId, itemId, params with
  | some sceneId, some itemId, some params =>
      match graph.getScene sceneId with
      | none => (.notFound, graph)
      | some scene =>
          match scene.findItem itemId with
          | none => (.notFound, graph)
          | some _ =>
              (.ok, (graph.modifyScene sceneId fun scene =>
                (scene.modifyItem itemId (·.update params)).sortItems).bumpVersion)
  | _, _, _ => (.inval, graph)

/-- `sbs_scene_graph_update_item_audio`. -/
def updateItemAudio
    (graph : SceneGraph)
    (sceneId itemId : Option CStr)
    (audio : Option AudioBinding) : SbsResult × SceneGraph :=
  match sceneId, itemId, audio with
  | some sceneId, some itemId, some audio =>
      match (graph.getScene sceneId).bind (·.findItem itemId) with
      | none => (.notFound, graph)
      | some _ =>
          (.ok, (graph.modifyScene sceneId fun scene =>
            scene.modifyItem itemId
              ({ · with audio := audioBindingCopy (some audio) })).bumpVersion)
  | _, _, _ => (.inval, graph)

/-- A scene without the item that `scene_find_item` finds. -/
def SceneState.removeItem (scene : SceneState) (itemId : CStr) : SceneState :=
  { scene with items := scene.items.eraseP fun item => item.id = itemId }

/-- `sbs_scene_graph_remove_item`. -/
def removeItem
    (graph : SceneGraph)
    (sceneId itemId : Option CStr) : SbsResult × SceneGraph :=
  match sceneId, itemId with
  | some sceneId, some itemId =>
      match graph.getScene sceneId with
      | none => (.notFound, graph)
      | some scene =>
          match scene.findItem itemId with
          | none => (.notFound, graph)
          | some _ =>
              (.ok, (graph.modifyScene sceneId (·.removeItem itemId)).bumpVersion)
  | _, _ => (.inval, graph)

/-- The value `(int)(i * 10)` that position `i` of a reordering receives. -/
def orderAt (index : Nat) : Int32 :=
  Int32.ofNat (index * 10)

/-- The loop of `sbs_scene_graph_reorder_items`, from one index on. -/
def reorderLoop (scene : SceneState) (index : Nat) :
    List (Option CStr) → SbsResult × SceneState
  | [] => (.ok, scene)
  | itemId :: rest =>
      match itemId with
      | none => (.notFound, scene)
      | some itemId =>
          match scene.findItem itemId with
          | none => (.notFound, scene)
          | some _ =>
              reorderLoop
                (scene.modifyItem itemId ({ · with zOrder := orderAt index }))
                (index + 1) rest

/-- `sbs_scene_graph_reorder_items`; `itemIds` holds `item_count` pointers. -/
def reorderItems
    (graph : SceneGraph)
    (sceneId : Option CStr)
    (itemIds : Option (List (Option CStr))) : SbsResult × SceneGraph :=
  match sceneId, itemIds with
  | some sceneId, some itemIds =>
      match graph.getScene sceneId with
      | none => (.notFound, graph)
      | some scene =>
          if itemIds.length ≠ scene.items.length then (.inval, graph)
          else
            match reorderLoop scene 0 itemIds with
            | (.ok, written) =>
                (.ok, (graph.modifyScene sceneId fun _ => written.sortItems).bumpVersion)
            -- The early return keeps the orders written before it.
            | (code, written) => (code, graph.modifyScene sceneId fun _ => written)
  | _, _ => (.inval, graph)

/-! ## Filters -/

/-- The filter that `add_filter` and `add_scene_filter` allocate. -/
def newFilter (type : CStr) (params : FilterCreateParams) : FilterState where
  id := params.id.getD "filter-auto"
  type := type
  enabled := params.enabled
  params := filterParamsCopy type params.params

/-- The array after `add_filter` or `add_scene_filter`, which refuse an id
already in it. -/
def filterArrayAdd
    (type : CStr)
    (params : FilterCreateParams)
    (filters : List FilterState) : Except SbsResult (List FilterState) :=
  if (params.id.bind (filterArrayFind filters)).isSome then .error .inval
  else .ok (filters ++ [newFilter type params])

/-- The change that `update_filter` and `update_scene_filter` make. -/
def FilterState.update
    (filter : FilterState)
    (params : FilterUpdateParams) : FilterState :=
  { filter with
    enabled := if params.setEnabled then params.enabled else filter.enabled
    params := match params.params with
      | some source => filterParamsCopy filter.type (some source)
      | none => filter.params }

/-- The array after `update_filter` or `update_scene_filter`. -/
def filterArrayUpdate
    (filterId : CStr)
    (params : FilterUpdateParams)
    (filters : List FilterState) : Except SbsResult (List FilterState) :=
  match filterArrayFind filters filterId with
  | none => .error .notFound
  | some _ =>
      .ok (PtrArray.modifyFirst (fun filter => filter.id = filterId)
        (·.update params) filters)

/-- The array after `remove_filter` or `remove_scene_filter`. -/
def filterArrayRemove
    (filterId : CStr)
    (filters : List FilterState) : Except SbsResult (List FilterState) :=
  match filterArrayFind filters filterId with
  | none => .error .notFound
  | some _ => .ok (filters.eraseP fun filter => filter.id = filterId)

/-- An edit of the filters of a source. -/
def editSourceFilters
    (graph : SceneGraph)
    (sourceId : CStr)
    (edit : List FilterState → Except SbsResult (List FilterState)) :
    SbsResult × SceneGraph :=
  match graph.getSource sourceId with
  | none => (.notFound, graph)
  | some source =>
      match edit source.filters with
      | .error code => (code, graph)
      | .ok filters =>
          (.ok, (graph.modifySource sourceId ({ · with filters := filters })).bumpVersion)

/-- An edit of the filters of a scene. -/
def editSceneFilters
    (graph : SceneGraph)
    (sceneId : CStr)
    (edit : List FilterState → Except SbsResult (List FilterState)) :
    SbsResult × SceneGraph :=
  match graph.getScene sceneId with
  | none => (.notFound, graph)
  | some scene =>
      match edit scene.filters with
      | .error code => (code, graph)
      | .ok filters =>
          (.ok, (graph.modifyScene sceneId ({ · with filters := filters })).bumpVersion)

/-- `sbs_scene_graph_add_filter`. -/
def addFilter
    (graph : SceneGraph)
    (sourceId : Option CStr)
    (params : Option FilterCreateParams) : SbsResult × SceneGraph :=
  match sourceId, params, params.bind (·.type) with
  | some sourceId, some params, some type =>
      graph.editSourceFilters sourceId (filterArrayAdd type params)
  | _, _, _ => (.inval, graph)

/-- `sbs_scene_graph_add_scene_filter`. -/
def addSceneFilter
    (graph : SceneGraph)
    (sceneId : Option CStr)
    (params : Option FilterCreateParams) : SbsResult × SceneGraph :=
  match sceneId, params, params.bind (·.type) with
  | some sceneId, some params, some type =>
      graph.editSceneFilters sceneId (filterArrayAdd type params)
  | _, _, _ => (.inval, graph)

/-- `sbs_scene_graph_update_filter`. -/
def updateFilter
    (graph : SceneGraph)
    (sourceId filterId : Option CStr)
    (params : Option FilterUpdateParams) : SbsResult × SceneGraph :=
  match sourceId, filterId, params with
  | some sourceId, some filterId, some params =>
      graph.editSourceFilters sourceId (filterArrayUpdate filterId params)
  | _, _, _ => (.inval, graph)

/-- `sbs_scene_graph_update_scene_filter`. -/
def updateSceneFilter
    (graph : SceneGraph)
    (sceneId filterId : Option CStr)
    (params : Option FilterUpdateParams) : SbsResult × SceneGraph :=
  match sceneId, filterId, params with
  | some sceneId, some filterId, some params =>
      graph.editSceneFilters sceneId (filterArrayUpdate filterId params)
  | _, _, _ => (.inval, graph)

/-- `sbs_scene_graph_remove_filter`. -/
def removeFilter
    (graph : SceneGraph)
    (sourceId filterId : Option CStr) : SbsResult × SceneGraph :=
  match sourceId, filterId with
  | some sourceId, some filterId =>
      graph.editSourceFilters sourceId (filterArrayRemove filterId)
  | _, _ => (.inval, graph)

/-- `sbs_scene_graph_remove_scene_filter`. -/
def removeSceneFilter
    (graph : SceneGraph)
    (sceneId filterId : Option CStr) : SbsResult × SceneGraph :=
  match sceneId, filterId with
  | some sceneId, some filterId =>
      graph.editSceneFilters sceneId (filterArrayRemove filterId)
  | _, _ => (.inval, graph)

/-- The output that `sbs_scene_graph_create_output` allocates. -/
def newOutput (id : CStr) (params : OutputCreateParams) : OutputState where
  id := id
  name := params.name.getD id
  enabled := params.enabled
  autostart := params.autostart
  encoder := .empty
  sinks := []
  running := false
  runtimeState := some "created"

/-- `sbs_scene_graph_create_output`. -/
def createOutput
    (graph : SceneGraph)
    (params : Option OutputCreateParams) : SbsResult × SceneGraph :=
  match params with
  | none => (.inval, graph)
  | some params =>
      match params.id with
      | none => (.inval, graph)
      | some id =>
          if !validGraphId id then (.inval, graph)
          else if graph.outputs.contains id then (.inval, graph)
          else (.ok, { graph with
            outputs := graph.outputs.insert id (newOutput id params) }.bumpVersion)

/-- `sbs_scene_graph_remove_output`. -/
def removeOutput
    (graph : SceneGraph)
    (id : Option CStr) : SbsResult × SceneGraph :=
  match id with
  | none => (.inval, graph)
  | some id =>
      if !graph.outputs.contains id then (.notFound, graph)
      else (.ok, { graph with outputs := graph.outputs.remove id }.bumpVersion)

/-- The transition that `sbs_scene_graph_create_transition` allocates. -/
def newTransition (id : CStr) (params : TransitionCreateParams) : TransitionState where
  id := id
  kind := params.kind
  durationMs := params.durationMs
  params := .empty

/-- `sbs_scene_graph_create_transition`. -/
def createTransition
    (graph : SceneGraph)
    (params : Option TransitionCreateParams) : SbsResult × SceneGraph :=
  match params with
  | none => (.inval, graph)
  | some params =>
      match params.id with
      | none => (.inval, graph)
      | some id =>
          if !validGraphId id then (.inval, graph)
          else if graph.transitions.contains id then (.inval, graph)
          else (.ok, { graph with
            transitions :=
              graph.transitions.insert id (newTransition id params) }.bumpVersion)

/-- `sbs_scene_graph_update_transition`. -/
def updateTransition
    (graph : SceneGraph)
    (transitionId : Option CStr)
    (durationMs : UInt32) : SbsResult × SceneGraph :=
  match transitionId with
  | none => (.inval, graph)
  | some transitionId =>
      match graph.getTransition transitionId with
      | none => (.notFound, graph)
      | some _ =>
          (.ok, { graph with
            transitions := graph.transitions.modify transitionId
              ({ · with durationMs := durationMs }) }.bumpVersion)

/-- `sbs_scene_graph_set_default_transition`. -/
def setDefaultTransition
    (graph : SceneGraph)
    (transitionId : Option CStr) : SbsResult × SceneGraph :=
  match transitionId with
  | none => (.inval, graph)
  | some transitionId =>
      match graph.getTransition transitionId with
      | none => (.notFound, graph)
      | some _ =>
          (.ok, { graph with defaultTransitionId := some transitionId }.bumpVersion)

/-- A transition that is not over at once. -/
def takesTime : Option TransitionState → Bool
  | some transition => transition.kind ≠ .cut && 0 < transition.durationMs
  | none => false

/-- The runtime that `sbs_scene_graph_set_active_scene` starts. -/
def startTransition
    (graph : SceneGraph)
    (sceneId : CStr)
    (resolved : Option CStr)
    (transition : Option TransitionState)
    (now : Int64) : TransitionRuntime :=
  { fromSceneId := graph.activeSceneId
    toSceneId := some sceneId
    transitionId := resolved
    kind := (transition.map (·.kind)).getD .cut
    durationMs := (transition.map (·.durationMs)).getD 0
    progress := if takesTime transition then .finite 0 else .finite 1
    active := takesTime transition
    startTimeUs := now }

/-- The graph with a new active scene and the transition to it started. -/
def activate
    (graph : SceneGraph)
    (sceneId : CStr)
    (resolved : Option CStr)
    (transition : Option TransitionState)
    (now : Int64) : SceneGraph :=
  { graph with
    transitionRuntime := graph.startTransition sceneId resolved transition now
    activeSceneId := some sceneId }

/-- `sbs_scene_graph_set_active_scene`, called at the monotonic time `now`. -/
def setActiveScene
    (graph : SceneGraph)
    (sceneId transitionId : Option CStr)
    (now : Int64) : SbsResult × SceneGraph :=
  match sceneId with
  | none => (.inval, graph)
  | some sceneId =>
      match graph.getScene sceneId with
      | none => (.notFound, graph)
      | some _ =>
          let resolved := transitionId.or graph.defaultTransitionId
          let transition := resolved.bind graph.getTransition
          if resolved.isSome && transition.isNone then (.notFound, graph)
          else
            (.ok, (graph.activate sceneId resolved transition now).bumpVersion)

/-- `sbs_scene_graph_set_preview_scene`. -/
def setPreviewScene
    (graph : SceneGraph)
    (sceneId : Option CStr) : SbsResult × SceneGraph :=
  if sceneId.isSome && (sceneId.bind graph.getScene).isNone then (.notFound, graph)
  else (.ok, { graph with previewSceneId := sceneId }.bumpVersion)

/-- `sbs_scene_graph_transition_to_preview`. -/
def transitionToPreview
    (graph : SceneGraph)
    (transitionId : Option CStr)
    (now : Int64) : SbsResult × SceneGraph :=
  match graph.previewSceneId with
  | none => (.inval, graph)
  | some previewSceneId => graph.setActiveScene (some previewSceneId) transitionId now

/-- `sbs_scene_graph_update_transition_runtime`. -/
def updateTransitionRuntime (graph : SceneGraph) (now : Int64) : SceneGraph :=
  let runtime := graph.transitionRuntime
  if !runtime.active then graph
  else if runtime.durationMs = 0 then
    { graph with
      transitionRuntime := { runtime with progress := .finite 1, active := false } }
  else
    let elapsedMs :=
      (Double.roundToDouble (now - runtime.startTimeUs).toInt).divRat 1000
    let progress := elapsedMs.divRat runtime.durationMs.toNat
    if progress.atLeast 1 then
      { graph with
        transitionRuntime := { runtime with progress := .finite 1, active := false } }
    else { graph with transitionRuntime := { runtime with progress := progress } }

/-- The graph that `sbs_scene_graph_new_default` fills. -/
def blank : SceneGraph where
  canvas := {
    width := 1920
    height := 1080
    fpsNum := 60
    fpsDen := 1
    colorMode := .sdr
    backgroundColor := CharArray.strlcpy 16 "#000000" CanvasState.colorRoom }
  sources := .empty
  scenes := .empty
  outputs := .empty
  transitions := .empty
  activeSceneId := none
  previewSceneId := none
  defaultTransitionId := none
  version := 0
  transitionRuntime := .zero

/-- `sbs_scene_graph_new_default`. -/
def newDefault : SceneGraph :=
  let cut : TransitionCreateParams :=
    { id := some "trans-cut", kind := .cut, durationMs := 0 }
  let fade : TransitionCreateParams :=
    { id := some "trans-fade", kind := .fade, durationMs := 2000 }
  let withCut := (blank.createTransition (some cut)).2
  let withFade := (withCut.createTransition (some fade)).2
  { withFade with defaultTransitionId := some "trans-fade", version := 1 }

/-- A call of a mutating function with its arguments. -/
inductive Op
  | createSource (params : Option SourceCreateParams)
  | updateSource (id : Option CStr) (params : Option SourceUpdateParams)
  | removeSource (id : Option CStr)
  | createScene (params : Option SceneCreateParams)
  | updateSceneName (id name : Option CStr)
  | removeScene (id : Option CStr)
  | addItem (sceneId : Option CStr) (params : Option SceneItemCreateParams)
  | updateItem (sceneId itemId : Option CStr) (params : Option SceneItemUpdateParams)
  | updateItemAudio (sceneId itemId : Option CStr) (audio : Option AudioBinding)
  | removeItem (sceneId itemId : Option CStr)
  | reorderItems (sceneId : Option CStr) (itemIds : Option (List (Option CStr)))
  | addFilter (sourceId : Option CStr) (params : Option FilterCreateParams)
  | addSceneFilter (sceneId : Option CStr) (params : Option FilterCreateParams)
  | updateFilter (sourceId filterId : Option CStr) (params : Option FilterUpdateParams)
  | updateSceneFilter (sceneId filterId : Option CStr) (params : Option FilterUpdateParams)
  | removeFilter (sourceId filterId : Option CStr)
  | removeSceneFilter (sceneId filterId : Option CStr)
  | createOutput (params : Option OutputCreateParams)
  | removeOutput (id : Option CStr)
  | createTransition (params : Option TransitionCreateParams)
  | updateTransition (transitionId : Option CStr) (durationMs : UInt32)
  | setDefaultTransition (transitionId : Option CStr)
  | setActiveScene (sceneId transitionId : Option CStr) (now : Int64)
  | setPreviewScene (sceneId : Option CStr)
  | transitionToPreview (transitionId : Option CStr) (now : Int64)

/-- The call of a function on a graph. -/
def apply (graph : SceneGraph) : Op → SbsResult × SceneGraph
  | .createSource params => graph.createSource params
  | .updateSource id params => graph.updateSource id params
  | .removeSource id => graph.removeSource id
  | .createScene params => graph.createScene params
  | .updateSceneName id name => graph.updateSceneName id name
  | .removeScene id => graph.removeScene id
  | .addItem sceneId params => graph.addItem sceneId params
  | .updateItem sceneId itemId params => graph.updateItem sceneId itemId params
  | .updateItemAudio sceneId itemId audio => graph.updateItemAudio sceneId itemId audio
  | .removeItem sceneId itemId => graph.removeItem sceneId itemId
  | .reorderItems sceneId itemIds => graph.reorderItems sceneId itemIds
  | .addFilter sourceId params => graph.addFilter sourceId params
  | .addSceneFilter sceneId params => graph.addSceneFilter sceneId params
  | .updateFilter sourceId filterId params => graph.updateFilter sourceId filterId params
  | .updateSceneFilter sceneId filterId params =>
      graph.updateSceneFilter sceneId filterId params
  | .removeFilter sourceId filterId => graph.removeFilter sourceId filterId
  | .removeSceneFilter sceneId filterId => graph.removeSceneFilter sceneId filterId
  | .createOutput params => graph.createOutput params
  | .removeOutput id => graph.removeOutput id
  | .createTransition params => graph.createTransition params
  | .updateTransition transitionId durationMs =>
      graph.updateTransition transitionId durationMs
  | .setDefaultTransition transitionId => graph.setDefaultTransition transitionId
  | .setActiveScene sceneId transitionId now =>
      graph.setActiveScene sceneId transitionId now
  | .setPreviewScene sceneId => graph.setPreviewScene sceneId
  | .transitionToPreview transitionId now => graph.transitionToPreview transitionId now

end SceneGraph
end SbsServer
