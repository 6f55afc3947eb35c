import SbsServer.SceneGraph.Operations
import SbsServer.Common.CJson

/-!
# Configuration bundles

The validator and the loader of the configuration manager:
`validate_bundle`, `migrate_bundle` and `apply_scene_graph_bundle`, as far as
they concern the scene graph.  The loader also passes the `audio` member of a
bundle to the mixer, which has no part in the graph.
-/

namespace SbsServer
namespace Config

open CLib SceneGraph

/-- The item check of `validate_bundle`. -/
def validItem (sources : Option CJson) (item : CJson) : Bool :=
  match CJson.str (some item) "source_id" with
  | none => false
  | some sourceId => (CJson.getObjectItem sources sourceId).isSome

/-- The scene check of `validate_bundle`. -/
def validScene (sources : Option CJson) (scene : CJson) : Bool :=
  let items := CJson.getObjectItem (some scene) "items"
  CJson.isArray items && (CJson.arrayItems items).all (validItem sources)

/-- `validate_bundle`. -/
def validateBundle (bundle : CJson) : SbsResult :=
  let state := CJson.getObjectItem (some bundle) "state"
  let scenes := CJson.getObjectItem state "scenes"
  let sources := CJson.getObjectItem state "sources"
  if !CJson.isObject (some bundle) then .inval
  else if !CJson.isString (CJson.getObjectItem (some bundle) "kind") then .inval
  else if !CJson.isNumber (CJson.getObjectItem (some bundle) "schema_version") then .inval
  else if !CJson.isObject state then .inval
  else if !CJson.isObject scenes || !CJson.isObject sources then .inval
  else if !(CJson.children sources).all fun entry =>
      (parseSourceKind (CJson.str (some entry.2) "type")).isSome then .inval
  else if !(CJson.children scenes).all fun entry => validScene sources entry.2 then .inval
  else .ok

/-- The result of `migrate_bundle`, which may also raise `schema_version` to
one. -/
def migrateBundle (bundle : CJson) : SbsResult :=
  match CJson.getObjectItem (some bundle) "schema_version" with
  | some (.number version) =>
      if version.toInt32 = 1 then .ok
      else if version.toInt32 < 1 then .ok
      else .inval
  | _ => .inval

/-- The text that `json_object_to_map` stores for a member, if any; numbers are
printed into a buffer of 64 bytes. -/
def memberText : CJson → Option CStr
  | .string value => some value
  | .bool value => some (if value then "true" else "false")
  | .number value => some (CharArray.strlcpy 64 (value.formatFixed 4)).text
  | _ => none

/-- `json_object_to_map`. -/
def jsonObjectToMap (object : Option CJson) : StrMap :=
  match object with
  | some (.object members) =>
      members.foldl (fun map member =>
        match memberText member.2 with
        | some text => map.insert member.1 text
        | none => map) .empty
  | _ => .empty

/-- `load_audio_binding`, which writes every field. -/
def loadAudioBinding (audio : Option CJson) (defaultEnabled : Bool) : AudioBinding where
  enabled := CJson.boolean audio "enabled" defaultEnabled
  device := CJson.str audio "device"
  volume := CJson.num audio "volume" (.finite 1)
  leftGain := CJson.num audio "left_gain" (.finite 1)
  rightGain := CJson.num audio "right_gain" (.finite 1)
  delayMs := (CJson.num audio "delay_ms" (.finite 0)).toInt32
  eqBands := Vector.ofFn fun index =>
    match (CJson.arrayItems (CJson.getObjectItem audio "eq_bands"))[index.val]? with
    | some (.number band) => band
    | _ => .finite 0
  mute := CJson.boolean audio "mute" false
  monitor := CJson.boolean audio "monitor" false

/-- The parameters that the filter loaders read from one element. -/
def filterParams (filter : CJson) : FilterCreateParams where
  id := CJson.str (some filter) "id"
  type := CJson.str (some filter) "type"
  enabled := CJson.boolean (some filter) "enabled" true
  params := some (jsonObjectToMap (CJson.getObjectItem (some filter) "params"))

/-- `load_filter_array_for_source`. -/
def loadFilterArrayForSource
    (graph : SceneGraph)
    (sourceId : CStr)
    (filters : Option CJson)
    (onlyIfEmpty : Bool) : SceneGraph :=
  match graph.getSource sourceId with
  | none => graph
  | some source =>
      if onlyIfEmpty && !source.filters.isEmpty then graph
      else (CJson.arrayItems filters).foldl (fun graph filter =>
        (graph.addFilter (some sourceId) (some (filterParams filter))).2) graph

/-- `load_filter_array_for_scene`. -/
def loadFilterArrayForScene
    (graph : SceneGraph)
    (sceneId : CStr)
    (filters : Option CJson) : SceneGraph :=
  (CJson.arrayItems filters).foldl (fun graph filter =>
    (graph.addSceneFilter (some sceneId) (some (filterParams filter))).2) graph

/-- The parameters that the loader reads from a source entry. -/
def sourceParams (key : Option CStr) (entry : CJson) (kind : SourceKind) :
    SourceCreateParams where
  id := key
  name := CJson.str (some entry) "name"
  kind := kind
  enabled := CJson.boolean (some entry) "enabled" true
  keepAlive := CJson.boolean (some entry) "keep_alive" false
  config := none

/-- The audio binding of a loaded source; an ALSA source gets a device. -/
def loadSourceAudio (entry : CJson) (kind : SourceKind) (config : StrMap) : AudioBinding :=
  let audio := loadAudioBinding (CJson.getObjectItem (some entry) "audio")
    (kind = .alsaAudio)
  if kind = .alsaAudio ∧ audio.device = none then
    let device := match config.lookup "device" with
      | some device => if device.bytes ≠ [] then device else "hw:0,2"
      | none => "hw:0,2"
    { audio with device := some device }
  else audio

/-- The loop body for one source entry of a known kind. -/
def loadSource
    (graph : SceneGraph)
    (key : Option CStr)
    (entry : CJson)
    (kind : SourceKind) : SceneGraph :=
  match key, graph.createSource (some (sourceParams key entry kind)) with
  | some id, (.ok, graph) =>
      let graph :=
        if kind = .v4l2src ∨ kind = .vfmcap then
          graph.modifySource id ({ · with keepAlive := true })
        else graph
      let config := jsonObjectToMap (CJson.getObjectItem (some entry) "config")
      let graph := graph.modifySource id ({ · with config := config })
      let graph := loadFilterArrayForSource graph id
        (CJson.getObjectItem (some entry) "filters") false
      graph.modifySource id ({ · with audio := loadSourceAudio entry kind config })
  | _, (_, graph) => graph

/-- The loop over the source entries, which stops at an unknown type. -/
def loadSources (graph : SceneGraph) : List (Option CStr × CJson) → SbsResult × SceneGraph
  | [] => (.ok, graph)
  | (key, entry) :: rest =>
      match parseSourceKind (CJson.str (some entry) "type") with
      | none => (.inval, graph)
      | some kind => loadSources (loadSource graph key entry kind) rest

/-- An `int` member of an item, with its default. -/
def intMember (object : Option CJson) (key : CStr) (fallback : ℚ) : Int32 :=
  (CJson.num object key (.finite fallback)).toInt32

/-- The transform that the loader reads from an item. -/
def loadTransform (transform : Option CJson) : SceneItemTransform where
  positionX := intMember transform "position_x" 0
  positionY := intMember transform "position_y" 0
  width := intMember transform "width" 640
  height := intMember transform "height" 360
  cropTop := intMember transform "crop_top" 0
  cropBottom := intMember transform "crop_bottom" 0
  cropLeft := intMember transform "crop_left" 0
  cropRight := intMember transform "crop_right" 0
  rotationDeg := snapQuarterRotation (CJson.num transform "rotation_deg" (.finite 0))
  flipHorizontal := CJson.boolean transform "flip_horizontal" false
  flipVertical := CJson.boolean transform "flip_vertical" false
  boundsType := some ((CJson.str transform "bounds_type").getD "stretch")
  alignment := some ((CJson.str transform "alignment").getD "center")
  opacity := CJson.num transform "opacity" (.finite 1)

/-- The parameters that the loader reads from an item. -/
def itemParams (item : CJson) : SceneItemCreateParams where
  id := CJson.str (some item) "id"
  sourceId := CJson.str (some item) "source_id"
  visible := CJson.boolean (some item) "visible" true
  locked := CJson.boolean (some item) "locked" false
  zOrder := intMember (some item) "z_order" 0
  transform := loadTransform (CJson.getObjectItem (some item) "transform")
  audio :=
    let audio := CJson.getObjectItem (some item) "audio"
    if CJson.isObject audio then some (loadAudioBinding audio false) else none

/-- The loop body for one item; its filters go to its source. -/
def loadItem (sceneId : CStr) (graph : SceneGraph) (item : CJson) : SceneGraph :=
  let params := itemParams item
  match params.sourceId, graph.addItem (some sceneId) (some params) with
  | some sourceId, (.ok, graph) =>
      loadFilterArrayForSource graph sourceId
        (CJson.getObjectItem (some item) "filters") true
  | _, (_, graph) => graph

/-- The loop body for one scene entry. -/
def loadScene (graph : SceneGraph) (entry : Option CStr × CJson) : SceneGraph :=
  let params : SceneCreateParams :=
    { id := entry.1, name := CJson.str (some entry.2) "name" }
  match entry.1, graph.createScene (some params) with
  | some id, (.ok, graph) =>
      let graph := loadFilterArrayForScene graph id
        (CJson.getObjectItem (some entry.2) "filters")
      (CJson.arrayItems (CJson.getObjectItem (some entry.2) "items")).foldl
        (loadItem id) graph
  | _, (_, graph) => graph

/-- The loop body for one transition entry.  A fade of 500 ms is the default of
older versions and gets the new default. -/
def loadTransition (graph : SceneGraph) (entry : Option CStr × CJson) : SceneGraph :=
  let stored := (CJson.num (some entry.2) "duration_ms" (.finite 0)).toUInt32
  let type := CJson.str (some entry.2) "type"
  (graph.createTransition (some {
    id := entry.1
    kind := if type = some (CStr.lit "fade") then .fade
      else if type = some (CStr.lit "slide") then .slide else .cut
    durationMs :=
      if entry.1 = some (CStr.lit "trans-fade") ∧ stored = 500 then 2000 else stored })).2

/-- The loop body for one output entry. -/
def loadOutput (graph : SceneGraph) (entry : Option CStr × CJson) : SceneGraph :=
  let params : OutputCreateParams := {
    id := entry.1
    name := CJson.str (some entry.2) "name"
    enabled := CJson.boolean (some entry.2) "enabled" true
    autostart := CJson.boolean (some entry.2) "autostart" false }
  match entry.1, graph.createOutput (some params) with
  | some id, (.ok, graph) =>
      let encoder := jsonObjectToMap (CJson.getObjectItem (some entry.2) "encoder")
      { graph with outputs := graph.outputs.modify id ({ · with encoder := encoder }) }
  | _, (_, graph) => graph

/-- The canvas that the loader reads. -/
def loadCanvas (canvas : Option CJson) : CanvasState where
  width := (CJson.num canvas "width" (.finite 3840)).toUInt32
  height := (CJson.num canvas "height" (.finite 2160)).toUInt32
  fpsNum := (CJson.num canvas "fps_num" (.finite 60)).toUInt32
  fpsDen := (CJson.num canvas "fps_den" (.finite 1)).toUInt32
  colorMode := if CJson.str canvas "color_mode" = some (CStr.lit "hdr10") then .hdr10 else .sdr
  backgroundColor := CharArray.strlcpy 16
    ((CJson.str canvas "background_color").getD "#000000") CanvasState.colorRoom

/-- `clear_scene_graph`, which leaves the rest of the transition runtime. -/
def clearSceneGraph (graph : SceneGraph) : SceneGraph :=
  { graph with
    sources := .empty
    scenes := .empty
    outputs := .empty
    transitions := .empty
    activeSceneId := none
    previewSceneId := none
    defaultTransitionId := none
    transitionRuntime := { graph.transitionRuntime with
      fromSceneId := none
      toSceneId := none
      transitionId := none } }

/-- The selection that the loader reads from the `state` member. -/
def loadSelection (graph : SceneGraph) (state : Option CJson) : SceneGraph :=
  { graph with
    activeSceneId := (CJson.str state "active_scene_id").or graph.activeSceneId
    previewSceneId := (CJson.str state "preview_scene_id").or graph.previewSceneId
    defaultTransitionId := (CJson.str state "transition_id").or graph.defaultTransitionId }

/-- The loops after the sources. -/
def loadRest (graph : SceneGraph) (bundle : CJson) : SceneGraph :=
  let member := CJson.getObjectItem (some bundle)
  let graph := (CJson.children (member "scenes")).foldl loadScene graph
  let graph := (CJson.children (member "transitions")).foldl loadTransition graph
  let graph := (CJson.children (member "output_groups")).foldl loadOutput graph
  loadSelection graph (member "state")

/-- `apply_scene_graph_bundle`. -/
def applySceneGraphBundle (graph : SceneGraph) (bundle : CJson) : SbsResult × SceneGraph :=
  if !CJson.isObject (some bundle) then (.inval, graph)
  else
    let member := CJson.getObjectItem (some bundle)
    let cleared := { clearSceneGraph graph with canvas := loadCanvas (member "canvas") }
    match loadSources cleared (CJson.children (member "sources")) with
    | (.ok, graph) => (.ok, loadRest graph bundle)
    | (code, graph) => (code, graph)

section Loading

variable {graph loaded : SceneGraph} {bundle other : CJson}

/-- After its sources an object's other members are loaded. -/
theorem applySceneGraphBundle_of_loadSources
    (isObject : CJson.isObject (some bundle) = true)
    (sources : loadSources
        { clearSceneGraph graph with
          canvas := loadCanvas (CJson.getObjectItem (some bundle) "canvas") }
        (CJson.children (CJson.getObjectItem (some bundle) "sources")) =
      (.ok, loaded)) :
    applySceneGraphBundle graph bundle = (.ok, loadRest loaded bundle) := by
  unfold applySceneGraphBundle
  dsimp only
  rw [isObject, sources]
  rfl

/-- The loader takes no more from an object than its canvas, its sources and the rest. -/
theorem applySceneGraphBundle_congr
    (isObject : CJson.isObject (some bundle) = CJson.isObject (some other))
    (canvas : loadCanvas (CJson.getObjectItem (some bundle) "canvas") =
      loadCanvas (CJson.getObjectItem (some other) "canvas"))
    (sources : CJson.getObjectItem (some bundle) "sources" =
      CJson.getObjectItem (some other) "sources")
    (rest : ∀ loaded, loadRest loaded bundle = loadRest loaded other) :
    applySceneGraphBundle graph bundle = applySceneGraphBundle graph other := by
  unfold applySceneGraphBundle
  dsimp only
  rw [isObject, canvas, sources]
  simp only [rest]

end Loading

end Config
end SbsServer
