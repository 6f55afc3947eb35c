import SbsServer.Api.Dispatch
import SbsServer.Api.OrderlyEnd
import SbsServer.CLib.Numeral
import SbsServer.CLib.Rounding
import SbsServer.Config.Bundle
import SbsServer.SceneGraph.Serialize
import SbsServer.Supervisor.SourceSupervisor

/-!
# Handlers of sources and of the items that show them

The handlers that start and stop workers and those that add and remove references to a
source.  The flag `muted` is kept twice: in the graph, where clients see it, and in the
entry of the supervisor, where it decides whether frames are dropped.
-/

namespace SbsServer
namespace Api

open CLib SceneGraph Config Supervisor

/-- The entries of the source supervisor, each with its `muted`. -/
abbrev MuteTable := HashTable CStr Bool

namespace MuteTable

/-- `sbs_source_supervisor_start_source`: a new entry is not muted, and one whose worker is
not launched is removed again. -/
def startSource
    (sup : MuteTable)
    (sourceId : CStr)
    (launches : Bool) : SbsResult × MuteTable :=
  if sup.contains sourceId then (.inval, sup)
  else if launches then (.ok, sup.insert sourceId false)
  else (.io, sup)

/-- `sbs_source_supervisor_stop_source` -/
def stopSource
    (sup : MuteTable)
    (sourceId : CStr) : SbsResult × MuteTable :=
  if sup.contains sourceId then (.ok, sup.remove sourceId) else (.notFound, sup)

/-- The store to `entry->muted`. -/
def setMuted
    (muted : Bool)
    (sup : MuteTable)
    (sourceId : CStr) : SbsResult × MuteTable :=
  if sup.contains sourceId then (.ok, sup.modify sourceId fun _ => muted) else (.notFound, sup)

/-- `sbs_source_supervisor_mute_source` -/
def muteSource : MuteTable → CStr → SbsResult × MuteTable :=
  setMuted true

/-- `sbs_source_supervisor_unmute_source` -/
def unmuteSource : MuteTable → CStr → SbsResult × MuteTable :=
  setMuted false

end MuteTable

/-- What the handlers of sources and items use of a server. -/
structure SourceServer where
  graph : SceneGraph
  sourceSup : MuteTable
  /-- `audio` is not NULL. -/
  audio : Bool
  /-- `comp_thread` is not NULL. -/
  compThread : Bool
  /-- The save timer is running. -/
  saveTimeout : Bool
  /-- The events published so far. -/
  published : List (CStr × CJson)

/-- What the rest of the server answers during a call. -/
structure SourceAnswers where
  /-- The worker of a source can be launched. -/
  launches : Bool
  /-- The result of `sbs_audio_mixer_set_source_state`. -/
  mixer : SbsResult
  /-- The counters of a frame slot after it was flushed. -/
  flushed : FrameSlotStats
  /-- The elements that GStreamer has. -/
  gstElementAvailable : CStr → Bool
  /-- `g_get_monotonic_time` -/
  now : Int64

/-- `source_config_u32` -/
def sourceConfigU32
    (source : SourceState)
    (key : CStr)
    (fallback minValue maxValue : UInt32) : UInt32 :=
  match source.config.lookup key with
  | none => fallback
  | some value =>
      let digits := (Double.scanSign (value.bytes.dropWhile (isSpace ·))).2
      let parsed := (strtoul value.bytes).toNat
      if (Double.scanDigits 10 0 0 digits).2.1 = 0 ∨ parsed < minValue.toNat ∨
          maxValue.toNat < parsed then fallback
      else parsed.toUInt32

/-- `graph_has_enabled_vfmcap` -/
def graphHasEnabledVfmcap
    (graph : SceneGraph)
    (id : CStr) : Bool :=
  graph.sources.toList.any fun entry =>
    entry.1 ≠ id && decide (entry.2.kind = .vfmcap) && entry.2.enabled

/-- The frame size that `sbs_source_start_config_fill` chooses. -/
def startSize
    (canvas : CanvasState)
    (source : SourceState) : UInt32 × UInt32 :=
  let width := min canvas.width 1280
  let height := min canvas.height 720
  match source.kind with
  | .videotestsrc | .image =>
      (sourceConfigU32 source "width" width 16 canvas.width,
        sourceConfigU32 source "height" height 16 canvas.height)
  | .v4l2src =>
      (sourceConfigU32 source "width" canvas.width 16 8192,
        sourceConfigU32 source "height" canvas.height 16 8192)
  | .text =>
      (sourceConfigU32 source "width" width 16 canvas.width,
        sourceConfigU32 source "height" 256 16 canvas.height)
  | _ => (canvas.width, canvas.height)

/-- What `sbs_source_start_config_fill` stores in the source. -/
def startConfigFill
    (graph : SceneGraph)
    (id : CStr)
    (source : SourceState) : SourceState :=
  if source.kind = .v4l2src then
    let mode := (source.config.lookup "decode_mode").getD "auto"
    { source with
      v4l2EffectiveDecodeMode :=
        some (if mode = "auto" ∧ graphHasEnabledVfmcap graph id = true then "software" else mode) }
  else source

/-- `sync_alsa_audio_source_config` -/
def syncAlsaAudioSourceConfig (source : SourceState) : SourceState :=
  if source.kind ≠ .alsaAudio then source
  else
    { source with
      audio := { source.audio with
        enabled := source.enabled
        device :=
          match (source.config.lookup "device").filter (· ≠ ("" : CStr)) with
          | some device => some device
          | none => some (source.audio.device.getD "hw:0,2")
        volume := if source.audio.volume.negative then .finite 1 else source.audio.volume
        leftGain := if source.audio.leftGain.negative then .finite 1 else source.audio.leftGain
        rightGain :=
          if source.audio.rightGain.negative then .finite 1 else source.audio.rightGain } }

namespace SourceServer

/-- A change through the pointer of `sbs_scene_graph_get_source`. -/
def modifySource
    (server : SourceServer)
    (id : CStr)
    (change : SourceState → SourceState) : SourceServer :=
  { server with graph := server.graph.modifySource id change }

/-- `sbs_api_server_publish` -/
def publish
    (server : SourceServer)
    (topic : CStr)
    (payload : CJson) : SourceServer :=
  { server with
    saveTimeout := true
    published := server.published ++ [(topic, payload)] }

/-- `sbs_scene_graph_serialize_source` of a source of the graph. -/
def sourceJson
    (server : SourceServer)
    (id : CStr)
    (answers : SourceAnswers) : CJson :=
  match server.graph.getSource id with
  | some source => serializeSource answers.gstElementAvailable source
  | none => .null

/-- `publish_source_event` -/
def publishSourceEvent
    (server : SourceServer)
    (topic id : CStr)
    (answers : SourceAnswers) : SourceServer :=
  server.publish topic (server.sourceJson id answers)

/-- A handler that fails. -/
def failed
    (server : SourceServer)
    (code : SbsResult)
    (number : ℤ)
    (message : CStr) : Reply × SourceServer :=
  (⟨code, none, some (rpcError number message)⟩, server)

/-- A handler that succeeds. -/
def succeeded
    (server : SourceServer)
    (result : CJson) : Reply × SourceServer :=
  (⟨.ok, some result, none⟩, server)

/-- The end of the handlers that report the status of a source. -/
def reportStatus
    (server : SourceServer)
    (id : CStr)
    (answers : SourceAnswers) : Reply × SourceServer :=
  (server.publishSourceEvent "source.status" id answers).succeeded (server.sourceJson id answers)

/-- `sbs_api_server_refresh_scene` -/
def refreshScene
    (server : SourceServer)
    (answers : SourceAnswers) : SourceServer :=
  if server.compThread then
    { server with graph := server.graph.updateTransitionRuntime answers.now }
  else server

/-- The source that a request names, with its id. -/
def requestedSource
    (server : SourceServer)
    (params : Option CJson)
    (key : CStr) : Option (CStr × SourceState) := do
  let id ← CJson.str params key
  let source ← server.graph.getSource id
  return (id, source)

/-! ## Handlers of sources -/

/-- `sbs_api_handle_source_start` -/
def sourceStart
    (server : SourceServer)
    (params : Option CJson)
    (answers : SourceAnswers) : Reply × SourceServer :=
  match server.requestedSource params "id" with
  | none => server.failed .notFound (-32001) "Source not found"
  | some (id, source) =>
      let filled := server.modifySource id (startConfigFill server.graph id)
      if source.kind = .alsaAudio then
        let synced := filled.modifySource id syncAlsaAudioSourceConfig
        if server.audio && decide (answers.mixer ≠ .ok) then
          synced.failed answers.mixer (-32006) "Failed to start audio input"
        else
          (synced.modifySource id fun source =>
            { source with running := true, runtimeState := some "running" }).reportStatus id answers
      else
        match server.sourceSup.startSource source.id answers.launches with
        | (.ok, sup) =>
            ({ filled with sourceSup := sup }.modifySource id fun source =>
              { source with
                running := true
                frameWidth := (startSize server.graph.canvas source).1
                frameHeight := (startSize server.graph.canvas source).2
                runtimeState := some "starting" }).reportStatus id answers
        | (code, _) => filled.failed code (-32006) "Failed to start source worker"

/-- The parameters of the calls that a handler makes itself. -/
def idParams (id : CStr) : Option CJson :=
  some (.object [("id", .string id)])

/-- The parameters of a `source.create` request of a kind. -/
def sourceCreateParams
    (params : Option CJson)
    (kind : SourceKind) : SourceCreateParams where
  id := CJson.str params "id"
  name := CJson.str params "name"
  kind := kind
  enabled := true
  keepAlive := decide (kind = .v4l2src ∨ kind = .vfmcap)
  config :=
    match CJson.getObjectItem params "config" with
    | some (.object members) => some (jsonObjectToMap (some (.object members)))
    | _ => none

/-- `sbs_api_handle_source_create` -/
def sourceCreate
    (server : SourceServer)
    (params : Option CJson)
    (answers : SourceAnswers) : Reply × SourceServer :=
  match parseSourceKind (CJson.str params "type") with
  | none => server.failed .inval (-32004) "Unsupported source kind"
  | some kind =>
      let create := sourceCreateParams params kind
      match server.graph.createSource (some create) with
      | (.ok, graph) =>
          let id := create.id.getD ""
          let synced := { server with graph := graph }.modifySource id syncAlsaAudioSourceConfig
          let created := synced.publishSourceEvent "source.created" id answers
          let ready :=
            if create.keepAlive then (created.sourceStart (idParams id) answers).2 else created
          ready.succeeded (ready.sourceJson id answers)
      | (code, _) => server.failed code (-32005) "Unable to create source"

/-- The parameters of a `source.update` request. -/
def sourceUpdateParams (params : Option CJson) : SourceUpdateParams where
  setName := (CJson.str params "name").isSome
  name := CJson.str params "name"
  setEnabled :=
    match CJson.getObjectItem params "enabled" with
    | some (.bool _) => true
    | _ => false
  enabled := CJson.boolean params "enabled" false
  setKeepAlive :=
    match CJson.getObjectItem params "keep_alive" with
    | some (.bool _) => true
    | _ => false
  keepAlive := CJson.boolean params "keep_alive" false
  setConfig := CJson.isObject (CJson.getObjectItem params "config")
  config :=
    match CJson.getObjectItem params "config" with
    | some (.object members) => some (jsonObjectToMap (some (.object members)))
    | _ => none

/-- The restart of a worker with a new configuration. -/
def restartWorker
    (server : SourceServer)
    (id : CStr)
    (answers : SourceAnswers) : SourceServer :=
  let stopped := { server with sourceSup := (server.sourceSup.stopSource id).2 }.modifySource id
    fun source => { source with running := false, frameStats := answers.flushed }
  let filled := stopped.modifySource id (startConfigFill server.graph id)
  match stopped.sourceSup.startSource id answers.launches with
  | (.ok, sup) =>
      ({ filled with sourceSup := sup }.modifySource id fun source =>
        { source with running := true, runtimeState := some "starting" }).publishSourceEvent
          "source.status" id answers
  | _ => filled

/-- `sbs_api_handle_source_update` -/
def sourceUpdate
    (server : SourceServer)
    (params : Option CJson)
    (answers : SourceAnswers) : Reply × SourceServer :=
  match CJson.str params "id" with
  | none => server.failed .inval (-32001) "Source id is required"
  | some id =>
      let update := sourceUpdateParams params
      match server.graph.updateSource (some id) (some update) with
      | (.ok, graph) =>
          let synced := { server with graph := graph }.modifySource id syncAlsaAudioSourceConfig
          let updated := synced.publishSourceEvent "source.updated" id answers
          let restarts := update.setConfig &&
            ((updated.graph.getSource id).any fun source =>
              source.running && decide (source.kind ≠ .alsaAudio))
          let ready := if restarts then updated.restartWorker id answers else updated
          ready.succeeded (ready.sourceJson id answers)
      | (code, _) => server.failed code (-32001) "Source not found"

/-- The end of a source that runs: its worker is stopped and its slot is flushed. -/
def stopWorker
    (server : SourceServer)
    (id : CStr)
    (answers : SourceAnswers) : SourceServer :=
  { server with sourceSup := (server.sourceSup.stopSource id).2 }.modifySource id fun source =>
    { source with
      running := false
      runtimeState := some "disabled"
      frameStats := answers.flushed }

/-- `sbs_api_handle_source_remove` -/
def sourceRemove
    (server : SourceServer)
    (params : Option CJson)
    (answers : SourceAnswers) : Reply × SourceServer :=
  match CJson.str params "id" with
  | none => server.failed .inval (-32001) "Source id is required"
  | some id =>
      match server.graph.getSource id with
      | none => server.failed .notFound (-32001) "Source not found"
      | some source =>
          let stopped :=
            if source.running && decide (source.kind ≠ .alsaAudio) then
              server.stopWorker id answers
            else server
          let published := stopped.publishSourceEvent "source.removed" id answers
          let removed := { published with graph := (published.graph.removeSource (some id)).2 }
          (removed.refreshScene answers).succeeded (.object [("ok", .bool true)])

/-- `sbs_api_handle_source_stop` -/
def sourceStop
    (server : SourceServer)
    (params : Option CJson)
    (answers : SourceAnswers) : Reply × SourceServer :=
  match server.requestedSource params "id" with
  | none => server.failed .notFound (-32001) "Source not found"
  | some (id, source) =>
      if source.kind = .alsaAudio then
        (server.modifySource id fun source =>
          { source with
            audio := { source.audio with enabled := false }
            running := false
            runtimeState := some "disabled"
            frameStats := answers.flushed }).reportStatus id answers
      else
        match server.sourceSup.stopSource id with
        | (.ok, _) => (server.stopWorker id answers).reportStatus id answers
        | (code, _) => server.failed code (-32003) "Failed to stop source"

/-- `json_int` -/
def jsonInt
    (object : Option CJson)
    (key : CStr)
    (fallback : Int32) : Int32 :=
  match CJson.getObjectItem object key with
  | some (.number value) => value.toInt32
  | _ => fallback

/-- `parse_transform` -/
def parseTransform (json : Option CJson) : SceneItemTransform where
  positionX := jsonInt json "position_x" 0
  positionY := jsonInt json "position_y" 0
  width := jsonInt json "width" 640
  height := jsonInt json "height" 360
  cropTop := jsonInt json "crop_top" 0
  cropBottom := jsonInt json "crop_bottom" 0
  cropLeft := jsonInt json "crop_left" 0
  cropRight := jsonInt json "crop_right" 0
  rotationDeg := snapQuarterRotation (CJson.num json "rotation_deg" (.finite 0))
  flipHorizontal := CJson.boolean json "flip_horizontal" false
  flipVertical := CJson.boolean json "flip_vertical" false
  boundsType := some ((CJson.str json "bounds_type").getD "stretch")
  alignment := some ((CJson.str json "alignment").getD "center")
  opacity := CJson.num json "opacity" (.finite 1)

/-- The parameters of a `scene.item.add` request. -/
def itemCreateParams (params : Option CJson) : SceneItemCreateParams where
  id := CJson.str params "id"
  sourceId := CJson.str params "source_id"
  visible := CJson.boolean params "visible" true
  locked := CJson.boolean params "locked" false
  zOrder := jsonInt params "z_order" 0
  transform := parseTransform (CJson.getObjectItem params "transform")
  audio := none

/-- `serialize_item_payload`, which leaves out the parameters of the filters. -/
def serializeItemPayload : Option SceneItemState → CJson
  | none => .object [("filters", .array [])]
  | some item => .object [
      ("id", .string item.id),
      ("source_id", .string item.sourceId),
      ("visible", .bool item.visible),
      ("locked", .bool item.locked),
      ("z_order", .ofInt item.zOrder.toInt),
      ("filters", .array (item.filters.map fun filter => .object [
        ("id", .string filter.id),
        ("type", .string filter.type),
        ("enabled", .bool filter.enabled),
        ("params", .object [])]))]

/-- A source that an item shows is started, or its mute is taken back. -/
def bringUp
    (server : SourceServer)
    (id : CStr)
    (source : SourceState)
    (answers : SourceAnswers) : SourceServer :=
  if !source.running then (server.sourceStart (idParams source.id) answers).2
  else if source.muted then
    let unmuted := server.modifySource id fun source => { source with muted := false }
    { unmuted with
      sourceSup := (unmuted.sourceSup.unmuteSource source.id).2 }.publishSourceEvent
        "source.status" id answers
  else server

/-- `sbs_api_handle_scene_item_add` -/
def sceneItemAdd
    (server : SourceServer)
    (params : Option CJson)
    (answers : SourceAnswers) : Reply × SourceServer :=
  let create := itemCreateParams params
  match server.graph.addItem (CJson.str params "scene_id") (some create) with
  | (.ok, graph) =>
      let added := { server with graph := graph }
      let shown := added.requestedSource params "source_id"
      let payload := serializeItemPayload (shown.map fun found => newItem create found.2 found.1)
      let ready :=
        match shown with
        | some (id, source) => added.bringUp id source answers
        | none => added
      ((ready.refreshScene answers).publish "scene.item.added" payload).succeeded payload
  | (code, _) => server.failed code (-32005) "Unable to add item"

/-- A running source without `keep_alive` that nothing shows any more is muted. -/
def muteUnshown
    (server : SourceServer)
    (id : CStr)
    (answers : SourceAnswers) : SourceServer :=
  match server.graph.getSource id with
  | none => server
  | some source =>
      if source.running && !source.keepAlive && decide (countSourceRefs server.graph id = 0) &&
          !source.muted then
        let muted := server.modifySource id fun source => { source with muted := true }
        { muted with sourceSup := (muted.sourceSup.muteSource id).2 }.publishSourceEvent
          "source.status" id answers
      else server

/-- `sbs_api_handle_scene_item_remove` -/
def sceneItemRemove
    (server : SourceServer)
    (params : Option CJson)
    (answers : SourceAnswers) : Reply × SourceServer :=
  let sceneId := CJson.str params "scene_id"
  let itemId := CJson.str params "item_id"
  match sceneId.bind server.graph.getScene with
  | none => server.failed .notFound (-32001) "Scene not found"
  | some _ =>
      match server.graph.removeItem sceneId itemId with
      | (.ok, graph) =>
          let removed := { server with graph := graph }
          let muted :=
            match itemSource server.graph sceneId itemId with
            | some id => removed.muteUnshown id answers
            | none => removed
          (muted.refreshScene answers).succeeded (.object [("ok", .bool true)])
      | (code, _) => server.failed code (-32001) "Unable to remove item"

/-- `sbs_api_handle_scene_remove` -/
def sceneRemove
    (server : SourceServer)
    (params : Option CJson) : Reply × SourceServer :=
  match server.graph.removeScene (CJson.str params "id") with
  | (.ok, graph) => { server with graph := graph }.succeeded (.object [("ok", .bool true)])
  | (code, _) => server.failed code (-32003) "Unable to remove scene"

end SourceServer

/-- The methods that change a source, its worker or the references to it. -/
inductive SourceMethod
  | sourceCreate
  | sourceUpdate
  | sourceStart
  | sourceStop
  | sourceRemove
  | sceneItemAdd
  | sceneItemRemove
  | sceneRemove
  deriving DecidableEq

/-- A call of a method with what it meets. -/
structure SourceCall where
  method : SourceMethod
  params : Option CJson
  answers : SourceAnswers

namespace SourceServer

/-- The handler of a method. -/
def handle (server : SourceServer) (call : SourceCall) : Reply × SourceServer :=
  match call.method with
  | .sourceCreate => server.sourceCreate call.params call.answers
  | .sourceUpdate => server.sourceUpdate call.params call.answers
  | .sourceStart => server.sourceStart call.params call.answers
  | .sourceStop => server.sourceStop call.params call.answers
  | .sourceRemove => server.sourceRemove call.params call.answers
  | .sceneItemAdd => server.sceneItemAdd call.params call.answers
  | .sceneItemRemove => server.sceneItemRemove call.params call.answers
  | .sceneRemove => server.sceneRemove call.params

end SourceServer
end Api
end SbsServer
