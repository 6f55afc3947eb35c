import SbsServer.Common.CJson
import SbsServer.SceneGraph.State

/-!
# Serialization of the scene graph

The JSON trees that `sbs_scene_graph_serialize_full_state` and its parts build.
Whether a GStreamer element is installed is asked from the system, so it is a
parameter.
-/

namespace SbsServer
namespace SceneGraph

open CLib

/-- `str_map_to_json`. -/
def strMapToJson (map : StrMap) : CJson :=
  .object (map.toList.map fun entry => (entry.1, .string entry.2))

/-- A gain as `serialize_audio_binding` writes it. -/
def gainOrOne (gain : Double) : Double :=
  if gain.nonneg then gain else .finite 1

/-- `serialize_audio_binding`. -/
def serializeAudioBinding (binding : AudioBinding) : CJson :=
  .object [
    ("enabled", .bool binding.enabled),
    ("device", .ofPointer binding.device),
    ("volume", .number (gainOrOne binding.volume)),
    ("left_gain", .number (gainOrOne binding.leftGain)),
    ("right_gain", .number (gainOrOne binding.rightGain)),
    ("delay_ms", .ofInt binding.delayMs.toInt),
    ("eq_bands", .array (binding.eqBands.toList.map .number)),
    ("mute", .bool binding.mute),
    ("monitor", .bool binding.monitor)]

/-- `serialize_filter`. -/
def serializeFilter (filter : FilterState) : CJson :=
  .object [
    ("id", .string filter.id),
    ("type", .string filter.type),
    ("enabled", .bool filter.enabled),
    ("params", strMapToJson filter.params)]

/-- `serialize_filters`. -/
def serializeFilters (filters : List FilterState) : CJson :=
  .array (filters.map serializeFilter)

/-- `serialize_transform`. -/
def serializeTransform (transform : SceneItemTransform) : CJson :=
  .object [
    ("position_x", .ofInt transform.positionX.toInt),
    ("position_y", .ofInt transform.positionY.toInt),
    ("width", .ofInt transform.width.toInt),
    ("height", .ofInt transform.height.toInt),
    ("crop_top", .ofInt transform.cropTop.toInt),
    ("crop_bottom", .ofInt transform.cropBottom.toInt),
    ("crop_left", .ofInt transform.cropLeft.toInt),
    ("crop_right", .ofInt transform.cropRight.toInt),
    ("rotation_deg", .number transform.rotationDeg),
    ("flip_horizontal", .bool transform.flipHorizontal),
    ("flip_vertical", .bool transform.flipVertical),
    ("bounds_type", .string (transform.boundsType.getD "stretch")),
    ("alignment", .string (transform.alignment.getD "center")),
    ("opacity", .number transform.opacity)]

/-- `serialize_item`. -/
def serializeItem (item : SceneItemState) : CJson :=
  .object [
    ("id", .string item.id),
    ("source_id", .string item.sourceId),
    ("visible", .bool item.visible),
    ("locked", .bool item.locked),
    ("z_order", .ofInt item.zOrder.toInt),
    ("transform", serializeTransform item.transform),
    ("audio", serializeAudioBinding item.audio),
    ("filters", serializeFilters item.filters)]

/-- `v4l2_fourcc_is_compressed`. -/
def v4l2FourccIsCompressed (fourcc : Option CStr) : Bool :=
  fourcc ∈ ([some "MJPG", some "JPEG", some "H264", some "AVC1", some "H265",
    some "HEVC"] : List (Option CStr))

/-- `v4l2_fourcc_is_direct_importable`. -/
def v4l2FourccIsDirectImportable (fourcc : Option CStr) : Bool :=
  fourcc ∈ ([some "NV12", some "NV21", some "P010", some "RGBA"] : List (Option CStr))

/-- `v4l2_hardware_decode_available`. -/
def v4l2HardwareDecodeAvailable
    (gstElementAvailable : CStr → Bool)
    (fourcc : Option CStr) : Bool :=
  if fourcc = some (CStr.lit "MJPG") ∨ fourcc = some (CStr.lit "JPEG") then
    gstElementAvailable "amlv4l2jpegdec"
  else if fourcc = some (CStr.lit "H264") ∨ fourcc = some (CStr.lit "AVC1") then
    gstElementAvailable "amlv4l2h264dec"
  else false

/-- `str_map_get_u32`: the decimal number at the head of a value, or a fallback
when there is none or it does not fit. -/
def strMapGetU32 (map : StrMap) (key : CStr) (fallback : UInt32) : UInt32 :=
  match map.lookup key with
  | none => fallback
  | some value =>
      let isSpace := fun byte : UInt8 => byte = 32 ∨ (9 ≤ byte ∧ byte ≤ 13)
      let (negative, body) := Double.scanSign (value.bytes.dropWhile (isSpace ·))
      let (parsed, count, _) := Double.scanDigits 10 0 0 body
      -- A negative number wraps to one that does not fit, unless it is zero.
      if count = 0 ∨ 4294967295 < parsed ∨ (negative ∧ parsed ≠ 0) then fallback
      else parsed.toUInt32

/-- `serialize_v4l2_status`. -/
def serializeV4l2Status
    (gstElementAvailable : CStr → Bool)
    (source : SourceState) : CJson :=
  let config := source.config
  let devicePath := (config.lookup "device").or (config.lookup "device_path")
  let fourcc := (config.lookup "format").or (config.lookup "fourcc")
  let framerate := (config.lookup "framerate").or (config.lookup "fps")
  let decodeMode := (config.lookup "decode_mode").getD "auto"
  let effectiveDecodeMode := source.v4l2EffectiveDecodeMode.getD decodeMode
  let compressed := v4l2FourccIsCompressed fourcc
  let directImportable := !compressed && v4l2FourccIsDirectImportable fourcc
  let activeDecode : CStr :=
    if effectiveDecodeMode = "hardware" ∨
        (effectiveDecodeMode = "auto" ∧
          v4l2HardwareDecodeAvailable gstElementAvailable fourcc = true) then
      "hardware"
    else "software"
  let path : List (CStr × CJson) :=
    if !source.running then [
      ("active_decode_path", .string "inactive"),
      ("zero_copy_active", .null),
      ("zero_copy_state", .string "inactive")]
    else if compressed then [
      ("active_decode_path", .string activeDecode),
      ("zero_copy_active", .bool false),
      ("zero_copy_state", .string "decode")]
    else if directImportable then [
      ("active_decode_path", .string "none"),
      ("zero_copy_active", .null),
      ("zero_copy_state", .string "expected")]
    else [
      ("active_decode_path", .string "none"),
      ("zero_copy_active", .bool false),
      ("zero_copy_state", .string "fallback")]
  let head : List (CStr × CJson) := [
    ("device_id", .ofPointer (config.lookup "device_id")),
    ("device_path", .string (devicePath.getD "/dev/video0")),
    ("fourcc", .ofPointer fourcc),
    ("width", .ofInt (strMapGetU32 config "width" source.frameWidth).toNat),
    ("height", .ofInt (strMapGetU32 config "height" source.frameHeight).toNat),
    ("framerate", .ofPointer framerate),
    ("requested_decode_mode", .string decodeMode),
    ("effective_decode_mode", .string effectiveDecodeMode)]
  .object (head ++ path)

/-- The `frame_queue` object of a source. -/
def serializeFrameQueue (stats : FrameSlotStats) : CJson :=
  .object [
    ("produced", .number (.roundToDouble stats.produced.toNat)),
    ("dropped", .number (.roundToDouble stats.dropped.toNat)),
    ("consumed", .number (.roundToDouble stats.consumed.toNat)),
    ("held", .ofInt stats.held.toNat)]

/-- `sbs_scene_graph_serialize_source`. -/
def serializeSource
    (gstElementAvailable : CStr → Bool)
    (source : SourceState) : CJson :=
  let state := source.runtimeState.getD (if source.running then "running" else "created")
  let v4l2Status : List (CStr × CJson) :=
    if source.kind = .v4l2src then
      [("v4l2_status", serializeV4l2Status gstElementAvailable source)]
    else []
  let errorMessage : List (CStr × CJson) :=
    match source.errorMessage with
    | some message => [("error_message", .string message)]
    | none => []
  let head : List (CStr × CJson) := [
    ("id", .string source.id),
    ("name", .string source.name),
    ("type", .string (sourceKindName source.kind)),
    ("enabled", .bool source.enabled),
    ("keep_alive", .bool source.keepAlive),
    ("state", .string state),
    ("muted", .bool source.muted),
    ("config", strMapToJson source.config)]
  let tail : List (CStr × CJson) := [
    ("filters", serializeFilters source.filters),
    ("frame_queue", serializeFrameQueue source.frameStats),
    ("audio", serializeAudioBinding source.audio)]
  .object (head ++ v4l2Status ++ tail ++ errorMessage)

/-- `sbs_scene_graph_serialize_scene`. -/
def serializeScene (scene : SceneState) : CJson :=
  .object [
    ("id", .string scene.id),
    ("name", .string scene.name),
    ("filters", serializeFilters scene.filters),
    ("items", .array (scene.items.map serializeItem))]

/-- A sink as `serialize_output_internal` writes it. -/
def serializeSink (sink : SinkState) : CJson :=
  .object [
    ("id", .string sink.id),
    ("type", .string sink.type),
    ("enabled", .bool sink.enabled),
    ("config", strMapToJson sink.config)]

/-- `sbs_scene_graph_serialize_output`. -/
def serializeOutput (output : OutputState) : CJson :=
  let state := output.runtimeState.getD (if output.running then "running" else "created")
  .object [
    ("id", .string output.id),
    ("name", .string output.name),
    ("enabled", .bool output.enabled),
    ("autostart", .bool output.autostart),
    ("state", .string state),
    ("encoder", strMapToJson output.encoder),
    ("sinks", .array (output.sinks.map serializeSink))]

/-- `sbs_scene_graph_serialize_transition`. -/
def serializeTransition (transition : TransitionState) : CJson :=
  .object [
    ("id", .string transition.id),
    ("type", .string (transitionKindName transition.kind)),
    ("duration_ms", .ofInt transition.durationMs.toNat),
    ("params", strMapToJson transition.params)]

/-- The `canvas` object. -/
def serializeCanvas (canvas : CanvasState) : CJson :=
  .object [
    ("width", .ofInt canvas.width.toNat),
    ("height", .ofInt canvas.height.toNat),
    ("fps_num", .ofInt canvas.fpsNum.toNat),
    ("fps_den", .ofInt canvas.fpsDen.toNat),
    ("color_mode", .string (if canvas.colorMode = .hdr10 then "hdr10" else "sdr")),
    ("background_color", .string canvas.backgroundColor.text)]

/-- A table as an object with one member for each entry. -/
def serializeTable (serialize : V → CJson) (table : HashTable CStr V) : CJson :=
  .object (table.toList.map fun entry => (entry.1, serialize entry.2))

/-- The `state` object. -/
def serializeSelection (graph : SceneGraph) : CJson :=
  .object [
    ("active_scene_id", .ofPointer graph.activeSceneId),
    ("preview_scene_id", .ofPointer graph.previewSceneId),
    ("transition_active", .bool graph.transitionRuntime.active),
    ("transition_progress", .number graph.transitionRuntime.progress),
    ("transition_id", .ofPointer graph.transitionRuntime.transitionId)]

/-- `sbs_scene_graph_serialize_full_state`. -/
def serializeFullState
    (gstElementAvailable : CStr → Bool)
    (graph : SceneGraph) : CJson :=
  .object [
    ("canvas", serializeCanvas graph.canvas),
    ("sources", serializeTable (serializeSource gstElementAvailable) graph.sources),
    ("scenes", serializeTable serializeScene graph.scenes),
    ("output_groups", serializeTable serializeOutput graph.outputs),
    ("transitions", serializeTable serializeTransition graph.transitions),
    ("state", serializeSelection graph)]

end SceneGraph
end SbsServer
