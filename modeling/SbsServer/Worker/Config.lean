import SbsServer.Common.CJson
import SbsServer.SceneGraph.State

/-!
# The configuration of a source worker

`build_config_json` of `source_supervisor.c`, which writes the configuration
of a source for its worker process, and `sbs_worker_config_parse` of
`worker_common.c`, which reads it.  The worker links another JSON parser than
the server; it is a parameter here.
-/

namespace SbsServer

open CLib

namespace Worker

/-- The fields of `sbs_source_start_config_t` behind the names. -/
structure SourceStartConfig where
  width : UInt32
  height : UInt32
  framerateNum : UInt32
  framerateDen : UInt32
  pattern : Option CStr
  captureMode : Option CStr
  outputFormat : Option CStr
  devicePath : Option CStr
  format : Option CStr
  framerate : Option CStr
  decodeMode : Option CStr
  uri : Option CStr
  loop : Bool
  text : Option CStr
  fontFamily : Option CStr
  fontPath : Option CStr
  textColor : Option CStr
  textAlign : Option CStr
  fontSize : UInt32

/-- The fields of `sbs_source_entry_t` that the worker is told.  The three
strings are never NULL. -/
structure ConfigEntry where
  sourceId : CStr
  sourceType : CStr
  socketPath : CStr
  configCopy : SourceStartConfig

/-- Three octal digits of a byte. -/
def octalDigits (byte : UInt8) : List UInt8 :=
  [48 + byte / 64, 48 + byte / 8 % 8, 48 + byte % 8]

/-- The bytes that `g_strescape` writes for one byte. -/
def cEscaped (byte : UInt8) : List UInt8 :=
  match byte with
  | 8 => [92, 98]
  | 12 => [92, 102]
  | 10 => [92, 110]
  | 13 => [92, 114]
  | 9 => [92, 116]
  | 11 => [92, 118]
  | 92 => [92, 92]
  | 34 => [92, 34]
  | byte => if byte < 32 ∨ 127 ≤ byte then 92 :: octalDigits byte else [byte]

/-- `g_strescape` without exceptions. -/
def strescape (value : CStr) : List UInt8 :=
  value.bytes.flatMap cEscaped

/-- A key with its quotes and its colon. -/
def keyText (key : CStr) : List UInt8 :=
  34 :: key.bytes ++ [34, 58]

/-- The macro `ADD_JSON_STRING`. -/
def addJsonString
    (json : List UInt8)
    (key : CStr)
    (value : Option CStr) : List UInt8 :=
  match value with
  | some value =>
      json ++ (if 1 < json.length then [44] else []) ++
        (keyText key ++ 34 :: strescape value ++ [34])
  | none => json

/-- A numeral after its key and a comma, as the format `,"key":%u` writes it. -/
def addJsonNumber
    (json : List UInt8)
    (key : CStr)
    (value : UInt32) : List UInt8 :=
  json ++ 44 :: (keyText key ++ CStr.decimalBytes value.toNat)

/-- `build_config_json`. -/
def buildConfigJson (entry : ConfigEntry) : List UInt8 :=
  let config := entry.configCopy
  let json := [123]
  let json := addJsonString json "mode" (some "source")
  let json := addJsonString json "worker_id" (some entry.sourceId)
  let json := addJsonString json "socket_path" (some entry.socketPath)
  let json := addJsonNumber json "width" config.width
  let json := addJsonNumber json "height" config.height
  let json := addJsonNumber json "framerate_num" config.framerateNum
  let json := addJsonNumber json "framerate_den"
    (if 0 < config.framerateDen then config.framerateDen else 1)
  let json := addJsonString json "source_type" (some entry.sourceType)
  let json := addJsonString json "pattern" config.pattern
  let json := addJsonString json "capture_mode" config.captureMode
  let json := addJsonString json "output_format" config.outputFormat
  let json := addJsonString json "device_path" config.devicePath
  let json := addJsonString json "format" config.format
  let json := addJsonString json "framerate" config.framerate
  let json := addJsonString json "decode_mode" config.decodeMode
  let json := addJsonString json "uri" config.uri
  let json := addJsonString json "text" config.text
  let json := addJsonString json "font_family" config.fontFamily
  let json := addJsonString json "font_path" config.fontPath
  let json := addJsonString json "text_color" config.textColor
  let json := addJsonString json "text_align" config.textAlign
  let json :=
    if 0 < config.fontSize then addJsonNumber json "font_size" config.fontSize
    else json
  let json :=
    if config.loop then json ++ 44 :: (keyText "loop" ++ [116, 114, 117, 101])
    else json
  json ++ [125]

/-- `sbs_source_config_t`.  The field `properties` is a part of the tree. -/
structure SourceConfig where
  sourceType : Option CStr
  captureMode : Option CStr
  outputFormat : Option CStr
  pattern : Option CStr
  devicePath : Option CStr
  format : Option CStr
  framerate : Option CStr
  decodeMode : Option CStr
  uri : Option CStr
  loop : Bool
  text : Option CStr
  fontFamily : Option CStr
  fontPath : Option CStr
  textColor : Option CStr
  textAlign : Option CStr
  fontSize : UInt32
  properties : Option CJson

/-- `sbs_output_config_t`. -/
structure OutputConfig where
  codec : Option CStr
  srtUri : Option CStr
  encoder : Option CStr
  sinkType : Option CStr
  srtLatencyMs : UInt32
  rtmpUri : Option CStr
  rtmpPasscode : Option CStr
  filePath : Option CStr
  filePathMode : Option CStr
  filePrefix : Option CStr
  fileContainer : Option CStr
  bitrate : UInt32
  gopSize : UInt32

/-- The union of `sbs_worker_config_t`, by the mode that fills it. -/
inductive ModeConfig
  | unset
  | source (config : SourceConfig)
  | output (config : OutputConfig)

/-- `sbs_worker_config_t` as the parser fills it. -/
structure WorkerConfig where
  mode : Option CStr
  workerId : Option CStr
  socketPath : Option CStr
  width : UInt32
  height : UInt32
  framerateNum : UInt32
  framerateDen : UInt32
  heartbeatIntervalMs : UInt32
  modeConfig : ModeConfig

/-- `json_get_string`. -/
def jsonGetString (root : CJson) (key : CStr) : Option CStr :=
  CJson.getStringValue (CJson.getObjectItem (some root) key)

/-- `json_get_uint32`. -/
def jsonGetUint32
    (root : CJson)
    (key : CStr)
    (defaultVal : UInt32) : UInt32 :=
  match CJson.getObjectItem (some root) key with
  | some (.number value) => value.toUInt32
  | _ => defaultVal

/-- `json_get_bool`. -/
def jsonGetBool
    (root : CJson)
    (key : CStr)
    (defaultVal : Bool) : Bool :=
  match CJson.getObjectItem (some root) key with
  | some (.bool value) => value
  | _ => defaultVal

/-- `parse_source_config`. -/
def parseSourceConfig (root : CJson) : SbsResult × SourceConfig :=
  let config : SourceConfig := {
    sourceType := jsonGetString root "source_type"
    captureMode := jsonGetString root "capture_mode"
    outputFormat := jsonGetString root "output_format"
    pattern := jsonGetString root "pattern"
    devicePath := jsonGetString root "device_path"
    format := jsonGetString root "format"
    framerate := jsonGetString root "framerate"
    decodeMode := jsonGetString root "decode_mode"
    uri := jsonGetString root "uri"
    loop := jsonGetBool root "loop" false
    text := jsonGetString root "text"
    fontFamily := jsonGetString root "font_family"
    fontPath := jsonGetString root "font_path"
    textColor := jsonGetString root "text_color"
    textAlign := jsonGetString root "text_align"
    fontSize := jsonGetUint32 root "font_size" 48
    properties := CJson.getObjectItem (some root) "properties" }
  (if config.sourceType.isNone then .inval else .ok, config)

/-- `parse_output_config`. -/
def parseOutputConfig (root : CJson) : SbsResult × OutputConfig :=
  let config : OutputConfig := {
    codec := jsonGetString root "codec"
    srtUri := jsonGetString root "srt_uri"
    encoder := jsonGetString root "encoder"
    sinkType := jsonGetString root "sink_type"
    srtLatencyMs := jsonGetUint32 root "srt_latency_ms" 600
    rtmpUri := jsonGetString root "rtmp_uri"
    rtmpPasscode := jsonGetString root "rtmp_passcode"
    filePath := jsonGetString root "file_path"
    filePathMode := jsonGetString root "file_path_mode"
    filePrefix := jsonGetString root "file_prefix"
    fileContainer := jsonGetString root "file_container"
    bitrate := jsonGetUint32 root "bitrate_kbps" 5000
    gopSize := jsonGetUint32 root "gop_size" 60 }
  (if config.codec.isNone then .inval else .ok, config)

/-- `sbs_worker_config_parse` with the JSON parser of the worker; nothing when
the text is refused as a whole. -/
def workerConfigParse
    (parse : CStr → Option CJson)
    (jsonStr : CStr) : SbsResult × Option WorkerConfig :=
  match parse jsonStr with
  | none => (.inval, none)
  | some root =>
      let config : WorkerConfig := {
        mode := jsonGetString root "mode"
        workerId := jsonGetString root "worker_id"
        socketPath := jsonGetString root "socket_path"
        width := jsonGetUint32 root "width" 1920
        height := jsonGetUint32 root "height" 1080
        framerateNum := jsonGetUint32 root "framerate_num" 30
        framerateDen := jsonGetUint32 root "framerate_den" 1
        heartbeatIntervalMs := jsonGetUint32 root "heartbeat_interval_ms" 5000
        modeConfig := .unset }
      if config.mode = some (CStr.lit "source") then
        let (code, source) := parseSourceConfig root
        (code, some { config with modeConfig := .source source })
      else if config.mode = some (CStr.lit "output") then
        let (code, output) := parseOutputConfig root
        (code, some { config with modeConfig := .output output })
      else (.ok, some config)

end Worker
end SbsServer
