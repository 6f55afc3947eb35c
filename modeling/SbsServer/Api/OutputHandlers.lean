import SbsServer.Api.Dispatch
import SbsServer.CLib.Numeral
import SbsServer.Engine.EncoderManager
import SbsServer.SceneGraph.Serialize
import SbsServer.Supervisor.OutputSupervisor

/-!
# Handlers of outputs

`output.start`, `output.stop` and `output.update` over both back ends: the sink
branches of the shared encoder and the workers of the output supervisor.
-/

namespace SbsServer
namespace Api

open CLib SceneGraph Supervisor Engine

/-- What the handlers of outputs use of a server. -/
structure OutputServer where
  graph : SceneGraph
  encoderManager : Option EncoderManager
  outputSup : OutputTable
  /-- `comp_thread` is not NULL. -/
  compThread : Bool
  /-- The save timer is running. -/
  saveTimeout : Bool
  /-- The events published so far. -/
  published : List (CStr × CJson)

/-- What the rest of the server answers when an output is started. -/
structure OutputAnswers where
  /-- The answers while the codec of the shared encoder is changed. -/
  prepare : BuildAnswers
  /-- The answers while a sink branch is added. -/
  add : BuildAnswers
  /-- The process of a new worker. -/
  launch : OutputLaunch

/-- The bytes of a string, as the encoder manager reads them. -/
def managerText (text : CStr) : String :=
  String.ofList (text.bytes.map fun byte => Char.ofNat byte.toNat)

/-- A return code of the encoder manager. -/
def managerResult : ReturnCode → SbsResult
  | .ok => .ok
  | .inval => .inval
  | .io => .io
  | .wouldBlock => .wouldBlock
  | .notFound => .notFound

/-- `encoder_str` -/
def encoderStr
    (encoder : StrMap)
    (key : CStr)
    (fallback : Option CStr) : Option CStr :=
  (encoder.lookup key).or fallback

/-- `encoder_num` -/
def encoderNum
    (encoder : StrMap)
    (key : CStr)
    (fallback : UInt32) : UInt32 :=
  match encoder.lookup key with
  | some text => (strtoul text.bytes).toUInt32
  | none => fallback

/-- The settings of a sink that both back ends read. -/
structure SinkOptions where
  sinkType : CStr
  srtUri : CStr
  srtLatencyMs : UInt32
  rtmpUri : Option CStr
  rtmpPasscode : Option CStr
  filePath : Option CStr
  filePathMode : CStr
  filePrefix : CStr
  fileContainer : CStr
  deriving DecidableEq

/-- The settings from the parameters of a request, then from the encoder table of the output,
then the defaults.  `output.update` has no parameters for them. -/
def sinkOptions
    (params : Option CJson)
    (encoder : StrMap) : SinkOptions :=
  let string := fun key => (CJson.str params key).or (encoder.lookup key)
  let latency := (CJson.num params "srt_latency_ms" (.ofInt 0)).toUInt32
  { sinkType := (string "sink_type").getD "srt"
    srtUri := (string "srt_uri").getD "srt://:8888"
    srtLatencyMs := if latency ≠ 0 then latency else encoderNum encoder "srt_latency_ms" 600
    rtmpUri := string "rtmp_uri"
    rtmpPasscode := (CJson.str params "rtmp_stream_key").or (string "rtmp_passcode")
    filePath := string "file_path"
    filePathMode := (string "file_path_mode").getD "file"
    filePrefix := (string "file_prefix").getD "stream"
    fileContainer := (string "file_container").getD "ts" }

/-- The configuration of a sink branch. -/
def SinkOptions.branchConfig
    (options : SinkOptions)
    (outputId : CStr) : SinkBranchConfig where
  outputId := managerText outputId
  sinkType := some (managerText options.sinkType)
  srtUri := some (managerText options.srtUri)
  srtLatencyMs := options.srtLatencyMs
  rtmpUri := options.rtmpUri.map managerText
  rtmpPasscode := options.rtmpPasscode.map managerText
  filePath := options.filePath.map managerText
  filePathMode := some (managerText options.filePathMode)
  filePrefix := some (managerText options.filePrefix)
  fileContainer := some (managerText options.fileContainer)

/-- The configuration of a worker. -/
def SinkOptions.startConfig
    (options : SinkOptions)
    (canvas : CanvasState)
    (outputId codec : CStr)
    (bitrateKbps gopSize : UInt32) : OutputStartConfig where
  outputId := outputId
  width := canvas.width
  height := canvas.height
  framerateNum := canvas.fpsNum
  framerateDen := canvas.fpsDen
  codec := some codec
  bitrateKbps := bitrateKbps
  gopSize := gopSize
  encoder := none
  sinkType := some options.sinkType
  srtUri := some options.srtUri
  srtLatencyMs := options.srtLatencyMs
  rtmpUri := options.rtmpUri
  rtmpPasscode := options.rtmpPasscode
  filePath := options.filePath
  filePathMode := some options.filePathMode
  filePrefix := some options.filePrefix
  fileContainer := some options.fileContainer

/-- The settings that a started output keeps in its encoder table. -/
def SinkOptions.entries (options : SinkOptions) : List (CStr × CStr) :=
  [(CStr.lit "sink_type", options.sinkType), (CStr.lit "srt_uri", options.srtUri),
    (CStr.lit "srt_latency_ms", .ofNat options.srtLatencyMs.toNat)] ++
  (options.rtmpUri.map fun uri => (CStr.lit "rtmp_uri", uri)).toList ++
  (options.rtmpPasscode.map fun passcode => (CStr.lit "rtmp_passcode", passcode)).toList ++
  (options.filePath.map fun path => (CStr.lit "file_path", path)).toList ++
  [(CStr.lit "file_path_mode", options.filePathMode), (CStr.lit "file_prefix", options.filePrefix),
    (CStr.lit "file_container", options.fileContainer)]

/-- `resolve_shared_codec_for_sink` -/
def resolveSharedCodecForSink
    (sinkType : CStr)
    (requestedCodec : Option CStr) : Option CStr :=
  match given requestedCodec with
  | some codec => some codec
  | none => if sinkType = "rtmp" then some "h264" else none

/-- The codec that an output wants from the shared encoder. -/
def wantedCodec (output : OutputState) : Option CStr :=
  resolveSharedCodecForSink (sinkOptions none output.encoder).sinkType
    (encoderStr output.encoder "codec" none)

/-- `ensure_shared_encoder_codec` with an encoder manager: its result, its error and the
manager. -/
def ensureSharedEncoderCodec
    (manager : EncoderManager)
    (codec : Option CStr)
    (answers : BuildAnswers) : SbsResult × Option CJson × EncoderManager :=
  match codec with
  | none => (.ok, none, manager)
  | some codec =>
      if manager.codec = managerText codec then (.ok, none, manager)
      else if 0 < manager.branches.entries.length then
        (.inval, some (rpcError (-32006) "Output codec conflicts with active shared encoder"),
          manager)
      else
        match manager.updateConfig answers
            { manager.getConfig with codec := some (managerText codec) } with
        | (.ok, updated) => (.ok, none, updated)
        | (code, updated) =>
            (managerResult code,
              some (rpcError (-32006) "Failed to update shared encoder codec"), updated)

/-- The table that `output_replace_encoder_from_json` makes of the members of an object. -/
def encoderFromJson (members : List (CStr × CJson)) : StrMap :=
  members.foldl (fun map member =>
    match member.2 with
    | .string value =>
        map.insert (if member.1 = "rtmp_stream_key" then "rtmp_passcode" else member.1) value
    | .number value => map.insert member.1 (.ofNat value.toUInt32.toNat)
    | _ => map) .empty

/-- `output_encoder_to_public_json` -/
def outputEncoderToPublicJson (encoder : StrMap) : CJson :=
  .object (encoder.toList.flatMap fun entry : CStr × CStr =>
    let isSet := CJson.bool (entry.2 ≠ CStr.lit "")
    if entry.1 = CStr.lit "rtmp_passcode" then
      [(CStr.lit "rtmp_passcode_set", isSet), (CStr.lit "rtmp_stream_key_set", isSet)]
    else [(entry.1, .string entry.2)])

/-- `sbs_scene_graph_serialize_output_public` -/
def serializeOutputPublic : Option OutputState → CJson
  | none => .object [("sinks", .array [])]
  | some output => .object [
      ("id", .string output.id),
      ("name", .string output.name),
      ("enabled", .bool output.enabled),
      ("autostart", .bool output.autostart),
      ("state", .string (output.runtimeState.getD
        (if output.running then "running" else "created"))),
      ("encoder", outputEncoderToPublicJson output.encoder),
      ("sinks", .array (output.sinks.map serializeSink))]

namespace OutputServer

/-- A change through the pointer of `sbs_scene_graph_get_output`. -/
def modifyOutput
    (server : OutputServer)
    (id : CStr)
    (change : OutputState → OutputState) : OutputServer :=
  { server with
    graph := { server.graph with outputs := server.graph.outputs.modify id change } }

/-- `sbs_config_manager_mark_dirty` -/
def markDirty (server : OutputServer) : OutputServer :=
  { server with saveTimeout := true }

/-- `sbs_api_server_publish` of an output. -/
def publish
    (server : OutputServer)
    (method id : CStr) : OutputServer :=
  { server.markDirty with
    published := server.published ++
      [(method, serializeOutputPublic (server.graph.outputs.lookup id))] }

/-- A handler that fails. -/
def failed
    (server : OutputServer)
    (code : SbsResult)
    (number : ℤ)
    (message : CStr) : Reply × OutputServer :=
  (⟨code, none, some (rpcError number message)⟩, server)

/-- A handler that succeeds with the output as its result. -/
def succeeded
    (server : OutputServer)
    (method id : CStr) : Reply × OutputServer :=
  (⟨.ok, some (serializeOutputPublic (server.graph.outputs.lookup id)), none⟩,
    server.publish method id)

/-- The end of a successful start. -/
def started
    (server : OutputServer)
    (id : CStr)
    (entries : List (CStr × CStr))
    (runtimeState : CStr) : Reply × OutputServer :=
  ((server.modifyOutput id fun output => { output with
    encoder := output.encoder.insertAll entries
    autostart := true
    running := true
    runtimeState := some runtimeState }).markDirty).succeeded "output.status" id

/-- The start of a sink branch. -/
def startSink
    (server : OutputServer)
    (manager : EncoderManager)
    (id : CStr)
    (output : OutputState)
    (params : Option CJson)
    (answers : OutputAnswers) : Reply × OutputServer :=
  let options := sinkOptions params output.encoder
  let codec := resolveSharedCodecForSink options.sinkType
    ((CJson.str params "codec").or (encoderStr output.encoder "codec" none))
  match ensureSharedEncoderCodec manager codec answers.prepare with
  | (.ok, _, prepared) =>
      match prepared.addSink answers.add (options.branchConfig output.id) with
      | (.ok, added) =>
          started { server with encoderManager := some added } id
            (options.entries ++ (codec.map fun codec => (CStr.lit "codec", codec)).toList)
            "running"
      | (code, left) =>
          failed { server with encoderManager := some left } (managerResult code) (-32006)
            "Failed to add output sink branch"
  | (code, error, prepared) =>
      (⟨code, none, error⟩, { server with encoderManager := some prepared })

/-- The start of a worker. -/
def startWorker
    (server : OutputServer)
    (id : CStr)
    (output : OutputState)
    (params : Option CJson)
    (answers : OutputAnswers) : Reply × OutputServer :=
  let canvas := server.graph.canvas
  let options := sinkOptions params output.encoder
  let codec := ((CJson.str params "codec").or (encoderStr output.encoder "codec" none)).getD "h265"
  let bitrate := (CJson.num params "bitrate_kbps" (.ofInt 0)).toUInt32
  let gopSize := (CJson.num params "gop_size"
    (.ofInt (encoderNum output.encoder "gop_size" canvas.fpsNum).toNat)).toUInt32
  let config := options.startConfig canvas output.id codec
    (if bitrate ≠ 0 then bitrate else encoderNum output.encoder "bitrate_kbps" 10000) gopSize
  match startOutput server.outputSup config answers.launch with
  | (.ok, outputs) =>
      started { server with outputSup := outputs } id options.entries "starting"
  | (code, outputs) =>
      failed { server with outputSup := outputs } code (-32006) "Failed to start output worker"

/-- `sbs_api_handle_output_start` -/
def outputStart
    (server : OutputServer)
    (params : Option CJson)
    (answers : OutputAnswers) : Reply × OutputServer :=
  match CJson.str params "id" with
  | none => server.failed .notFound (-32001) "Output not found"
  | some id =>
      match server.graph.outputs.lookup id with
      | none => server.failed .notFound (-32001) "Output not found"
      | some output =>
          if !server.compThread then
            server.failed .inval (-32006)
              "Output start unavailable: compositor thread not initialized"
          else
            match server.encoderManager with
            | some manager => server.startSink manager id output params answers
            | none => server.startWorker id output params answers

/-- The back end of an output is stopped. -/
def stopBackEnd
    (server : OutputServer)
    (id : CStr) : SbsResult × OutputServer :=
  let worker := fun _ : Unit =>
    let (code, outputs) := stopOutput server.outputSup id
    (code, { server with outputSup := outputs })
  match server.encoderManager with
  | some manager =>
      if manager.branches.contains (managerText id) then
        let (code, removed) := manager.removeSink (managerText id)
        (managerResult code, { server with encoderManager := some removed })
      else worker ()
  | none => worker ()

/-- `sbs_api_handle_output_stop` -/
def outputStop
    (server : OutputServer)
    (params : Option CJson) : Reply × OutputServer :=
  match CJson.str params "id" with
  | none => server.failed .notFound (-32001) "Output not found"
  | some id =>
      match server.graph.outputs.lookup id with
      | none => server.failed .notFound (-32001) "Output not found"
      | some _ =>
          match server.stopBackEnd id with
          | (.ok, stopped) | (.notFound, stopped) =>
              ((stopped.modifyOutput id fun output => { output with
                running := false
                autostart := false
                runtimeState := some "disabled" }).markDirty).succeeded "output.status" id
          | (code, stopped) => stopped.failed code (-32003) "Failed to stop output"

/-- The outcome of a restart is noted. -/
def restarted
    (server : OutputServer)
    (id : CStr)
    (running : Bool) : Reply × OutputServer :=
  (server.modifyOutput id fun output => { output with
    running := running
    runtimeState := some (if running then "starting" else "error") }).succeeded
      "output.updated" id

/-- The sink branch is removed and added again. -/
def restartSink
    (server : OutputServer)
    (manager : EncoderManager)
    (id : CStr)
    (output : OutputState)
    (answers : OutputAnswers) : Reply × OutputServer :=
  let removed := (manager.removeSink (managerText id)).2
  let config := (sinkOptions none output.encoder).branchConfig output.id
  match ensureSharedEncoderCodec removed (wantedCodec output) answers.prepare with
  | (.ok, _, prepared) =>
      match prepared.addSink answers.add config with
      | (.ok, added) => restarted { server with encoderManager := some added } id true
      | (_, left) => restarted { server with encoderManager := some left } id false
  | (_, _, prepared) =>
      -- the handler returns without a result
      (⟨.ok, none, none⟩,
        ((modifyOutput { server with encoderManager := some prepared } id fun output =>
          { output with running := false, runtimeState := some "error" }).publish
            "output.status" id).markDirty)

/-- The settings with which the worker is started again. -/
def updatedConfig
    (server : OutputServer)
    (output : OutputState) : OutputStartConfig :=
  (sinkOptions none output.encoder).startConfig server.graph.canvas output.id
    ((encoderStr output.encoder "codec" none).getD "h265")
    (encoderNum output.encoder "bitrate_kbps" 10000)
    (encoderNum output.encoder "gop_size" server.graph.canvas.fpsNum)

/-- The worker is stopped and started again. -/
def restartWorker
    (server : OutputServer)
    (id : CStr)
    (output : OutputState)
    (answers : OutputAnswers) : Reply × OutputServer :=
  let stopped := (stopOutput server.outputSup id).2
  match startOutput stopped (server.updatedConfig output) answers.launch with
  | (.ok, outputs) => restarted { server with outputSup := outputs } id true
  | (_, outputs) => restarted { server with outputSup := outputs } id false

/-- The restart of a running output. -/
def restartOutput
    (server : OutputServer)
    (id : CStr)
    (output : OutputState)
    (answers : OutputAnswers) : Reply × OutputServer :=
  match server.encoderManager with
  | some manager =>
      if manager.branches.contains (managerText id) then
        server.restartSink manager id output answers
      else server.restartWorker id output answers
  | none => server.restartWorker id output answers

/-- The name of an update is taken over. -/
def rename
    (params : Option CJson)
    (output : OutputState) : OutputState :=
  match CJson.str params "name" with
  | some name => { output with name := name }
  | none => output

/-- The name and the encoder table of an update. -/
def updatedOutput
    (params : Option CJson)
    (members : List (CStr × CJson))
    (output : OutputState) : OutputState :=
  { rename params output with encoder := encoderFromJson members }

/-- `sbs_api_handle_output_update` -/
def outputUpdate
    (server : OutputServer)
    (params : Option CJson)
    (answers : OutputAnswers) : Reply × OutputServer :=
  match CJson.str params "id" with
  | none => server.failed .notFound (-32001) "Output not found"
  | some id =>
      match server.graph.outputs.lookup id with
      | none => server.failed .notFound (-32001) "Output not found"
      | some output =>
          match CJson.getObjectItem params "encoder" with
          | some (.object members) =>
              let changed := server.modifyOutput id (updatedOutput params members)
              if output.running then
                changed.restartOutput id (updatedOutput params members output) answers
              else changed.succeeded "output.updated" id
          | _ => (server.modifyOutput id (rename params)).succeeded "output.updated" id

end OutputServer
end Api
end SbsServer
