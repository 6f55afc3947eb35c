import Mathlib.Data.List.Nodup
import Mathlib.Data.UInt

/-!
# The encoder manager

One hardware encoder feeds the sink branches.  The calls below hold
`pipeline_mutex` from begin to end, so each is one step.  What GStreamer and
`libvpcodec` answer is an argument of the call.
-/

namespace SbsServer
namespace Engine

/-- Return codes. -/
inductive ReturnCode
  | ok
  | inval
  | io
  | wouldBlock
  | notFound
  deriving DecidableEq

/-- `sbs_encoder_config_t` -/
structure EncoderConfig where
  codec : Option String
  bitrateKbps : UInt32
  gopSize : UInt32
  gopPattern : Int
  rcMode : Int
  encoder : Option String
  hdr10 : Bool
  deriving DecidableEq

/-- The codec of a configuration that names none. -/
def EncoderConfig.newCodec (config : EncoderConfig) : String :=
  config.codec.getD "h265"

/-- The bitrate of a configuration that gives none. -/
def EncoderConfig.newBitrate (config : EncoderConfig) : UInt32 :=
  if 0 < config.bitrateKbps then config.bitrateKbps else 10000

/-- A configuration with the defaults that the manager fills in. -/
def EncoderConfig.resolved (config : EncoderConfig) : EncoderConfig :=
  { config with codec := some config.newCodec, bitrateKbps := config.newBitrate }

/-- The containers of a file sink. -/
inductive FileContainer
  | ts
  | mkv
  | flv
  | mp4
  deriving DecidableEq

/-- The name of a container. -/
def FileContainer.name : FileContainer → String
  | .ts => "ts"
  | .mkv => "mkv"
  | .flv => "flv"
  | .mp4 => "mp4"

/-- `normalized_file_container` -/
def normalizedFileContainer : Option String → FileContainer
  | some "mkv" => .mkv
  | some "flv" => .flv
  | some "mp4" => .mp4
  | _ => .ts

@[simp] theorem normalizedFileContainer_name
    (container : FileContainer) :
    normalizedFileContainer (some container.name) = container := by
  cases container
  all_goals rfl

/-- `sbs_sink_branch_config_t` -/
structure SinkBranchConfig where
  outputId : String
  sinkType : Option String
  srtUri : Option String
  srtLatencyMs : UInt32
  rtmpUri : Option String
  rtmpPasscode : Option String
  filePath : Option String
  filePathMode : Option String
  filePrefix : Option String
  fileContainer : Option String
  deriving DecidableEq

/-- The settings that a branch keeps. -/
structure SinkSettings where
  outputId : String
  sinkType : String
  srtUri : Option String
  srtLatencyMs : UInt32
  rtmpUri : Option String
  rtmpPasscode : Option String
  filePath : Option String
  filePathMode : String
  filePrefix : String
  fileContainer : FileContainer
  deriving DecidableEq

/-- The settings of a new branch. -/
def SinkBranchConfig.settings (config : SinkBranchConfig) : SinkSettings where
  outputId := config.outputId
  sinkType := config.sinkType.getD "srt"
  srtUri := config.srtUri
  srtLatencyMs := config.srtLatencyMs
  rtmpUri := config.rtmpUri
  rtmpPasscode := config.rtmpPasscode
  filePath := config.filePath
  filePathMode := config.filePathMode.getD "file"
  filePrefix := config.filePrefix.getD "stream"
  fileContainer := normalizedFileContainer config.fileContainer

/-- The configuration saved before the encoder is rebuilt. -/
def SinkSettings.saved (settings : SinkSettings) : SinkBranchConfig where
  outputId := settings.outputId
  sinkType := some settings.sinkType
  srtUri := settings.srtUri
  srtLatencyMs := settings.srtLatencyMs
  rtmpUri := settings.rtmpUri
  rtmpPasscode := settings.rtmpPasscode
  filePath := settings.filePath
  filePathMode := some settings.filePathMode
  filePrefix := some settings.filePrefix
  fileContainer := some settings.fileContainer.name

/-- Nothing is lost in a saved configuration. -/
@[simp] theorem SinkSettings.settings_saved (settings : SinkSettings) :
    settings.saved.settings = settings := by
  simp [saved, SinkBranchConfig.settings]

/-- What a branch gets its packets from. -/
inductive BranchLink
  /-- Its own SRT session. -/
  | session
  /-- The tees of a pipeline, known by its number. -/
  | tee (pipeline : Nat)
  deriving DecidableEq

/-- A sink branch. -/
structure SinkBranch where
  settings : SinkSettings
  link : BranchLink
  deriving DecidableEq

/-- The identity of a branch. -/
abbrev SinkBranch.outputId (branch : SinkBranch) : String := branch.settings.outputId

/-- The table of branches: no two have the same identity. -/
structure SinkTable where
  entries : List SinkBranch
  distinct : (entries.map (·.outputId)).Nodup

namespace SinkTable

/-- A table without branches. -/
def empty : SinkTable where
  entries := []
  distinct := List.nodup_nil

/-- `g_hash_table_contains` -/
def contains (table : SinkTable) (outputId : String) : Bool :=
  (table.entries.map (·.outputId)).contains outputId

/-- `g_hash_table_insert` of a branch that is new. -/
def insert
    (table : SinkTable)
    (branch : SinkBranch)
    (new : table.contains branch.outputId = false) : SinkTable where
  entries := table.entries ++ [branch]
  distinct := by
    rw [List.map_append, List.map_singleton]
    apply List.Nodup.append table.distinct (List.nodup_singleton _)
    rw [List.disjoint_singleton]
    simpa [contains] using new

/-- `g_hash_table_steal` -/
def erase (table : SinkTable) (outputId : String) : SinkTable where
  entries := table.entries.filter (·.outputId ≠ outputId)
  distinct := table.distinct.sublist (List.filter_sublist.map _)

end SinkTable

/-- A frame that was submitted and not given back. -/
structure PendingFrame where
  id : Nat
  requestedIdr : Bool
  deriving DecidableEq

/-- `sbs_direct_venc_t`.  The source counts `next_submit_id` in an `int`, which has no meaning
after 2^31 frames. -/
structure DirectVenc where
  gopSize : UInt32
  bframeEnabled : Bool
  inputHdr10 : Bool
  nextSubmitId : Nat
  pendingFrames : List PendingFrame
  /-- `input_frame_num_origin` with `submit_id_origin`, once they are valid. -/
  origins : Option (Int × Int)
  deriving DecidableEq

/-- What `vl_multi_encoder_encode` answers. -/
inductive EncodeAnswer
  | invalid (errCod : Int) (inputFrameNum : Int)
  /-- The frame is accepted; the length of a packet, the frame that it is of and
  whether its type is that of a keyframe. -/
  | valid (length : Nat) (inputFrameNum : Int) (keyframe : Bool)
  deriving DecidableEq

/-- `vl_frame_type_t`, as far as it is used. -/
inductive FrameType
  | auto
  | idr
  deriving DecidableEq

/-- A packet. -/
structure VencPacket where
  size : Nat
  isKeyframe : Bool
  deriving DecidableEq

/-- What comes of a submission. -/
structure Submission where
  code : ReturnCode
  packet : Option VencPacket
  /-- The frame type with which the codec has accepted the frame. -/
  accepted : Option FrameType
  encoder : DirectVenc
  deriving DecidableEq

namespace DirectVenc

/-- `(int)gop_size` -/
def gopSizeInt (encoder : DirectVenc) : Int := encoder.gopSize.toInt32.toInt

/-- The next frame is an IDR frame by its number. -/
def idrDue (encoder : DirectVenc) : Bool :=
  encoder.nextSubmitId == 0 ||
    (decide (0 < encoder.gopSize) &&
      (encoder.nextSubmitId : Int).tmod encoder.gopSizeInt == 0)

/-- The origins that the first packet of an encoder with B frames sets. -/
def setOrigins
    (inputFrameNum : Int)
    (encoder : DirectVenc) : Option (Int × Int) :=
  if encoder.bframeEnabled then
    match encoder.origins, encoder.pendingFrames.head? with
    | none, some head => some (inputFrameNum, head.id)
    | origins, _ => origins
  else encoder.origins

/-- The submission that a packet is of. -/
def matchId
    (inputFrameNum : Int)
    (encoder : DirectVenc) : Int :=
  if encoder.bframeEnabled then
    match encoder.origins with
    | some (inputFrameNumOrigin, submitIdOrigin) =>
        submitIdOrigin + (inputFrameNum - inputFrameNumOrigin)
    | none => inputFrameNum
  else inputFrameNum

/-- `pending_frame_take_match` -/
def pendingFrameTakeMatch
    (inputFrameNum : Int)
    (encoder : DirectVenc) : Option PendingFrame × DirectVenc :=
  let popHead := fun encoder : DirectVenc =>
    (encoder.pendingFrames.head?,
      { encoder with pendingFrames := encoder.pendingFrames.tail })
  if 0 ≤ inputFrameNum then
    let encoder := { encoder with origins := encoder.setOrigins inputFrameNum }
    match encoder.pendingFrames.find? fun frame =>
        (frame.id : Int) = encoder.matchId inputFrameNum with
    | some frame =>
        (some frame, { encoder with pendingFrames := encoder.pendingFrames.erase frame })
    | none => popHead encoder
  else popHead encoder

/-- `pending_frame_push` -/
def pendingFramePush
    (requestedIdr : Bool)
    (encoder : DirectVenc) : DirectVenc :=
  { encoder with
    nextSubmitId := encoder.nextSubmitId + 1
    pendingFrames :=
      encoder.pendingFrames ++ [{ id := encoder.nextSubmitId, requestedIdr := requestedIdr }] }

/-- `pending_frame_prune` -/
def pendingFramePrune (encoder : DirectVenc) : DirectVenc :=
  { encoder with
    pendingFrames := encoder.pendingFrames.drop (encoder.pendingFrames.length - 4096) }

/-- `-ENOSYS` -/
def errNoSys : Int := -38

/-- `submit_common` -/
def submitCommon
    (answer : EncodeAnswer)
    (forceIdr : Bool)
    (encoder : DirectVenc) : Submission :=
  let requestIdr := forceIdr || encoder.idrDue
  let frameType := if requestIdr then FrameType.idr else .auto
  let pushed := encoder.pendingFramePush requestIdr
  match answer with
  | .invalid errCod inputFrameNum =>
      let popped := { pushed with pendingFrames := pushed.pendingFrames.dropLast }
      if errCod = errNoSys ∧ inputFrameNum < 0 then
        { code := .wouldBlock
          packet := none
          accepted := none
          encoder := { popped with nextSubmitId := popped.nextSubmitId - 1 } }
      else { code := .io, packet := none, accepted := none, encoder := popped }
  | .valid 0 inputFrameNum _ =>
      { code := .ok
        packet := none
        accepted := some frameType
        encoder :=
          if pushed.bframeEnabled then pushed.pendingFramePrune
          else (pushed.pendingFrameTakeMatch inputFrameNum).2 }
  | .valid (length + 1) inputFrameNum keyframe =>
      let (taken, after) := pushed.pendingFrameTakeMatch inputFrameNum
      { code := .ok
        packet := some
          { size := length + 1
            isKeyframe := (taken.map (·.requestedIdr)).getD requestIdr || keyframe }
        accepted := some frameType
        encoder := after }

/-- `DRM_FORMAT_P010` -/
def drmFormatP010 : UInt32 := 0x3031504e

/-- The format of a frame is that of the encoder's input. -/
def formatMatches
    (drmFormat : UInt32)
    (encoder : DirectVenc) : Bool :=
  drmFormat == 0 || (drmFormat == drmFormatP010) == encoder.inputHdr10

/-- `sbs_direct_venc_submit_dmabuf` -/
def submitDmabuf
    (drmFormat : UInt32)
    (answer : EncodeAnswer)
    (forceIdr : Bool)
    (encoder : DirectVenc) : Submission :=
  if encoder.formatMatches drmFormat then encoder.submitCommon answer forceIdr
  else { code := .inval, packet := none, accepted := none, encoder := encoder }

end DirectVenc

/-! ## The manager -/

/-- `gop_pattern_has_bframes` -/
def gopPatternHasBframes (gopPattern : Int) : Bool :=
  [1, 2, 3, 6, 7].contains gopPattern

/-- What is answered when a pipeline is built or a branch is linked. -/
structure BuildAnswers where
  /-- `sbs_direct_venc_new` makes an encoder. -/
  createsEncoder : Bool
  /-- The elements of the pipeline are made, linked and started. -/
  buildsPipeline : Bool
  /-- `start_srt_session` or `link_sink_branch` for a branch. -/
  links : String → ReturnCode

/-- A frame of the export. -/
structure ExportedFrame where
  dmabufFd : Int
  size : Nat
  drmFormat : UInt32
  /-- The `appsrc` takes the packet. -/
  pushes : Bool
  deriving DecidableEq

/-- `sbs_encoder_manager_t` -/
structure EncoderManager where
  width : UInt32
  height : UInt32
  fpsNum : UInt32
  fpsDen : UInt32
  codec : String
  bitrateKbps : UInt32
  gopSize : UInt32
  gopPattern : Int
  rcMode : Int
  encoderOverride : Option String
  hdr10 : Bool
  branches : SinkTable
  /-- The number of the pipeline. -/
  pipeline : Option Nat
  pipelineActive : Bool
  videoEncoder : Option DirectVenc
  forceNextIdr : Bool
  framesPushed : UInt64
  framesDropped : UInt64
  encodedBytes : UInt64
  /-- The number of pipelines built so far. -/
  pipelines : Nat

namespace EncoderManager

/-- `sbs_encoder_manager_new` -/
def new
    (width height fpsNum fpsDen : UInt32)
    (config : EncoderConfig) : EncoderManager where
  width := width
  height := height
  fpsNum := fpsNum
  fpsDen := if 0 < fpsDen then fpsDen else 1
  codec := config.newCodec
  bitrateKbps := config.newBitrate
  gopSize := config.gopSize
  gopPattern := config.gopPattern
  rcMode := config.rcMode
  encoderOverride := config.encoder
  hdr10 := config.hdr10
  branches := .empty
  pipeline := none
  pipelineActive := false
  videoEncoder := none
  forceNextIdr := false
  framesPushed := 0
  framesDropped := 0
  encodedBytes := 0
  pipelines := 0

/-- `sbs_encoder_manager_get_config` -/
def getConfig (manager : EncoderManager) : EncoderConfig where
  codec := some manager.codec
  bitrateKbps := manager.bitrateKbps
  gopSize := manager.gopSize
  gopPattern := manager.gopPattern
  rcMode := manager.rcMode
  encoder := manager.encoderOverride
  hdr10 := manager.hdr10

/-- `sbs_direct_venc_new` with the settings of the manager. -/
def newEncoder (manager : EncoderManager) : DirectVenc where
  gopSize := manager.gopSize
  bframeEnabled := gopPatternHasBframes manager.gopPattern
  inputHdr10 := manager.hdr10
  nextSubmitId := 0
  pendingFrames := []
  origins := none

/-- `ensure_pipeline` -/
def ensurePipeline
    (answers : BuildAnswers)
    (manager : EncoderManager) : ReturnCode × EncoderManager :=
  if manager.pipelineActive then (.ok, manager)
  else if !answers.createsEncoder || !answers.buildsPipeline then
    (.io, { manager with videoEncoder := none })
  else
    (.ok,
      { manager with
        videoEncoder := some manager.newEncoder
        pipeline := some manager.pipelines
        pipelines := manager.pipelines + 1
        pipelineActive := true
        framesPushed := 0
        forceNextIdr := true })

/-- `teardown_pipeline` -/
def teardownPipeline (manager : EncoderManager) : EncoderManager :=
  match manager.pipeline with
  | none => manager
  | some _ =>
      { manager with pipeline := none, pipelineActive := false, videoEncoder := none }

/-- How a new branch is linked. -/
def linkOf
    (manager : EncoderManager)
    (settings : SinkSettings) : BranchLink :=
  if settings.sinkType = "srt" then .session else .tee (manager.pipeline.getD 0)

@[simp] theorem ensurePipeline_branches
    (answers : BuildAnswers)
    (manager : EncoderManager) :
    (manager.ensurePipeline answers).2.branches = manager.branches := by
  unfold ensurePipeline
  split
  · rfl
  · split
    · rfl
    · rfl

/-- A branch that is linked goes into the table, and the next frame is to be an IDR. -/
def insertBranch
    (manager : EncoderManager)
    (settings : SinkSettings)
    (new : manager.branches.contains settings.outputId = false) : EncoderManager :=
  { manager with
    branches :=
      manager.branches.insert { settings := settings, link := manager.linkOf settings } new
    forceNextIdr := true }

/-- `sbs_encoder_manager_add_sink` -/
def addSink
    (answers : BuildAnswers)
    (config : SinkBranchConfig)
    (manager : EncoderManager) : ReturnCode × EncoderManager :=
  if present : manager.branches.contains config.outputId = true then (.inval, manager)
  else
    let built := (manager.ensurePipeline answers).2
    if (manager.ensurePipeline answers).1 ≠ .ok then
      ((manager.ensurePipeline answers).1, built)
    else if answers.links config.outputId ≠ .ok then (answers.links config.outputId, built)
    else
      (.ok,
        built.insertBranch config.settings (by
          rw [ensurePipeline_branches]
          exact eq_false_of_ne_true present))

/-- `sbs_encoder_manager_remove_sink` -/
def removeSink
    (outputId : String)
    (manager : EncoderManager) : ReturnCode × EncoderManager :=
  if manager.branches.contains outputId then
    let fewer := { manager with branches := manager.branches.erase outputId }
    (.ok, if fewer.branches.entries.isEmpty then fewer.teardownPipeline else fewer)
  else (.notFound, manager)

/-- The fields that `sbs_encoder_manager_update_config` compares are the same. -/
def unchangedBy
    (config : EncoderConfig)
    (manager : EncoderManager) : Bool :=
  manager.codec == config.newCodec && manager.bitrateKbps == config.newBitrate &&
    manager.gopSize == config.gopSize && manager.gopPattern == config.gopPattern &&
    manager.rcMode == config.rcMode && manager.hdr10 == config.hdr10

/-- The branches are unlinked, the settings stored and the pipeline torn down. -/
def stopForUpdate
    (config : EncoderConfig)
    (manager : EncoderManager) : EncoderManager :=
  teardownPipeline
    { manager with
      pipelineActive := false
      branches := .empty
      codec := config.newCodec
      bitrateKbps := config.newBitrate
      gopSize := config.gopSize
      gopPattern := config.gopPattern
      rcMode := config.rcMode
      encoderOverride := config.encoder
      hdr10 := config.hdr10 }

/-- The saved branches are added again. -/
def readdBranches
    (answers : BuildAnswers)
    (manager : EncoderManager)
    (saved : List SinkBranchConfig) : EncoderManager :=
  saved.foldl (fun manager config => (manager.addSink answers config).2) manager

/-- `sbs_encoder_manager_update_config` -/
def updateConfig
    (answers : BuildAnswers)
    (config : EncoderConfig)
    (manager : EncoderManager) : ReturnCode × EncoderManager :=
  if manager.unchangedBy config then (.ok, manager)
  else
    let saved := manager.branches.entries.map (·.settings.saved)
    let (code, rebuilt) := (manager.stopForUpdate config).ensurePipeline answers
    if code ≠ .ok then (code, rebuilt)
    else (.ok, rebuilt.readdBranches answers saved)

/-- The video format is the same. -/
def sameVideo
    (width height fpsNum fpsDen : UInt32)
    (hdr10 : Bool)
    (manager : EncoderManager) : Bool :=
  manager.width == width && manager.height == height && manager.fpsNum == fpsNum &&
    manager.fpsDen == fpsDen && manager.hdr10 == hdr10

/-- The pipeline is torn down and the video format stored. -/
def setVideo
    (width height fpsNum fpsDen : UInt32)
    (hdr10 : Bool)
    (manager : EncoderManager) : EncoderManager :=
  let stopped := teardownPipeline { manager with pipelineActive := false }
  { stopped with
    width := width
    height := height
    fpsNum := fpsNum
    fpsDen := fpsDen
    hdr10 := hdr10
    gopSize := if stopped.gopSize = stopped.fpsNum then fpsNum else stopped.gopSize
    forceNextIdr := true }

/-- A denominator of zero is one. -/
def fpsDenominator (fpsDen : UInt32) : UInt32 :=
  if fpsDen = 0 then 1 else fpsDen

/-- `sbs_encoder_manager_reconfigure_video` -/
def reconfigureVideo
    (width height fpsNum fpsDen : UInt32)
    (hdr10 : Bool)
    (manager : EncoderManager) : ReturnCode × EncoderManager :=
  if width = 0 ∨ height = 0 ∨ fpsNum = 0 then (.inval, manager)
  else if manager.sameVideo width height fpsNum (fpsDenominator fpsDen) hdr10 then
    (.ok, manager)
  else (.ok, manager.setVideo width height fpsNum (fpsDenominator fpsDen) hdr10)

/-- The section of `schedule_srt_late_join_keyframe`. -/
def scheduleLateJoinKeyframe (manager : EncoderManager) : EncoderManager :=
  if !gopPatternHasBframes manager.gopPattern || manager.framesPushed == 0 then
    { manager with forceNextIdr := true }
  else manager

/-- `push_encoded_packet` and the counters behind it. -/
def pushEncodedPacket
    (frame : ExportedFrame)
    (packet : VencPacket)
    (manager : EncoderManager) : EncoderManager :=
  { manager with
    framesDropped := if frame.pushes then manager.framesDropped else manager.framesDropped + 1
    encodedBytes := manager.encodedBytes + UInt64.ofNat packet.size
    framesPushed := manager.framesPushed + 1 }

/-- The encoder behind a submission; a request that was submitted is cleared. -/
def afterSubmission
    (submission : Submission)
    (manager : EncoderManager) : EncoderManager :=
  { manager with
    videoEncoder := some submission.encoder
    forceNextIdr :=
      if submission.code = .ok ∨ submission.code = .wouldBlock then false
      else manager.forceNextIdr }

/-- The packet of a submission is pushed, or the frame counted as dropped. -/
def deliver
    (frame : ExportedFrame)
    (submission : Submission)
    (manager : EncoderManager) : EncoderManager :=
  match submission.code, submission.packet with
  | .wouldBlock, _ => manager
  | .ok, some packet => manager.pushEncodedPacket frame packet
  | .ok, none => manager
  | _, _ => { manager with framesDropped := manager.framesDropped + 1 }

/-- `sbs_encoder_manager_consume_frame_dmabuf` -/
def consumeFrameDmabuf
    (frame : ExportedFrame)
    (answer : EncodeAnswer)
    (manager : EncoderManager) : EncoderManager :=
  if frame.dmabufFd < 0 ∨ frame.size = 0 ∨ manager.pipelineActive = false then manager
  else
    match manager.videoEncoder with
    | some encoder =>
        let submission := encoder.submitDmabuf frame.drmFormat answer manager.forceNextIdr
        (manager.afterSubmission submission).deliver frame submission
    | none => { manager with framesDropped := manager.framesDropped + 1 }

end EncoderManager
end Engine
end SbsServer
