import Mathlib.Algebra.Ring.Nat
import Mathlib.Data.List.Nodup
import SbsServer.CLib.System

/-!
# Program timestamps of the output router

The export thread numbers the frames that it passes on and stamps each with its
number times the frame duration.  The duration is that of the canvas, or that of
the preview while nothing but the preview is served.
-/

namespace SbsServer
namespace Engine

open CLib

/-- `sbs_export_color_mode_t` -/
inductive ExportColorMode
  | sdr
  | hdr10
  deriving DecidableEq

/-- `DRM_FORMAT_NV21` -/
def drmFormatNv21 : UInt32 := 0x3132564e

/-- `DRM_FORMAT_P010` -/
def drmFormatP010 : UInt32 := 0x3031504e

/-- `sbs_native_canvas_lease_t`, as far as the router reads it. -/
structure NativeCanvasLease where
  entryIdx : UInt32
  frameNumber : UInt64
  contentFrameNumber : UInt64
  width : UInt32
  height : UInt32
  drmFormat : UInt32
  drmModifier : UInt64
  nPlanes : UInt32
  planeOffset : UInt32 × UInt32
  planeStride : UInt32 × UInt32
  colorMode : ExportColorMode
  deriving DecidableEq

/-- `sbs_frame_buffer_type_t`, of which the router writes two values. -/
inductive FrameBuffer
  | dmabuf
  | memfd
  deriving DecidableEq

/-- `sbs_video_frame_msg_t`, as far as the router fills it in. -/
structure VideoFrameMsg where
  ptsNs : UInt64
  dtsNs : UInt64
  durationNs : UInt64
  sequence : UInt64
  width : UInt32
  height : UInt32
  drmFormat : UInt32
  drmModifier : UInt64
  nPlanes : UInt32
  planeOffset : UInt32 × UInt32
  planeStride : UInt32 × UInt32
  bufferType : FrameBuffer
  deriving DecidableEq

/-- `native_lease_to_msg` -/
def nativeLeaseToMsg
    (lease : NativeCanvasLease)
    (ptsNs durationNs sequence : UInt64) : VideoFrameMsg where
  ptsNs := ptsNs
  dtsNs := -1
  durationNs := durationNs
  sequence := sequence
  width := lease.width
  height := lease.height
  drmFormat := lease.drmFormat
  drmModifier := lease.drmModifier
  nPlanes := lease.nPlanes
  planeOffset := lease.planeOffset
  planeStride := lease.planeStride
  bufferType := .dmabuf

/-- Those who are given messages of the program picture. -/
inductive FrameConsumer
  | outputWorker (output : Nat)
  | encoder
  | snapshot
  | preview
  deriving DecidableEq

/-- A message handed to a consumer. -/
structure Handout where
  consumer : FrameConsumer
  msg : VideoFrameMsg
  deriving DecidableEq

/-- The active fallback profile of the preview engine. -/
structure ActivePreview where
  width : UInt32
  height : UInt32
  framerate : UInt32
  colorMode : ExportColorMode
  deriving DecidableEq

/-- The preview target that was last requested from the compositor. -/
structure NativePreview where
  width : UInt32
  height : UInt32
  frameInterval : UInt32
  colorMode : ExportColorMode
  deriving DecidableEq

/-- The fields of `struct sbs_output_router` that the export thread uses. -/
structure OutputRouter where
  width : UInt32
  height : UInt32
  fps : UInt32
  colorMode : ExportColorMode
  frameCount : UInt64
  framesDistributed : UInt64
  framesSkipped : UInt64
  sequence : UInt64
  destPreview : Option (UInt32 × UInt32)
  destOutputInited : Bool
  nativePreview : Option NativePreview
  encoderLastContentFrame : UInt64
  encoderDuplicateFramesSkipped : UInt64
  deriving DecidableEq

/-- `sbs_output_router_new` -/
def OutputRouter.create
    (width height fps : UInt32)
    (colorMode : ExportColorMode) : OutputRouter where
  width := width
  height := height
  fps := fps
  colorMode := colorMode
  frameCount := 0
  framesDistributed := 0
  framesSkipped := 0
  sequence := 0
  destPreview := none
  destOutputInited := false
  nativePreview := none
  encoderLastContentFrame := 0
  encoderDuplicateFramesSkipped := 0

/-- A ready slot of `sbs_compositor_thread_export_dest_acquire`. -/
structure ReadyExport where
  /-- The slot has a DMA-BUF. -/
  hasDmabuf : Bool
  /-- The slot is mapped. -/
  mapped : Bool
  deriving DecidableEq

/-- The answers that the other components give while a frame is processed. -/
structure FrameInputs where
  latestFrameNumber : UInt64
  outputCount : UInt32
  /-- The sink count, if an encoder manager is set. -/
  encoderSinkCount : Option UInt32
  snapshotNeedsFrame : Bool
  previewProfile : Option ActivePreview
  nativeCanvasActive : Bool
  /-- `sbs_compositor_thread_configure_native_preview` succeeds. -/
  configuresPreview : Bool
  /-- The outputs to which `sbs_output_supervisor_send_frame` sends the frame. -/
  sentTo : List Nat
  sentTo_nodup : sentTo.Nodup
  encodesDuplicates : Bool
  /-- The lease of the output mailbox. -/
  outputLease : Option NativeCanvasLease
  /-- `native_encoder_enqueue_lease` takes the lease. -/
  encoderTakes : Bool
  snapshotLease : Option NativeCanvasLease
  /-- `dup` succeeds for the snapshot. -/
  snapshotDup : Bool
  previewLease : Option NativeCanvasLease
  /-- `native_preview_enqueue_lease` takes the lease. -/
  previewTakes : Bool
  /-- A destination is exported before this frame sets one up. -/
  destExported : Bool
  initsDestPreview : Bool
  initsDestOutput : Bool
  destPreviewExported : Bool
  destOutputExported : Bool
  outputSlot : Option ReadyExport
  encoderDup : Bool
  /-- The picture could be copied to a memory file. -/
  memfdCopied : Bool
  previewSlot : Option ReadyExport
  previewDup : Bool

namespace FrameInputs

/-- `encoder_sink_count` -/
def sinkCount (inputs : FrameInputs) : UInt32 :=
  inputs.encoderSinkCount.getD 0

/-- `need_output` -/
def needOutput (inputs : FrameInputs) : Bool :=
  0 < inputs.outputCount || 0 < inputs.sinkCount || inputs.snapshotNeedsFrame

/-- `preview_frame_interval` -/
def previewFrameInterval
    (inputs : FrameInputs)
    (fps : UInt32) : UInt32 :=
  match inputs.previewProfile with
  | some profile =>
      if 0 < profile.framerate ∧ profile.framerate < fps then
        let interval := (fps + profile.framerate - 1) / profile.framerate
        if interval = 0 then 1 else interval
      else 1
  | none => 1

/-- `pacing_fps` -/
def pacingFps
    (inputs : FrameInputs)
    (fps : UInt32) : UInt32 :=
  match inputs.previewProfile with
  | some profile =>
      if inputs.needOutput = false ∧ 0 < profile.framerate then profile.framerate else fps
  | none => fps

/-- `duration_ns` -/
def durationNs
    (inputs : FrameInputs)
    (fps : UInt32) : UInt64 :=
  if 0 < inputs.pacingFps fps then 1000000000 / (inputs.pacingFps fps).toUInt64 else 16666667

end FrameInputs

namespace OutputRouter

/-- The request for a preview target of the profile's size. -/
def configureNativePreview
    (router : OutputRouter)
    (inputs : FrameInputs) : OutputRouter :=
  match inputs.previewProfile with
  | some profile =>
      let wanted : NativePreview :=
        { width := profile.width
          height := profile.height
          frameInterval := inputs.previewFrameInterval router.fps
          colorMode := profile.colorMode }
      if 0 < profile.width ∧ 0 < profile.height ∧ router.nativePreview ≠ some wanted ∧
          inputs.configuresPreview then
        { router with nativePreview := some wanted }
      else router
  | none => router

/-- What one frame hands out and whether any of it counts as delivered. -/
structure NativeOutcome where
  router : OutputRouter
  handouts : List Handout
  delivered : Bool

/-- One message for each output that takes it. -/
def workerHandouts
    (inputs : FrameInputs)
    (msg : VideoFrameMsg) : List Handout :=
  inputs.sentTo.map fun output => ⟨.outputWorker output, msg⟩

/-- The legacy outputs of the native path. -/
def nativeOutputs
    (router : OutputRouter)
    (inputs : FrameInputs)
    (lease : NativeCanvasLease)
    (msg : VideoFrameMsg) : NativeOutcome :=
  if lease.colorMode = .sdr ∧ 0 < inputs.outputCount then
    if inputs.sentTo ≠ [] then
      ⟨{ router with framesDistributed := router.framesDistributed + 1 },
        workerHandouts inputs msg, true⟩
    else ⟨router, [], false⟩
  else ⟨router, [], false⟩

/-- `native_encoder_content_already_queued` -/
def contentAlreadyQueued
    (router : OutputRouter)
    (contentFrameNumber : UInt64) : Bool :=
  contentFrameNumber ≠ 0 && router.encoderLastContentFrame = contentFrameNumber

/-- `native_encoder_note_content_queued` -/
def noteContentQueued
    (router : OutputRouter)
    (contentFrameNumber : UInt64) : OutputRouter :=
  if contentFrameNumber = 0 then router
  else { router with encoderLastContentFrame := contentFrameNumber }

/-- The number by which the encoder recognises a picture that it has. -/
def encoderContentNumber (lease : NativeCanvasLease) : UInt64 :=
  if lease.contentFrameNumber ≠ 0 then lease.contentFrameNumber else lease.frameNumber

/-- The hand-off to the encoder on the native path. -/
def nativeEncoder
    (router : OutputRouter)
    (inputs : FrameInputs)
    (lease : NativeCanvasLease)
    (msg : VideoFrameMsg) : NativeOutcome :=
  if 0 < inputs.sinkCount then
    if inputs.encodesDuplicates = false ∧
        router.contentAlreadyQueued (encoderContentNumber lease) then
      ⟨{ router with
          encoderDuplicateFramesSkipped := router.encoderDuplicateFramesSkipped + 1 }, [], true⟩
    else if inputs.encoderTakes then
      ⟨router.noteContentQueued (encoderContentNumber lease), [⟨.encoder, msg⟩], true⟩
    else ⟨router, [], false⟩
  else ⟨router, [], false⟩

/-- The picture of the output mailbox. -/
def nativeProgram
    (router : OutputRouter)
    (inputs : FrameInputs)
    (ptsNs durationNs : UInt64) : NativeOutcome :=
  match inputs.outputLease with
  | some lease =>
      if 0 < inputs.outputCount ∨ 0 < inputs.sinkCount then
        let msg := nativeLeaseToMsg lease ptsNs durationNs router.sequence
        let sent := router.nativeOutputs inputs lease msg
        let encoded := sent.router.nativeEncoder inputs lease msg
        ⟨encoded.router, sent.handouts ++ encoded.handouts, sent.delivered || encoded.delivered⟩
      else ⟨router, [], false⟩
  | none => ⟨router, [], false⟩

/-- The picture of the snapshot mailbox. -/
def nativeSnapshot
    (router : OutputRouter)
    (inputs : FrameInputs)
    (ptsNs durationNs : UInt64) : List Handout :=
  match inputs.snapshotLease with
  | some lease =>
      if inputs.snapshotNeedsFrame ∧ inputs.snapshotDup then
        [⟨.snapshot, nativeLeaseToMsg lease ptsNs durationNs router.sequence⟩]
      else []
  | none => []

/-- The picture of the preview mailbox. -/
def nativePreviewPicture
    (router : OutputRouter)
    (inputs : FrameInputs)
    (ptsNs durationNs : UInt64) : List Handout :=
  match inputs.previewProfile, inputs.previewLease with
  | some profile, some lease =>
      if inputs.previewTakes then
        let own := if 0 < profile.framerate then 1000000000 / profile.framerate.toUInt64
          else durationNs
        [⟨.preview, nativeLeaseToMsg lease ptsNs own router.sequence⟩]
      else []
  | _, _ => []

/-- The branch of `export_thread_process_frame` for a native canvas. -/
def processNative
    (router : OutputRouter)
    (inputs : FrameInputs)
    (ptsNs durationNs : UInt64) : OutputRouter × List Handout :=
  let program := (router.configureNativePreview inputs).nativeProgram inputs ptsNs durationNs
  let snapshot := program.router.nativeSnapshot inputs ptsNs durationNs
  let preview := program.router.nativePreviewPicture inputs ptsNs durationNs
  let handouts := program.handouts ++ (snapshot ++ preview)
  if program.delivered || !snapshot.isEmpty || !preview.isEmpty then (program.router, handouts)
  else ({ program.router with framesSkipped := program.router.framesSkipped + 1 }, handouts)

/-- The destinations that are set up on demand. -/
def initDestinations
    (router : OutputRouter)
    (inputs : FrameInputs) : OutputRouter :=
  if inputs.destExported ∨ router.destPreview = none ∧ inputs.previewProfile ≠ none ∨
      router.destOutputInited = false ∧ inputs.needOutput then
    let preview := match inputs.previewProfile with
      | some profile =>
          if router.destPreview = none ∧ inputs.initsDestPreview then
            some (profile.width, profile.height)
          else router.destPreview
      | none => router.destPreview
    { router with
      destPreview := preview
      destOutputInited :=
        router.destOutputInited || (inputs.needOutput && inputs.initsDestOutput) }
  else router

/-- The message for a picture of the output destination. -/
def destOutputMsg
    (router : OutputRouter)
    (ptsNs durationNs : UInt64)
    (bufferType : FrameBuffer) : VideoFrameMsg :=
  let isP010 := router.colorMode = .hdr10
  { ptsNs := ptsNs
    dtsNs := -1
    durationNs := durationNs
    sequence := router.sequence
    width := router.width
    height := router.height
    drmFormat := if isP010 then drmFormatP010 else drmFormatNv21
    drmModifier := 0
    nPlanes := if isP010 then 1 else 2
    planeOffset :=
      (0, if isP010 then router.width * router.height * 2 else router.width * router.height)
    planeStride :=
      if isP010 then (router.width * 2, router.width * 2) else (router.width, router.width)
    bufferType := bufferType }

/-- The message for a picture of the preview destination. -/
def destPreviewMsg
    (router : OutputRouter)
    (size : UInt32 × UInt32)
    (ptsNs durationNs : UInt64) : VideoFrameMsg where
  ptsNs := ptsNs
  dtsNs := -1
  durationNs := durationNs
  sequence := router.sequence
  width := size.1
  height := size.2
  drmFormat := drmFormatNv21
  drmModifier := 0
  nPlanes := 2
  planeOffset := (0, size.1 * size.2)
  planeStride := (size.1, size.1)
  bufferType := .dmabuf

/-- The output destination's picture for the encoder, the snapshot and the outputs. -/
def destProgram
    (router : OutputRouter)
    (inputs : FrameInputs)
    (ptsNs durationNs : UInt64) : OutputRouter × List Handout :=
  match inputs.outputSlot with
  | some slot =>
      if slot.hasDmabuf ∨ slot.mapped then
        let encoder := if inputs.encoderSinkCount ≠ none ∧ slot.hasDmabuf ∧ inputs.encoderDup then
            [⟨.encoder, router.destOutputMsg ptsNs durationNs .dmabuf⟩]
          else []
        let copied := router.destOutputMsg ptsNs durationNs .memfd
        let snapshot := if inputs.memfdCopied ∧ inputs.snapshotNeedsFrame ∧
              inputs.snapshotDup then [⟨.snapshot, copied⟩]
          else []
        let workers := if inputs.memfdCopied ∧ 0 < inputs.outputCount then
            workerHandouts inputs copied
          else []
        (if workers = [] then router
          else { router with framesDistributed := router.framesDistributed + 1 },
          encoder ++ (snapshot ++ workers))
      else (router, [])
  | none => (router, [])

/-- The preview destination's picture. -/
def destPreviewPicture
    (router : OutputRouter)
    (inputs : FrameInputs)
    (ptsNs durationNs : UInt64) : List Handout :=
  match router.destPreview, inputs.previewSlot with
  | some size, some slot =>
      if slot.hasDmabuf ∧ inputs.previewDup then
        [⟨.preview, router.destPreviewMsg size ptsNs durationNs⟩]
      else []
  | _, _ => []

/-- The branch of `export_thread_process_frame` for exported destinations. -/
def processDest
    (router : OutputRouter)
    (inputs : FrameInputs)
    (ptsNs durationNs : UInt64) : OutputRouter × List Handout :=
  let ready := router.initDestinations inputs
  let destPreviewOk := ready.destPreview ≠ none && inputs.destPreviewExported
  let destOutputOk := ready.destOutputInited && inputs.destOutputExported
  let program := if destOutputOk && inputs.needOutput then
      ready.destProgram inputs ptsNs durationNs
    else (ready, [])
  let preview := if destPreviewOk && inputs.previewProfile ≠ none then
      program.1.destPreviewPicture inputs ptsNs durationNs
    else []
  (if destOutputOk || destPreviewOk then program.1
    else { program.1 with framesSkipped := program.1.framesSkipped + 1 },
    program.2 ++ preview)

/-- The release of the preview target while no profile is active, with the reset of
the content gate while the encoder has no sink. -/
def releaseUnused
    (router : OutputRouter)
    (inputs : FrameInputs) : OutputRouter :=
  { router with
    encoderLastContentFrame :=
      if inputs.sinkCount = 0 then 0 else router.encoderLastContentFrame
    nativePreview :=
      if inputs.previewProfile = none ∧ inputs.configuresPreview then none
      else router.nativePreview }

/-- `export_thread_process_frame` with the messages that it hands out. -/
def exportThreadProcessFrame
    (router : OutputRouter)
    (inputs : FrameInputs) : OutputRouter × List Handout :=
  if inputs.latestFrameNumber = 0 then (router, [])
  else
    let counted := { router.releaseUnused inputs with frameCount := router.frameCount + 1 }
    if inputs.needOutput = false ∧ inputs.previewProfile = none then
      ({ counted with framesSkipped := counted.framesSkipped + 1 }, [])
    else
      let numbered := { counted with sequence := counted.sequence + 1 }
      let durationNs := inputs.durationNs router.fps
      let ptsNs := (numbered.sequence - 1) * durationNs
      if inputs.nativeCanvasActive then numbered.processNative inputs ptsNs durationNs
      else numbered.processDest inputs ptsNs durationNs

/-! ## Who is served -/

/-- The native path hands the frame to the consumer. -/
def servesNative
    (router : OutputRouter)
    (inputs : FrameInputs) : FrameConsumer → Bool
  | .outputWorker output =>
      0 < inputs.outputCount && inputs.outputLease.any (fun lease => lease.colorMode = .sdr) &&
        inputs.sentTo.contains output
  | .encoder =>
      0 < inputs.sinkCount && inputs.encoderTakes &&
        inputs.outputLease.any fun lease =>
          inputs.encodesDuplicates || !router.contentAlreadyQueued (encoderContentNumber lease)
  | .snapshot => inputs.snapshotNeedsFrame && inputs.snapshotDup && inputs.snapshotLease.isSome
  | .preview => inputs.previewProfile.isSome && inputs.previewLease.isSome && inputs.previewTakes

/-- The output destination has a picture for this frame. -/
def outputReady
    (router : OutputRouter)
    (inputs : FrameInputs) : Bool :=
  (router.initDestinations inputs).destOutputInited && inputs.destOutputExported &&
    inputs.needOutput && inputs.outputSlot.any fun slot => slot.hasDmabuf || slot.mapped

/-- The destination export path hands the frame to the consumer. -/
def servesDest
    (router : OutputRouter)
    (inputs : FrameInputs) : FrameConsumer → Bool
  | .outputWorker output =>
      router.outputReady inputs && inputs.memfdCopied && 0 < inputs.outputCount &&
        inputs.sentTo.contains output
  | .encoder =>
      router.outputReady inputs && inputs.encoderSinkCount.isSome &&
        inputs.outputSlot.any (fun slot => slot.hasDmabuf) && inputs.encoderDup
  | .snapshot =>
      router.outputReady inputs && inputs.memfdCopied && inputs.snapshotNeedsFrame &&
        inputs.snapshotDup
  | .preview =>
      (router.initDestinations inputs).destPreview.isSome && inputs.destPreviewExported &&
        inputs.previewProfile.isSome && inputs.previewSlot.any (fun slot => slot.hasDmabuf) &&
        inputs.previewDup

/-- The frame is handed to the consumer. -/
def serves
    (router : OutputRouter)
    (inputs : FrameInputs)
    (consumer : FrameConsumer) : Bool :=
  inputs.latestFrameNumber ≠ 0 && (inputs.needOutput || inputs.previewProfile.isSome) &&
    if inputs.nativeCanvasActive then router.servesNative inputs consumer
    else router.servesDest inputs consumer

/-- Handouts of one frame: each to one of the consumers that the frame serves, at most
one for each, all with one time and number. -/
structure OneFrame
    (handouts : List Handout)
    (served : FrameConsumer → Bool)
    (ptsNs sequence : UInt64) : Prop where
  served : ∀ consumer, consumer ∈ handouts.map Handout.consumer ↔ served consumer = true
  nodup : (handouts.map Handout.consumer).Nodup
  ptsNs : ∀ handout ∈ handouts, handout.msg.ptsNs = ptsNs
  sequence : ∀ handout ∈ handouts, handout.msg.sequence = sequence

theorem workerHandouts_consumers
    (inputs : FrameInputs)
    (msg : VideoFrameMsg) :
    (workerHandouts inputs msg).map Handout.consumer =
      inputs.sentTo.map FrameConsumer.outputWorker := by
  simp [workerHandouts]

theorem nodup_workers
    (inputs : FrameInputs) :
    (inputs.sentTo.map FrameConsumer.outputWorker).Nodup :=
  List.Nodup.map (fun _ _ equal => FrameConsumer.outputWorker.inj equal) inputs.sentTo_nodup

variable (router : OutputRouter) (inputs : FrameInputs)

theorem nativeOutputs_consumers
    (lease : NativeCanvasLease)
    (msg : VideoFrameMsg) :
    (router.nativeOutputs inputs lease msg).handouts.map Handout.consumer =
      if lease.colorMode = .sdr ∧ 0 < inputs.outputCount then
        inputs.sentTo.map FrameConsumer.outputWorker
      else [] := by
  unfold nativeOutputs
  split
  next =>
    split
    next => exact workerHandouts_consumers inputs msg
    next none_sent =>
      rw [not_not] at none_sent
      simp [none_sent]
  next => rfl

theorem nativeEncoder_consumers
    (lease : NativeCanvasLease)
    (msg : VideoFrameMsg) :
    (router.nativeEncoder inputs lease msg).handouts.map Handout.consumer =
      if 0 < inputs.sinkCount ∧ inputs.encoderTakes ∧ (inputs.encodesDuplicates ∨
          router.contentAlreadyQueued (encoderContentNumber lease) = false) then [.encoder]
      else [] := by
  unfold nativeEncoder
  split
  next sinks =>
    split
    next duplicate => simp [duplicate.1, duplicate.2]
    next fresh =>
      split
      next takes =>
        have queues : inputs.encodesDuplicates ∨
            router.contentAlreadyQueued (encoderContentNumber lease) = false := by
          by_cases encodes : inputs.encodesDuplicates
          · exact .inl encodes
          · right
            rw [not_and] at fresh
            simpa using fresh (by simpa using encodes)
        rw [if_pos ⟨sinks, takes, queues⟩]
        rfl
      next refuses => simp [refuses]
  next noSinks => simp [noSinks]

theorem nativeSnapshot_consumers
    (ptsNs durationNs : UInt64) :
    (router.nativeSnapshot inputs ptsNs durationNs).map Handout.consumer =
      if router.servesNative inputs .snapshot then [.snapshot] else [] := by
  unfold nativeSnapshot servesNative
  cases inputs.snapshotLease with
  | none => simp
  | some lease =>
      cases inputs.snapshotNeedsFrame <;> cases inputs.snapshotDup <;> simp

theorem nativePreviewPicture_consumers
    (ptsNs durationNs : UInt64) :
    (router.nativePreviewPicture inputs ptsNs durationNs).map Handout.consumer =
      if router.servesNative inputs .preview then [.preview] else [] := by
  unfold nativePreviewPicture servesNative
  cases inputs.previewProfile <;> cases inputs.previewLease <;>
    cases inputs.previewTakes <;> simp

theorem nativeOutputs_queued
    (lease : NativeCanvasLease)
    (msg : VideoFrameMsg)
    (content : UInt64) :
    (router.nativeOutputs inputs lease msg).router.contentAlreadyQueued content =
      router.contentAlreadyQueued content := by
  unfold nativeOutputs
  split
  next => split <;> rfl
  next => rfl

theorem nativeProgram_consumers
    (ptsNs durationNs : UInt64) :
    (router.nativeProgram inputs ptsNs durationNs).handouts.map Handout.consumer =
      (if 0 < inputs.outputCount ∧
          inputs.outputLease.any (fun lease => lease.colorMode = .sdr) then
        inputs.sentTo.map FrameConsumer.outputWorker else []) ++
      if router.servesNative inputs .encoder then [.encoder] else [] := by
  unfold nativeProgram
  cases leased : inputs.outputLease with
  | none => simp [servesNative, leased]
  | some lease =>
      by_cases wanted : 0 < inputs.outputCount ∨ 0 < inputs.sinkCount
      · simp only [if_pos wanted, List.map_append, nativeOutputs_consumers,
          nativeEncoder_consumers, nativeOutputs_queued, servesNative, leased, Option.any_some]
        congr 1
        · simp [and_comm]
        · simp [and_assoc]
      · rw [not_or] at wanted
        simp [wanted.1, wanted.2, servesNative]

theorem configureNativePreview_servesNative
    (inputs : FrameInputs) :
    (router.configureNativePreview inputs).servesNative inputs = router.servesNative inputs := by
  unfold configureNativePreview
  split
  next =>
    dsimp only
    split <;> rfl
  next => rfl

/-- The consumers that the native path serves, in its order. -/
theorem processNative_consumers
    (ptsNs durationNs : UInt64) :
    (router.processNative inputs ptsNs durationNs).2.map Handout.consumer =
      (if 0 < inputs.outputCount ∧
          inputs.outputLease.any (fun lease => lease.colorMode = .sdr) then
        inputs.sentTo.map FrameConsumer.outputWorker else []) ++
      (if router.servesNative inputs .encoder then [.encoder] else []) ++
      ((if router.servesNative inputs .snapshot then [.snapshot] else []) ++
        if router.servesNative inputs .preview then [.preview] else []) := by
  have handouts : (router.processNative inputs ptsNs durationNs).2 =
      ((router.configureNativePreview inputs).nativeProgram inputs ptsNs durationNs).handouts ++
        (((router.configureNativePreview inputs).nativeProgram
            inputs ptsNs durationNs).router.nativeSnapshot inputs ptsNs durationNs ++
          ((router.configureNativePreview inputs).nativeProgram
            inputs ptsNs durationNs).router.nativePreviewPicture inputs ptsNs durationNs) := by
    unfold processNative
    dsimp only
    split <;> rfl
  rw [handouts, List.map_append, List.map_append, nativeProgram_consumers,
    nativeSnapshot_consumers, nativePreviewPicture_consumers,
    configureNativePreview_servesNative]
  rfl

/-- The native path serves whom it should, each once. -/
theorem processNative_served
    (ptsNs durationNs : UInt64) :
    (∀ consumer, consumer ∈ (router.processNative inputs ptsNs durationNs).2.map
        Handout.consumer ↔ router.servesNative inputs consumer = true) ∧
      ((router.processNative inputs ptsNs durationNs).2.map Handout.consumer).Nodup := by
  rw [processNative_consumers]
  constructor
  · intro consumer
    cases consumer with
    | outputWorker output => simp [servesNative]
    | encoder => simp
    | snapshot => simp
    | preview => simp
  · have workers := nodup_workers inputs
    split <;> split <;> split <;> split <;> simp [List.nodup_append, workers]

theorem initDestinations_reads
    (inputs : FrameInputs) :
    (router.initDestinations inputs).sequence = router.sequence ∧
      (router.initDestinations inputs).fps = router.fps := by
  unfold initDestinations
  split
  next => exact ⟨rfl, rfl⟩
  next => exact ⟨rfl, rfl⟩

/-- The consumers that the export of the output destination serves, in its order. -/
theorem destProgram_consumers
    (ptsNs durationNs : UInt64) :
    (router.destProgram inputs ptsNs durationNs).2.map Handout.consumer =
      if inputs.outputSlot.any (fun slot => slot.hasDmabuf || slot.mapped) then
        (if inputs.encoderSinkCount.isSome ∧ inputs.outputSlot.any (fun slot => slot.hasDmabuf) ∧
            inputs.encoderDup then [.encoder] else []) ++
        ((if inputs.memfdCopied ∧ inputs.snapshotNeedsFrame ∧ inputs.snapshotDup then
            [.snapshot] else []) ++
          if inputs.memfdCopied ∧ 0 < inputs.outputCount then
            inputs.sentTo.map FrameConsumer.outputWorker else [])
      else [] := by
  unfold destProgram
  cases inputs.outputSlot with
  | none => rfl
  | some slot =>
      by_cases ready : slot.hasDmabuf ∨ slot.mapped
      · simp only [if_pos ready, Option.any_some, Bool.or_eq_true, List.map_append,
          apply_ite (List.map Handout.consumer), workerHandouts_consumers, List.map_cons,
          List.map_nil, Option.isSome_iff_ne_none]
      · simp [ready]

theorem destPreviewPicture_consumers
    (ptsNs durationNs : UInt64) :
    (router.destPreviewPicture inputs ptsNs durationNs).map Handout.consumer =
      if router.destPreview.isSome ∧ inputs.previewSlot.any (fun slot => slot.hasDmabuf) ∧
          inputs.previewDup then [.preview] else [] := by
  unfold destPreviewPicture
  cases router.destPreview <;> cases inputs.previewSlot <;>
    simp [apply_ite (List.map Handout.consumer)]

theorem destProgram_destPreview
    (ptsNs durationNs : UInt64) :
    (router.destProgram inputs ptsNs durationNs).1.destPreview = router.destPreview := by
  unfold destProgram
  split
  next =>
    split
    next =>
      dsimp only
      rw [apply_ite OutputRouter.destPreview]
      exact ite_self _
    next => rfl
  next => rfl

/-- The consumers that the destination export path serves, in its order. -/
theorem processDest_consumers
    (ptsNs durationNs : UInt64) :
    (router.processDest inputs ptsNs durationNs).2.map Handout.consumer =
      ((if router.servesDest inputs .encoder then [.encoder] else []) ++
        ((if router.servesDest inputs .snapshot then [.snapshot] else []) ++
          if router.outputReady inputs && inputs.memfdCopied && 0 < inputs.outputCount then
            inputs.sentTo.map FrameConsumer.outputWorker else [])) ++
      if router.servesDest inputs .preview then [.preview] else [] := by
  unfold processDest
  dsimp only
  rw [List.map_append]
  congr 1
  · by_cases ready : (router.initDestinations inputs).destOutputInited &&
        inputs.destOutputExported && inputs.needOutput
    · rw [if_pos (by simpa using ready), destProgram_consumers]
      simp only [servesDest, outputReady, ready, Bool.true_and]
      split
      next slot => simp [slot, and_assoc]
      next noSlot => simp [noSlot]
    · rw [if_neg (by simpa using ready)]
      rw [Bool.not_eq_true] at ready
      simp [servesDest, outputReady, ready]
  · have preview : ∀ program : OutputRouter × List Handout,
        program.1.destPreview = (router.initDestinations inputs).destPreview →
        (if (((router.initDestinations inputs).destPreview ≠ none &&
            inputs.destPreviewExported) && inputs.previewProfile ≠ none) = true then
          program.1.destPreviewPicture inputs ptsNs durationNs else []).map Handout.consumer =
        if router.servesDest inputs .preview then [.preview] else [] := by
      intro program kept
      split
      next shown =>
        rw [destPreviewPicture_consumers, kept]
        simp_all [servesDest, Option.isSome_iff_ne_none, and_assoc]
      next hidden =>
        rw [if_neg]
        · rfl
        · intro serves
          apply hidden
          simp [servesDest, Option.isSome_iff_ne_none] at serves
          simp [serves]
    apply preview
    split
    next => exact destProgram_destPreview _ _ _ _
    next => rfl

/-- The destination export path serves whom it should, each once. -/
theorem processDest_served
    (ptsNs durationNs : UInt64) :
    (∀ consumer, consumer ∈ (router.processDest inputs ptsNs durationNs).2.map
        Handout.consumer ↔ router.servesDest inputs consumer = true) ∧
      ((router.processDest inputs ptsNs durationNs).2.map Handout.consumer).Nodup := by
  rw [processDest_consumers]
  constructor
  · intro consumer
    cases consumer with
    | outputWorker output => simp [servesDest]
    | encoder => simp
    | snapshot => simp
    | preview => simp
  · have workers := nodup_workers inputs
    split <;> split <;> split <;> split <;> simp [List.nodup_append, workers]

/-- A message with the time and the number of the frame. -/
def Stamped
    (ptsNs sequence : UInt64)
    (handout : Handout) : Prop :=
  handout.msg.ptsNs = ptsNs ∧ handout.msg.sequence = sequence

theorem nativeProgram_stamped
    (ptsNs durationNs : UInt64) :
    (∀ handout ∈ (router.nativeProgram inputs ptsNs durationNs).handouts,
      Stamped ptsNs router.sequence handout) ∧
    (router.nativeProgram inputs ptsNs durationNs).router.sequence = router.sequence ∧
    (router.nativeProgram inputs ptsNs durationNs).router.fps = router.fps := by
  have sent : ∀ lease msg, (∀ handout ∈ (router.nativeOutputs inputs lease msg).handouts,
        handout.msg = msg) ∧
      (router.nativeOutputs inputs lease msg).router.sequence = router.sequence ∧
      (router.nativeOutputs inputs lease msg).router.fps = router.fps := by
    intro lease msg
    unfold nativeOutputs
    split
    next =>
      split
      next => simp [workerHandouts]
      next => simp
    next => simp
  have encoded : ∀ (start : OutputRouter) lease msg,
      (∀ handout ∈ (start.nativeEncoder inputs lease msg).handouts, handout.msg = msg) ∧
      (start.nativeEncoder inputs lease msg).router.sequence = start.sequence ∧
      (start.nativeEncoder inputs lease msg).router.fps = start.fps := by
    intro start lease msg
    unfold nativeEncoder noteContentQueued
    split
    next =>
      split
      next => simp
      next =>
        split
        next => simp; split <;> exact ⟨rfl, rfl⟩
        next => simp
    next => simp
  unfold nativeProgram
  split
  next lease _ =>
    split
    next =>
      dsimp only
      refine ⟨?_, ?_, ?_⟩
      · intro handout member
        have msg : handout.msg = nativeLeaseToMsg lease ptsNs durationNs router.sequence := by
          rcases List.mem_append.mp member with sentTo | encodedTo
          · exact (sent _ _).1 handout sentTo
          · exact (encoded _ _ _).1 handout encodedTo
        rw [Stamped, msg]
        exact ⟨rfl, rfl⟩
      · rw [(encoded _ _ _).2.1, (sent _ _).2.1]
      · rw [(encoded _ _ _).2.2, (sent _ _).2.2]
    next => simp
  next => simp

/-- A message that is sent under a condition. -/
theorem stamped_ite
    {condition : Prop}
    [Decidable condition]
    {ptsNs sequence : UInt64}
    {sent : Handout}
    (stamped : Stamped ptsNs sequence sent) :
    ∀ handout ∈ if condition then [sent] else [], Stamped ptsNs sequence handout := by
  intro handout member
  split at member
  next =>
    rw [List.mem_singleton.mp member]
    exact stamped
  next => cases member

theorem nativeSnapshot_stamped
    (ptsNs durationNs : UInt64) :
    ∀ handout ∈ router.nativeSnapshot inputs ptsNs durationNs,
      Stamped ptsNs router.sequence handout := by
  unfold nativeSnapshot
  split
  next => exact stamped_ite ⟨rfl, rfl⟩
  next => simp

theorem nativePreviewPicture_stamped
    (ptsNs durationNs : UInt64) :
    ∀ handout ∈ router.nativePreviewPicture inputs ptsNs durationNs,
      Stamped ptsNs router.sequence handout := by
  unfold nativePreviewPicture
  split
  next => exact stamped_ite ⟨rfl, rfl⟩
  next => simp

theorem configureNativePreview_reads
    (inputs : FrameInputs) :
    (router.configureNativePreview inputs).sequence = router.sequence ∧
      (router.configureNativePreview inputs).fps = router.fps := by
  unfold configureNativePreview
  split
  next =>
    dsimp only
    split <;> exact ⟨rfl, rfl⟩
  next => exact ⟨rfl, rfl⟩

/-- The native path stamps every message alike and leaves number and rate. -/
theorem processNative_stamped
    (ptsNs durationNs : UInt64) :
    (∀ handout ∈ (router.processNative inputs ptsNs durationNs).2,
      Stamped ptsNs router.sequence handout) ∧
    (router.processNative inputs ptsNs durationNs).1.sequence = router.sequence ∧
    (router.processNative inputs ptsNs durationNs).1.fps = router.fps := by
  have configured := router.configureNativePreview_reads inputs
  have program :=
    (router.configureNativePreview inputs).nativeProgram_stamped inputs ptsNs durationNs
  have snapshot := nativeSnapshot_stamped
    ((router.configureNativePreview inputs).nativeProgram inputs ptsNs durationNs).router
    inputs ptsNs durationNs
  have preview := nativePreviewPicture_stamped
    ((router.configureNativePreview inputs).nativeProgram inputs ptsNs durationNs).router
    inputs ptsNs durationNs
  rw [program.2.1, configured.1] at snapshot preview
  rw [configured.1, configured.2] at program
  have all : ∀ handout ∈
      ((router.configureNativePreview inputs).nativeProgram inputs ptsNs durationNs).handouts ++
        (((router.configureNativePreview inputs).nativeProgram
            inputs ptsNs durationNs).router.nativeSnapshot inputs ptsNs durationNs ++
          ((router.configureNativePreview inputs).nativeProgram
            inputs ptsNs durationNs).router.nativePreviewPicture inputs ptsNs durationNs),
      Stamped ptsNs router.sequence handout := by
    intro handout member
    rcases List.mem_append.mp member with first | rest
    · exact program.1 handout first
    · rcases List.mem_append.mp rest with second | third
      · exact snapshot handout second
      · exact preview handout third
  unfold processNative
  dsimp only
  split
  next => exact ⟨all, program.2⟩
  next => exact ⟨all, program.2⟩

theorem destProgram_stamped
    (ptsNs durationNs : UInt64) :
    (∀ handout ∈ (router.destProgram inputs ptsNs durationNs).2,
      Stamped ptsNs router.sequence handout) ∧
    (router.destProgram inputs ptsNs durationNs).1.sequence = router.sequence ∧
    (router.destProgram inputs ptsNs durationNs).1.fps = router.fps := by
  unfold destProgram
  split
  next =>
    split
    next =>
      dsimp only
      refine ⟨?_, ?_, ?_⟩
      · intro handout member
        rw [List.mem_append, List.mem_append] at member
        rcases member with encoder | snapshot | worker
        · split at encoder
          next =>
            rw [List.mem_singleton.mp encoder]
            exact ⟨rfl, rfl⟩
          next => cases encoder
        · split at snapshot
          next =>
            rw [List.mem_singleton.mp snapshot]
            exact ⟨rfl, rfl⟩
          next => cases snapshot
        · split at worker
          next =>
            obtain ⟨_, _, rfl⟩ := List.mem_map.mp worker
            exact ⟨rfl, rfl⟩
          next => cases worker
      · rw [apply_ite OutputRouter.sequence]
        exact ite_self _
      · rw [apply_ite OutputRouter.fps]
        exact ite_self _
    next => simp
  next => simp

theorem destPreviewPicture_stamped
    (ptsNs durationNs : UInt64) :
    ∀ handout ∈ router.destPreviewPicture inputs ptsNs durationNs,
      Stamped ptsNs router.sequence handout := by
  unfold destPreviewPicture
  split
  next => exact stamped_ite ⟨rfl, rfl⟩
  next => simp

/-- The destination export path stamps every message alike and leaves number and rate. -/
theorem processDest_stamped
    (ptsNs durationNs : UInt64) :
    (∀ handout ∈ (router.processDest inputs ptsNs durationNs).2,
      Stamped ptsNs router.sequence handout) ∧
    (router.processDest inputs ptsNs durationNs).1.sequence = router.sequence ∧
    (router.processDest inputs ptsNs durationNs).1.fps = router.fps := by
  have ready := router.initDestinations_reads inputs
  have program : ∀ (wanted : Bool) (result : OutputRouter × List Handout),
      result = (if wanted then (router.initDestinations inputs).destProgram inputs ptsNs durationNs
        else (router.initDestinations inputs, [])) →
      (∀ handout ∈ result.2, Stamped ptsNs router.sequence handout) ∧
        result.1.sequence = router.sequence ∧ result.1.fps = router.fps := by
    intro wanted result equal
    rw [equal]
    split
    next =>
      have stamped :=
        (router.initDestinations inputs).destProgram_stamped inputs ptsNs durationNs
      rwa [ready.1, ready.2] at stamped
    next => exact ⟨by simp, ready⟩
  unfold processDest
  dsimp only
  obtain ⟨stamped, kept⟩ := program _ _ rfl
  refine ⟨?_, ?_, ?_⟩
  · intro handout member
    rcases List.mem_append.mp member with first | second
    · exact stamped handout first
    · split at second
      next =>
        have shown := destPreviewPicture_stamped _ _ _ _ handout second
        rwa [kept.1] at shown
      next => cases second
  · rw [apply_ite OutputRouter.sequence]
    rw [kept.1, ite_self]
  · rw [apply_ite OutputRouter.fps]
    rw [kept.2, ite_self]

theorem releaseUnused_servesNative
    (frameCount sequence : UInt64) :
    servesNative { router.releaseUnused inputs with
        frameCount := frameCount, sequence := sequence } inputs =
      router.servesNative inputs := by
  funext consumer
  cases consumer with
  | outputWorker => rfl
  | encoder =>
      by_cases sinks : inputs.sinkCount = 0
      · simp [servesNative, sinks]
      · simp [servesNative, contentAlreadyQueued, releaseUnused, sinks]
  | snapshot => rfl
  | preview => rfl

theorem releaseUnused_servesDest
    (frameCount sequence : UInt64) :
    servesDest { router.releaseUnused inputs with
        frameCount := frameCount, sequence := sequence } inputs =
      router.servesDest inputs := by
  have ready : ∀ next : OutputRouter, next.destPreview = router.destPreview →
      next.destOutputInited = router.destOutputInited →
      (next.initDestinations inputs).destPreview =
          (router.initDestinations inputs).destPreview ∧
        (next.initDestinations inputs).destOutputInited =
          (router.initDestinations inputs).destOutputInited := by
    intro next preview output
    unfold initDestinations
    rw [preview, output]
    split
    next => exact ⟨rfl, rfl⟩
    next => exact ⟨preview, output⟩
  have destinations := ready { router.releaseUnused inputs with
    frameCount := frameCount, sequence := sequence } rfl rfl
  funext consumer
  cases consumer <;> simp only [servesDest, outputReady, destinations]

/-- One frame: whom it serves, with which time and number, and what it leaves. -/
theorem exportThreadProcessFrame_spec
    (inputs : FrameInputs) :
    OneFrame (router.exportThreadProcessFrame inputs).2 (router.serves inputs)
      (router.sequence * inputs.durationNs router.fps) (router.sequence + 1) ∧
    (router.exportThreadProcessFrame inputs).1.fps = router.fps ∧
    ((router.exportThreadProcessFrame inputs).1.sequence = router.sequence + 1 ∨
      (router.exportThreadProcessFrame inputs).1.sequence = router.sequence ∧
        (router.exportThreadProcessFrame inputs).2 = []) := by
  have servedNobody : (∀ consumer, router.serves inputs consumer = false) →
      OneFrame [] (router.serves inputs)
        (router.sequence * inputs.durationNs router.fps) (router.sequence + 1) := by
    intro nobody
    exact ⟨by simp [nobody], List.nodup_nil, by simp, by simp⟩
  unfold exportThreadProcessFrame
  split
  next noFrame => exact ⟨servedNobody (by simp [serves, noFrame]), rfl, .inr ⟨rfl, rfl⟩⟩
  next frame =>
    dsimp only
    split
    next nobody =>
      refine ⟨servedNobody ?_, rfl, .inr ⟨rfl, rfl⟩⟩
      simp [serves, nobody.1, nobody.2]
    next wanted =>
      have wanting : (inputs.needOutput || inputs.previewProfile.isSome) = true := by
        rw [not_and] at wanted
        cases output : inputs.needOutput with
        | false => simpa [Option.isSome_iff_ne_none] using wanted output
        | true => rfl
      have before : (router.releaseUnused inputs).sequence + 1 - 1 = router.sequence := by
        simp [releaseUnused]
      rw [before]
      split
      next native =>
        obtain ⟨served, nodup⟩ := processNative_served
          { router.releaseUnused inputs with
            frameCount := router.frameCount + 1, sequence := router.sequence + 1 }
          inputs (router.sequence * inputs.durationNs router.fps) (inputs.durationNs router.fps)
        obtain ⟨stamped, sequence, fps⟩ := processNative_stamped
          { router.releaseUnused inputs with
            frameCount := router.frameCount + 1, sequence := router.sequence + 1 }
          inputs (router.sequence * inputs.durationNs router.fps) (inputs.durationNs router.fps)
        rw [releaseUnused_servesNative] at served
        refine ⟨⟨?_, nodup, fun handout member => (stamped handout member).1,
          fun handout member => (stamped handout member).2⟩, fps, .inl sequence⟩
        intro consumer
        have same : router.serves inputs consumer = router.servesNative inputs consumer := by
          rw [serves, wanting, if_pos native]
          simp [frame]
        rw [same]
        exact served consumer
      next dest =>
        obtain ⟨served, nodup⟩ := processDest_served
          { router.releaseUnused inputs with
            frameCount := router.frameCount + 1, sequence := router.sequence + 1 }
          inputs (router.sequence * inputs.durationNs router.fps) (inputs.durationNs router.fps)
        obtain ⟨stamped, sequence, fps⟩ := processDest_stamped
          { router.releaseUnused inputs with
            frameCount := router.frameCount + 1, sequence := router.sequence + 1 }
          inputs (router.sequence * inputs.durationNs router.fps) (inputs.durationNs router.fps)
        rw [releaseUnused_servesDest] at served
        refine ⟨⟨?_, nodup, fun handout member => (stamped handout member).1,
          fun handout member => (stamped handout member).2⟩, fps, .inl sequence⟩
        intro consumer
        have same : router.serves inputs consumer = router.servesDest inputs consumer := by
          rw [serves, wanting, if_neg dest]
          simp [frame]
        rw [same]
        exact served consumer

/-! ## Runs -/

/-- A message that was handed out, with the frame duration its time was computed with. -/
structure Sent where
  handout : Handout
  pacingNs : UInt64

/-- The router with all messages that it has handed out. -/
structure Program where
  router : OutputRouter
  sent : List Sent

namespace Program

/-- The export thread processes a frame. -/
def next
    (program : Program)
    (inputs : FrameInputs) : Program where
  router := (program.router.exportThreadProcessFrame inputs).1
  sent := program.sent ++ (program.router.exportThreadProcessFrame inputs).2.map fun handout =>
    ⟨handout, inputs.durationNs program.router.fps⟩

/-- A new router that has handed out nothing. -/
def Starts (program : Program) : Prop :=
  ∃ width height fps colorMode,
    program = ⟨.create width height fps colorMode, []⟩

/-- Runs of the export thread. -/
def system : System Program FrameInputs :=
  .ofNext Starts fun program inputs => some (program.next inputs)

/-- The times that a consumer was given, in order. -/
def times
    (program : Program)
    (consumer : FrameConsumer) : List UInt64 :=
  (program.sent.filter fun sent => sent.handout.consumer = consumer).map fun sent =>
    sent.handout.msg.ptsNs

/-- No consumer was given a time that is not later than one that it had. -/
def Increasing (program : Program) : Prop :=
  ∀ consumer, (program.times consumer).Pairwise (· < ·)

/-- The number of the frame and its time fit in 64 bits. -/
def Fits
    (program : Program)
    (inputs : FrameInputs) : Prop :=
  (program.router.sequence.toNat + 1) *
    max 1 (inputs.durationNs program.router.fps).toNat < 2 ^ 64

/-- For each consumer that the frame serves and each message that it had: the frames
numbered since, at the present duration, last longer than what a shorter present duration
takes off the frames before. -/
def CatchesUp
    (program : Program)
    (inputs : FrameInputs) : Prop :=
  ∀ earlier ∈ program.sent,
    program.router.serves inputs earlier.handout.consumer →
      (earlier.handout.msg.sequence.toNat - 1) *
          (earlier.pacingNs.toNat - (inputs.durationNs program.router.fps).toNat) <
        (program.router.sequence.toNat + 1 - earlier.handout.msg.sequence.toNat) *
          (inputs.durationNs program.router.fps).toNat

/-- Every message has the time of its number at the duration it was paced with. -/
structure Dated (program : Program) : Prop where
  number : ∀ sent ∈ program.sent,
    1 ≤ sent.handout.msg.sequence.toNat ∧
      sent.handout.msg.sequence.toNat ≤ program.router.sequence.toNat
  time : ∀ sent ∈ program.sent,
    sent.handout.msg.ptsNs.toNat =
      (sent.handout.msg.sequence.toNat - 1) * sent.pacingNs.toNat

variable {program : Program} {inputs : FrameInputs}

theorem Starts.dated
    (starts : program.Starts) :
    program.Dated := by
  obtain ⟨_, _, _, _, rfl⟩ := starts
  exact ⟨by simp, by simp⟩

theorem Starts.increasing
    (starts : program.Starts) :
    program.Increasing := by
  obtain ⟨_, _, _, _, rfl⟩ := starts
  exact fun _ => .nil

/-- The next number and the time of the frame, as numbers. -/
theorem Fits.toNat
    (fits : program.Fits inputs) :
    (program.router.sequence + 1).toNat = program.router.sequence.toNat + 1 ∧
      (program.router.sequence * inputs.durationNs program.router.fps).toNat =
        program.router.sequence.toNat * (inputs.durationNs program.router.fps).toNat := by
  unfold Fits at fits
  constructor
  · have bound := Nat.mul_le_mul_left (program.router.sequence.toNat + 1)
      (Nat.le_max_left 1 (inputs.durationNs program.router.fps).toNat)
    rw [UInt64.toNat_add]
    apply Nat.mod_eq_of_lt
    simpa using by omega
  · have bound := Nat.mul_le_mul_left (program.router.sequence.toNat + 1)
      (Nat.le_max_right 1 (inputs.durationNs program.router.fps).toNat)
    rw [Nat.add_mul] at bound
    rw [UInt64.toNat_mul]
    apply Nat.mod_eq_of_lt
    omega

theorem Dated.next
    (dated : program.Dated)
    (fits : program.Fits inputs) :
    (program.next inputs).Dated := by
  obtain ⟨number, time⟩ := fits.toNat
  obtain ⟨frame, _, after⟩ := program.router.exportThreadProcessFrame_spec inputs
  have grows : program.router.sequence.toNat ≤ (program.next inputs).router.sequence.toNat := by
    rcases after with numbered | ⟨same, _⟩
    · rw [Program.next, numbered, number]
      omega
    · exact Nat.le_of_eq (congrArg UInt64.toNat same.symm)
  constructor
  · intro sent member
    rcases List.mem_append.mp member with old | new
    · have bounds := dated.number sent old
      omega
    · obtain ⟨handout, handed, rfl⟩ := List.mem_map.mp new
      dsimp only
      rw [frame.sequence handout handed, number]
      rcases after with numbered | ⟨_, nothing⟩
      · rw [Program.next, numbered, number]
        omega
      · rw [nothing] at handed
        cases handed
  · intro sent member
    rcases List.mem_append.mp member with old | new
    · exact dated.time sent old
    · obtain ⟨handout, handed, rfl⟩ := List.mem_map.mp new
      dsimp only
      rw [frame.sequence handout handed, frame.ptsNs handout handed, number, time,
        Nat.add_sub_cancel]

/-- An earlier time is less than a later one exactly if the frames between catch up. -/
theorem time_lt_iff
    {earlier later : Nat}
    (positive : 1 ≤ earlier)
    (before : earlier ≤ later)
    (pacing now : Nat) :
    (earlier - 1) * pacing < later * now ↔
      (earlier - 1) * (pacing - now) < (later + 1 - earlier) * now := by
  obtain ⟨number, rfl⟩ := Nat.exists_eq_add_of_le' positive
  obtain ⟨between, rfl⟩ := Nat.exists_eq_add_of_le before
  have later : number + 1 + between + 1 - (number + 1) = between + 1 := by omega
  rw [Nat.add_sub_cancel, later, Nat.mul_sub]
  have total : (number + 1 + between) * now = number * now + (between + 1) * now := by
    rw [← Nat.add_mul]
    congr 1
    omega
  rw [total]
  rcases Nat.eq_zero_or_pos now with rfl | runs
  · simp
  · have lasts : 0 < (between + 1) * now := Nat.mul_pos (Nat.succ_pos between) runs
    omega

/-- What the frame hands to one consumer. -/
def fresh
    (program : Program)
    (inputs : FrameInputs)
    (consumer : FrameConsumer) : List Handout :=
  (program.router.exportThreadProcessFrame inputs).2.filter fun handout =>
    handout.consumer = consumer

theorem times_next
    (program : Program)
    (inputs : FrameInputs)
    (consumer : FrameConsumer) :
    (program.next inputs).times consumer =
      program.times consumer ++
        (program.fresh inputs consumer).map fun handout => handout.msg.ptsNs := by
  simp [times, next, fresh, List.filter_map, Function.comp_def]

/-- A consumer is handed at most one message of a frame. -/
theorem fresh_pairwise
    (program : Program)
    (inputs : FrameInputs)
    (consumer : FrameConsumer)
    (related : Handout → Handout → Prop) :
    (program.fresh inputs consumer).Pairwise related := by
  obtain ⟨frame, -, -⟩ := program.router.exportThreadProcessFrame_spec inputs
  have differ := (List.pairwise_map.mp frame.nodup).filter fun handout =>
    decide (handout.consumer = consumer)
  refine differ.imp_of_mem ?_
  intro first second firstMember secondMember different
  have firstSame := (List.mem_filter.mp firstMember).2
  have secondSame := (List.mem_filter.mp secondMember).2
  rw [decide_eq_true_iff] at firstSame secondSame
  exact absurd (firstSame.trans secondSame.symm) different

/-- A consumer is handed a message exactly if the frame serves it. -/
theorem exists_fresh_iff
    (program : Program)
    (inputs : FrameInputs)
    (consumer : FrameConsumer) :
    (∃ handout, handout ∈ program.fresh inputs consumer) ↔
      program.router.serves inputs consumer := by
  obtain ⟨frame, -, -⟩ := program.router.exportThreadProcessFrame_spec inputs
  rw [← frame.served consumer]
  simp [fresh]

/-- A frame whose time fits keeps the times increasing exactly if it catches up. -/
theorem increasing_next_iff
    (dated : program.Dated)
    (increasing : program.Increasing)
    (fits : program.Fits inputs) :
    (program.next inputs).Increasing ↔ program.CatchesUp inputs := by
  obtain ⟨_, time⟩ := fits.toNat
  obtain ⟨frame, -, -⟩ := program.router.exportThreadProcessFrame_spec inputs
  have later : ∀ earlier ∈ program.sent,
      (earlier.handout.msg.ptsNs <
          program.router.sequence * inputs.durationNs program.router.fps ↔
        (earlier.handout.msg.sequence.toNat - 1) *
            (earlier.pacingNs.toNat - (inputs.durationNs program.router.fps).toNat) <
          (program.router.sequence.toNat + 1 - earlier.handout.msg.sequence.toNat) *
            (inputs.durationNs program.router.fps).toNat) := by
    intro earlier member
    rw [UInt64.lt_iff_toNat_lt, time, dated.time earlier member]
    have number := dated.number earlier member
    exact time_lt_iff number.1 number.2 _ _
  have freshTime : ∀ consumer, ∀ handout ∈ program.fresh inputs consumer,
      handout.msg.ptsNs = program.router.sequence * inputs.durationNs program.router.fps :=
    fun consumer handout member => frame.ptsNs handout (List.mem_of_mem_filter member)
  constructor
  · intro after earlier member serves
    obtain ⟨handout, handed⟩ := (program.exists_fresh_iff inputs _).mpr serves
    have ordered := after earlier.handout.consumer
    rw [times_next, List.pairwise_append] at ordered
    have less := ordered.2.2 earlier.handout.msg.ptsNs
      (List.mem_map.mpr ⟨earlier, by simpa using member, rfl⟩)
      handout.msg.ptsNs (List.mem_map.mpr ⟨handout, handed, rfl⟩)
    rw [freshTime _ handout handed] at less
    exact (later earlier member).mp less
  · intro catches consumer
    rw [times_next, List.pairwise_append]
    refine ⟨increasing consumer, List.pairwise_map.mpr (program.fresh_pairwise _ _ _), ?_⟩
    intro earlierTime earlierMember laterTime laterMember
    obtain ⟨earlier, filtered, rfl⟩ := List.mem_map.mp earlierMember
    obtain ⟨handout, handed, rfl⟩ := List.mem_map.mp laterMember
    obtain ⟨member, same⟩ := List.mem_filter.mp filtered
    rw [decide_eq_true_iff] at same
    rw [freshTime _ handout handed]
    apply (later earlier member).mpr
    apply catches earlier member
    rw [same]
    exact (program.exists_fresh_iff inputs consumer).mp ⟨handout, handed⟩

/-- The condition on a frame under which no time goes back. -/
def Steady
    (program : Program)
    (inputs : FrameInputs) : Prop :=
  program.Fits inputs ∧ program.CatchesUp inputs

/-- In a run whose frames all catch up, no consumer is given a time that is not later
than one that it had. -/
theorem increasing_of_steady
    {program : Program}
    (reachable : system.ReachableWhen Steady program) :
    program.Increasing := by
  refine (@System.ReachableWhen.invariant _ _ system Steady
    (fun program => program.Dated ∧ program.Increasing) ?_ ?_ _ reachable).2
  · intro program starts
    exact ⟨Starts.dated starts, Starts.increasing starts⟩
  · intro program inputs after holds steady stepped
    obtain rfl := Option.some.inj stepped
    exact ⟨holds.1.next steady.1,
      (increasing_next_iff holds.1 holds.2 steady.1).mpr steady.2⟩

/-- A frame of a native canvas that nobody wants. -/
def unwanted : FrameInputs where
  latestFrameNumber := 1
  outputCount := 0
  encoderSinkCount := none
  snapshotNeedsFrame := false
  previewProfile := none
  nativeCanvasActive := true
  configuresPreview := true
  sentTo := []
  sentTo_nodup := List.nodup_nil
  encodesDuplicates := true
  outputLease := none
  encoderTakes := true
  snapshotLease := none
  snapshotDup := true
  previewLease := none
  previewTakes := true
  destExported := false
  initsDestPreview := false
  initsDestOutput := false
  destPreviewExported := false
  destOutputExported := false
  outputSlot := none
  encoderDup := true
  memfdCopied := true
  previewSlot := none
  previewDup := true

/-- A picture of the canvas. -/
def picture : NativeCanvasLease where
  entryIdx := 0
  frameNumber := 1
  contentFrameNumber := 1
  width := 640
  height := 360
  drmFormat := drmFormatNv21
  drmModifier := 0
  nPlanes := 2
  planeOffset := (0, 640 * 360)
  planeStride := (640, 640)
  colorMode := .sdr

/-- A frame for a preview of the given rate. -/
def forPreview (framerate : UInt32) : FrameInputs :=
  { unwanted with
    previewProfile := some
      { width := 320, height := 180, framerate := framerate, colorMode := .sdr }
    previewLease := some picture }

/-- A frame for such a preview and one encoder sink. -/
def forPreviewAndSink (framerate : UInt32) : FrameInputs :=
  { forPreview framerate with
    encoderSinkCount := some 1
    outputLease := some picture }

/-- A new router of a canvas with the given rate. -/
def created (fps : UInt32) : Program :=
  ⟨.create 640 360 fps .sdr, []⟩

theorem created_reachable
    (fps : UInt32)
    (condition : Program → FrameInputs → Prop) :
    system.ReachableWhen condition (created fps) :=
  .initial ⟨640, 360, fps, .sdr, rfl⟩

instance (program : Program) (inputs : FrameInputs) : Decidable (program.Fits inputs) :=
  inferInstanceAs (Decidable (_ < _))

instance (program : Program) (inputs : FrameInputs) : Decidable (program.CatchesUp inputs) :=
  inferInstanceAs (Decidable (∀ _ ∈ _, _ → _))

instance (program : Program) (inputs : FrameInputs) : Decidable (program.Steady inputs) :=
  inferInstanceAs (Decidable (_ ∧ _))

/-- A preview of twice the canvas rate, which a sink joins. -/
theorem increasing_of_steady_sinkJoins :
    (((System.run (System.guarded Steady fun program inputs => some (program.next inputs))
      (created 30) [forPreview 60, forPreview 60, forPreviewAndSink 60]).map
        fun program => program.times .preview) =
      some [0, 16666666, 66666666]) ∧
    ∀ program, System.run (System.guarded Steady fun program inputs =>
        some (program.next inputs)) (created 30)
      [forPreview 60, forPreview 60, forPreviewAndSink 60] = some program →
      program.Increasing :=
  ⟨by decide +kernel, fun _ runs =>
    increasing_of_steady
      (@System.reachableWhen_of_run _ _ Steady _ Starts _ _ _ _
        (created_reachable 30 Steady) runs)⟩

/-- A preview of half the canvas rate is given an earlier time when a sink joins. -/
theorem times_goBack :
    ¬ ∀ program, system.Reachable program → program.Increasing := by
  intro always
  have runs : System.run (fun (program : Program) inputs => some (program.next inputs))
      (created 60) [forPreview 30, forPreview 30, forPreview 30, forPreviewAndSink 30] =
        some (((((created 60).next (forPreview 30)).next (forPreview 30)).next
          (forPreview 30)).next (forPreviewAndSink 30)) :=
    rfl
  have increasing := always _
    (System.reachable_of_run (created_reachable 60 _) runs) .preview
  have times : (((((created 60).next (forPreview 30)).next (forPreview 30)).next
      (forPreview 30)).next (forPreviewAndSink 30)).times .preview =
        [0, 33333333, 66666666, 49999998] := by
    decide +kernel
  rw [times] at increasing
  revert increasing
  decide

end Program

end OutputRouter
end Engine
end SbsServer
