import SbsServer.Engine.EncoderManager

/-!
# The timestamps of the direct encoder

The encoder keeps the times of every frame that it submits until the codec returns a
packet of it, and matches packets to frames by the codec's frame numbers.  Without the
times this is the encoder of the encoder manager.
-/

namespace SbsServer
namespace Engine

/-- `UINT64_MAX`, the value of a time that is not known. -/
def timeNone : UInt64 := 0xFFFFFFFFFFFFFFFF

/-- The times of a frame: `pts_ns`, `dts_ns` and `duration_ns` of its message. -/
structure FrameTimes where
  ptsNs : UInt64
  dtsNs : UInt64
  durationNs : UInt64
  deriving DecidableEq

/-- `sbs_pending_frame_t` -/
structure TimedFrame where
  id : Nat
  times : FrameTimes
  requestedIdr : Bool
  deriving DecidableEq

/-- `sbs_direct_venc_packet_t` -/
structure TimedPacket where
  size : Nat
  ptsNs : UInt64
  dtsNs : UInt64
  durationNs : UInt64
  isKeyframe : Bool
  deriving DecidableEq

/-- `gop_pattern_delay_frames` -/
def gopPatternDelayFrames (gopPattern : Int) : UInt32 :=
  if gopPattern = 1 then 4
  else if gopPattern = 2 then 3
  else if gopPattern = 3 then 3
  else if gopPattern = 6 then 4
  else if gopPattern = 7 then 8
  else 0

/-- `calculate_frame_duration_ns` -/
def calculateFrameDurationNs (fpsNum fpsDen : UInt32) : UInt64 :=
  if fpsNum = 0 then 1000000000 / 60
  else 1000000000 * (if fpsDen = 0 then 1 else fpsDen).toUInt64 / fpsNum.toUInt64

/-- `sbs_direct_venc_t`, as far as `submit_common` uses it.  The source counts `next_submit_id` in
an `int`, which has no meaning after 2^31 frames. -/
structure TimedVenc where
  gopSize : UInt32
  gopPattern : Int
  bframeEnabled : Bool
  frameDurationNs : UInt64
  nextSubmitId : Nat
  /-- `last_packet_dts_ns`, once it is valid. -/
  lastPacketDts : Option UInt64
  /-- `input_frame_num_origin` with `submit_id_origin`, once they are valid. -/
  origins : Option (Int × Int)
  pendingFrames : List TimedFrame
  deriving DecidableEq

/-- What comes of a submission. -/
structure TimedSubmission where
  code : ReturnCode
  packet : Option TimedPacket
  encoder : TimedVenc
  deriving DecidableEq

namespace TimedVenc

/-- `sbs_direct_venc_new` -/
def new
    (gopSize fpsNum fpsDen : UInt32)
    (gopPattern : Int) : TimedVenc where
  gopSize := gopSize
  gopPattern := gopPattern
  bframeEnabled := gopPatternHasBframes gopPattern
  frameDurationNs := calculateFrameDurationNs fpsNum fpsDen
  nextSubmitId := 0
  lastPacketDts := none
  origins := none
  pendingFrames := []

/-- `(int)gop_size` -/
def gopSizeInt (encoder : TimedVenc) : Int := encoder.gopSize.toInt32.toInt

/-- The next frame is an IDR frame by its number. -/
def idrDue (encoder : TimedVenc) : Bool :=
  encoder.nextSubmitId == 0 ||
    (decide (0 < encoder.gopSize) &&
      (encoder.nextSubmitId : Int).tmod encoder.gopSizeInt == 0)

/-- `bframe_delay_ns` -/
def bframeDelayNs (encoder : TimedVenc) : UInt64 :=
  if !encoder.bframeEnabled || encoder.frameDurationNs == 0 then 0
  else (gopPatternDelayFrames encoder.gopPattern).toUInt64 * encoder.frameDurationNs

/-- The time that a frame without one has by its number. -/
def timeById
    (encoder : TimedVenc)
    (pending : TimedFrame) : UInt64 :=
  .ofNat pending.id * encoder.frameDurationNs

/-- `calculate_packet_dts` -/
def calculatePacketDts
    (encoder : TimedVenc)
    (pending : TimedFrame)
    (packetPtsNs : UInt64) : UInt64 × TimedVenc :=
  if !encoder.bframeEnabled || encoder.frameDurationNs == 0 then
    let dtsNs :=
      if pending.times.dtsNs ≠ timeNone then pending.times.dtsNs
      else if packetPtsNs ≠ timeNone then packetPtsNs
      else if pending.times.ptsNs ≠ timeNone then pending.times.ptsNs
      else if 0 < encoder.frameDurationNs then encoder.timeById pending
      else timeNone
    (dtsNs, encoder)
  else
    let packetPtsNs :=
      if packetPtsNs = timeNone then
        if pending.times.ptsNs ≠ timeNone then pending.times.ptsNs else encoder.timeById pending
      else packetPtsNs
    let delayNs := encoder.bframeDelayNs
    let dtsNs := if delayNs ≤ packetPtsNs then packetPtsNs - delayNs else packetPtsNs
    let dtsNs :=
      match encoder.lastPacketDts with
      | some last =>
          let minNextNs := last + encoder.frameDurationNs
          if dtsNs < minNextNs then minNextNs else dtsNs
      | none => dtsNs
    (dtsNs, { encoder with lastPacketDts := some dtsNs })

/-- The origins that the first packet of an encoder with B frames sets. -/
def setOrigins
    (inputFrameNum : Int)
    (encoder : TimedVenc) : Option (Int × Int) :=
  if encoder.bframeEnabled then
    match encoder.origins, encoder.pendingFrames.head? with
    | none, some head => some (inputFrameNum, head.id)
    | origins, _ => origins
  else encoder.origins

/-- The submission that a packet is of. -/
def matchId
    (inputFrameNum : Int)
    (encoder : TimedVenc) : Int :=
  if encoder.bframeEnabled then
    match encoder.origins with
    | some (inputFrameNumOrigin, submitIdOrigin) =>
        submitIdOrigin + (inputFrameNum - inputFrameNumOrigin)
    | none => inputFrameNum
  else inputFrameNum

/-- `g_queue_pop_head` of the pending frames. -/
def popHead (encoder : TimedVenc) : Option TimedFrame × TimedVenc :=
  (encoder.pendingFrames.head?, { encoder with pendingFrames := encoder.pendingFrames.tail })

/-- `pending_frame_take_match` -/
def pendingFrameTakeMatch
    (inputFrameNum : Int)
    (encoder : TimedVenc) : Option TimedFrame × TimedVenc :=
  if 0 ≤ inputFrameNum then
    let encoder := { encoder with origins := encoder.setOrigins inputFrameNum }
    let isMatch := fun frame : TimedFrame =>
      decide ((frame.id : Int) = encoder.matchId inputFrameNum)
    match encoder.pendingFrames.find? isMatch with
    | some frame =>
        (some frame, { encoder with pendingFrames := encoder.pendingFrames.eraseP isMatch })
    | none => encoder.popHead
  else encoder.popHead

/-- `pending_frame_push` -/
def pendingFramePush
    (times : FrameTimes)
    (requestedIdr : Bool)
    (encoder : TimedVenc) : TimedVenc :=
  { encoder with
    nextSubmitId := encoder.nextSubmitId + 1
    pendingFrames := encoder.pendingFrames ++
      [{ id := encoder.nextSubmitId, times := times, requestedIdr := requestedIdr }] }

/-- `pending_frame_prune`, without the copies of inputs that no caller hands over. -/
def pendingFramePrune (encoder : TimedVenc) : TimedVenc :=
  { encoder with
    pendingFrames := encoder.pendingFrames.drop (encoder.pendingFrames.length - 4096) }

/-- The presentation time of a packet. -/
def packetPts
    (encoder : TimedVenc)
    (pending : TimedFrame) : UInt64 :=
  if encoder.bframeEnabled then
    (if pending.times.ptsNs ≠ timeNone then pending.times.ptsNs else encoder.timeById pending) +
      encoder.bframeDelayNs
  else pending.times.ptsNs

/-- A packet of a pending frame. -/
def packetOf
    (encoder : TimedVenc)
    (pending : TimedFrame)
    (size : Nat)
    (keyframe : Bool) : TimedPacket × TimedVenc :=
  let ptsNs := encoder.packetPts pending
  let (dtsNs, encoder) := encoder.calculatePacketDts pending ptsNs
  ({ size := size
     ptsNs := ptsNs
     dtsNs := dtsNs
     durationNs := pending.times.durationNs
     isKeyframe := pending.requestedIdr || keyframe }, encoder)

/-- `submit_common` -/
def submitCommon
    (times : FrameTimes)
    (answer : EncodeAnswer)
    (forceIdr : Bool)
    (encoder : TimedVenc) : TimedSubmission :=
  let requestIdr := forceIdr || encoder.idrDue
  let pushed := encoder.pendingFramePush times requestIdr
  match answer with
  | .invalid errCod inputFrameNum =>
      let popped := { pushed with pendingFrames := pushed.pendingFrames.dropLast }
      if errCod = DirectVenc.errNoSys ∧ inputFrameNum < 0 then
        { code := .wouldBlock
          packet := none
          encoder := { popped with nextSubmitId := popped.nextSubmitId - 1 } }
      else { code := .io, packet := none, encoder := popped }
  | .valid 0 inputFrameNum _ =>
      { code := .ok
        packet := none
        encoder :=
          if pushed.bframeEnabled then pushed.pendingFramePrune
          else (pushed.pendingFrameTakeMatch inputFrameNum).2 }
  | .valid (length + 1) inputFrameNum keyframe =>
      match pushed.pendingFrameTakeMatch inputFrameNum with
      | (some pending, after) =>
          let (packet, after) := after.packetOf pending (length + 1) keyframe
          { code := .ok, packet := some packet, encoder := after }
      | (none, after) =>
          { code := .ok
            packet := some
              { size := length + 1
                ptsNs := 0
                dtsNs := timeNone
                durationNs := 0
                isKeyframe := requestIdr || keyframe }
            encoder := after }

end TimedVenc

/-- A pending frame without its times. -/
def TimedFrame.untimed (frame : TimedFrame) : PendingFrame where
  id := frame.id
  requestedIdr := frame.requestedIdr

/-- A packet without its times. -/
def TimedPacket.untimed (packet : TimedPacket) : VencPacket where
  size := packet.size
  isKeyframe := packet.isKeyframe

namespace TimedVenc

/-- The encoder without the times. -/
def untimed
    (inputHdr10 : Bool)
    (encoder : TimedVenc) : DirectVenc where
  gopSize := encoder.gopSize
  bframeEnabled := encoder.bframeEnabled
  inputHdr10 := inputHdr10
  nextSubmitId := encoder.nextSubmitId
  pendingFrames := encoder.pendingFrames.map (·.untimed)
  origins := encoder.origins

/-- The first frame with an id is taken out of both queues. -/
theorem erase_untimed
    {frames : List TimedFrame}
    {id : Int}
    {frame : TimedFrame}
    (found : frames.find? (fun frame => decide ((frame.id : Int) = id)) = some frame) :
    (frames.map (·.untimed)).erase frame.untimed =
      (frames.eraseP fun frame => decide ((frame.id : Int) = id)).map (·.untimed) := by
  induction frames with
  | nil => cases found
  | cons head rest ih =>
      have isId : (frame.id : Int) = id := by simpa using List.find?_some found
      by_cases first : (head.id : Int) = id
      · rw [List.find?_cons_of_pos (by simpa using first)] at found
        cases found
        rw [List.eraseP_cons_of_pos (by simpa using first), List.map_cons,
          List.erase_cons_head]
      · rw [List.find?_cons_of_neg (by simpa using first)] at found
        have differs : head.untimed ≠ frame.untimed := by
          intro same
          have sameId : head.id = frame.id := congrArg PendingFrame.id same
          exact first (sameId ▸ isId)
        rw [List.eraseP_cons_of_neg (by simpa using first), List.map_cons, List.map_cons,
          List.erase_cons_tail (by simpa using differs), ih found]

theorem untimed_pendingFrameTakeMatch
    (inputHdr10 : Bool)
    (inputFrameNum : Int)
    (encoder : TimedVenc) :
    ((encoder.pendingFrameTakeMatch inputFrameNum).1.map (·.untimed),
        (encoder.pendingFrameTakeMatch inputFrameNum).2.untimed inputHdr10) =
      (encoder.untimed inputHdr10).pendingFrameTakeMatch inputFrameNum := by
  have popped : ∀ encoder : TimedVenc,
      (encoder.popHead.1.map (·.untimed), encoder.popHead.2.untimed inputHdr10) =
        ((encoder.untimed inputHdr10).pendingFrames.head?,
          { encoder.untimed inputHdr10 with
            pendingFrames := (encoder.untimed inputHdr10).pendingFrames.tail }) := by
    intro encoder
    simp only [popHead, untimed, List.head?_map, List.map_tail]
  unfold pendingFrameTakeMatch DirectVenc.pendingFrameTakeMatch
  dsimp only
  by_cases numbered : 0 ≤ inputFrameNum
  · rw [if_pos numbered, if_pos numbered]
    have origins : (encoder.untimed inputHdr10).setOrigins inputFrameNum =
        encoder.setOrigins inputFrameNum := by
      unfold setOrigins DirectVenc.setOrigins untimed
      dsimp only
      rw [List.head?_map]
      cases encoder.bframeEnabled with
      | false => rfl
      | true =>
          cases encoder.origins with
          | some _ => rfl
          | none => cases encoder.pendingFrames.head? <;> rfl
    rw [origins]
    generalize encoder.setOrigins inputFrameNum = origins
    change _ = match ((encoder.pendingFrames.map (·.untimed)).find? fun frame =>
        (frame.id : Int) = (untimed inputHdr10 { encoder with origins }).matchId inputFrameNum) with
      | some frame => _
      | none => _
    have sameId : (untimed inputHdr10 { encoder with origins }).matchId inputFrameNum =
        { encoder with origins }.matchId inputFrameNum := by
      cases origins <;> rfl
    rw [sameId, List.find?_map]
    change _ = match (encoder.pendingFrames.find? fun frame =>
        (frame.id : Int) = { encoder with origins }.matchId inputFrameNum).map (·.untimed) with
      | some frame => _
      | none => _
    cases found : encoder.pendingFrames.find? fun frame =>
        (frame.id : Int) = { encoder with origins }.matchId inputFrameNum with
    | none => exact popped { encoder with origins }
    | some frame =>
        dsimp only [Option.map_some]
        congr 1
        unfold untimed
        dsimp only
        rw [erase_untimed found]
  · rw [if_neg numbered, if_neg numbered]
    exact popped encoder

theorem untimed_packetOf
    (inputHdr10 : Bool)
    (encoder : TimedVenc)
    (pending : TimedFrame)
    (size : Nat)
    (keyframe : Bool) :
    (encoder.packetOf pending size keyframe).1.untimed =
        { size := size, isKeyframe := pending.requestedIdr || keyframe } ∧
      (encoder.packetOf pending size keyframe).2.untimed inputHdr10 =
        encoder.untimed inputHdr10 := by
  unfold packetOf calculatePacketDts
  dsimp only
  split
  · exact ⟨rfl, rfl⟩
  · exact ⟨rfl, rfl⟩

/-- A submission is one of the encoder without the times. -/
theorem untimed_submitCommon
    (inputHdr10 : Bool)
    (times : FrameTimes)
    (answer : EncodeAnswer)
    (forceIdr : Bool)
    (encoder : TimedVenc) :
    let timed := encoder.submitCommon times answer forceIdr
    let plain := (encoder.untimed inputHdr10).submitCommon answer forceIdr
    timed.code = plain.code ∧ timed.packet.map (·.untimed) = plain.packet ∧
      timed.encoder.untimed inputHdr10 = plain.encoder := by
  intro timed plain
  have pushed : (encoder.pendingFramePush times (forceIdr || encoder.idrDue)).untimed inputHdr10 =
      (encoder.untimed inputHdr10).pendingFramePush
        (forceIdr || (encoder.untimed inputHdr10).idrDue) := by
    unfold pendingFramePush DirectVenc.pendingFramePush untimed
    simp only [List.map_append]
    rfl
  have taken := untimed_pendingFrameTakeMatch inputHdr10
  unfold timed plain submitCommon DirectVenc.submitCommon
  dsimp only
  rw [← pushed]
  generalize encoder.pendingFramePush times (forceIdr || encoder.idrDue) = after
  match answer with
  | .invalid errCod inputFrameNum =>
      dsimp only
      split
      · refine ⟨rfl, rfl, ?_⟩
        simp only [untimed, List.map_dropLast]
      · refine ⟨rfl, rfl, ?_⟩
        simp only [untimed, List.map_dropLast]
  | .valid 0 inputFrameNum _ =>
      refine ⟨rfl, rfl, ?_⟩
      dsimp only
      rw [← taken inputFrameNum after]
      change (if after.bframeEnabled then after.pendingFramePrune
        else (after.pendingFrameTakeMatch inputFrameNum).2).untimed inputHdr10 =
          if after.bframeEnabled then (after.untimed inputHdr10).pendingFramePrune
          else (after.pendingFrameTakeMatch inputFrameNum).2.untimed inputHdr10
      split
      · simp only [untimed, pendingFramePrune, DirectVenc.pendingFramePrune, List.map_drop,
          List.length_map]
      · rfl
  | .valid (length + 1) inputFrameNum keyframe =>
      dsimp only
      rw [← taken inputFrameNum after]
      generalize after.pendingFrameTakeMatch inputFrameNum = result
      obtain ⟨pending, rest⟩ := result
      cases pending with
      | none => exact ⟨rfl, rfl, rfl⟩
      | some pending =>
          obtain ⟨packet, same⟩ := untimed_packetOf inputHdr10 rest pending (length + 1) keyframe
          exact ⟨rfl, congrArg some packet, same⟩

end TimedVenc
end Engine
end SbsServer
