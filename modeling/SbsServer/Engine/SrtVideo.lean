import SbsServer.CLib.MediaClock
import SbsServer.Engine.MuxFeed

/-!
# Video of an SRT session

The encoder manager sets the times of packets against the running time of its pipeline;
a session sets them once more against its own running time, anew at each keyframe after a
time without callers or with new ones.
-/

namespace SbsServer
namespace Engine

open CLib

/-- `SBS_ENCODER_PACER_DELAY_NS` -/
def encoderPacerDelayNs : UInt64 := 100000000

/-- A time that runs from a running time on, from a base on; it does not precede the former. -/
def timeFrom
    (runningOriginNs baseNs timeNs : UInt64) : UInt64 :=
  runningOriginNs + if baseNs ≤ timeNs then timeNs - baseNs else 0

/-- `video_pts_origin_ns` and `video_running_origin_ns` of the manager. -/
structure VideoTimeOrigin where
  ptsOriginNs : UInt64
  runningOriginNs : UInt64
  deriving DecidableEq

/-- `normalize_video_time` at a running time of the pipeline. -/
def normalizeVideoTime
    (origin : Option VideoTimeOrigin)
    (pipelineTime timestampNs : UInt64) : UInt64 × VideoTimeOrigin :=
  let origin := origin.getD ⟨timestampNs, pipelineTime + encoderPacerDelayNs⟩
  (timeFrom origin.runningOriginNs origin.ptsOriginNs timestampNs, origin)

/-- What a buffer of the session carries. -/
structure SrtPayload where
  size : ℕ
  /-- `GST_BUFFER_FLAG_DELTA_UNIT` is not set. -/
  isKeyframe : Bool
  deriving DecidableEq

/-- The base of the times of a session. -/
structure SrtVideoBase where
  basePtsNs : UInt64
  baseDtsNs : UInt64
  runningOriginNs : UInt64
  deriving DecidableEq

/-- What a `sink_branch_t` holds for the video of its SRT session. -/
structure SrtSession where
  srtCallerCount : Int
  dropUntilKeyframe : Bool
  /-- The base, while `srt_video_base_valid`. -/
  srtVideoBase : Option SrtVideoBase
  srtVideoMaxPtsNs : UInt64
  /-- `direct_audio_base_pts_ns`, while `direct_audio_base_valid`. -/
  directAudioBasePts : Option UInt64
  /-- `direct_audio_next_pts_ns`, while `direct_audio_next_valid`. -/
  directAudioNextPts : Option UInt64
  feed : MuxBranch SrtPayload

namespace SrtSession

/-- The video of a session at the end of `start_srt_session`. -/
def started (session : SrtSession) : SrtSession :=
  { session with
    srtCallerCount := 0
    dropUntilKeyframe := true
    srtVideoBase := none
    srtVideoMaxPtsNs := 0
    feed := session.feed.started }

/-- `flush_srt_session` -/
def flush (session : SrtSession) : SrtSession :=
  { session with
    srtVideoBase := none
    srtVideoMaxPtsNs := 0
    directAudioBasePts := none
    directAudioNextPts := none
    feed := session.feed.resetLocked }

/-- The times of the session are set anew at a keyframe. -/
def resume
    (session : SrtSession)
    (ptsNs dtsNs sessionTime : UInt64) : SrtSession :=
  let runningOrigin := sessionTime + encoderPacerDelayNs
  let baseDts := if dtsNs ≠ timeNone then dtsNs else ptsNs
  { session with
    dropUntilKeyframe := false
    srtVideoBase := some ⟨ptsNs, baseDts, runningOrigin⟩
    srtVideoMaxPtsNs := runningOrigin
    directAudioBasePts := some (timeFrom runningOrigin baseDts ptsNs)
    directAudioNextPts := none
    feed := session.feed.resetLocked }

/-- The buffer of a packet. -/
def bufferOf
    (base : SrtVideoBase)
    (packet : TimedPacket)
    (ptsNs dtsNs : UInt64) : MediaBuffer SrtPayload where
  data := ⟨packet.size, packet.isKeyframe⟩
  pts := timeFrom base.runningOriginNs base.baseDtsNs ptsNs
  dts :=
    if dtsNs ≠ timeNone then timeFrom base.runningOriginNs base.baseDtsNs dtsNs else timeNone
  duration := packet.durationNs

/-- The end of `push_srt_session_packet`: the callers are counted again, and the buffer is made,
if it can be allocated, and enqueued. -/
def enqueuePacket
    (session : SrtSession)
    (packet : TimedPacket)
    (ptsNs dtsNs : UInt64)
    (countAgain : Int)
    (allocates : Bool) : Option (MediaBuffer SrtPayload) × SrtSession :=
  match session.srtVideoBase with
  | none => (none, session)
  | some base =>
      if countAgain ≤ 0 then
        (none, { session with srtCallerCount := countAgain, dropUntilKeyframe := true })
      else
        let buffer := bufferOf base packet ptsNs dtsNs
        let counted := { session with
          srtCallerCount := countAgain
          srtVideoMaxPtsNs := max session.srtVideoMaxPtsNs buffer.pts }
        if allocates then
          (some buffer, { counted with feed := counted.feed.enqueueBuffer buffer true })
        else (none, counted)

/-- `push_srt_session_packet` at a running time of the session. -/
def pushPacket
    (session : SrtSession)
    (packet : TimedPacket)
    (ptsNs dtsNs sessionTime : UInt64)
    (countAgain : Int)
    (allocates : Bool) : Option (MediaBuffer SrtPayload) × SrtSession :=
  if packet.size = 0 then (none, session)
  else if session.srtCallerCount ≤ 0 then
    (none, { session with dropUntilKeyframe := true })
  else if session.dropUntilKeyframe then
    if !packet.isKeyframe then (none, session)
    else
      (session.resume ptsNs dtsNs sessionTime).enqueuePacket packet ptsNs dtsNs countAgain
        allocates
  else session.enqueuePacket packet ptsNs dtsNs countAgain allocates

end SrtSession

/-- The manager and one session; another session changes nothing of either. -/
structure SrtVideo where
  origin : Option VideoTimeOrigin
  session : SrtSession

/-- What a packet meets. -/
structure PacketInputs where
  packet : TimedPacket
  /-- The running time of the manager's pipeline. -/
  pipelineTime : UInt64
  /-- The running time of the session's pipeline. -/
  sessionTime : UInt64
  /-- `srt_caller_count` when it is read for the second time. -/
  countAgain : Int
  /-- `gst_buffer_new_allocate` returns a buffer. -/
  allocates : Bool

/-- `push_encoded_packet`, as far as the session is concerned. -/
def SrtVideo.pushEncodedPacket
    (video : SrtVideo)
    (inputs : PacketInputs) : Option (MediaBuffer SrtPayload) × SrtVideo :=
  let packet := inputs.packet
  if packet.size = 0 then (none, video)
  else
    let (dtsNs, origin) :=
      if packet.dtsNs = timeNone then (timeNone, video.origin)
      else
        let (dtsNs, origin) :=
          normalizeVideoTime video.origin inputs.pipelineTime packet.dtsNs
        (dtsNs, some origin)
    let (ptsNs, origin) := normalizeVideoTime origin inputs.pipelineTime packet.ptsNs
    let (buffer, session) :=
      video.session.pushPacket packet ptsNs dtsNs inputs.sessionTime inputs.countAgain
        inputs.allocates
    (buffer, ⟨some origin, session⟩)

end Engine
end SbsServer
