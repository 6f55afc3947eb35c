import SbsServer.CLib.Outstanding
import SbsServer.CLib.System
import SbsServer.Engine.DirectVenc

/-!
# The times of packets

The codec numbers the frames that it accepts and returns them in another order.  A
packet has the times of its frame as long as submissions, numbers and pending frames
stay in step.
-/

namespace SbsServer
namespace Engine

open CLib

/-- The decoding time of a frame in a stream that is not reordered. -/
def FrameTimes.decodeNs (times : FrameTimes) : UInt64 :=
  if times.dtsNs ≠ timeNone then times.dtsNs else times.ptsNs

namespace TimedVenc

variable {encoder : TimedVenc} {pending : TimedFrame}

/-- Packets are paced by the duration of a frame. -/
def paces (encoder : TimedVenc) : Bool :=
  encoder.bframeEnabled && encoder.frameDurationNs != 0

/-- The settings with which an encoder was made. -/
def settings (encoder : TimedVenc) : Bool × UInt64 × Int :=
  (encoder.bframeEnabled, encoder.frameDurationNs, encoder.gopPattern)

theorem paces_eq_of_settings
    {other : TimedVenc}
    (same : other.settings = encoder.settings) :
    other.paces = encoder.paces := by
  simp only [settings, Prod.mk.injEq] at same
  simp only [paces, same]

theorem bframeDelayNs_eq_of_settings
    {other : TimedVenc}
    (same : other.settings = encoder.settings) :
    other.bframeDelayNs = encoder.bframeDelayNs := by
  simp only [settings, Prod.mk.injEq] at same
  simp only [bframeDelayNs, same]

theorem bframeDelayNs_of_not_paces (plain : encoder.paces = false) :
    encoder.bframeDelayNs = 0 := by
  unfold bframeDelayNs
  rw [if_pos]
  unfold paces at plain
  revert plain
  cases encoder.bframeEnabled <;> simp

/-- A packet is late by the reorder delay. -/
theorem toNat_packetPts
    (fits : pending.times.ptsNs.toNat + encoder.bframeDelayNs.toNat < timeNone.toNat) :
    (encoder.packetPts pending).toNat =
      pending.times.ptsNs.toNat + encoder.bframeDelayNs.toNat := by
  have known : pending.times.ptsNs ≠ timeNone := by
    intro none
    rw [none] at fits
    omega
  have bound : timeNone.toNat < 2 ^ 64 := by decide
  unfold packetPts
  by_cases reordered : encoder.bframeEnabled = true
  · rw [if_pos reordered, if_pos known, UInt64.toNat_add, Nat.mod_eq_of_lt (by omega)]
  · have plain : encoder.paces = false := by
      unfold paces
      simp [reordered]
    rw [if_neg reordered, bframeDelayNs_of_not_paces plain]
    rfl

/-- The decoding time of a packet that is not paced. -/
theorem calculatePacketDts_of_not_paces
    (plain : encoder.paces = false)
    {packetPtsNs : UInt64}
    (known : packetPtsNs ≠ timeNone)
    (same : packetPtsNs = pending.times.ptsNs) :
    encoder.calculatePacketDts pending packetPtsNs = (pending.times.decodeNs, encoder) := by
  have guard : (!encoder.bframeEnabled || encoder.frameDurationNs == 0) = true := by
    unfold paces at plain
    revert plain
    cases encoder.bframeEnabled <;> simp
  unfold calculatePacketDts FrameTimes.decodeNs
  rw [if_pos guard]
  dsimp only
  congr 1
  split
  · rfl
  · exact same

/-- The presentation time of a frame, but at least the duration of a frame after the packet
before. -/
def pacedTime
    (last : Option UInt64)
    (duration pts : ℕ) : ℕ :=
  last.elim pts fun last => max pts (last.toNat + duration)

/-- The decoding time of a packet that is paced. -/
theorem calculatePacketDts_of_paces
    (paced : encoder.paces = true)
    {packetPtsNs : UInt64}
    (known : packetPtsNs ≠ timeNone)
    (late : packetPtsNs.toNat = pending.times.ptsNs.toNat + encoder.bframeDelayNs.toNat)
    (fits : ∀ last ∈ encoder.lastPacketDts,
      last.toNat + encoder.frameDurationNs.toNat < 2 ^ 64) :
    ∃ dts : UInt64,
      encoder.calculatePacketDts pending packetPtsNs =
        (dts, { encoder with lastPacketDts := some dts }) ∧
      dts.toNat = pacedTime encoder.lastPacketDts encoder.frameDurationNs.toNat
        pending.times.ptsNs.toNat := by
  have guard : ¬(!encoder.bframeEnabled || encoder.frameDurationNs == 0) = true := by
    unfold paces at paced
    revert paced
    cases encoder.bframeEnabled <;> simp
  have enough : encoder.bframeDelayNs ≤ packetPtsNs := by
    rw [UInt64.le_iff_toNat_le]
    omega
  have early : (packetPtsNs - encoder.bframeDelayNs).toNat = pending.times.ptsNs.toNat := by
    rw [UInt64.toNat_sub_of_le _ _ enough]
    omega
  unfold calculatePacketDts
  rw [if_neg guard]
  dsimp only
  rw [if_neg known, if_pos enough]
  refine ⟨_, rfl, ?_⟩
  cases previous : encoder.lastPacketDts with
  | none => exact early
  | some last =>
      have sum : (last + encoder.frameDurationNs).toNat =
          last.toNat + encoder.frameDurationNs.toNat := by
        rw [UInt64.toNat_add, Nat.mod_eq_of_lt (fits last previous)]
      unfold pacedTime
      dsimp only [Option.elim_some]
      split
      next less =>
        rw [UInt64.lt_iff_toNat_lt] at less
        omega
      next notLess =>
        rw [UInt64.lt_iff_toNat_lt] at notLess
        omega

/-- A pending frame of an accepted one. -/
def IsFrame
    (base : ℕ)
    (accepted : List FrameTimes)
    (frame : TimedFrame)
    (picture : ℕ) : Prop :=
  frame.id = base + picture ∧ accepted[picture]? = some frame.times

variable {base picture : ℕ} {accepted : List FrameTimes} {inputFrameNum : Int}

theorem IsFrame.append
    {frame : TimedFrame}
    (isFrame : IsFrame base accepted frame picture)
    (times : FrameTimes) :
    IsFrame base (accepted ++ [times]) frame picture :=
  ⟨isFrame.1, by
    rw [List.getElem?_append_left (List.getElem?_eq_some_iff.mp isFrame.2).1]
    exact isFrame.2⟩

/-- Pending frames in step with frames of the codec: the frame of a picture is found. -/
theorem find?_of_aligned
    {frames : List TimedFrame}
    {pictures : List ℕ}
    (aligned : List.Forall₂ (IsFrame base accepted) frames pictures)
    (member : picture ∈ pictures) :
    ∃ frame, IsFrame base accepted frame picture ∧
      frames.find? (fun frame => decide ((frame.id : Int) = base + picture)) = some frame ∧
      List.Forall₂ (IsFrame base accepted)
        (frames.eraseP fun frame => decide ((frame.id : Int) = base + picture))
        (pictures.erase picture) := by
  induction aligned with
  | nil => cases member
  | @cons head other frames pictures isFrame rest ih =>
      obtain ⟨id, times⟩ := isFrame
      by_cases first : other = picture
      · subst first
        have isId : (head.id : Int) = base + other := by rw [id, Nat.cast_add]
        refine ⟨head, ⟨id, times⟩, List.find?_cons_of_pos (by simpa using isId), ?_⟩
        rw [List.eraseP_cons_of_pos (by simpa using isId), List.erase_cons_head]
        exact rest
      · have notId : ¬(head.id : Int) = base + picture := by
          rw [id]
          omega
        obtain ⟨frame, isFrame, found, erased⟩ :=
          ih (List.mem_of_ne_of_mem (Ne.symm first) member)
        refine ⟨frame, isFrame, ?_, ?_⟩
        · rw [List.find?_cons_of_neg (by simpa using notId), found]
        · rw [List.eraseP_cons_of_neg (by simpa using notId),
            List.erase_cons_tail (by simpa using first)]
          exact .cons ⟨id, times⟩ erased

/-- The packet of a picture finds its frame, once the origins are those of the first frame. -/
theorem pendingFrameTakeMatch_of_aligned
    {first base picture : ℕ}
    {pictures : List ℕ}
    (reordered : encoder.bframeEnabled = true)
    (aligned : List.Forall₂ (IsFrame base accepted) encoder.pendingFrames pictures)
    (member : picture ∈ pictures)
    (origins : encoder.setOrigins (first + picture : ℕ) = some ((first : Int), (base : Int))) :
    ∃ frame frames, IsFrame base accepted frame picture ∧
      encoder.pendingFrameTakeMatch (first + picture : ℕ) =
        (some frame, { encoder with
          origins := some ((first : Int), (base : Int)), pendingFrames := frames }) ∧
      List.Forall₂ (IsFrame base accepted) frames (pictures.erase picture) := by
  obtain ⟨frame, isFrame, found, erased⟩ := find?_of_aligned aligned member
  refine ⟨frame, _, isFrame, ?_, erased⟩
  have matched : matchId (first + picture : ℕ)
      { encoder with origins := some ((first : Int), (base : Int)) } = base + picture := by
    unfold matchId
    dsimp only
    rw [if_pos reordered]
    push_cast
    omega
  unfold pendingFrameTakeMatch
  dsimp only
  rw [if_pos (Int.natCast_nonneg _), origins, matched, found]

/-- The only pending frame is taken for every packet. -/
theorem pendingFrameTakeMatch_singleton
    {frame : TimedFrame}
    (plain : encoder.bframeEnabled = false)
    (single : encoder.pendingFrames = [frame])
    (inputFrameNum : Int) :
    encoder.pendingFrameTakeMatch inputFrameNum =
      (some frame, { encoder with pendingFrames := [] }) := by
  obtain ⟨gopSize, gopPattern, bframeEnabled, frameDurationNs, nextSubmitId, lastPacketDts,
    origins, pendingFrames⟩ := encoder
  dsimp only at plain single
  subst plain single
  unfold pendingFrameTakeMatch setOrigins matchId popHead
  dsimp only
  split
  · by_cases isId : (frame.id : Int) = inputFrameNum
    · simp [isId]
    · simp [isId]
  · rfl

variable {times : FrameTimes} {forceIdr : Bool}

/-- A frame that would block leaves the encoder as it was. -/
theorem submitCommon_of_wouldBlock
    (unnumbered : inputFrameNum < 0) :
    encoder.submitCommon times (.invalid DirectVenc.errNoSys inputFrameNum) forceIdr =
      ⟨.wouldBlock, none, encoder⟩ := by
  unfold submitCommon
  dsimp only
  rw [if_pos ⟨rfl, unnumbered⟩]
  simp [pendingFramePush]

/-- A submission that fails uses a number up. -/
theorem submitCommon_of_failure
    {errCod inputFrameNum : Int}
    (fails : ¬(errCod = DirectVenc.errNoSys ∧ inputFrameNum < 0)) :
    encoder.submitCommon times (.invalid errCod inputFrameNum) forceIdr =
      ⟨.io, none, { encoder with nextSubmitId := encoder.nextSubmitId + 1 }⟩ := by
  unfold submitCommon
  dsimp only
  rw [if_neg fails]
  simp [pendingFramePush]

/-- A frame that the codec keeps for later. -/
theorem submitCommon_of_kept
    {keyframe : Bool}
    (reordered : encoder.bframeEnabled = true)
    (few : encoder.pendingFrames.length < 4096) :
    encoder.submitCommon times (.valid 0 inputFrameNum keyframe) forceIdr =
      ⟨.ok, none, encoder.pendingFramePush times (forceIdr || encoder.idrDue)⟩ := by
  have pushed : (encoder.pendingFramePush times (forceIdr || encoder.idrDue)).bframeEnabled =
      true := reordered
  have short : (encoder.pendingFramePush times
      (forceIdr || encoder.idrDue)).pendingFrames.length - 4096 = 0 := by
    unfold pendingFramePush
    rw [List.length_append, List.length_singleton]
    omega
  unfold submitCommon pendingFramePrune
  dsimp only
  rw [if_pos pushed, short, List.drop_zero]

/-- A packet of the pending frame that its number finds. -/
theorem submitCommon_of_packet
    {size : ℕ}
    {keyframe : Bool}
    {after : TimedVenc}
    (taken : (encoder.pendingFramePush times (forceIdr || encoder.idrDue)).pendingFrameTakeMatch
      inputFrameNum = (some pending, after)) :
    encoder.submitCommon times (.valid (size + 1) inputFrameNum keyframe) forceIdr =
      ⟨.ok, some (after.packetOf pending (size + 1) keyframe).1,
        (after.packetOf pending (size + 1) keyframe).2⟩ := by
  unfold submitCommon
  dsimp only
  rw [taken]

end TimedVenc

/-- A call of `submit_common`, with the accepted frame that its packet is of, if it returns
one. -/
structure VencCall where
  times : FrameTimes
  forceIdr : Bool
  answer : EncodeAnswer
  picture : ℕ

/-- The encoder, the frames that the codec accepted, and the packets with the number of the
accepted frame that each is of. -/
structure VencRun where
  encoder : TimedVenc
  accepted : List FrameTimes
  packets : List (ℕ × TimedPacket)

namespace VencRun

/-- The accepted frames that were returned, in the order of their packets. -/
def returned (run : VencRun) : List ℕ := run.packets.map Prod.fst

/-- The frames that are accepted after a call. -/
def acceptedAfter
    (run : VencRun)
    (call : VencCall) : List FrameTimes :=
  match call.answer with
  | .invalid _ _ => run.accepted
  | .valid _ _ _ => run.accepted ++ [call.times]

/-- A call. -/
def next
    (run : VencRun)
    (call : VencCall) : VencRun :=
  let submission := run.encoder.submitCommon call.times call.answer call.forceIdr
  { encoder := submission.encoder
    accepted := run.acceptedAfter call
    packets := run.packets ++ submission.packet.toList.map fun packet => (call.picture, packet) }

/-- The start of a run: a new encoder. -/
def start
    (gopSize fpsNum fpsDen : UInt32)
    (gopPattern : Int) : VencRun where
  encoder := .new gopSize fpsNum fpsDen gopPattern
  accepted := []
  packets := []

/-- Runs of a new encoder. -/
def system : System VencRun VencCall :=
  System.ofNext
    (fun run => ∃ gopSize fpsNum fpsDen gopPattern,
      run = start gopSize fpsNum fpsDen gopPattern)
    fun run call => some (run.next call)

/-- The codec numbers the frames that it accepts from a first number on, and returns each of
them once, at most the delay of the pattern away from its place. -/
def Numbered
    (first : ℕ)
    (run : VencRun)
    (call : VencCall) : Prop :=
  match call.answer with
  | .valid (_ + 1) inputFrameNum _ =>
      let delay := (gopPatternDelayFrames run.encoder.gopPattern).toNat
      inputFrameNum = first + call.picture ∧ call.picture ≤ run.accepted.length ∧
        call.picture ∉ run.returned ∧
        call.picture ≤ run.packets.length + delay ∧ run.packets.length ≤ call.picture + delay
  | _ => True

/-- The times of the accepted frame that a packet is of. -/
def timesAt
    (run : VencRun)
    (position : ℕ) : Option FrameTimes :=
  (run.packets[position]?).bind fun entry => run.accepted[entry.1]?

/-- The times of a frame leave room for those of its packet, which comes after the packets so
far. -/
def HasRoom
    (run : VencRun)
    (times : FrameTimes) : Prop :=
  let delay := run.encoder.bframeDelayNs.toNat
  times.ptsNs.toNat + delay < timeNone.toNat ∧
    if run.encoder.paces then
      ∀ position < run.packets.length, ∀ earlier ∈ run.timesAt position,
        earlier.ptsNs.toNat +
            (run.packets.length - position) * run.encoder.frameDurationNs.toNat ≤
          times.ptsNs.toNat + delay
    else
      times.decodeNs ≤ times.ptsNs ∧
        ∀ position < run.packets.length, ∀ earlier ∈ run.timesAt position,
          earlier.decodeNs < times.decodeNs

/-- With B frames a submission fails only before the first frame is accepted, the first packet
is of the first frame and at most 4096 frames are outstanding; without them every accepted
frame is returned by its own call. -/
def InStep
    (run : VencRun)
    (call : VencCall) : Prop :=
  run.encoder.nextSubmitId + 1 < 2 ^ 31 ∧
    match call.answer with
    | .invalid errCod inputFrameNum =>
        (errCod = DirectVenc.errNoSys ∧ inputFrameNum < 0) ∨
          run.encoder.bframeEnabled = false ∨ run.accepted = []
    | .valid 0 _ _ =>
        run.encoder.bframeEnabled = true ∧
          (outstanding (run.accepted.length + 1) run.returned).length ≤ 4096
    | .valid (_ + 1) _ _ =>
        (run.encoder.bframeEnabled = true → run.packets = [] → call.picture = 0) ∧
          ∀ times ∈ (run.accepted ++ [call.times])[call.picture]?, run.HasRoom times

/-- Every packet has the times of its frame, late by the reorder delay; decoding times increase
and are not above the presentation times. -/
structure Timely (run : VencRun) : Prop where
  times : ∀ entry ∈ run.packets, ∃ times, run.accepted[entry.1]? = some times ∧
    entry.2.ptsNs.toNat = times.ptsNs.toNat + run.encoder.bframeDelayNs.toNat ∧
    entry.2.durationNs = times.durationNs ∧ entry.2.dtsNs ≤ entry.2.ptsNs
  increasing : (run.packets.map fun entry => entry.2.dtsNs).Pairwise (· < ·)

/-! ## What holds in every run -/

/-- What the last decoding time says about the frames so far. -/
structure Paced (run : VencRun) : Prop where
  start : run.encoder.lastPacketDts = none → run.packets = []
  latest : ∀ last, run.encoder.lastPacketDts = some last →
    (∀ entry ∈ run.packets, entry.2.dtsNs ≤ last) ∧
    ∃ position < run.packets.length, ∃ earlier, run.timesAt position = some earlier ∧
      last.toNat = earlier.ptsNs.toNat +
        (run.packets.length - 1 - position) * run.encoder.frameDurationNs.toNat

/-- What is known about the times of the packets so far. -/
structure TimesSound (run : VencRun) : Prop where
  paced : run.encoder.paces = true → run.Paced
  plain : run.encoder.paces = false → ∀ entry ∈ run.packets, ∃ times,
    run.accepted[entry.1]? = some times ∧ entry.2.dtsNs = times.decodeNs
  timely : run.Timely

section

variable {run : VencRun} {encoder : TimedVenc} {times : FrameTimes} {position : ℕ}

theorem getElem?_of_append
    {frames more : List FrameTimes}
    {index : ℕ}
    (found : frames[index]? = some times) :
    (frames ++ more)[index]? = some times := by
  rw [List.getElem?_append_left (List.getElem?_eq_some_iff.mp found).1]
  exact found

/-- A frame that was returned stays at its position. -/
theorem timesAt_of_grown
    (found : run.timesAt position = some times)
    (encoder : TimedVenc)
    (frames : List FrameTimes)
    (packets : List (ℕ × TimedPacket)) :
    timesAt ⟨encoder, run.accepted ++ frames, run.packets ++ packets⟩ position = some times := by
  obtain ⟨entry, isAt, isTimes⟩ := Option.bind_eq_some_iff.mp found
  unfold timesAt
  rw [List.getElem?_append_left (List.getElem?_eq_some_iff.mp isAt).1, isAt]
  exact getElem?_of_append isTimes

/-- A call without a packet. -/
theorem TimesSound.grow
    (sound : run.TimesSound)
    (settings : encoder.settings = run.encoder.settings)
    (last : encoder.lastPacketDts = run.encoder.lastPacketDts)
    (frames : List FrameTimes) :
    TimesSound ⟨encoder, run.accepted ++ frames, run.packets⟩ := by
  have paces := TimedVenc.paces_eq_of_settings settings
  have delay := TimedVenc.bframeDelayNs_eq_of_settings settings
  have duration : encoder.frameDurationNs = run.encoder.frameDurationNs :=
    congrArg (fun settings => settings.2.1) settings
  constructor
  · intro isPaced
    have paced := sound.paced (paces ▸ isPaced)
    refine ⟨fun isNone => paced.start (last ▸ isNone), ?_⟩
    intro time isLast
    obtain ⟨all, position, before, earlier, found, same⟩ := paced.latest time (last ▸ isLast)
    have kept := timesAt_of_grown found encoder frames []
    rw [List.append_nil] at kept
    refine ⟨all, position, before, earlier, kept, ?_⟩
    dsimp only
    rw [duration]
    exact same
  · intro isPlain entry member
    obtain ⟨times, found, same⟩ := sound.plain (paces ▸ isPlain) entry member
    exact ⟨times, getElem?_of_append found, same⟩
  · refine ⟨?_, sound.timely.increasing⟩
    intro entry member
    obtain ⟨times, found, pts, right⟩ := sound.timely.times entry member
    exact ⟨times, getElem?_of_append found, delay ▸ pts, right⟩

/-- A frame that has room comes at least the duration of a frame after the last packet. -/
theorem Paced.last_add_le
    (paced : run.Paced)
    (isPaced : run.encoder.paces = true)
    (room : run.HasRoom times)
    {last : UInt64}
    (isLast : run.encoder.lastPacketDts = some last) :
    last.toNat + run.encoder.frameDurationNs.toNat ≤
      times.ptsNs.toNat + run.encoder.bframeDelayNs.toNat := by
  obtain ⟨-, position, before, earlier, found, same⟩ := paced.latest last isLast
  have spaced := room.2
  rw [if_pos isPaced] at spaced
  have enough := spaced position before earlier found
  have steps : run.packets.length - position = run.packets.length - 1 - position + 1 := by omega
  rw [steps, Nat.add_mul, Nat.one_mul] at enough
  omega

/-- A packet changes nothing of the encoder but the last decoding time. -/
theorem packetOf_encoder
    (encoder : TimedVenc)
    (frame : TimedFrame)
    (size : ℕ)
    (keyframe : Bool) :
    ∃ last, (encoder.packetOf frame size keyframe).2 = { encoder with lastPacketDts := last } := by
  unfold TimedVenc.packetOf TimedVenc.calculatePacketDts
  dsimp only
  split
  · exact ⟨encoder.lastPacketDts, rfl⟩
  · exact ⟨_, rfl⟩

variable {frames : List FrameTimes} {picture : ℕ} {frame : TimedFrame}

/-- One more packet with the times of its frame. -/
theorem Timely.packet
    {packet : TimedPacket}
    (timely : run.Timely)
    (found : run.accepted[picture]? = some times)
    (pts : packet.ptsNs.toNat = times.ptsNs.toNat + run.encoder.bframeDelayNs.toNat)
    (duration : packet.durationNs = times.durationNs)
    (dts : packet.dtsNs ≤ packet.ptsNs)
    (later : ∀ entry ∈ run.packets, entry.2.dtsNs < packet.dtsNs)
    (same : encoder.bframeDelayNs = run.encoder.bframeDelayNs) :
    Timely ⟨encoder, run.accepted, run.packets ++ [(picture, packet)]⟩ := by
  constructor
  · intro entry member
    dsimp only
    rw [same]
    rcases List.mem_append.mp member with earlier | new
    · exact timely.times entry earlier
    · cases List.mem_singleton.mp new
      exact ⟨times, found, pts, duration, dts⟩
  · rw [List.map_append]
    apply pairwise_concat timely.increasing
    intro time earlier
    obtain ⟨entry, member, rfl⟩ := List.mem_map.mp earlier
    exact later entry member

/-- A paced time is later than those of the packets before. -/
theorem Paced.lt_of_pacedTime
    {dts : UInt64}
    {duration pts : ℕ}
    (paced : run.Paced)
    (positive : 0 < duration)
    (value : dts.toNat = TimedVenc.pacedTime run.encoder.lastPacketDts duration pts) :
    ∀ entry ∈ run.packets, entry.2.dtsNs < dts := by
  intro entry member
  cases previous : run.encoder.lastPacketDts with
  | none =>
      rw [paced.start previous] at member
      cases member
  | some time =>
      have before := (paced.latest time previous).1 entry member
      rw [UInt64.le_iff_toNat_le] at before
      rw [UInt64.lt_iff_toNat_lt, value, previous]
      unfold TimedVenc.pacedTime
      dsimp only [Option.elim_some]
      omega

/-- A paced time counts from the presentation time of a frame so far, or of the new one. -/
theorem Paced.counts_pacedTime
    {dts : UInt64}
    {packet : ℕ × TimedPacket}
    (paced : run.Paced)
    (here : timesAt ⟨encoder, run.accepted ++ frames, run.packets ++ [packet]⟩
      run.packets.length = some times)
    (value : dts.toNat = TimedVenc.pacedTime run.encoder.lastPacketDts
      run.encoder.frameDurationNs.toNat times.ptsNs.toNat) :
    ∃ position < run.packets.length + 1, ∃ earlier,
      timesAt ⟨encoder, run.accepted ++ frames, run.packets ++ [packet]⟩ position =
          some earlier ∧
        dts.toNat = earlier.ptsNs.toNat +
          (run.packets.length - position) * run.encoder.frameDurationNs.toNat := by
  have fromHere : dts.toNat = times.ptsNs.toNat →
      dts.toNat = times.ptsNs.toNat +
        (run.packets.length - run.packets.length) * run.encoder.frameDurationNs.toNat := by
    intro same
    rw [Nat.sub_self, Nat.zero_mul]
    exact same
  cases previous : run.encoder.lastPacketDts with
  | none =>
      rw [previous] at value
      exact ⟨run.packets.length, Nat.lt_succ_self _, times, here, fromHere value⟩
  | some time =>
      rw [previous] at value
      change dts.toNat =
        max times.ptsNs.toNat (time.toNat + run.encoder.frameDurationNs.toNat) at value
      rcases le_total (time.toNat + run.encoder.frameDurationNs.toNat)
        times.ptsNs.toNat with early | late
      · rw [max_eq_left early] at value
        exact ⟨run.packets.length, Nat.lt_succ_self _, times, here, fromHere value⟩
      · obtain ⟨-, position, before, earlier, isAt, same⟩ := paced.latest time previous
        refine ⟨position, Nat.lt_succ_of_lt before, earlier, timesAt_of_grown isAt _ _ _, ?_⟩
        have steps : run.packets.length - position =
            run.packets.length - 1 - position + 1 := by
          omega
        rw [value, max_eq_right late, same, steps, Nat.add_mul, Nat.one_mul, Nat.add_assoc]

variable (sound : run.TimesSound)
variable (found : (run.accepted ++ frames)[picture]? = some frame.times)
variable (room : run.HasRoom frame.times)
variable (settings : encoder.settings = run.encoder.settings)
variable (last : encoder.lastPacketDts = run.encoder.lastPacketDts)
variable (size : ℕ) (keyframe : Bool)
include sound found room settings last

theorem TimesSound.packet_of_paces
    (isPaced : run.encoder.paces = true)
    (pts : (encoder.packetPts frame).toNat =
      frame.times.ptsNs.toNat + encoder.bframeDelayNs.toNat)
    (known : encoder.packetPts frame ≠ timeNone) :
    TimesSound ⟨(encoder.packetOf frame size keyframe).2, run.accepted ++ frames,
      run.packets ++ [(picture, (encoder.packetOf frame size keyframe).1)]⟩ := by
  have paces := TimedVenc.paces_eq_of_settings settings
  have delay := TimedVenc.bframeDelayNs_eq_of_settings settings
  have duration : encoder.frameDurationNs = run.encoder.frameDurationNs :=
    congrArg (fun settings => settings.2.1) settings
  have paced := sound.paced isPaced
  have enough : ∀ time ∈ run.encoder.lastPacketDts,
      time.toNat + run.encoder.frameDurationNs.toNat ≤
        frame.times.ptsNs.toNat + run.encoder.bframeDelayNs.toNat := by
    intro time isLast
    exact paced.last_add_le isPaced room isLast
  have fits : frame.times.ptsNs.toNat + run.encoder.bframeDelayNs.toNat < 2 ^ 64 :=
    Nat.lt_trans room.1 (by decide)
  have sums : ∀ time ∈ encoder.lastPacketDts,
      time.toNat + encoder.frameDurationNs.toNat < 2 ^ 64 := by
    rw [last, duration]
    intro time isLast
    exact Nat.lt_of_le_of_lt (enough time isLast) fits
  obtain ⟨dts, result, value⟩ := TimedVenc.calculatePacketDts_of_paces
    (paces.trans isPaced) known pts sums
  rw [last, duration] at value
  have positive : 0 < run.encoder.frameDurationNs.toNat := by
    unfold TimedVenc.paces at isPaced
    rw [Bool.and_eq_true, bne_iff_ne] at isPaced
    exact Nat.pos_of_ne_zero fun zero => isPaced.2 (UInt64.toNat_inj.mp zero)
  have notAbove : dts ≤ encoder.packetPts frame := by
    rw [UInt64.le_iff_toNat_le, pts, value, delay]
    cases previous : run.encoder.lastPacketDts with
    | none => exact Nat.le_add_right _ _
    | some time => exact max_le (Nat.le_add_right _ _) (enough time previous)
  have later := paced.lt_of_pacedTime positive value
  unfold TimedVenc.packetOf
  dsimp only
  rw [result]
  refine ⟨fun _ => ⟨nofun, ?_⟩, fun isPlain => ?_, ?_⟩
  · rintro _ ⟨⟩
    refine ⟨?_, ?_⟩
    · intro entry member
      rcases List.mem_append.mp member with earlier | new
      · exact UInt64.le_of_lt (later entry earlier)
      · cases List.mem_singleton.mp new
        exact UInt64.le_refl _
    · dsimp only
      rw [List.length_append, List.length_singleton, Nat.add_sub_cancel, duration]
      apply paced.counts_pacedTime _ value
      unfold timesAt
      rw [List.getElem?_concat_length]
      exact found
  · exact absurd (paces.trans isPaced) (by simp [show encoder.paces = false from isPlain])
  · exact (sound.grow settings last frames).timely.packet found pts rfl notAbove later rfl

theorem TimesSound.packet_of_not_paces
    (notPaced : run.encoder.paces = false)
    (pts : (encoder.packetPts frame).toNat =
      frame.times.ptsNs.toNat + encoder.bframeDelayNs.toNat)
    (known : encoder.packetPts frame ≠ timeNone) :
    TimesSound ⟨(encoder.packetOf frame size keyframe).2, run.accepted ++ frames,
      run.packets ++ [(picture, (encoder.packetOf frame size keyframe).1)]⟩ := by
  have isPlain := (TimedVenc.paces_eq_of_settings settings).trans notPaced
  have grown := sound.grow settings last frames
  have same : encoder.packetPts frame = frame.times.ptsNs := by
    apply UInt64.toNat_inj.mp
    rw [pts, TimedVenc.bframeDelayNs_of_not_paces isPlain]
    rfl
  have result := TimedVenc.calculatePacketDts_of_not_paces isPlain known same
  have ordered := room.2
  rw [if_neg (by simp [notPaced])] at ordered
  have later : ∀ entry ∈ run.packets, entry.2.dtsNs < frame.times.decodeNs := by
    intro entry member
    obtain ⟨times, isTimes, decodes⟩ := sound.plain notPaced entry member
    obtain ⟨position, before, isAt⟩ := List.getElem_of_mem member
    rw [decodes]
    apply ordered.2 position before
    unfold timesAt
    rw [List.getElem?_eq_getElem before, isAt]
    exact isTimes
  unfold TimedVenc.packetOf
  dsimp only
  rw [result]
  refine ⟨fun paced => ?_, fun _ => ?_, ?_⟩
  · exact absurd isPlain (by simp [show encoder.paces = true from paced])
  · intro entry member
    rcases List.mem_append.mp member with earlier | new
    · exact grown.plain isPlain entry earlier
    · cases List.mem_singleton.mp new
      exact ⟨frame.times, found, rfl⟩
  · exact grown.timely.packet found pts rfl (same ▸ ordered.1) later rfl

/-- A packet of a frame that has room. -/
theorem TimesSound.packet :
    TimesSound ⟨(encoder.packetOf frame size keyframe).2, run.accepted ++ frames,
      run.packets ++ [(picture, (encoder.packetOf frame size keyframe).1)]⟩ := by
  have fits : frame.times.ptsNs.toNat + encoder.bframeDelayNs.toNat < timeNone.toNat :=
    TimedVenc.bframeDelayNs_eq_of_settings settings ▸ room.1
  have pts := TimedVenc.toNat_packetPts fits
  have known : encoder.packetPts frame ≠ timeNone := by
    intro none
    rw [none] at pts
    omega
  cases isPaced : run.encoder.paces with
  | true => exact sound.packet_of_paces found room settings last size keyframe isPaced pts known
  | false =>
      exact sound.packet_of_not_paces found room settings last size keyframe isPaced pts known

end

/-- The pending frames of an encoder with B frames are the outstanding ones. -/
structure Aligned
    (first base : ℕ)
    (run : VencRun) : Prop where
  counted : run.encoder.nextSubmitId = base + run.accepted.length
  frames : List.Forall₂ (TimedVenc.IsFrame base run.accepted) run.encoder.pendingFrames
    (outstanding run.accepted.length run.returned)
  origins : run.encoder.origins =
    if run.packets = [] then none else some ((first : Int), (base : Int))

/-- The invariant. -/
structure Sound
    (first : ℕ)
    (run : VencRun) : Prop where
  pattern : run.encoder.bframeEnabled = gopPatternHasBframes run.encoder.gopPattern
  below : ∀ picture ∈ run.returned, picture < run.accepted.length
  aligned : run.encoder.bframeEnabled = true → ∃ base, run.Aligned first base
  prompt : run.encoder.bframeEnabled = false →
    run.encoder.pendingFrames = [] ∧ run.packets.length = run.accepted.length
  times : run.TimesSound

namespace Sound

variable {first : ℕ} {run : VencRun} {call : VencCall}

/-- A new encoder has no frames. -/
theorem start
    (gopSize fpsNum fpsDen : UInt32)
    (gopPattern : Int) :
    (start gopSize fpsNum fpsDen gopPattern).Sound first where
  pattern := rfl
  below := nofun
  aligned _ := ⟨0, rfl, .nil, rfl⟩
  prompt _ := ⟨rfl, rfl⟩
  times :=
    { paced := fun _ => ⟨fun _ => rfl, nofun⟩
      plain := fun _ => nofun
      timely := ⟨nofun, .nil⟩ }

/-- A submission fails when no number is at stake. -/
theorem failed
    (sound : run.Sound first)
    (harmless : run.encoder.bframeEnabled = false ∨ run.accepted = []) :
    Sound first { run with
      encoder := { run.encoder with nextSubmitId := run.encoder.nextSubmitId + 1 } } where
  pattern := sound.pattern
  below := sound.below
  aligned reordered := by
    rcases harmless with plain | unused
    · exact absurd (reordered.symm.trans plain) nofun
    · obtain ⟨base, aligned⟩ := sound.aligned reordered
      have noPackets : run.packets = [] := by
        rw [List.eq_nil_iff_forall_not_mem]
        intro entry member
        have below := sound.below entry.1 (List.mem_map_of_mem member)
        rw [unused] at below
        exact Nat.not_lt_zero _ below
      have noFrames : outstanding run.accepted.length run.returned = [] := by
        rw [unused]
        rfl
      refine ⟨base + 1, ?_, ?_, ?_⟩
      · dsimp only
        rw [aligned.counted]
        omega
      · have frames := aligned.frames
        rw [noFrames, List.forall₂_nil_right_iff] at frames
        change List.Forall₂ _ run.encoder.pendingFrames
          (outstanding run.accepted.length run.returned)
        rw [noFrames, frames]
        exact .nil
      · change run.encoder.origins = if run.packets = [] then none else _
        rw [aligned.origins, if_pos noPackets, if_pos noPackets]
  prompt := sound.prompt
  times := by
    have grown := @TimesSound.grow run
      { run.encoder with nextSubmitId := run.encoder.nextSubmitId + 1 } sound.times rfl rfl []
    rwa [List.append_nil] at grown

/-- A frame that is pushed is the last outstanding one. -/
theorem pushed
    {base : ℕ}
    (sound : run.Sound first)
    (aligned : run.Aligned first base)
    (times : FrameTimes)
    (requestedIdr : Bool) :
    List.Forall₂ (TimedVenc.IsFrame base (run.accepted ++ [times]))
      (run.encoder.pendingFramePush times requestedIdr).pendingFrames
      (outstanding (run.accepted.length + 1) run.returned) := by
  rw [Outstanding.accept sound.below]
  apply List.rel_append
  · exact aligned.frames.imp fun frame picture isFrame => isFrame.append times
  · refine .cons ⟨aligned.counted, ?_⟩ .nil
    exact List.getElem?_concat_length

/-- A frame is kept for later. -/
theorem kept
    (sound : run.Sound first)
    (reordered : run.encoder.bframeEnabled = true)
    (times : FrameTimes)
    (requestedIdr : Bool) :
    Sound first { run with
      encoder := run.encoder.pendingFramePush times requestedIdr
      accepted := run.accepted ++ [times] } where
  pattern := sound.pattern
  below := by
    intro picture member
    have below := sound.below picture member
    dsimp only
    rw [List.length_append]
    exact Nat.lt_add_right _ below
  aligned _ := by
    obtain ⟨base, aligned⟩ := sound.aligned reordered
    refine ⟨base, ?_, ?_, aligned.origins⟩
    · dsimp only [TimedVenc.pendingFramePush]
      rw [aligned.counted, List.length_append, List.length_singleton, Nat.add_assoc]
    · dsimp only
      rw [List.length_append, List.length_singleton]
      exact sound.pushed aligned times requestedIdr
  prompt plain := absurd (reordered.symm.trans plain) nofun
  times := @TimesSound.grow run (run.encoder.pendingFramePush times requestedIdr)
    sound.times rfl rfl [times]

/-- The frame of a packet with B frames. -/
theorem taken
    (sound : run.Sound first)
    (reordered : run.encoder.bframeEnabled = true)
    {picture : ℕ}
    (accepted : picture ≤ run.accepted.length)
    (new : picture ∉ run.returned)
    (inOrder : run.packets = [] → picture = 0)
    (times : FrameTimes)
    (requestedIdr : Bool) :
    ∃ base frame frames,
      run.encoder.nextSubmitId + 1 = base + (run.accepted.length + 1) ∧
      TimedVenc.IsFrame base (run.accepted ++ [times]) frame picture ∧
      (run.encoder.pendingFramePush times requestedIdr).pendingFrameTakeMatch
          (first + picture : ℕ) =
        (some frame, { run.encoder.pendingFramePush times requestedIdr with
          origins := some ((first : Int), (base : Int)), pendingFrames := frames }) ∧
      List.Forall₂ (TimedVenc.IsFrame base (run.accepted ++ [times])) frames
        (outstanding (run.accepted.length + 1) (run.returned ++ [picture])) := by
  obtain ⟨base, aligned⟩ := sound.aligned reordered
  have frames := sound.pushed aligned times requestedIdr
  have member : picture ∈ outstanding (run.accepted.length + 1) run.returned :=
    Outstanding.mem.mpr ⟨Nat.lt_succ_of_le accepted, new⟩
  have origins : (run.encoder.pendingFramePush times requestedIdr).setOrigins
      (first + picture : ℕ) = some ((first : Int), (base : Int)) := by
    have isOrigins : (run.encoder.pendingFramePush times requestedIdr).origins =
        if run.packets = [] then none else some ((first : Int), (base : Int)) := aligned.origins
    have isReordered : (run.encoder.pendingFramePush times requestedIdr).bframeEnabled = true :=
      reordered
    unfold TimedVenc.setOrigins
    rw [if_pos isReordered, isOrigins]
    by_cases unused : run.packets = []
    · -- the first packet finds the first accepted frame at the head
      have returned : run.returned = [] := congrArg (List.map Prod.fst) unused
      obtain rfl := inOrder unused
      rw [returned, Outstanding.of_nil, List.range_succ_eq_map] at frames
      rw [if_pos unused]
      cases pending : (run.encoder.pendingFramePush times requestedIdr).pendingFrames with
      | nil =>
          rw [pending] at frames
          cases frames
      | cons head rest =>
          rw [pending, List.forall₂_cons] at frames
          dsimp only [List.head?_cons]
          rw [frames.1.1]
          rfl
    · rw [if_neg unused]
  have isReordered : (run.encoder.pendingFramePush times requestedIdr).bframeEnabled = true :=
    reordered
  obtain ⟨frame, left, isFrame, result, erased⟩ :=
    TimedVenc.pendingFrameTakeMatch_of_aligned isReordered frames member origins
  rw [Outstanding.answer] at erased
  refine ⟨base, frame, left, ?_, isFrame, result, erased⟩
  rw [aligned.counted, Nat.add_assoc]

/-- A call that returns a packet of a frame that is found. -/
theorem next_of_taken
    {size : ℕ}
    {inputFrameNum : Int}
    {keyframe : Bool}
    (answered : call.answer = .valid (size + 1) inputFrameNum keyframe)
    {frame : TimedFrame}
    {after : TimedVenc}
    (taken : (run.encoder.pendingFramePush call.times
      (call.forceIdr || run.encoder.idrDue)).pendingFrameTakeMatch inputFrameNum =
        (some frame, after)) :
    run.next call = ⟨(after.packetOf frame (size + 1) keyframe).2, run.accepted ++ [call.times],
      run.packets ++ [(call.picture, (after.packetOf frame (size + 1) keyframe).1)]⟩ := by
  unfold next acceptedAfter
  rw [answered, TimedVenc.submitCommon_of_packet taken]
  rfl

/-- A packet of a frame that was found and taken out. -/
theorem packet
    (sound : run.Sound first)
    {times : FrameTimes}
    {picture : ℕ}
    {frame : TimedFrame}
    {after : TimedVenc}
    (accepted : picture ≤ run.accepted.length)
    (found : (run.accepted ++ [times])[picture]? = some frame.times)
    (room : run.HasRoom frame.times)
    (settings : after.settings = run.encoder.settings)
    (last : after.lastPacketDts = run.encoder.lastPacketDts)
    (aligned : after.bframeEnabled = true → ∃ base,
      after.nextSubmitId = base + (run.accepted.length + 1) ∧
      List.Forall₂ (TimedVenc.IsFrame base (run.accepted ++ [times])) after.pendingFrames
        (outstanding (run.accepted.length + 1) (run.returned ++ [picture])) ∧
      after.origins = some ((first : Int), (base : Int)))
    (prompt : after.bframeEnabled = false →
      after.pendingFrames = [] ∧ run.packets.length = run.accepted.length)
    (size : ℕ)
    (keyframe : Bool) :
    Sound first ⟨(after.packetOf frame size keyframe).2, run.accepted ++ [times],
      run.packets ++ [(picture, (after.packetOf frame size keyframe).1)]⟩ := by
  have times := sound.times.packet found room settings last size keyframe
  obtain ⟨time, same⟩ := packetOf_encoder after frame size keyframe
  rw [same] at times ⊢
  have pattern : after.bframeEnabled = gopPatternHasBframes after.gopPattern := by
    simp only [TimedVenc.settings, Prod.mk.injEq] at settings
    rw [settings.1, settings.2.2]
    exact sound.pattern
  refine ⟨pattern, ?_, fun reordered => ?_, fun plain => ?_, times⟩
  · intro other member
    unfold returned at member
    rw [List.map_append] at member
    dsimp only
    rw [List.length_append, List.length_singleton]
    rcases List.mem_append.mp member with earlier | new
    · exact Nat.lt_succ_of_lt (sound.below other earlier)
    · rw [List.mem_singleton.mp new]
      exact Nat.lt_succ_of_le accepted
  · obtain ⟨base, counted, frames, origins⟩ := aligned reordered
    refine ⟨base, ?_, ?_, ?_⟩
    · dsimp only
      rw [List.length_append]
      exact counted
    · unfold returned
      dsimp only
      rw [List.length_append, List.map_append]
      exact frames
    · rw [if_neg (by simp)]
      exact origins
  · obtain ⟨empty, same⟩ := prompt plain
    refine ⟨empty, ?_⟩
    dsimp only
    rw [List.length_append, List.length_append, same]
    rfl

/-- A pattern without B frames has no delay. -/
theorem delay_of_plain
    (sound : run.Sound first)
    (plain : run.encoder.bframeEnabled = false) :
    (gopPatternDelayFrames run.encoder.gopPattern).toNat = 0 := by
  have none := sound.pattern.symm.trans plain
  simp only [gopPatternHasBframes, List.contains_eq_mem, List.mem_cons, List.not_mem_nil,
    or_false, decide_eq_false_iff_not, not_or] at none
  simp [gopPatternDelayFrames, none]

/-- A packet is returned. -/
theorem next_packet
    (sound : run.Sound first)
    {size : ℕ}
    {inputFrameNum : Int}
    {keyframe : Bool}
    (answered : call.answer = .valid (size + 1) inputFrameNum keyframe)
    (numbered : run.Numbered first call)
    (inStep : run.InStep call) :
    (run.next call).Sound first := by
  unfold Numbered at numbered
  unfold InStep at inStep
  rw [answered] at numbered inStep
  obtain ⟨number, accepted, new, early, late⟩ := numbered
  obtain ⟨-, inOrder, room⟩ := inStep
  have isNumber : inputFrameNum = (first + call.picture : ℕ) := by
    rw [number, Nat.cast_add]
  cases reordered : run.encoder.bframeEnabled with
  | true =>
      obtain ⟨base, frame, frames, counted, isFrame, result, left⟩ :=
        sound.taken reordered accepted new (inOrder reordered) call.times
          (call.forceIdr || run.encoder.idrDue)
      rw [← isNumber] at result
      rw [next_of_taken answered result]
      refine sound.packet accepted isFrame.2 (room frame.times isFrame.2) ?_ ?_ ?_ ?_ _ _
      · rfl
      · rfl
      · exact fun _ => ⟨base, counted, left, rfl⟩
      · exact fun plain => absurd (reordered.symm.trans plain) nofun
  | false =>
      -- the queue holds the submitted frame alone
      obtain ⟨empty, same⟩ := sound.prompt reordered
      rw [sound.delay_of_plain reordered] at early late
      have isNew : call.picture = run.accepted.length := by omega
      have single : (run.encoder.pendingFramePush call.times
          (call.forceIdr || run.encoder.idrDue)).pendingFrames =
            [⟨run.encoder.nextSubmitId, call.times, call.forceIdr || run.encoder.idrDue⟩] := by
        unfold TimedVenc.pendingFramePush
        rw [empty]
        rfl
      have found : (run.accepted ++ [call.times])[call.picture]? = some call.times := by
        rw [isNew]
        exact List.getElem?_concat_length
      have plain : (run.encoder.pendingFramePush call.times
          (call.forceIdr || run.encoder.idrDue)).bframeEnabled = false := reordered
      rw [next_of_taken answered
        (TimedVenc.pendingFrameTakeMatch_singleton plain single inputFrameNum)]
      refine sound.packet accepted found (room call.times found) ?_ ?_ ?_ ?_ _ _
      · rfl
      · rfl
      · exact fun isReordered => absurd (reordered.symm.trans isReordered) nofun
      · exact fun _ => ⟨rfl, same⟩

/-- Every call keeps the invariant. -/
theorem next
    (sound : run.Sound first)
    (numbered : run.Numbered first call)
    (inStep : run.InStep call) :
    (run.next call).Sound first := by
  cases answered : call.answer with
  | invalid errCod inputFrameNum =>
      have harmless := inStep.2
      rw [answered] at harmless
      unfold VencRun.next acceptedAfter
      rw [answered]
      dsimp only
      by_cases blocks : errCod = DirectVenc.errNoSys ∧ inputFrameNum < 0
      · obtain ⟨rfl, unnumbered⟩ := blocks
        rw [TimedVenc.submitCommon_of_wouldBlock unnumbered]
        dsimp only [Option.toList_none]
        rw [List.map_nil, List.append_nil]
        exact sound
      · rw [TimedVenc.submitCommon_of_failure blocks]
        dsimp only [Option.toList_none]
        rw [List.map_nil, List.append_nil]
        exact sound.failed (harmless.resolve_left blocks)
  | valid length inputFrameNum keyframe =>
      cases length with
      | zero =>
          have keeps := inStep.2
          rw [answered] at keeps
          obtain ⟨reordered, few⟩ := keeps
          have short : run.encoder.pendingFrames.length < 4096 := by
            obtain ⟨base, aligned⟩ := sound.aligned reordered
            rw [Outstanding.accept sound.below, List.length_append,
              ← aligned.frames.length_eq] at few
            exact few
          unfold VencRun.next acceptedAfter
          rw [answered, TimedVenc.submitCommon_of_kept reordered short]
          dsimp only [Option.toList_none]
          rw [List.map_nil, List.append_nil]
          exact sound.kept reordered call.times _
      | succ size => exact sound.next_packet answered numbered inStep

end Sound

/-- In every run in which the codec numbers its frames and the encoder stays in step with it,
every packet has the times of its frame. -/
theorem timely_of_reachable
    {first : ℕ}
    {run : VencRun}
    (reachable : system.ReachableWhen
      (fun run call => run.Numbered first call ∧ run.InStep call) run) :
    run.Timely := by
  have sound : run.Sound first := by
    refine System.ReachableWhen.invariant ?_ ?_ reachable
    · rintro _ ⟨gopSize, fpsNum, fpsDen, gopPattern, rfl⟩
      exact .start gopSize fpsNum fpsDen gopPattern
    · intro run call after sound meets stepped
      cases stepped
      exact sound.next meets.1 meets.2
  exact sound.times.timely

/-- Frames at equal distances have room in every order that brings none of them forward and
delays none by more than the delay together. -/
theorem hasRoom_of_regular
    {run : VencRun}
    {times : FrameTimes}
    {start picture ahead behind : ℕ}
    (paced : run.encoder.paces = true)
    (regular : ∀ (index : ℕ) (times : FrameTimes), run.accepted[index]? = some times →
      times.ptsNs.toNat = start + index * run.encoder.frameDurationNs.toNat)
    (isTime : times.ptsNs.toNat = start + picture * run.encoder.frameDurationNs.toNat)
    (fits : times.ptsNs.toNat + run.encoder.bframeDelayNs.toNat < timeNone.toNat)
    (forward : ∀ (position : ℕ) (entry : ℕ × TimedPacket),
      run.packets[position]? = some entry → entry.1 ≤ position + ahead)
    (back : run.packets.length ≤ picture + behind)
    (within : (ahead + behind) * run.encoder.frameDurationNs.toNat ≤
      run.encoder.bframeDelayNs.toNat) :
    run.HasRoom times := by
  refine ⟨fits, ?_⟩
  rw [if_pos paced]
  intro position before earlier found
  obtain ⟨entry, isAt, isEarlier⟩ := Option.bind_eq_some_iff.mp found
  have place := forward position entry isAt
  have steps : entry.1 + (run.packets.length - position) ≤ picture + (ahead + behind) := by
    omega
  have scaled := Nat.mul_le_mul_right run.encoder.frameDurationNs.toNat steps
  rw [Nat.add_mul, Nat.add_mul picture] at scaled
  rw [regular entry.1 earlier isEarlier, isTime]
  omega

/-! ## Fixed runs -/

instance (first : ℕ) (run : VencRun) : (call : VencCall) → Decidable (run.Numbered first call)
  | ⟨_, _, .valid 0 _ _, _⟩ => inferInstanceAs (Decidable True)
  | ⟨_, _, .invalid _ _, _⟩ => inferInstanceAs (Decidable True)
  | ⟨_, _, .valid (_ + 1) _ _, _⟩ => inferInstanceAs (Decidable (_ ∧ _ ∧ _ ∧ _ ∧ _))

instance (run : VencRun) (times : FrameTimes) : Decidable (run.HasRoom times) := by
  unfold HasRoom
  exact inferInstance

instance (run : VencRun) : (call : VencCall) → Decidable (run.InStep call)
  | ⟨_, _, .valid 0 _ _, _⟩ => inferInstanceAs (Decidable (_ ∧ _ ∧ _))
  | ⟨_, _, .invalid _ _, _⟩ => inferInstanceAs (Decidable (_ ∧ (_ ∨ _ ∨ _)))
  | ⟨_, _, .valid (_ + 1) _ _, _⟩ => inferInstanceAs (Decidable (_ ∧ (_ → _ → _) ∧ _))

/-- A frame of a stream of 60 frames a second. -/
def frameTimes (index : ℕ) : FrameTimes where
  ptsNs := .ofNat (index * 16666666)
  dtsNs := timeNone
  durationNs := 16666666

/-- A call with such a frame. -/
def frameCall
    (index : ℕ)
    (answer : EncodeAnswer)
    (picture : ℕ) : VencCall where
  times := frameTimes index
  forceIdr := false
  answer := answer
  picture := picture

/-- The third frame is returned before the second one; one frame has to be offered twice. -/
def reorderedCalls : List VencCall :=
  [frameCall 0 (.valid 900 7 true) 0, frameCall 1 (.valid 0 8 false) 0,
    frameCall 2 (.invalid DirectVenc.errNoSys (-1)) 0, frameCall 3 (.valid 500 9 false) 2,
    frameCall 4 (.valid 300 8 false) 1]

theorem timely_of_reachable_reordered :
    ∃ run, System.run (System.guarded
        (fun run call => run.Numbered 7 call ∧ run.InStep call)
        fun run call => some (next run call)) (start 60 60 1 1) reorderedCalls = some run ∧
      run.returned = [0, 2, 1] ∧ run.Timely := by
  have runs : (System.run (System.guarded
      (fun run call => run.Numbered 7 call ∧ run.InStep call)
      fun run call => some (next run call)) (start 60 60 1 1) reorderedCalls).map (·.returned) =
        some [0, 2, 1] := by
    decide +kernel
  obtain ⟨run, runs, returned⟩ := Option.map_eq_some_iff.mp runs
  exact ⟨run, runs, returned, @timely_of_reachable 7 run
    (System.reachableWhen_of_run (.initial ⟨60, 60, 1, 1, rfl⟩) runs)⟩

/-- The second submission fails, and the packet of the fourth frame is taken for one of the
third. -/
def failingCalls : List VencCall :=
  [frameCall 0 (.valid 900 0 true) 0, frameCall 1 (.invalid (-5) (-1)) 0,
    frameCall 2 (.valid 0 1 false) 0, frameCall 3 (.valid 500 2 false) 2]

/-- A failed submission between frames of an encoder with B frames shifts the times. -/
theorem failure_shifts_times :
    ¬∀ (first : ℕ) (gopSize fpsNum fpsDen : UInt32) (gopPattern : Int) (calls : List VencCall)
      (run : VencRun),
      (calls.map (·.times.ptsNs)).Pairwise (· < ·) →
      System.run (System.guarded (Numbered first) fun run call => some (next run call))
        (start gopSize fpsNum fpsDen gopPattern) calls = some run →
      run.Timely := by
  intro timely
  have increasing : (failingCalls.map (·.times.ptsNs)).Pairwise (· < ·) := by decide +kernel
  have runs : (System.run (System.guarded (Numbered 0) fun run call => some (next run call))
      (start 60 60 1 1) failingCalls).map (fun run =>
        (run.encoder.bframeDelayNs, run.accepted, run.packets.map fun entry =>
          (entry.1, entry.2.ptsNs))) =
        some (66666664, [frameTimes 0, frameTimes 2, frameTimes 3],
          [(0, 66666664), (2, 99999996)]) := by
    decide +kernel
  obtain ⟨run, runs, values⟩ := Option.map_eq_some_iff.mp runs
  simp only [Prod.mk.injEq] at values
  obtain ⟨delay, accepted, packets⟩ := values
  have member : ((2 : ℕ), (99999996 : UInt64)) ∈ run.packets.map fun entry =>
      (entry.1, entry.2.ptsNs) := by
    rw [packets]
    decide
  obtain ⟨entry, isEntry, same⟩ := List.mem_map.mp member
  obtain ⟨picture, pts⟩ := Prod.mk.inj same
  obtain ⟨times, isTimes, wanted, -⟩ :=
    (timely 0 60 60 1 1 failingCalls run increasing runs).times entry isEntry
  rw [accepted, picture] at isTimes
  cases isTimes
  rw [pts, delay] at wanted
  exact absurd wanted (by decide)

end VencRun
end Engine
end SbsServer
