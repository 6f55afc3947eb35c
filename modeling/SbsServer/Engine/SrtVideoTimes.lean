import SbsServer.CLib.System
import SbsServer.Engine.SrtVideo

/-!
# The times of a session across callers

Each base is a clock that shows the running time of the session.  It is not ahead of that
running time by more than the pacer delay, so that a clock that is set anew does not go
back.
-/

namespace SbsServer
namespace Engine

open CLib

/-- A sum that fits is the time that a clock shows. -/
theorem toNat_timeFrom
    {runningOriginNs baseNs timeNs : UInt64}
    (fits : (MediaClock.mk runningOriginNs.toNat baseNs.toNat).shows timeNs.toNat < 2 ^ 64) :
    (timeFrom runningOriginNs baseNs timeNs).toNat =
      (MediaClock.mk runningOriginNs.toNat baseNs.toNat).shows timeNs.toNat := by
  unfold MediaClock.shows at fits ⊢
  unfold timeFrom
  dsimp only at fits ⊢
  split
  next notBefore =>
    rw [UInt64.toNat_add, UInt64.toNat_sub_of_le _ _ notBefore, Nat.mod_eq_of_lt fits]
  next before =>
    rw [UInt64.le_iff_toNat_le] at before
    rw [UInt64.add_zero]
    omega

/-- When a packet is decoded: without a DTS, when it is shown. -/
def decodedAt (ptsNs dtsNs : UInt64) : UInt64 :=
  if dtsNs ≠ timeNone then dtsNs else ptsNs

/-- Both times are set by one clock. -/
theorem toNat_times
    {runningOriginNs baseNs ptsNs dtsNs : UInt64}
    (inOrder : decodedAt ptsNs dtsNs ≤ ptsNs) :
    let clock : MediaClock := { wall := runningOriginNs.toNat, media := baseNs.toNat }
    let set := timeFrom runningOriginNs baseNs
    let dtsSet := if dtsNs ≠ timeNone then set dtsNs else timeNone
    clock.shows ptsNs.toNat < timeNone.toNat →
      (set ptsNs).toNat = clock.shows ptsNs.toNat ∧
        (decodedAt (set ptsNs) dtsSet).toNat = clock.shows (decodedAt ptsNs dtsNs).toNat ∧
        (dtsSet = timeNone ↔ dtsNs = timeNone) := by
  intro clock set dtsSet fits
  have ptsSet : (set ptsNs).toNat = clock.shows ptsNs.toNat :=
    toNat_timeFrom (Nat.lt_trans fits (by decide))
  refine ⟨ptsSet, ?_⟩
  by_cases without : dtsNs = timeNone
  · have same : dtsSet = timeNone := if_neg (not_not.mpr without)
    rw [same, without]
    exact ⟨ptsSet, Iff.rfl⟩
  · have decoded : decodedAt ptsNs dtsNs = dtsNs := if_pos without
    have same : dtsSet = set dtsNs := if_pos without
    rw [decoded] at inOrder ⊢
    have earlier : clock.shows dtsNs.toNat < timeNone.toNat :=
      Nat.lt_of_le_of_lt (clock.shows_mono (UInt64.le_iff_toNat_le.mp inOrder)) fits
    have dtsShown : (set dtsNs).toNat = clock.shows dtsNs.toNat :=
      toNat_timeFrom (Nat.lt_trans earlier (by decide))
    have stillKnown : set dtsNs ≠ timeNone := by
      intro lost
      rw [lost] at dtsShown
      omega
    rw [same]
    refine ⟨?_, iff_of_false stillKnown without⟩
    unfold decodedAt
    rw [if_pos stillKnown]
    exact dtsShown

/-- When a packet is decoded. -/
def TimedPacket.decodingTime (packet : TimedPacket) : UInt64 :=
  decodedAt packet.ptsNs packet.dtsNs

/-- When a buffer is decoded. -/
def MediaBuffer.decodingTime
    {Data : Type}
    (buffer : MediaBuffer Data) : UInt64 :=
  decodedAt buffer.pts buffer.dts

/-- The clock of the manager. -/
def VideoTimeOrigin.clock (origin : VideoTimeOrigin) : MediaClock where
  wall := origin.runningOriginNs.toNat
  media := origin.ptsOriginNs.toNat

/-- The clock of a base. -/
def SrtVideoBase.clock (base : SrtVideoBase) : MediaClock where
  wall := base.runningOriginNs.toNat
  media := base.baseDtsNs.toNat

namespace SrtSession

/-- A packet for which a buffer is made: there are callers, and a keyframe ends the time of
dropping. -/
def Makes
    (session : SrtSession)
    (inputs : PacketInputs) : Prop :=
  inputs.packet.size ≠ 0 ∧ 0 < session.srtCallerCount ∧ 0 < inputs.countAgain ∧
    if session.dropUntilKeyframe then inputs.packet.isKeyframe = true
    else session.srtVideoBase.isSome

instance
    (session : SrtSession)
    (inputs : PacketInputs) : Decidable (session.Makes inputs) :=
  inferInstanceAs (Decidable (_ ∧ _ ∧ _ ∧ ite (_ = true) (_ = _) (_ = _)))

/-- The base under which a buffer is made. -/
def baseFor
    (session : SrtSession)
    (ptsNs dtsNs sessionTime : UInt64) : Option SrtVideoBase :=
  if session.dropUntilKeyframe then
    some ⟨ptsNs, if dtsNs ≠ timeNone then dtsNs else ptsNs, sessionTime + encoderPacerDelayNs⟩
  else session.srtVideoBase

/-- A packet of which a buffer is made. -/
theorem pushPacket_of_makes
    {session : SrtSession}
    {inputs : PacketInputs}
    (makes : session.Makes inputs)
    (allocates : inputs.allocates = true)
    (ptsNs dtsNs : UInt64) :
    ∃ base, session.baseFor ptsNs dtsNs inputs.sessionTime = some base ∧
      let result := session.pushPacket inputs.packet ptsNs dtsNs inputs.sessionTime
        inputs.countAgain inputs.allocates
      result.1 = some (bufferOf base inputs.packet ptsNs dtsNs) ∧
        result.2.srtVideoBase = some base ∧ result.2.dropUntilKeyframe = false := by
  obtain ⟨sized, callers, again, gate⟩ := makes
  unfold pushPacket baseFor
  rw [if_neg sized, if_neg (Int.not_le.mpr callers)]
  cases drops : session.dropUntilKeyframe with
  | true =>
      rw [drops, if_pos rfl] at gate
      refine ⟨_, if_pos rfl, ?_⟩
      rw [if_pos rfl, if_neg (by simp [gate])]
      unfold enqueuePacket resume
      dsimp only
      rw [if_neg (Int.not_le.mpr again), if_pos allocates]
      exact ⟨rfl, rfl, rfl⟩
  | false =>
      rw [drops, if_neg nofun] at gate
      obtain ⟨base, isBase⟩ := Option.isSome_iff_exists.mp gate
      refine ⟨base, by rw [if_neg nofun, isBase], ?_⟩
      rw [if_neg nofun]
      unfold enqueuePacket
      rw [isBase]
      dsimp only
      rw [if_neg (Int.not_le.mpr again), if_pos allocates]
      exact ⟨rfl, rfl, drops⟩

/-- A packet of which no buffer is made. -/
theorem pushPacket_of_not_makes
    {session : SrtSession}
    {inputs : PacketInputs}
    (fails : ¬(session.Makes inputs ∧ inputs.allocates = true))
    (keeps : session.Makes inputs → session.dropUntilKeyframe = true → inputs.allocates = true)
    (ptsNs dtsNs : UInt64) :
    let result := session.pushPacket inputs.packet ptsNs dtsNs inputs.sessionTime
      inputs.countAgain inputs.allocates
    result.1 = none ∧
      (result.2.dropUntilKeyframe = true ∨
        result.2.dropUntilKeyframe = session.dropUntilKeyframe ∧
          result.2.srtVideoBase = session.srtVideoBase) := by
  intro result
  unfold result pushPacket
  by_cases sized : inputs.packet.size = 0
  · rw [if_pos sized]
    exact ⟨rfl, .inr ⟨rfl, rfl⟩⟩
  rw [if_neg sized]
  by_cases callers : session.srtCallerCount ≤ 0
  · rw [if_pos callers]
    exact ⟨rfl, .inl rfl⟩
  rw [if_neg callers]
  cases drops : session.dropUntilKeyframe with
  | true =>
      rw [if_pos rfl]
      cases keyframe : inputs.packet.isKeyframe with
      | false => exact ⟨rfl, .inl drops⟩
      | true =>
          unfold enqueuePacket resume
          dsimp only
          by_cases again : inputs.countAgain ≤ 0
          · rw [if_pos again]
            exact ⟨rfl, .inl rfl⟩
          · have makes : session.Makes inputs := by
              refine ⟨sized, Int.not_le.mp callers, Int.not_le.mp again, ?_⟩
              rw [drops, if_pos rfl]
              exact keyframe
            exact absurd ⟨makes, keeps makes drops⟩ fails
  | false =>
      rw [if_neg nofun]
      unfold enqueuePacket
      cases isBase : session.srtVideoBase with
      | none => exact ⟨rfl, .inr ⟨drops, isBase⟩⟩
      | some base =>
          dsimp only
          by_cases again : inputs.countAgain ≤ 0
          · rw [if_pos again]
            exact ⟨rfl, .inl rfl⟩
          · have makes : session.Makes inputs := by
              refine ⟨sized, Int.not_le.mp callers, Int.not_le.mp again, ?_⟩
              rw [drops, if_neg nofun, isBase]
              rfl
            rw [if_neg again, if_neg fun allocates => fails ⟨makes, allocates⟩]
            exact ⟨rfl, .inr ⟨drops, rfl⟩⟩

end SrtSession

/-- What happens: a packet comes, the callers are counted, a caller joins or the last one leaves,
or the session is flushed. -/
inductive SrtEvent
  | packet (inputs : PacketInputs)
  | callers (count : Int)
  | dropUntilKeyframe
  | flush

/-- A buffer that was enqueued. -/
structure SentBuffer where
  packet : TimedPacket
  buffer : MediaBuffer SrtPayload
  /-- The session had dropped packets, or was about to, since the buffer before. -/
  afterGap : Bool
  /-- The running origin of the base under which it was enqueued. -/
  runningOriginNs : UInt64

/-- A buffer is decoded neither after it is shown nor before the running origin of its base, and
the first one after a gap is a keyframe. -/
structure SentBuffer.WellTimed (sent : SentBuffer) : Prop where
  /-- A buffer has a DTS exactly if its packet has one. -/
  known : sent.buffer.dts = timeNone ↔ sent.packet.dtsNs = timeNone
  decoded : sent.buffer.decodingTime ≤ sent.buffer.pts
  based : sent.runningOriginNs ≤ sent.buffer.decodingTime
  keyed : sent.afterGap = true → sent.buffer.data.isKeyframe = true

/-- The manager and one session with the buffers enqueued. -/
structure SrtRun where
  video : SrtVideo
  gap : Bool
  /-- The decoding time of the last packet with the running time of the session. -/
  last : Option (UInt64 × UInt64)
  sent : List SentBuffer

namespace SrtSession

/-- No packet but a keyframe is let through. -/
def holdsBack (session : SrtSession) : Bool :=
  session.dropUntilKeyframe || session.srtVideoBase.isNone

end SrtSession

namespace SrtRun

/-- The session after an event that is not a packet. -/
def withSession
    (run : SrtRun)
    (session : SrtSession) : SrtRun :=
  { run with
    video := { run.video with session := session }
    gap := run.gap || session.holdsBack }

/-- An event. -/
def next (run : SrtRun) : SrtEvent → SrtRun
  | .packet inputs =>
      let (buffer, video) := run.video.pushEncodedPacket inputs
      { video := video
        gap := (run.gap && buffer.isNone) || video.session.holdsBack
        last := some (inputs.packet.decodingTime, inputs.sessionTime)
        sent := run.sent ++ buffer.toList.map fun buffer =>
          { packet := inputs.packet
            buffer := buffer
            afterGap := run.gap
            runningOriginNs := (video.session.srtVideoBase.map (·.runningOriginNs)).getD 0 } }
  | .callers count => run.withSession { run.video.session with srtCallerCount := count }
  | .dropUntilKeyframe => run.withSession { run.video.session with dropUntilKeyframe := true }
  | .flush => run.withSession run.video.session.flush

/-- A session has just been started, at any time of the manager. -/
def start
    (origin : Option VideoTimeOrigin)
    (session : SrtSession) : SrtRun where
  video := ⟨origin, session.started⟩
  gap := true
  last := none
  sent := []

/-- Runs of a session. -/
def system : System SrtRun SrtEvent :=
  System.ofNext (fun run => ∃ origin session, run = start origin session)
    fun run event => some (run.next event)

/-- Packets come in decoding order, decoded not after they are shown, and the running time of the
session advances by at least as much as the decoding time. -/
def Advances
    (run : SrtRun) : SrtEvent → Prop
  | .packet inputs =>
      let decoded := inputs.packet.decodingTime
      decoded ≤ inputs.packet.ptsNs ∧
        ∀ last ∈ run.last, last.1 ≤ decoded ∧ last.2 ≤ inputs.sessionTime ∧
          decoded.toNat - last.1.toNat ≤ inputs.sessionTime.toNat - last.2.toNat
  | _ => True

/-- The origin by which the manager sets the times of a packet. -/
def originFor
    (run : SrtRun)
    (inputs : PacketInputs) : VideoTimeOrigin :=
  run.video.origin.getD
    ⟨inputs.packet.decodingTime, inputs.pipelineTime + encoderPacerDelayNs⟩

/-- The clock by which the manager sets the times of a packet. -/
def managerClock
    (run : SrtRun)
    (inputs : PacketInputs) : MediaClock :=
  (run.originFor inputs).clock

/-- The clock of a session whose times are set anew at a packet. -/
def resumedClock
    (run : SrtRun)
    (inputs : PacketInputs) : MediaClock where
  wall := inputs.sessionTime.toNat + encoderPacerDelayNs.toNat
  media := (run.managerClock inputs).shows inputs.packet.decodingTime.toNat

/-- The clock by which the session sets the times of a packet. -/
def sessionClock
    (run : SrtRun)
    (inputs : PacketInputs) : MediaClock :=
  if run.video.session.dropUntilKeyframe then run.resumedClock inputs
  else (run.video.session.srtVideoBase.map (·.clock)).getD (run.resumedClock inputs)

/-- A keyframe after a gap gets its buffer, and the times of a buffer fit. -/
def Fits
    (run : SrtRun) : SrtEvent → Prop
  | .packet inputs =>
      run.video.session.Makes inputs →
        (run.video.session.dropUntilKeyframe = true → inputs.allocates = true) ∧
        (inputs.allocates = true →
          let normalized := (run.managerClock inputs).shows inputs.packet.ptsNs.toNat
          normalized < timeNone.toNat ∧
            (run.sessionClock inputs).shows normalized < timeNone.toNat)
  | _ => True

/-- Decoding times do not go back, and each buffer is well timed. -/
structure Steady (run : SrtRun) : Prop where
  inOrder : (run.sent.map (·.buffer.decodingTime)).Pairwise (· ≤ ·)
  wellTimed : ∀ sent ∈ run.sent, sent.WellTimed

/-! ## One packet -/

section

variable {run : SrtRun} {inputs : PacketInputs}

/-- What the manager hands to the session. -/
theorem pushEncodedPacket_eq
    (sized : inputs.packet.size ≠ 0) :
    run.video.pushEncodedPacket inputs =
      let origin := run.originFor inputs
      let normalized := timeFrom origin.runningOriginNs origin.ptsOriginNs
      let dtsNs :=
        if inputs.packet.dtsNs ≠ timeNone then normalized inputs.packet.dtsNs else timeNone
      let pushed := run.video.session.pushPacket inputs.packet
        (normalized inputs.packet.ptsNs) dtsNs inputs.sessionTime inputs.countAgain
        inputs.allocates
      (pushed.1, ⟨some origin, pushed.2⟩) := by
  unfold SrtVideo.pushEncodedPacket originFor TimedPacket.decodingTime decodedAt
    normalizeVideoTime
  rw [if_neg sized]
  by_cases without : inputs.packet.dtsNs = timeNone
  · simp only [without, ne_eq, not_true_eq_false, ↓reduceIte]
  · cases run.video.origin with
    | none =>
        simp only [without, ne_eq, not_false_eq_true, ↓reduceIte, Option.getD_none,
          Option.getD_some]
    | some _ =>
        simp only [without, ne_eq, not_false_eq_true, ↓reduceIte, Option.getD_some]

theorem managerClock_of_origin
    {origin : VideoTimeOrigin}
    (isOrigin : run.video.origin = some origin) :
    run.managerClock inputs = origin.clock := by
  unfold managerClock originFor
  rw [isOrigin]
  rfl

theorem sessionClock_of_drops
    (drops : run.video.session.dropUntilKeyframe = true) :
    run.sessionClock inputs = run.resumedClock inputs :=
  if_pos drops

variable {base : SrtVideoBase}

theorem sessionClock_of_base
    (lets : run.video.session.dropUntilKeyframe = false)
    (isBase : run.video.session.srtVideoBase = some base) :
    run.sessionClock inputs = base.clock := by
  unfold sessionClock
  rw [lets, if_neg nofun, isBase]
  rfl

/-- A buffer made of a packet carries the times of the clock. -/
structure Carries
    (run : SrtRun)
    (inputs : PacketInputs)
    (buffer : MediaBuffer SrtPayload) : Prop where
  pts :
    buffer.pts.toNat = (run.sessionClock inputs).shows
      ((run.managerClock inputs).shows inputs.packet.ptsNs.toNat)
  decodingTime :
    buffer.decodingTime.toNat = (run.sessionClock inputs).shows
      ((run.managerClock inputs).shows inputs.packet.decodingTime.toNat)
  known : buffer.dts = timeNone ↔ inputs.packet.dtsNs = timeNone
  isKeyframe : buffer.data.isKeyframe = inputs.packet.isKeyframe

/-- The base under which a buffer is made is the clock of the session. -/
theorem clock_of_baseFor
    {ptsNs dtsNs : UInt64}
    (isBase : run.video.session.baseFor ptsNs dtsNs inputs.sessionTime = some base)
    (decoded :
      (decodedAt ptsNs dtsNs).toNat =
        (run.managerClock inputs).shows inputs.packet.decodingTime.toNat)
    (fits : (run.sessionClock inputs).wall < 2 ^ 64) :
    base.clock = run.sessionClock inputs := by
  unfold SrtSession.baseFor at isBase
  cases drops : run.video.session.dropUntilKeyframe with
  | true =>
      rw [drops, if_pos rfl] at isBase
      rw [sessionClock_of_drops drops] at fits ⊢
      cases isBase
      have wall : (inputs.sessionTime + encoderPacerDelayNs).toNat =
          inputs.sessionTime.toNat + encoderPacerDelayNs.toNat := by
        rw [UInt64.toNat_add]
        exact Nat.mod_eq_of_lt fits
      unfold SrtVideoBase.clock resumedClock
      rw [wall, ← decoded]
      rfl
  | false =>
      rw [drops, if_neg nofun] at isBase
      rw [sessionClock_of_base drops isBase]

/-- The session and the buffer after a packet of which a buffer is made. -/
theorem pushEncodedPacket_of_makes
    (advances : run.Advances (.packet inputs))
    (fits : run.Fits (.packet inputs))
    (makes : run.video.session.Makes inputs)
    (allocates : inputs.allocates = true) :
    ∃ buffer base, run.Carries inputs buffer ∧ base.clock = run.sessionClock inputs ∧
      let result := run.video.pushEncodedPacket inputs
      result.1 = some buffer ∧ result.2.origin = some (run.originFor inputs) ∧
        result.2.session.srtVideoBase = some base ∧
        result.2.session.dropUntilKeyframe = false := by
  obtain ⟨-, fits⟩ := fits makes
  obtain ⟨normalizedFits, shownFits⟩ := fits allocates
  obtain ⟨normalized, decoded, known⟩ := toNat_times advances.1 normalizedFits
  rw [pushEncodedPacket_eq makes.1]
  dsimp only at normalized decoded known ⊢
  generalize timeFrom _ _ inputs.packet.ptsNs = ptsNs at normalized decoded ⊢
  generalize (if inputs.packet.dtsNs ≠ timeNone then _ else _) = dtsNs at decoded known ⊢
  change ptsNs.toNat = (run.managerClock inputs).shows _ at normalized
  change (decodedAt ptsNs dtsNs).toNat =
    (run.managerClock inputs).shows inputs.packet.decodingTime.toNat at decoded
  obtain ⟨base, isBase, made, keeps, lets⟩ :=
    SrtSession.pushPacket_of_makes makes allocates ptsNs dtsNs
  have wall : (run.sessionClock inputs).wall < 2 ^ 64 :=
    Nat.lt_of_le_of_lt (MediaClock.wall_le_shows _ _) (Nat.lt_trans shownFits (by decide))
  have sameClock : base.clock = run.sessionClock inputs := clock_of_baseFor isBase decoded wall
  have inOrder : decodedAt ptsNs dtsNs ≤ ptsNs := by
    rw [UInt64.le_iff_toNat_le, normalized, decoded]
    exact MediaClock.shows_mono (UInt64.le_iff_toNat_le.mp advances.1)
  rw [← normalized, ← sameClock] at shownFits
  obtain ⟨pts, decodingTime, knownDts⟩ := toNat_times inOrder shownFits
  refine ⟨SrtSession.bufferOf base inputs.packet ptsNs dtsNs, base, ?_, sameClock, made, rfl,
    keeps, lets⟩
  rw [normalized] at pts
  rw [decoded] at decodingTime
  exact
    { pts := sameClock ▸ pts
      decodingTime := sameClock ▸ decodingTime
      known := knownDts.trans known
      isKeyframe := rfl }

/-- A packet of which no buffer is made keeps what the manager and the session go by, or the
session drops. -/
theorem pushEncodedPacket_of_not_makes
    (fits : run.Fits (.packet inputs))
    (fails : ¬(run.video.session.Makes inputs ∧ inputs.allocates = true)) :
    let result := run.video.pushEncodedPacket inputs
    result.1 = none ∧
      (∀ origin, run.video.origin = some origin → result.2.origin = some origin) ∧
      (result.2.session.dropUntilKeyframe = true ∨
        result.2.session.dropUntilKeyframe = run.video.session.dropUntilKeyframe ∧
          result.2.session.srtVideoBase = run.video.session.srtVideoBase) := by
  intro result
  unfold result
  by_cases sized : inputs.packet.size = 0
  · unfold SrtVideo.pushEncodedPacket
    rw [if_pos sized]
    exact ⟨rfl, fun _ same => same, .inr ⟨rfl, rfl⟩⟩
  · rw [pushEncodedPacket_eq sized]
    have keeps : run.video.session.Makes inputs → run.video.session.dropUntilKeyframe = true →
        inputs.allocates = true := fun makes => (fits makes).1
    obtain ⟨noBuffer, session⟩ := SrtSession.pushPacket_of_not_makes fails keeps _ _
    refine ⟨noBuffer, ?_, session⟩
    intro origin same
    unfold originFor
    rw [same]
    rfl

/-! ## The clock of the session -/

/-- The clock of a base shows no time before a buffer that was enqueued, and is not ahead of the
session by more than the pacer delay. -/
def Running
    (run : SrtRun)
    (base : SrtVideoBase) : Prop :=
  ∃ origin last, run.video.origin = some origin ∧ run.last = some last ∧
    let now := base.clock.shows (origin.clock.shows last.1.toNat)
    (∀ sent ∈ run.sent, sent.buffer.decodingTime.toNat ≤ now) ∧
      now ≤ last.2.toNat + encoderPacerDelayNs.toNat

/-- The clock stays so until the next packet. -/
theorem Running.later
    (running : run.Running base)
    (advances : run.Advances (.packet inputs)) :
    let now := base.clock.shows
      ((run.managerClock inputs).shows inputs.packet.decodingTime.toNat)
    (∀ sent ∈ run.sent, sent.buffer.decodingTime.toNat ≤ now) ∧
      now ≤ inputs.sessionTime.toNat + encoderPacerDelayNs.toNat := by
  obtain ⟨origin, last, isOrigin, isLast, sent, behind⟩ := running
  obtain ⟨mediaOrder, wallOrder, advance⟩ := advances.2 last isLast
  rw [UInt64.le_iff_toNat_le] at mediaOrder wallOrder
  have media := origin.clock.shows_mono mediaOrder
  have slow := origin.clock.shows_le_add last.1.toNat inputs.packet.decodingTime.toNat
  rw [managerClock_of_origin isOrigin]
  constructor
  · intro buffer member
    exact (sent buffer member).trans (base.clock.shows_mono media)
  · exact MediaClock.shows_le_of_advance behind (by omega) (by omega)

/-- What holds in a run. -/
structure Sound (run : SrtRun) : Prop where
  steady : run.Steady
  gapped : run.gap = true → run.video.session.holdsBack = true
  bounded : ∀ sent ∈ run.sent, ∃ last ∈ run.last,
    sent.buffer.decodingTime.toNat ≤ last.2.toNat + encoderPacerDelayNs.toNat
  running : ∀ base, run.video.session.dropUntilKeyframe = false →
    run.video.session.srtVideoBase = some base → run.Running base

/-- A buffer is not enqueued before one that was, nor far ahead of the session. -/
theorem Sound.now
    (sound : run.Sound)
    (advances : run.Advances (.packet inputs))
    (makes : run.video.session.Makes inputs) :
    let now := (run.sessionClock inputs).shows
      ((run.managerClock inputs).shows inputs.packet.decodingTime.toNat)
    (∀ sent ∈ run.sent, sent.buffer.decodingTime.toNat ≤ now) ∧
      now ≤ inputs.sessionTime.toNat + encoderPacerDelayNs.toNat := by
  cases drops : run.video.session.dropUntilKeyframe with
  | true =>
      rw [sessionClock_of_drops drops]
      have now := (run.resumedClock inputs).shows_media
      change (run.resumedClock inputs).shows
        ((run.managerClock inputs).shows inputs.packet.decodingTime.toNat) =
          inputs.sessionTime.toNat + encoderPacerDelayNs.toNat at now
      rw [now]
      refine ⟨?_, le_refl _⟩
      intro sent member
      obtain ⟨last, isLast, bound⟩ := sound.bounded sent member
      have wallOrder := UInt64.le_iff_toNat_le.mp (advances.2 last isLast).2.1
      omega
  | false =>
      obtain ⟨-, -, -, gate⟩ := makes
      rw [drops, if_neg nofun] at gate
      obtain ⟨base, isBase⟩ := Option.isSome_iff_exists.mp gate
      rw [sessionClock_of_base drops isBase]
      exact (sound.running base drops isBase).later advances

/-- One more buffer is enqueued. -/
theorem Steady.append
    {after : SrtRun}
    {sent : SentBuffer}
    (steady : run.Steady)
    (appended : after.sent = run.sent ++ [sent])
    (later : ∀ before ∈ run.sent, before.buffer.decodingTime ≤ sent.buffer.decodingTime)
    (wellTimed : sent.WellTimed) :
    after.Steady := by
  constructor
  · rw [appended, List.map_append]
    apply pairwise_concat steady.inOrder
    intro before member
    obtain ⟨buffer, isSent, rfl⟩ := List.mem_map.mp member
    exact later buffer isSent
  · rw [appended]
    intro other member
    rcases List.mem_append.mp member with before | last
    · exact steady.wellTimed other before
    · cases List.mem_singleton.mp last
      exact wellTimed

/-- The buffer made of a packet is well timed. -/
theorem Carries.wellTimed
    {buffer : MediaBuffer SrtPayload}
    (carries : run.Carries inputs buffer)
    (sound : run.Sound)
    (advances : run.Advances (.packet inputs))
    (makes : run.video.session.Makes inputs)
    (isClock : base.clock = run.sessionClock inputs) :
    SentBuffer.WellTimed
      { packet := inputs.packet
        buffer := buffer
        afterGap := run.gap
        runningOriginNs := base.runningOriginNs } where
  known := carries.known
  decoded := by
    rw [UInt64.le_iff_toNat_le, carries.pts, carries.decodingTime]
    exact MediaClock.shows_mono
      (MediaClock.shows_mono (UInt64.le_iff_toNat_le.mp advances.1))
  based := by
    rw [UInt64.le_iff_toNat_le, carries.decodingTime, ← isClock]
    exact base.clock.wall_le_shows _
  keyed := by
    intro gap
    have holds := sound.gapped gap
    obtain ⟨-, -, -, gate⟩ := makes
    unfold SrtSession.holdsBack at holds
    rw [carries.isKeyframe]
    cases drops : run.video.session.dropUntilKeyframe with
    | true =>
        rw [drops, if_pos rfl] at gate
        exact gate
    | false =>
        rw [drops, if_neg nofun] at gate
        rw [drops, Bool.false_or, Option.isNone_iff_eq_none] at holds
        rw [holds] at gate
        cases gate

/-- A buffer is made of a packet. -/
theorem Sound.next_of_makes
    (sound : run.Sound)
    (advances : run.Advances (.packet inputs))
    (fits : run.Fits (.packet inputs))
    (makes : run.video.session.Makes inputs)
    (allocates : inputs.allocates = true) :
    (run.next (.packet inputs)).Sound := by
  obtain ⟨buffer, base, carries, isClock, made, isOrigin, isBase, lets⟩ :=
    pushEncodedPacket_of_makes advances fits makes allocates
  obtain ⟨after, behind⟩ := sound.now advances makes
  have wellTimed := carries.wellTimed sound advances makes isClock
  rw [← carries.decodingTime] at after behind
  have appended : (run.next (.packet inputs)).sent = run.sent ++
      [{ packet := inputs.packet
         buffer := buffer
         afterGap := run.gap
         runningOriginNs := base.runningOriginNs }] := by
    unfold next
    dsimp only
    rw [made, isBase]
    rfl
  have all : ∀ sent ∈ (run.next (.packet inputs)).sent,
      sent.buffer.decodingTime.toNat ≤ buffer.decodingTime.toNat := by
    intro sent member
    rw [appended] at member
    rcases List.mem_append.mp member with before | last
    · exact after sent before
    · cases List.mem_singleton.mp last
      exact le_refl _
  have gap : (run.next (.packet inputs)).gap = false := by
    unfold next SrtSession.holdsBack
    dsimp only
    rw [made, isBase, lets, Option.isNone_some, Bool.and_false]
    rfl
  constructor
  case steady =>
    refine sound.steady.append appended ?_ wellTimed
    intro sent member
    exact UInt64.le_iff_toNat_le.mpr (after sent member)
  case gapped =>
    intro isGap
    rw [gap] at isGap
    cases isGap
  case bounded =>
    intro sent member
    exact ⟨_, rfl, (all sent member).trans behind⟩
  case running =>
    intro current _ isCurrent
    cases isBase.symm.trans isCurrent
    have now : base.clock.shows
        ((run.originFor inputs).clock.shows inputs.packet.decodingTime.toNat) =
          buffer.decodingTime.toNat := by
      rw [carries.decodingTime, isClock]
      rfl
    refine ⟨run.originFor inputs, _, isOrigin, rfl, ?_⟩
    dsimp only
    rw [now]
    exact ⟨all, behind⟩

/-- Nothing is enqueued, and the session drops or goes on under the same base. -/
theorem Sound.of_frame
    {after : SrtRun}
    (sound : run.Sound)
    (sent : after.sent = run.sent)
    (gap : after.gap = (run.gap || after.video.session.holdsBack))
    (last : ∀ last ∈ run.last, ∃ later ∈ after.last, last.2.toNat ≤ later.2.toNat)
    (session : after.video.session.holdsBack = true ∨
      after.video.session.dropUntilKeyframe = run.video.session.dropUntilKeyframe ∧
        after.video.session.srtVideoBase = run.video.session.srtVideoBase)
    (running : ∀ base, run.Running base → after.Running base) :
    after.Sound where
  steady :=
    { inOrder := by
        rw [sent]
        exact sound.steady.inOrder
      wellTimed := by
        rw [sent]
        exact sound.steady.wellTimed }
  gapped := by
    intro isGap
    rw [gap, Bool.or_eq_true] at isGap
    rcases isGap with before | holds
    · rcases session with holds | ⟨drop, base⟩
      · exact holds
      · have holds := sound.gapped before
        unfold SrtSession.holdsBack at holds ⊢
        rw [drop, base]
        exact holds
    · exact holds
  bounded := by
    rw [sent]
    intro buffer member
    obtain ⟨time, isLast, bound⟩ := sound.bounded buffer member
    obtain ⟨later, isLater, order⟩ := last time isLast
    exact ⟨later, isLater, by omega⟩
  running := by
    intro base lets isBase
    rcases session with holds | ⟨drop, same⟩
    · unfold SrtSession.holdsBack at holds
      rw [lets, isBase] at holds
      cases holds
    · exact running base (sound.running base (drop ▸ lets) (same ▸ isBase))

/-- No buffer is made of a packet. -/
theorem Sound.next_of_not_makes
    (sound : run.Sound)
    (advances : run.Advances (.packet inputs))
    (fits : run.Fits (.packet inputs))
    (fails : ¬(run.video.session.Makes inputs ∧ inputs.allocates = true)) :
    (run.next (.packet inputs)).Sound := by
  obtain ⟨noBuffer, origin, session⟩ := pushEncodedPacket_of_not_makes fits fails
  have sent : (run.next (.packet inputs)).sent = run.sent := by
    unfold next
    dsimp only
    rw [noBuffer]
    exact List.append_nil _
  refine sound.of_frame sent ?_ ?_ ?_ ?_
  · unfold next
    dsimp only
    rw [noBuffer, Option.isNone_none, Bool.and_true]
  · intro last isLast
    exact ⟨_, rfl, UInt64.le_iff_toNat_le.mp (advances.2 last isLast).2.1⟩
  · refine session.imp_left ?_
    intro drops
    exact Bool.or_eq_true_iff.mpr (.inl drops)
  · intro base running
    have later := running.later advances
    obtain ⟨first, -, isFrom, -⟩ := running
    rw [managerClock_of_origin isFrom, ← sent] at later
    exact ⟨first, _, origin first isFrom, rfl, later⟩

/-- The session is changed between two packets. -/
theorem Sound.withSession
    {session : SrtSession}
    (sound : run.Sound)
    (keeps : session.holdsBack = true ∨
      session.dropUntilKeyframe = run.video.session.dropUntilKeyframe ∧
        session.srtVideoBase = run.video.session.srtVideoBase) :
    (run.withSession session).Sound :=
  sound.of_frame rfl rfl (fun last isLast => ⟨last, isLast, le_refl _⟩) keeps
    fun _ running => running

/-- Every event keeps the invariant. -/
theorem Sound.next
    {event : SrtEvent}
    (sound : run.Sound)
    (advances : run.Advances event)
    (fits : run.Fits event) :
    (run.next event).Sound := by
  cases event with
  | packet inputs =>
      by_cases makes : run.video.session.Makes inputs ∧ inputs.allocates = true
      · exact sound.next_of_makes advances fits makes.1 makes.2
      · exact sound.next_of_not_makes advances fits makes
  | callers count => exact sound.withSession (.inr ⟨rfl, rfl⟩)
  | dropUntilKeyframe => exact sound.withSession (.inl rfl)
  | flush =>
      refine sound.withSession (.inl ?_)
      exact Bool.or_eq_true_iff.mpr (.inr rfl)

/-- The invariant holds when a session has been started. -/
theorem Sound.start
    (origin : Option VideoTimeOrigin)
    (session : SrtSession) :
    (SrtRun.start origin session).Sound where
  steady := ⟨.nil, nofun⟩
  gapped _ := rfl
  bounded := nofun
  running _ lets _ := nomatch lets

end

/-- Over all callers, decoding times do not go back, no buffer is decoded after it is shown or
before the running origin of its base, and the first one after a gap is a keyframe, if keyframes
after a gap get their buffers and times fit. -/
theorem steady_of_reachable
    {run : SrtRun}
    (reachable : system.ReachableWhen (fun run event => run.Advances event ∧ run.Fits event) run) :
    run.Steady := by
  have sound : run.Sound := by
    refine System.ReachableWhen.invariant ?_ ?_ reachable
    · rintro _ ⟨origin, session, rfl⟩
      exact .start origin session
    · intro run event after sound meets stepped
      cases stepped
      exact sound.next meets.1 meets.2
  exact sound.steady

instance (run : SrtRun) : (event : SrtEvent) → Decidable (run.Advances event)
  | .packet _ => @instDecidableAnd _ _ inferInstance (Option.decidableForallMem run.last)
  | .callers _ => inferInstanceAs (Decidable True)
  | .dropUntilKeyframe => inferInstanceAs (Decidable True)
  | .flush => inferInstanceAs (Decidable True)

instance (run : SrtRun) : (event : SrtEvent) → Decidable (run.Fits event)
  | .packet _ => inferInstanceAs (Decidable (_ → (_ → _) ∧ (_ → _ ∧ _)))
  | .callers _ => inferInstanceAs (Decidable True)
  | .dropUntilKeyframe => inferInstanceAs (Decidable True)
  | .flush => inferInstanceAs (Decidable True)

/-- A session before it is started. -/
def idleSession : SrtSession where
  srtCallerCount := 0
  dropUntilKeyframe := false
  srtVideoBase := none
  srtVideoMaxPtsNs := 0
  directAudioBasePts := none
  directAudioNextPts := none
  feed := ⟨false, [], [], none⟩

/-- A packet that is shown 40 ms after it is decoded, and comes then. -/
def packetAt (timeNs : UInt64) (isKeyframe : Bool) : PacketInputs where
  packet :=
    { size := 1
      ptsNs := timeNs + 40000000
      dtsNs := timeNs
      durationNs := 20000000
      isKeyframe := isKeyframe }
  pipelineTime := timeNs
  sessionTime := timeNs
  countAgain := 1
  allocates := true

/-- A caller comes between two keyframes, and another one joins before a third. -/
def joiningEvents : List SrtEvent :=
  [.packet (packetAt 0 true), .callers 1, .packet (packetAt 20000000 false),
    .packet (packetAt 40000000 true), .packet (packetAt 60000000 false), .dropUntilKeyframe,
    .packet (packetAt 80000000 false), .packet (packetAt 200000000 true)]

theorem steady_of_reachable_joining :
    ∃ run, System.run (System.guarded (fun run event => Advances run event ∧ Fits run event)
          fun run event => some (next run event)) (start none idleSession) joiningEvents =
        some run ∧
      run.sent.map (·.buffer.dts) = [140000000, 160000000, 300000000] ∧ run.Steady := by
  have runs : (System.run (System.guarded (fun run event => Advances run event ∧ Fits run event)
      fun run event => some (next run event)) (start none idleSession) joiningEvents).map
        (fun run => run.sent.map (·.buffer.dts)) = some [140000000, 160000000, 300000000] := by
    decide +kernel
  obtain ⟨run, runs, sent⟩ := Option.map_eq_some_iff.mp runs
  exact ⟨run, runs, sent, steady_of_reachable
    (System.reachableWhen_of_run (.initial ⟨none, idleSession, rfl⟩) runs)⟩

/-- The buffer of a keyframe after a gap cannot be allocated, and the next packet is not a
keyframe. -/
def unallocatedEvents : List SrtEvent :=
  [.callers 1, .packet { packetAt 0 true with allocates := false },
    .packet (packetAt 20000000 false)]

/-- The first buffer after a gap is not a keyframe if the keyframe got none. -/
theorem delta_unit_after_gap :
    ¬∀ run, system.ReachableWhen Advances run → run.Steady := by
  intro steady
  have runs : (System.run (System.guarded Advances fun run event => some (next run event))
      (start none idleSession) unallocatedEvents).map
        (fun run => run.sent.map fun sent => (sent.afterGap, sent.buffer.data.isKeyframe)) =
          some [(true, false)] := by
    decide +kernel
  obtain ⟨run, runs, sent⟩ := Option.map_eq_some_iff.mp runs
  have reachable : system.ReachableWhen Advances run :=
    System.reachableWhen_of_run (.initial ⟨none, idleSession, rfl⟩) runs
  have member : (true, false) ∈
      run.sent.map fun sent => (sent.afterGap, sent.buffer.data.isKeyframe) := by
    rw [sent]
    exact List.mem_singleton_self _
  obtain ⟨delta, isSent, same⟩ := List.mem_map.mp member
  obtain ⟨afterGap, isDelta⟩ := Prod.mk.inj same
  have keyed := ((steady run reachable).wellTimed delta isSent).keyed afterGap
  rw [isDelta] at keyed
  cases keyed

end SrtRun
end Engine
end SbsServer
