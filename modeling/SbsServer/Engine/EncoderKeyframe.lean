import SbsServer.CLib.System
import SbsServer.Engine.EncoderManager

/-!
# Requested keyframes

`force_next_idr` is set by calls of the encoder manager and by callers that connect,
and cleared when a frame is submitted.  The history beside the manager says whether a
request was made that no accepted frame has answered.
-/

namespace SbsServer
namespace Engine

open CLib

/-- A frame that the codec accepted, and whether an IDR frame was owed. -/
structure AcceptedFrame where
  requested : Bool
  frameType : FrameType
  deriving DecidableEq

/-- What happens to the encoder manager. -/
inductive EncoderEvent
  | addSink (answers : BuildAnswers) (config : SinkBranchConfig)
  | removeSink (outputId : String)
  | updateConfig (answers : BuildAnswers) (config : EncoderConfig)
  | reconfigureVideo (width height fpsNum fpsDen : UInt32) (hdr10 : Bool)
  | callerConnects
  | frame (frame : ExportedFrame) (answer : EncodeAnswer)

/-- The encoder manager with a history of requests and accepted frames. -/
structure KeyframeState where
  manager : EncoderManager
  /-- A request was made while the pipeline was active, and no frame accepted since. -/
  requested : Bool
  accepted : List AcceptedFrame

namespace EncoderManager

/-- The manager after an event. -/
def handle (manager : EncoderManager) : EncoderEvent → EncoderManager
  | .addSink answers config => (manager.addSink answers config).2
  | .removeSink outputId => (manager.removeSink outputId).2
  | .updateConfig answers config => (manager.updateConfig answers config).2
  | .reconfigureVideo width height fpsNum fpsDen hdr10 =>
      (manager.reconfigureVideo width height fpsNum fpsDen hdr10).2
  | .callerConnects => manager.scheduleLateJoinKeyframe
  | .frame frame answer => manager.consumeFrameDmabuf frame answer

/-- The submission of a frame, if there is one. -/
def submission
    (frame : ExportedFrame)
    (answer : EncodeAnswer)
    (manager : EncoderManager) : Option Submission :=
  if frame.dmabufFd < 0 ∨ frame.size = 0 ∨ manager.pipelineActive = false then none
  else
    manager.videoEncoder.map
      (·.submitDmabuf frame.drmFormat answer manager.forceNextIdr)

end EncoderManager

namespace KeyframeState

/-- The frame type with which the codec accepts the frame of an event. -/
def accepts
    (state : KeyframeState) : EncoderEvent → Option FrameType
  | .frame frame answer =>
      (state.manager.submission frame answer).bind (·.accepted)
  | _ => none

/-- A step. -/
def next
    (state : KeyframeState)
    (event : EncoderEvent) : KeyframeState :=
  let manager := state.manager.handle event
  match state.accepts event with
  | some frameType =>
      { manager := manager
        requested := manager.forceNextIdr && manager.pipelineActive
        accepted := state.accepted ++
          [{ requested := state.requested, frameType := frameType }] }
  | none =>
      { manager := manager
        requested := state.requested || (manager.forceNextIdr && manager.pipelineActive)
        accepted := state.accepted }

end KeyframeState

/-- Events of the encoder manager, from a new one. -/
def keyframeSystem : System KeyframeState EncoderEvent :=
  System.ofNext
    (fun state => state.requested = false ∧ state.accepted = [] ∧
      ∃ width height fpsNum fpsDen config,
        state.manager = .new width height fpsNum fpsDen config)
    fun state event => some (state.next event)

namespace EncoderManager

/-- The encoder of an active pipeline is as before with the flag as before, or the flag
is set. -/
def KeepsRequest (before after : EncoderManager) : Prop :=
  after.pipelineActive = true →
    after.forceNextIdr = true ∨
      (before.pipelineActive = true ∧ after.forceNextIdr = before.forceNextIdr ∧
        after.videoEncoder = before.videoEncoder)

variable {manager : EncoderManager}

theorem KeepsRequest.same : manager.KeepsRequest manager :=
  fun active => .inr ⟨active, rfl, rfl⟩

theorem KeepsRequest.trans
    {first second third : EncoderManager}
    (before : first.KeepsRequest second)
    (later : second.KeepsRequest third) :
    first.KeepsRequest third := by
  intro active
  obtain forced | ⟨wasActive, sameFlag, sameEncoder⟩ := later active
  · exact .inl forced
  · obtain forced | ⟨firstActive, flag, encoder⟩ := before wasActive
    · exact .inl (sameFlag.trans forced)
    · exact .inr ⟨firstActive, sameFlag.trans flag, sameEncoder.trans encoder⟩

theorem keepsRequest_of_inactive
    {before after : EncoderManager}
    (inactive : after.pipelineActive = false) :
    before.KeepsRequest after := by
  intro active
  rw [inactive] at active
  cases active

theorem keepsRequest_of_forced
    {before after : EncoderManager}
    (forced : after.forceNextIdr = true) :
    before.KeepsRequest after :=
  fun _ => .inl forced

theorem keepsRequest_ensurePipeline (answers : BuildAnswers) :
    manager.KeepsRequest (manager.ensurePipeline answers).2 := by
  unfold ensurePipeline
  split
  · exact .same
  next inactive =>
    split
    · exact keepsRequest_of_inactive (by simpa using inactive)
    · exact keepsRequest_of_forced rfl

theorem keepsRequest_teardownPipeline :
    manager.KeepsRequest manager.teardownPipeline := by
  unfold teardownPipeline
  split
  · exact .same
  · exact keepsRequest_of_inactive rfl

theorem keepsRequest_addSink
    (answers : BuildAnswers)
    (config : SinkBranchConfig) :
    manager.KeepsRequest (manager.addSink answers config).2 := by
  unfold addSink
  split
  · exact .same
  · dsimp only
    split
    · exact keepsRequest_ensurePipeline answers
    · split
      · exact keepsRequest_ensurePipeline answers
      · exact keepsRequest_of_forced rfl

theorem keepsRequest_removeSink (outputId : String) :
    manager.KeepsRequest (manager.removeSink outputId).2 := by
  have erased : manager.KeepsRequest
      { manager with branches := manager.branches.erase outputId } :=
    fun active => .inr ⟨active, rfl, rfl⟩
  dsimp only [removeSink]
  split
  · split
    · exact erased.trans keepsRequest_teardownPipeline
    · exact erased
  · exact .same

theorem keepsRequest_readdBranches
    (answers : BuildAnswers)
    (saved : List SinkBranchConfig) :
    manager.KeepsRequest (manager.readdBranches answers saved) := by
  unfold readdBranches
  induction saved generalizing manager with
  | nil => exact .same
  | cons config rest ih =>
      exact (keepsRequest_addSink answers config).trans ih

@[simp] theorem stopForUpdate_pipelineActive (config : EncoderConfig) :
    (manager.stopForUpdate config).pipelineActive = false := by
  unfold stopForUpdate teardownPipeline
  split
  · rfl
  · rfl

theorem keepsRequest_updateConfig
    (answers : BuildAnswers)
    (config : EncoderConfig) :
    manager.KeepsRequest (manager.updateConfig answers config).2 := by
  have rebuilt : manager.KeepsRequest
      ((manager.stopForUpdate config).ensurePipeline answers).2 :=
    (keepsRequest_of_inactive (stopForUpdate_pipelineActive config)).trans
      (keepsRequest_ensurePipeline answers)
  dsimp only [updateConfig]
  split
  · exact .same
  · split
    · exact rebuilt
    · exact rebuilt.trans (keepsRequest_readdBranches answers _)

theorem keepsRequest_reconfigureVideo
    (width height fpsNum fpsDen : UInt32)
    (hdr10 : Bool) :
    manager.KeepsRequest
      (manager.reconfigureVideo width height fpsNum fpsDen hdr10).2 := by
  unfold reconfigureVideo
  split
  · exact .same
  · split
    · exact .same
    · exact keepsRequest_of_forced rfl

theorem keepsRequest_scheduleLateJoinKeyframe :
    manager.KeepsRequest manager.scheduleLateJoinKeyframe := by
  unfold scheduleLateJoinKeyframe
  split
  · exact keepsRequest_of_forced rfl
  · exact .same

/-- Every event but a frame keeps a request. -/
theorem keepsRequest_handle
    {event : EncoderEvent}
    (noFrame : ∀ frame answer, event ≠ .frame frame answer) :
    manager.KeepsRequest (manager.handle event) := by
  cases event with
  | addSink answers config => exact keepsRequest_addSink answers config
  | removeSink outputId => exact keepsRequest_removeSink outputId
  | updateConfig answers config => exact keepsRequest_updateConfig answers config
  | reconfigureVideo width height fpsNum fpsDen hdr10 =>
      exact keepsRequest_reconfigureVideo width height fpsNum fpsDen hdr10
  | callerConnects => exact keepsRequest_scheduleLateJoinKeyframe
  | frame frame answer => exact absurd rfl (noFrame frame answer)

/-! ## Frames -/

/-- A frame that is not submitted leaves encoder and flag alone. -/
theorem consumeFrame_of_no_submission
    {frame : ExportedFrame}
    {answer : EncodeAnswer}
    (none : manager.submission frame answer = none) :
    (manager.consumeFrameDmabuf frame answer).pipelineActive = manager.pipelineActive ∧
      (manager.consumeFrameDmabuf frame answer).forceNextIdr = manager.forceNextIdr ∧
      (manager.consumeFrameDmabuf frame answer).videoEncoder = manager.videoEncoder := by
  unfold consumeFrameDmabuf
  unfold submission at none
  split
  · exact ⟨rfl, rfl, rfl⟩
  next goes =>
    rw [if_neg goes, Option.map_eq_none_iff] at none
    rw [none]
    exact ⟨rfl, rfl, rfl⟩

/-- Pushing a packet leaves encoder and flag alone. -/
theorem sameEncoder_deliver
    (frame : ExportedFrame)
    (submission : Submission)
    (manager : EncoderManager) :
    (manager.deliver frame submission).pipelineActive = manager.pipelineActive ∧
      (manager.deliver frame submission).forceNextIdr = manager.forceNextIdr ∧
      (manager.deliver frame submission).videoEncoder = manager.videoEncoder := by
  unfold deliver
  split
  · exact ⟨rfl, rfl, rfl⟩
  · exact ⟨rfl, rfl, rfl⟩
  · exact ⟨rfl, rfl, rfl⟩
  · exact ⟨rfl, rfl, rfl⟩

/-- A submission decides over encoder and flag. -/
theorem consumeFrame_of_submission
    {frame : ExportedFrame}
    {answer : EncodeAnswer}
    {submission : Submission}
    (submitted : manager.submission frame answer = some submission) :
    (manager.consumeFrameDmabuf frame answer).pipelineActive = manager.pipelineActive ∧
      (manager.consumeFrameDmabuf frame answer).forceNextIdr =
        (if submission.code = .ok ∨ submission.code = .wouldBlock then false
          else manager.forceNextIdr) ∧
      (manager.consumeFrameDmabuf frame answer).videoEncoder = some submission.encoder := by
  unfold consumeFrameDmabuf
  unfold EncoderManager.submission at submitted
  split
  next stays =>
    rw [if_pos stays] at submitted
    cases submitted
  next goes =>
    rw [if_neg goes, Option.map_eq_some_iff] at submitted
    obtain ⟨encoder, isEncoder, isSubmission⟩ := submitted
    rw [isEncoder]
    dsimp only
    rw [isSubmission]
    exact sameEncoder_deliver frame submission _

end EncoderManager

/-- The codec would block and has not taken the frame. -/
def EncodeAnswer.wouldBlock : EncodeAnswer → Bool
  | .invalid errCod inputFrameNum => errCod == DirectVenc.errNoSys && decide (inputFrameNum < 0)
  | .valid _ _ _ => false

/-- The codec fails. -/
def EncodeAnswer.fails (answer : EncodeAnswer) : Bool :=
  match answer with
  | .invalid _ _ => !answer.wouldBlock
  | .valid _ _ _ => false

/-- The encoder with one more number used. -/
def DirectVenc.skipNumber (encoder : DirectVenc) : DirectVenc :=
  { encoder with nextSubmitId := encoder.nextSubmitId + 1 }

/-- What a submission can do. -/
theorem DirectVenc.submitDmabuf_cases
    (drmFormat : UInt32)
    (answer : EncodeAnswer)
    (forceIdr : Bool)
    (encoder : DirectVenc) :
    let submission := encoder.submitDmabuf drmFormat answer forceIdr
    (submission.code = .ok ∧
        submission.accepted = some (if forceIdr || encoder.idrDue then .idr else .auto)) ∨
      (encoder.formatMatches drmFormat = true ∧ answer.wouldBlock = true ∧
        submission.code = .wouldBlock ∧ submission.accepted = none ∧
        submission.encoder.idrDue = encoder.idrDue) ∨
      (encoder.formatMatches drmFormat = true ∧ answer.fails = true ∧
        submission.code = .io ∧ submission.accepted = none ∧
        submission.encoder.idrDue = encoder.skipNumber.idrDue) ∨
      (submission.code = .inval ∧ submission.accepted = none ∧
        submission.encoder = encoder) := by
  dsimp only [submitDmabuf]
  split
  next formatMatches =>
    cases answer with
    | invalid errCod inputFrameNum =>
        by_cases blocks : errCod = errNoSys ∧ inputFrameNum < 0
        · right
          left
          rw [submitCommon, if_pos blocks]
          exact ⟨formatMatches, by simp [EncodeAnswer.wouldBlock, blocks], rfl, rfl, rfl⟩
        · right
          right
          left
          rw [submitCommon, if_neg blocks]
          refine ⟨formatMatches, ?_, rfl, rfl, rfl⟩
          have other : ¬ errCod = errNoSys ∨ ¬ inputFrameNum < 0 := not_and_or.mp blocks
          simpa [EncodeAnswer.fails, EncodeAnswer.wouldBlock] using other
    | valid length inputFrameNum keyframe =>
        left
        cases length with
        | zero => exact ⟨rfl, rfl⟩
        | succ length => exact ⟨rfl, rfl⟩
  next =>
    right
    right
    right
    exact ⟨rfl, rfl, rfl⟩

namespace KeyframeState

/-- The encoder to which a frame is submitted. -/
def encoderFor
    (frame : ExportedFrame)
    (state : KeyframeState) : Option DirectVenc :=
  if frame.dmabufFd < 0 ∨ frame.size = 0 ∨ state.manager.pipelineActive = false then none
  else state.manager.videoEncoder.filter (·.formatMatches frame.drmFormat)

/-- A submission that would block carries no request, or an IDR frame is due by its
number; and no submission fails while such a request is owed. -/
def RequestSafe (state : KeyframeState) : EncoderEvent → Prop
  | .frame frame answer =>
      ∀ encoder ∈ state.encoderFor frame,
        (answer.wouldBlock = true → state.manager.forceNextIdr = true →
            encoder.idrDue = true) ∧
          (answer.fails = true → state.requested = true →
            state.manager.forceNextIdr = true ∨ encoder.skipNumber.idrDue = true)
  | _ => True

/-- An IDR frame is owed and comes next, and no owed one was missed. -/
structure Owes (state : KeyframeState) : Prop where
  next : state.manager.pipelineActive = true → state.requested = true →
    state.manager.forceNextIdr = true ∨
      ∀ encoder ∈ state.manager.videoEncoder, encoder.idrDue = true
  answered : ∀ frame ∈ state.accepted, frame.requested = true → frame.frameType = .idr

variable {state : KeyframeState}

variable {event : EncoderEvent}

/-- An event without an accepted frame. -/
theorem next_of_not_accepted
    (none : state.accepts event = none) :
    state.next event =
      { manager := state.manager.handle event
        requested := state.requested ||
          ((state.manager.handle event).forceNextIdr &&
            (state.manager.handle event).pipelineActive)
        accepted := state.accepted } := by
  rw [KeyframeState.next, none]

/-- An event without an accepted frame keeps what is owed if the flag or the number of
the next frame answer it. -/
theorem Owes.notAccepted
    (owes : state.Owes)
    (none : state.accepts event = none)
    (comes : (state.manager.handle event).pipelineActive = true →
      (state.manager.handle event).forceNextIdr = false → state.requested = true →
        ∀ encoder ∈ (state.manager.handle event).videoEncoder, encoder.idrDue = true) :
    (state.next event).Owes := by
  rw [next_of_not_accepted none]
  exact {
    next := by
      intro active requested
      dsimp only at active requested ⊢
      cases flag : (state.manager.handle event).forceNextIdr with
      | true => exact .inl rfl
      | false =>
          rw [flag, Bool.false_and, Bool.or_false] at requested
          exact .inr (comes active flag requested)
    answered := owes.answered }

theorem Owes.call
    (owes : state.Owes)
    (noFrame : ∀ frame answer, event ≠ .frame frame answer) :
    (state.next event).Owes := by
  have none : state.accepts event = none := by
    cases event with
    | frame frame answer => exact absurd rfl (noFrame frame answer)
    | addSink answers config => rfl
    | removeSink outputId => rfl
    | updateConfig answers config => rfl
    | reconfigureVideo width height fpsNum fpsDen hdr10 => rfl
    | callerConnects => rfl
  refine owes.notAccepted none ?_
  intro active flag requested
  obtain forced | ⟨wasActive, sameFlag, sameEncoder⟩ :=
    EncoderManager.keepsRequest_handle noFrame active
  · rw [flag] at forced
    cases forced
  · rw [sameEncoder]
    obtain forced | due := owes.next wasActive requested
    · rw [← sameFlag, flag] at forced
      cases forced
    · exact due

/-- A submission answers what is owed. -/
theorem Owes.submission
    (owes : state.Owes)
    {frame : ExportedFrame}
    {answer : EncodeAnswer}
    {encoder : DirectVenc}
    (active : state.manager.pipelineActive = true)
    (isEncoder : state.manager.videoEncoder = some encoder)
    (safe : encoder.formatMatches frame.drmFormat = true →
      (answer.wouldBlock = true → state.manager.forceNextIdr = true →
          encoder.idrDue = true) ∧
        (answer.fails = true → state.requested = true →
          state.manager.forceNextIdr = true ∨ encoder.skipNumber.idrDue = true))
    (submitted : state.manager.submission frame answer =
      some (encoder.submitDmabuf frame.drmFormat answer state.manager.forceNextIdr)) :
    (state.next (.frame frame answer)).Owes := by
  have isAccepted : state.accepts (.frame frame answer) =
      (encoder.submitDmabuf frame.drmFormat answer state.manager.forceNextIdr).accepted := by
    simp [accepts, submitted]
  obtain ⟨_, flag, encoderAfter⟩ := EncoderManager.consumeFrame_of_submission submitted
  have owed : state.requested = true →
      state.manager.forceNextIdr = true ∨ encoder.idrDue = true := by
    intro requested
    obtain forced | due := owes.next active requested
    · exact .inl forced
    · exact .inr (due encoder isEncoder)
  obtain ⟨code, accepted⟩ | ⟨formatMatches, blocks, code, accepted, due⟩ |
    ⟨formatMatches, fails, code, accepted, due⟩ | ⟨code, accepted, same⟩ :=
      encoder.submitDmabuf_cases frame.drmFormat answer state.manager.forceNextIdr
  · have cleared : (state.manager.handle (.frame frame answer)).forceNextIdr = false := by
      rw [EncoderManager.handle, flag, if_pos (.inl code)]
    rw [KeyframeState.next, isAccepted, accepted]
    exact {
      next := by
        intro _ requested
        dsimp only at requested
        rw [cleared, Bool.false_and] at requested
        cases requested
      answered := by
        intro other member wasRequested
        obtain before | new := List.mem_append.mp member
        · exact owes.answered other before wasRequested
        · rw [List.mem_singleton.mp new] at wasRequested ⊢
          have idr : (state.manager.forceNextIdr || encoder.idrDue) = true :=
            (Bool.or_eq_true _ _).mpr (owed wasRequested)
          rw [idr]
          rfl }
  · refine owes.notAccepted (isAccepted.trans accepted) ?_
    intro _ _ requested
    rw [EncoderManager.handle, encoderAfter]
    rintro other ⟨⟩
    rw [due]
    obtain forced | isDue := owed requested
    · exact (safe formatMatches).1 blocks forced
    · exact isDue
  · refine owes.notAccepted (isAccepted.trans accepted) ?_
    intro _ notForced requested
    rw [EncoderManager.handle, flag, if_neg (by simp [code])] at notForced
    rw [EncoderManager.handle, encoderAfter]
    rintro other ⟨⟩
    rw [due]
    obtain forced | isDue := (safe formatMatches).2 fails requested
    · rw [notForced] at forced
      cases forced
    · exact isDue
  · refine owes.notAccepted (isAccepted.trans accepted) ?_
    intro _ notForced requested
    rw [EncoderManager.handle, flag, if_neg (by simp [code])] at notForced
    rw [EncoderManager.handle, encoderAfter]
    rintro other ⟨⟩
    rw [same]
    obtain forced | isDue := owed requested
    · rw [notForced] at forced
      cases forced
    · exact isDue

theorem Owes.frame
    (owes : state.Owes)
    {frame : ExportedFrame}
    {answer : EncodeAnswer}
    (safe : state.RequestSafe (.frame frame answer)) :
    (state.next (.frame frame answer)).Owes := by
  cases submitted : state.manager.submission frame answer with
  | none =>
      obtain ⟨active, flag, sameEncoder⟩ :=
        EncoderManager.consumeFrame_of_no_submission submitted
      refine owes.notAccepted (by simp [accepts, submitted]) ?_
      rw [EncoderManager.handle, active, flag, sameEncoder]
      intro isActive notForced requested
      obtain forced | due := owes.next isActive requested
      · rw [notForced] at forced
        cases forced
      · exact due
  | some submission =>
      have isSubmission := submitted
      unfold EncoderManager.submission at isSubmission
      split at isSubmission
      next => cases isSubmission
      next goes =>
        obtain ⟨encoder, isEncoder, same⟩ := Option.map_eq_some_iff.mp isSubmission
        have active : state.manager.pipelineActive = true := by
          have notInactive : ¬ state.manager.pipelineActive = false := fun inactive =>
            goes (.inr (.inr inactive))
          simpa using notInactive
        refine owes.submission active isEncoder ?_ (same ▸ submitted)
        intro formatMatches
        apply safe encoder
        simp [encoderFor, if_neg goes, isEncoder, formatMatches]

/-- Every event that is safe for requests keeps what is owed. -/
theorem Owes.next_event
    (owes : state.Owes)
    (safe : state.RequestSafe event) :
    (state.next event).Owes := by
  cases event with
  | frame frame answer => exact owes.frame safe
  | addSink answers config => exact owes.call (by simp)
  | removeSink outputId => exact owes.call (by simp)
  | updateConfig answers config => exact owes.call (by simp)
  | reconfigureVideo width height fpsNum fpsDen hdr10 => exact owes.call (by simp)
  | callerConnects => exact owes.call (by simp)

/-- In a run whose submissions are safe for requests, the frame that the codec accepts
next after a request is submitted as an IDR frame. -/
theorem requested_idr_not_lost
    {state : KeyframeState}
    (reachable : keyframeSystem.ReachableWhen RequestSafe state) :
    ∀ frame ∈ state.accepted, frame.requested = true → frame.frameType = .idr := by
  have owes : state.Owes := by
    refine reachable.invariant ?_ ?_
    · intro state isInitial
      obtain ⟨notRequested, noFrames, _⟩ := isInitial
      exact {
        next := by
          intro _ requested
          rw [notRequested] at requested
          cases requested
        answered := by simp [noFrames] }
    · intro state event after owes safe stepped
      rw [← Option.some.inj stepped]
      exact owes.next_event safe
  exact owes.answered

instance (state : KeyframeState) : (event : EncoderEvent) →
    Decidable (state.RequestSafe event)
  | .frame frame answer =>
      inferInstanceAs (Decidable (∀ encoder ∈ state.encoderFor frame,
        (answer.wouldBlock = true → state.manager.forceNextIdr = true →
            encoder.idrDue = true) ∧
          (answer.fails = true → state.requested = true →
            state.manager.forceNextIdr = true ∨ encoder.skipNumber.idrDue = true)))
  | .addSink _ _ | .removeSink _ | .updateConfig _ _ | .reconfigureVideo _ _ _ _ _
  | .callerConnects => .isTrue trivial

/-- A new manager without requests. -/
def newManager : KeyframeState where
  manager := .new 1920 1080 60 1
    { codec := none
      bitrateKbps := 0
      gopSize := 60
      gopPattern := 0
      rcMode := 0
      encoder := none
      hdr10 := false }
  requested := false
  accepted := []

/-- Everything works. -/
def allBuilds : BuildAnswers where
  createsEncoder := true
  buildsPipeline := true
  links _ := .ok

/-- An SRT sink with its port. -/
def srtSink : SinkBranchConfig where
  outputId := "live"
  sinkType := none
  srtUri := some "srt://:8888"
  srtLatencyMs := 600
  rtmpUri := none
  rtmpPasscode := none
  filePath := none
  filePathMode := none
  filePrefix := none
  fileContainer := none

/-- A frame is submitted. -/
def submitsFrame (answer : EncodeAnswer) : EncoderEvent :=
  .frame { dmabufFd := 5, size := 3110400, drmFormat := 0, pushes := true } answer

/-- Two frames are encoded and a caller connects. -/
def callerComes : List EncoderEvent :=
  [.addSink allBuilds srtSink, submitsFrame (.valid 900 0 true),
    submitsFrame (.valid 100 1 false), .callerConnects]

theorem isInitial_newManager : keyframeSystem.initial newManager :=
  ⟨rfl, rfl, _, _, _, _, _, rfl⟩

/-- The frame after the caller is an IDR frame. -/
theorem requested_idr_not_lost_accepted :
    ∃ state, keyframeSystem.ReachableWhen RequestSafe state ∧
      ∃ frame ∈ state.accepted, frame.requested = true ∧ frame.frameType = .idr := by
  have computed :
      (System.run (System.guarded RequestSafe fun state event => some (state.next event))
          newManager (callerComes ++ [submitsFrame (.valid 900 2 true)])).map
          (fun state => decide (∃ frame ∈ state.accepted, frame.requested = true)) =
        some true := by
    decide
  obtain ⟨state, runs, fields⟩ := Option.map_eq_some_iff.mp computed
  obtain ⟨frame, member, requested⟩ := of_decide_eq_true fields
  have reachable := @System.reachableWhen_of_run _ _ RequestSafe _ _ _ _ _ _
    (.initial isInitial_newManager) runs
  exact ⟨state, reachable, frame, member, requested,
    requested_idr_not_lost reachable frame member requested⟩

/-- The codec would block at the frame after the caller: the request is cleared although
the submission is undone, and the next frame is accepted as an ordinary one. -/
theorem would_block_loses_request :
    ∃ state, keyframeSystem.Reachable state ∧
      ∃ frame ∈ state.accepted, frame.requested = true ∧ frame.frameType = .auto := by
  have computed :
      (System.run (fun state event => some (KeyframeState.next state event)) newManager
          (callerComes ++
            [submitsFrame (.invalid DirectVenc.errNoSys (-1)),
              submitsFrame (.valid 100 2 false)])).map
          (fun state => decide (∃ frame ∈ state.accepted,
            frame.requested = true ∧ frame.frameType = .auto)) =
        some true := by
    decide
  obtain ⟨state, runs, fields⟩ := Option.map_eq_some_iff.mp computed
  exact ⟨state, System.reachable_of_run (.initial isInitial_newManager) runs,
    of_decide_eq_true fields⟩

end KeyframeState
end Engine
end SbsServer
