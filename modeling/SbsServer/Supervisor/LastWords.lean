import SbsServer.CLib.Str
import SbsServer.CLib.System

/-!
# The last words of a worker

A worker reports its state and its signal through the socket on which it sends
frames.  The supervisor reads the socket from its main loop, which also reports
that the other end was closed and, on its own, that the process has ended.  The
model follows one connection from the launch of the worker to its end.
-/

namespace SbsServer
namespace Supervisor

open CLib

/-- The fields of `sbs_video_frame_msg_t` that `on_frame_available` reads. -/
structure SourceFrameMsg where
  sequence : UInt64
  width : UInt32
  height : UInt32
  drmFormat : UInt32
  drmModifier : UInt64
  planeOffset : UInt32 × UInt32
  planeStride : UInt32 × UInt32
  flags : UInt32
  deriving DecidableEq

/-- The fields of `sbs_signal_change_msg_t` that `on_frame_available` reads. -/
structure SignalChangeMsg where
  reason : CStr
  width : UInt32
  height : UInt32
  colorSpace : CStr
  colorDepth : UInt32
  hdrEotf : CStr
  deriving DecidableEq

/-- A datagram from a source worker. -/
inductive WorkerMessage
  | videoFrame (frame : SourceFrameMsg)
  | status (state : UInt32) (errorMessage : CStr)
  | signalChange (change : SignalChangeMsg)
  deriving DecidableEq

/-- `SBS_WORKER_STATE_RUNNING` -/
def workerStateRunning : UInt32 := 2

/-- `SBS_WORKER_STATE_ERROR` -/
def workerStateError : UInt32 := 4

/-- `SBS_FRAME_FLAG_HDR` -/
def frameFlagHdr : UInt32 := 1

/-- `DRM_FORMAT_P010` -/
def drmFormatP010 : UInt32 := 0x3031504e

/-- The text of a field of which a datagram cut at `sizeof(sbs_video_frame_msg_t)`, 128
bytes, has only the first bytes. -/
def cutText
    (bytes : Nat)
    (text : CStr) : CStr :=
  .ofBytes (text.bytes.take bytes)

/-- `sbs_ipc_recv_frame2`, which reads 128 bytes of a datagram: the error text starts at
byte 76 and the transfer function at byte 120. -/
def WorkerMessage.received : WorkerMessage → WorkerMessage
  | .videoFrame frame => .videoFrame frame
  | .status state errorMessage => .status state (cutText 52 errorMessage)
  | .signalChange change => .signalChange { change with hdrEotf := cutText 8 change.hdrEotf }

/-- The fields of `sbs_source_state_t` that `on_frame_available` writes. -/
structure SourceReport where
  frameWidth : UInt32
  frameHeight : UInt32
  slotInitialized : Bool
  drmFormat : UInt32
  drmModifier : UInt64
  planeOffset : UInt32 × UInt32
  planeStride : UInt32 × UInt32
  colorDepth : UInt32
  hdr : Bool
  colorSpace : CharArray 32
  hdrEotf : CharArray 32
  runtimeState : Option CStr
  errorMessage : Option CStr
  deriving DecidableEq

/-- What is told to the API server, if there is one. -/
inductive Announcement
  /-- `sbs_api_server_refresh_scene`. -/
  | refreshScene
  /-- The event `source.status`. -/
  | sourceStatus (report : SourceReport)
  deriving DecidableEq

namespace SourceReport

/-- A video frame of a source that is not muted. -/
def videoFrame
    (report : SourceReport)
    (frame : SourceFrameMsg) : SourceReport × List Announcement :=
  let resized := report.frameWidth ≠ frame.width || report.frameHeight ≠ frame.height
  let reformatted := frame.drmFormat ≠ 0 && report.drmFormat ≠ frame.drmFormat
  let remodified := report.drmModifier ≠ frame.drmModifier
  let restrided := report.planeStride ≠ frame.planeStride
  let nextDepth : UInt32 := if frame.drmFormat = drmFormatP010 then 10 else 8
  let nextHdr := frame.flags &&& frameFlagHdr ≠ 0
  let recolored := report.colorDepth ≠ nextDepth || report.hdr ≠ nextHdr
  ({ report with
      frameWidth := frame.width
      frameHeight := frame.height
      slotInitialized := report.slotInitialized || resized
      drmFormat := if reformatted then frame.drmFormat else report.drmFormat
      drmModifier := frame.drmModifier
      planeOffset := frame.planeOffset
      planeStride := frame.planeStride
      colorDepth := nextDepth
      hdr := nextHdr
      colorSpace :=
        if recolored then .strlcpy 32 (if nextHdr then "BT.2020" else "BT.709")
        else report.colorSpace
      hdrEotf :=
        if recolored then .strlcpy 32 (if nextHdr then "PQ" else "SDR") else report.hdrEotf },
    if resized || reformatted || remodified || restrided || recolored then [.refreshScene]
    else [])

/-- A status message. -/
def status
    (report : SourceReport)
    (state : UInt32)
    (errorMessage : CStr) : SourceReport × List Announcement :=
  if state = workerStateRunning ∧ report.runtimeState ≠ some "running" then
    let running := { report with runtimeState := some "running" }
    (running, [.sourceStatus running])
  else if state = workerStateError then
    let failed := { report with
      runtimeState := some "error"
      errorMessage := some errorMessage }
    (failed, [.sourceStatus failed])
  else (report, [])

/-- A message about the signal. -/
def signalChange
    (report : SourceReport)
    (change : SignalChangeMsg) : SourceReport × List Announcement :=
  ({ report with
      frameWidth := if 0 < change.width then change.width else report.frameWidth
      frameHeight := if 0 < change.height then change.height else report.frameHeight
      colorDepth := if 0 < change.colorDepth then change.colorDepth else 8
      hdr := change.hdrEotf ≠ "SDR"
      colorSpace := .strlcpy 32 change.colorSpace
      hdrEotf := .strlcpy 32 change.hdrEotf
      slotInitialized := true },
    [.refreshScene])

/-- One message as `on_frame_available` deals with it. -/
def processMessage
    (report : SourceReport)
    (muted : Bool) : WorkerMessage → SourceReport × List Announcement
  | .videoFrame frame => if muted then (report, []) else report.videoFrame frame
  | .status state errorMessage => report.status state errorMessage
  | .signalChange change => report.signalChange change

end SourceReport

/-- Where the supervisor stands with a connection. -/
inductive LinkPhase
  /-- The watch is on the listening socket. -/
  | listening
  /-- The watch is on the connection. -/
  | watching
  /-- In the loop of `on_frame_available`. -/
  | reading
  /-- The connection and the listening socket are closed. -/
  | closed
  deriving DecidableEq

/-- A worker, its socket and the supervisor's side of it. -/
structure WorkerLink where
  /-- The worker has its end of the socket open. -/
  workerOpen : Bool
  /-- The worker has connected. -/
  connected : Bool
  /-- The process has ended. -/
  exited : Bool
  /-- Datagrams that were sent and not read. -/
  queue : List WorkerMessage
  phase : LinkPhase
  muted : Bool
  /-- The source in the scene graph, if there is one. -/
  report : Option SourceReport
  announced : List Announcement
  /-- What the worker has sent. -/
  sent : List WorkerMessage
  /-- What the loop of `on_frame_available` has processed. -/
  processed : List WorkerMessage

/-- What the worker, the kernel and the main loop do. -/
inductive LinkEvent
  | connect
  /-- The worker sends a datagram with success. -/
  | send (message : WorkerMessage)
  /-- The worker closes its end. -/
  | close
  | exit
  /-- The listening socket is readable, and the connection is accepted. -/
  | accept
  /-- `on_frame_available` is called for the connection, with or without a hang-up. -/
  | dispatch (hangUp : Bool)
  /-- One round of the loop of `on_frame_available`. -/
  | receive (fails : Bool)
  /-- `on_child_exit` -/
  | childExit
  /-- `sbs_source_supervisor_stop_source` -/
  | stop
  | setMuted (muted : Bool)

namespace WorkerLink

/-- A worker that was just launched for a source. -/
def launched
    (report : Option SourceReport)
    (muted : Bool) : WorkerLink where
  workerOpen := false
  connected := false
  exited := false
  queue := []
  phase := .listening
  muted := muted
  report := report
  announced := []
  sent := []
  processed := []

/-- The loop of `on_frame_available` has read a message. -/
def process
    (link : WorkerLink)
    (message : WorkerMessage)
    (rest : List WorkerMessage) : WorkerLink :=
  { link with
    queue := rest
    processed := link.processed ++ [message]
    report := link.report.map fun report =>
      (report.processMessage link.muted message.received).1
    announced := link.announced ++ (link.report.map fun report =>
      (report.processMessage link.muted message.received).2).getD [] }

/-- The connection after an event, if the event can happen. -/
def next
    (link : WorkerLink) : LinkEvent → Option WorkerLink
  | .connect =>
      if link.phase = .listening ∧ !link.connected ∧ !link.exited then
        some { link with connected := true, workerOpen := true }
      else none
  | .send message =>
      if link.workerOpen ∧ link.phase ≠ .closed then
        some { link with
          queue := link.queue ++ [message]
          sent := link.sent ++ [message] }
      else none
  | .close => some { link with workerOpen := false }
  | .exit => some { link with workerOpen := false, exited := true }
  | .accept =>
      if link.phase = .listening ∧ link.connected then some { link with phase := .watching }
      else none
  | .dispatch hangUp =>
      if link.phase = .watching then
        if hangUp then
          if link.workerOpen then none else some { link with phase := .closed }
        else some { link with phase := .reading }
      else none
  | .receive fails =>
      if link.phase = .reading then
        if fails then some { link with phase := .watching }
        else
          match link.queue with
          | message :: rest => some (link.process message rest)
          | [] => some { link with phase := if link.workerOpen then .watching else .closed }
      else none
  | .childExit =>
      if link.exited ∧ link.phase ≠ .reading then some { link with phase := .closed } else none
  | .stop => if link.phase ≠ .reading then some { link with phase := .closed } else none
  | .setMuted muted => some { link with muted := muted }

/-- Runs of a connection. -/
def system : System WorkerLink LinkEvent :=
  .ofNext (fun link => ∃ report muted, link = launched report muted) next

/-! ## What is to be heard -/

end WorkerLink

/-- A message that is not a frame. -/
def WorkerMessage.isWord : WorkerMessage → Bool
  | .videoFrame _ => false
  | _ => true

/-- What a message says about the state of the source. -/
inductive ReportedState
  | running
  | failed (errorMessage : CStr)
  deriving DecidableEq

/-- The state of the source that a message reports. -/
def WorkerMessage.reportedState : WorkerMessage → Option ReportedState
  | .status state errorMessage =>
      if state = workerStateRunning then some .running
      else if state = workerStateError then some (.failed errorMessage)
      else none
  | _ => none

namespace WorkerLink

/-- The supervisor has processed every word that the worker has sent. -/
def AllProcessed (link : WorkerLink) : Prop :=
  link.processed.filter WorkerMessage.isWord = link.sent.filter WorkerMessage.isWord

/-- Once the connection is closed every word was processed, and a last reported error is
the state of the source. -/
structure WordsHeard (link : WorkerLink) : Prop where
  processed : link.phase = .closed → link.AllProcessed
  lastState : link.phase = .closed →
    ∀ errorMessage, (link.sent.filterMap WorkerMessage.reportedState).getLast? =
        some (.failed errorMessage) →
      ∀ report ∈ link.report,
        report.runtimeState = some "error" ∧
          report.errorMessage = some (cutText 52 errorMessage)

/-- What was sent is processed or still queued, and the last reported error that was
processed is the state of the source. -/
structure Followed (link : WorkerLink) : Prop where
  queued : link.phase ≠ .closed → link.processed ++ link.queue = link.sent
  state : ∀ errorMessage, (link.processed.filterMap WorkerMessage.reportedState).getLast? =
      some (.failed errorMessage) →
    ∀ report ∈ link.report,
      report.runtimeState = some "error" ∧
        report.errorMessage = some (cutText 52 errorMessage)

/-- The condition on an event: the connection is closed, other than at the end of what
was sent, only while no word is queued. -/
def WordsRead
    (link : WorkerLink) : LinkEvent → Prop
  | .dispatch true | .childExit | .stop =>
      link.phase ≠ .closed → ∀ message ∈ link.queue, message.isWord = false
  | _ => True

theorem launched_followed
    (report : Option SourceReport)
    (muted : Bool) :
    (launched report muted).Followed :=
  ⟨fun _ => rfl, by simp [launched]⟩

end WorkerLink

namespace SourceReport

/-- A processed message leaves the state it reports. -/
theorem processMessage_failed
    (report : SourceReport)
    (muted : Bool)
    {message : WorkerMessage}
    {errorMessage : CStr}
    (reported : message.reportedState = some (.failed errorMessage)) :
    (report.processMessage muted message.received).1.runtimeState = some "error" ∧
      (report.processMessage muted message.received).1.errorMessage =
        some (cutText 52 errorMessage) := by
  cases message with
  | videoFrame frame => cases reported
  | signalChange change => cases reported
  | status state text =>
      simp only [WorkerMessage.reportedState] at reported
      split at reported
      next => cases reported
      next notRunning =>
        split at reported
        next failed =>
          cases reported
          simp [WorkerMessage.received, processMessage, SourceReport.status, failed,
            workerStateError, workerStateRunning]
        next => cases reported

/-- A processed message that reports no state leaves the state as it is. -/
theorem processMessage_silent
    (report : SourceReport)
    (muted : Bool)
    {message : WorkerMessage}
    (silent : message.reportedState = none) :
    (report.processMessage muted message.received).1.runtimeState = report.runtimeState ∧
      (report.processMessage muted message.received).1.errorMessage = report.errorMessage := by
  cases message with
  | videoFrame frame =>
      simp only [WorkerMessage.received, processMessage]
      split
      next => exact ⟨rfl, rfl⟩
      next => exact ⟨rfl, rfl⟩
  | signalChange change => exact ⟨rfl, rfl⟩
  | status state text =>
      simp only [WorkerMessage.reportedState] at silent
      split at silent
      next => cases silent
      next notRunning =>
        split at silent
        next => cases silent
        next notFailed =>
          simp [WorkerMessage.received, processMessage, SourceReport.status, notRunning,
            notFailed]

end SourceReport

namespace WorkerLink

theorem reportedState_words
    (messages : List WorkerMessage) :
    (messages.filter WorkerMessage.isWord).filterMap WorkerMessage.reportedState =
      messages.filterMap WorkerMessage.reportedState := by
  induction messages with
  | nil => rfl
  | cons message rest ih =>
      cases message with
      | videoFrame frame => exact ih
      | status state text =>
          rw [List.filter_cons_of_pos rfl, List.filterMap_cons, List.filterMap_cons,
            ih]
      | signalChange change =>
          rw [List.filter_cons_of_pos rfl, List.filterMap_cons, List.filterMap_cons,
            ih]

variable {link after : WorkerLink}

theorem Followed.process
    {message : WorkerMessage}
    {rest : List WorkerMessage}
    (followed : link.Followed)
    (reading : link.phase = .reading)
    (queued : link.queue = message :: rest) :
    (link.process message rest).Followed := by
  constructor
  · intro _
    have before := followed.queued (by simp [reading])
    rw [queued] at before
    simpa [WorkerLink.process] using before
  · intro errorMessage last report member
    simp only [WorkerLink.process, Option.mem_def, Option.map_eq_some_iff] at member
    obtain ⟨old, present, rfl⟩ := member
    simp only [WorkerLink.process, List.filterMap_append, List.filterMap_cons,
      List.filterMap_nil] at last
    cases reported : message.reportedState with
    | none =>
        rw [reported] at last
        obtain ⟨runtimeState, text⟩ := old.processMessage_silent link.muted reported
        rw [runtimeState, text]
        exact followed.state errorMessage (by simpa using last) old present
    | some state =>
        rw [reported] at last
        have same : state = .failed errorMessage := by simpa using last
        subst same
        exact old.processMessage_failed link.muted reported

theorem Followed.next
    {event : LinkEvent}
    (followed : link.Followed)
    (stepped : link.next event = some after) :
    after.Followed := by
  unfold WorkerLink.next at stepped
  split at stepped
  next => split at stepped <;> cases stepped; exact ⟨followed.queued, followed.state⟩
  next =>
    split at stepped
    next opened =>
      cases stepped
      refine ⟨fun _ => ?_, followed.state⟩
      rw [← List.append_assoc, followed.queued opened.2]
    next => cases stepped
  next => cases stepped; exact ⟨followed.queued, followed.state⟩
  next => cases stepped; exact ⟨followed.queued, followed.state⟩
  next =>
    split at stepped
    next waiting =>
      cases stepped
      exact ⟨fun _ => followed.queued (by simp [waiting.1]), followed.state⟩
    next => cases stepped
  next =>
    split at stepped
    next watching =>
      split at stepped
      next =>
        split at stepped
        next => cases stepped
        next => cases stepped; exact ⟨by simp, followed.state⟩
      next =>
        cases stepped
        exact ⟨fun _ => followed.queued (by simp [watching]), followed.state⟩
    next => cases stepped
  next =>
    split at stepped
    next reading =>
      split at stepped
      next =>
        cases stepped
        exact ⟨fun _ => followed.queued (by simp [reading]), followed.state⟩
      next =>
        split at stepped
        next message rest queued => cases stepped; exact followed.process reading queued
        next =>
          cases stepped
          exact ⟨fun _ => followed.queued (by simp [reading]), followed.state⟩
    next => cases stepped
  next => split at stepped <;> cases stepped; exact ⟨by simp, followed.state⟩
  next => split at stepped <;> cases stepped; exact ⟨by simp, followed.state⟩
  next => cases stepped; exact ⟨followed.queued, followed.state⟩

/-- A connection that is closed with no word queued has heard all. -/
theorem Followed.allProcessed
    (followed : link.Followed)
    (opened : link.phase ≠ .closed)
    (processed : after.processed = link.processed)
    (sent : after.sent = link.sent) :
    after.AllProcessed ↔ ∀ message ∈ link.queue, message.isWord = false := by
  unfold AllProcessed
  rw [processed, sent, ← followed.queued opened, List.filter_append, List.self_eq_append_right,
    List.filter_eq_nil_iff]
  simp

/-- An event keeps all words heard exactly if it meets the condition. -/
theorem allProcessed_next_iff
    {event : LinkEvent}
    (followed : link.Followed)
    (before : link.phase = .closed → link.AllProcessed)
    (stepped : link.next event = some after) :
    (after.phase = .closed → after.AllProcessed) ↔ link.WordsRead event := by
  have closing : ∀ closed : WorkerLink, closed.phase = .closed →
      closed.processed = link.processed → closed.sent = link.sent →
      ((closed.phase = .closed → closed.AllProcessed) ↔
        (link.phase ≠ .closed → ∀ message ∈ link.queue, message.isWord = false)) := by
    intro closed phase processed sent
    by_cases already : link.phase = .closed
    · have kept : closed.AllProcessed := by
        unfold AllProcessed
        rw [processed, sent]
        exact before already
      simp [already, kept]
    · simp only [phase, true_implies, ne_eq, already, not_false_eq_true]
      exact followed.allProcessed already processed sent
  unfold WorkerLink.next at stepped
  split at stepped
  next =>
    split at stepped
    next waiting => cases stepped; simp [waiting.1, WordsRead]
    next => cases stepped
  next =>
    split at stepped
    next opened => cases stepped; simp [opened.2, WordsRead]
    next => cases stepped
  next => cases stepped; exact iff_of_true before trivial
  next => cases stepped; exact iff_of_true before trivial
  next =>
    split at stepped
    next => cases stepped; simp [WordsRead]
    next => cases stepped
  next hangUp =>
    split at stepped
    next watching =>
      split at stepped
      next hung =>
        subst hung
        split at stepped
        next => cases stepped
        next => cases stepped; exact closing _ rfl rfl rfl
      next quiet =>
        cases stepped
        rw [Bool.not_eq_true] at quiet
        simp [quiet, WordsRead]
    next => cases stepped
  next =>
    split at stepped
    next reading =>
      split at stepped
      next => cases stepped; simp [WordsRead]
      next =>
        split at stepped
        next => cases stepped; simp [process, reading, WordsRead]
        next queued =>
          cases stepped
          refine iff_of_true (fun _ => ?_) trivial
          have sent := followed.queued (by simp [reading])
          rw [queued, List.append_nil] at sent
          exact congrArg _ sent
    next => cases stepped
  next => split at stepped <;> cases stepped; exact closing _ rfl rfl rfl
  next => split at stepped <;> cases stepped; exact closing _ rfl rfl rfl
  next => cases stepped; exact iff_of_true before trivial

/-- In a run that closes the connection only when no word is queued, every word is heard
before. -/
theorem wordsHeard_of_wordsRead
    {link : WorkerLink}
    (reachable : system.ReachableWhen WordsRead link) :
    link.WordsHeard := by
  obtain ⟨followed, allProcessed⟩ := @System.ReachableWhen.invariant _ _ system WordsRead
    (fun link => link.Followed ∧ (link.phase = .closed → link.AllProcessed))
    (by
      rintro _ ⟨report, muted, rfl⟩
      exact ⟨launched_followed report muted, fun closed => by cases closed⟩)
    (by
      intro link event after ⟨followed, before⟩ read stepped
      exact ⟨followed.next stepped, (allProcessed_next_iff followed before stepped).mpr read⟩)
    _ reachable
  refine ⟨allProcessed, ?_⟩
  intro closed errorMessage last
  apply followed.state errorMessage
  rw [← reportedState_words, allProcessed closed, reportedState_words]
  exact last

/-- A source that was running. -/
def runningSource : SourceReport where
  frameWidth := 1920
  frameHeight := 1080
  slotInitialized := true
  drmFormat := 0
  drmModifier := 0
  planeOffset := (0, 0)
  planeStride := (1920, 1920)
  colorDepth := 8
  hdr := false
  colorSpace := .strlcpy 32 "BT.709"
  hdrEotf := .strlcpy 32 "SDR"
  runtimeState := some "running"
  errorMessage := none

/-- The worker reports that the device is busy, closes its end and exits. -/
def lastReport : List LinkEvent :=
  [.connect, .accept, .send (.status workerStateError "device busy"), .exit]

instance (link : WorkerLink) (event : LinkEvent) : Decidable (link.WordsRead event) :=
  match event with
  | .dispatch true | .childExit | .stop =>
      inferInstanceAs (Decidable (_ → ∀ _ ∈ _, _ = _))
  | .dispatch false | .connect | .send _ | .close | .exit | .accept | .receive _ |
      .setMuted _ => .isTrue trivial

/-- The main loop sees the message before the hang-up. -/
theorem wordsHeard_readFirst :
    ((System.run (System.guarded WordsRead next) (launched (some runningSource) false)
      (lastReport ++ [.dispatch false, .receive false, .receive false, .childExit])).map
        fun link => (link.phase, link.report.map SourceReport.runtimeState)) =
      some (LinkPhase.closed, some (some (CStr.lit "error"))) ∧
    ∀ link, System.run (System.guarded WordsRead next) (launched (some runningSource) false)
      (lastReport ++ [.dispatch false, .receive false, .receive false, .childExit]) = some link →
      link.WordsHeard :=
  ⟨by decide +kernel, fun _ runs =>
    wordsHeard_of_wordsRead (@System.reachableWhen_of_run _ _ WordsRead _ _ _ _ _ _
      (.initial ⟨_, _, rfl⟩) runs)⟩

/-- The main loop sees the message and the hang-up at once, and the source stays running. -/
theorem lastReport_unheard :
    ¬ ∀ link, system.Reachable link → link.WordsHeard := by
  intro always
  have runs : ∃ link, System.run next (launched (some runningSource) false)
      (lastReport ++ [.dispatch true]) = some link ∧
        link.phase = .closed ∧ link.processed = [] ∧
          link.sent = [.status workerStateError "device busy"] :=
    ⟨_, rfl, rfl, rfl, rfl⟩
  obtain ⟨link, run, closed, processed, sent⟩ := runs
  have heard := (always link (System.reachable_of_run (.initial ⟨_, _, rfl⟩) run)).processed closed
  rw [AllProcessed, processed, sent] at heard
  cases heard

end WorkerLink
end Supervisor
end SbsServer
