import Mathlib.Data.List.FinRange
import Mathlib.Data.List.Nodup
import Mathlib.Logic.Function.Basic
import SbsServer.CLib.System

/-!
# The capture worker

The part of a source worker that captures through `vfmcap`: the capture context,
the table of frames that are lent to the server, and the callbacks of the main
loop.  A captured frame is known by its number, which counts the frames that the
driver has given out.
-/

namespace SbsServer
namespace Worker

open CLib

/-- `SBS_VFMCAP_MAX_IN_FLIGHT` -/
abbrev vfmcapMaxInFlight : Nat := 16

/-- `SBS_VFMCAP_NOSIG_RECOVER_THRESHOLD` -/
def vfmcapNosigRecoverThreshold : UInt32 := 120

/-- `SBS_VFMCAP_STABILITY_CHECK_COUNT` -/
def vfmcapStabilityCheckCount : UInt32 := 3

/-- `SBS_VFMCAP_LOW_FPS_RECOVER_WINDOWS` -/
def vfmcapLowFpsRecoverWindows : UInt32 := 4

/-- The callbacks that the capture worker registers. -/
inductive VfmcapCallback
  /-- `on_vfmcap_frame_timeout` -/
  | frame
  /-- `on_vfmcap_event_timeout` -/
  | event
  /-- `on_vfmcap_stats_timeout` -/
  | stats
  /-- `source_worker_vfmcap_recover_timeout` -/
  | recover
  /-- `on_heartbeat` -/
  | heartbeat
  /-- `on_source_control_msg` -/
  | control
  deriving DecidableEq

/-- An active `source_vfmcap_lease_t`. -/
structure VfmcapLease where
  sequence : UInt64
  /-- The number of the captured frame. -/
  frame : Nat
  deriving DecidableEq

/-- The table of leases; an entry that is not active has none. -/
abbrev VfmcapLeases := Fin vfmcapMaxInFlight → Option VfmcapLease

/-- `source_state_t` of a capture worker with its main loop. -/
structure VfmcapWorker where
  /-- The server has its end of the connection open. -/
  serverOpen : Bool
  /-- `ctx->shutting_down` -/
  shuttingDown : Bool
  /-- `vfmcap_ctx` is not NULL. -/
  hasContext : Bool
  recovering : Bool
  leases : VfmcapLeases
  frameCounter : UInt64
  framesDropped : UInt64
  consecutiveNosig : UInt32
  lowFpsWindows : UInt32
  stableCount : UInt32
  stableWidth : UInt32
  stableHeight : UInt32
  sendWouldBlock : UInt64
  sendErrors : UInt64
  leaseFullDrops : UInt64
  frameTimer : Nat
  eventTimer : Nat
  statsTimer : Nat
  recoverTimer : Nat
  heartbeatTimer : Nat
  socketWatch : Nat
  /-- The sources of the main loop with their ids. -/
  sources : List (Nat × VfmcapCallback)
  nextSourceId : Nat
  /-- How many frames the driver has given out. -/
  captured : Nat
  /-- The frames handed back with `vfmcap_release_frame`, in order. -/
  handedBack : List Nat
  /-- Those of them that `source_worker_vfmcap_close_current` has handed back. -/
  withdrawn : List Nat

namespace VfmcapWorker

/-- `source_worker_vfmcap_lease_count` -/
def leaseCount (worker : VfmcapWorker) : Nat :=
  (List.finRange vfmcapMaxInFlight).countP fun index => (worker.leases index).isSome

/-- `source_worker_vfmcap_store_lease`: the index of the lease and the new table. -/
def storeLease
    (worker : VfmcapWorker)
    (lease : VfmcapLease) : Option (Fin vfmcapMaxInFlight × VfmcapWorker) :=
  ((List.finRange vfmcapMaxInFlight).find? fun index => (worker.leases index).isNone).map
    fun index => (index, { worker with leases := Function.update worker.leases index (some lease) })

/-- `source_worker_vfmcap_release_lease_index` -/
def releaseLeaseIndex
    (worker : VfmcapWorker)
    (index : Fin vfmcapMaxInFlight) : VfmcapWorker :=
  match worker.leases index with
  | some lease =>
      { worker with
        leases := Function.update worker.leases index none
        handedBack :=
          if worker.hasContext then worker.handedBack ++ [lease.frame] else worker.handedBack }
  | none => worker

/-- `source_worker_vfmcap_release_sequence` -/
def releaseSequence
    (worker : VfmcapWorker)
    (sequence : UInt64) : VfmcapWorker :=
  match (List.finRange vfmcapMaxInFlight).find? fun index =>
      (worker.leases index).any fun lease => lease.sequence = sequence with
  | some index => worker.releaseLeaseIndex index
  | none => worker

/-- `source_worker_vfmcap_release_all` -/
def releaseAll (worker : VfmcapWorker) : VfmcapWorker :=
  (List.finRange vfmcapMaxInFlight).foldl releaseLeaseIndex worker

/-- `source_worker_vfmcap_open_start`, which succeeds if the device can be opened and
started. -/
def openStart
    (worker : VfmcapWorker)
    (opens : Bool) : Bool × VfmcapWorker :=
  if opens then
    (true, { worker with hasContext := true, consecutiveNosig := 0, lowFpsWindows := 0 })
  else (false, { worker with hasContext := false })

/-- `source_worker_vfmcap_close_current` -/
def closeCurrent (worker : VfmcapWorker) : VfmcapWorker :=
  if worker.hasContext then
    { worker.releaseAll with
      hasContext := false
      withdrawn := worker.withdrawn ++ (List.finRange vfmcapMaxInFlight).filterMap fun index =>
        (worker.leases index).map VfmcapLease.frame }
  else worker

/-- `source_worker_vfmcap_reset_stats_window`, as far as the counters decide anything. -/
def resetStatsWindow (worker : VfmcapWorker) : VfmcapWorker :=
  { worker with sendWouldBlock := 0, sendErrors := 0, leaseFullDrops := 0 }

/-- `g_source_remove`; 0 is no source. -/
def removeSource
    (worker : VfmcapWorker)
    (id : Nat) : VfmcapWorker :=
  { worker with sources := worker.sources.filter fun source => source.1 ≠ id }

/-- Removal of the sources of the frame and the event callback. -/
def removeCaptureSources (worker : VfmcapWorker) : VfmcapWorker :=
  { (worker.removeSource worker.frameTimer).removeSource worker.eventTimer with
    frameTimer := 0
    eventTimer := 0 }

/-- A new source of the main loop. -/
def addSource
    (worker : VfmcapWorker)
    (callback : VfmcapCallback) : VfmcapWorker :=
  { worker with
    sources := worker.sources ++ [(worker.nextSourceId, callback)]
    nextSourceId := worker.nextSourceId + 1 }

/-- New sources of the frame and the event callback. -/
def addCaptureSources (worker : VfmcapWorker) : VfmcapWorker :=
  { (worker.addSource .frame).addSource .event with
    frameTimer := worker.nextSourceId
    eventTimer := worker.nextSourceId + 1 }

/-- The timer of the recovery, if it is not running. -/
def startRecoverTimer (worker : VfmcapWorker) : VfmcapWorker :=
  if worker.recoverTimer = 0 then
    { worker.addSource .recover with recoverTimer := worker.nextSourceId }
  else worker

/-- `source_worker_vfmcap_begin_recovery` -/
def beginRecovery (worker : VfmcapWorker) : VfmcapWorker :=
  if worker.recovering || worker.shuttingDown then worker
  else
    let lost := { worker with
      recovering := true
      consecutiveNosig := 0
      lowFpsWindows := 0
      stableCount := 0
      stableWidth := 0
      stableHeight := 0 }
    lost.removeCaptureSources.closeCurrent.resetStatsWindow.startRecoverTimer

/-- `source_worker_vfmcap_restart_now` -/
def restartNow
    (worker : VfmcapWorker)
    (opens : Bool) : VfmcapWorker :=
  if worker.recovering || worker.shuttingDown then worker
  else
    match worker.removeCaptureSources.closeCurrent.openStart opens with
    | (true, opened) => opened.resetStatsWindow.addCaptureSources
    | (false, failed) => failed.beginRecovery

/-- What `source_worker_read_signal_resolution` finds: both sides are positive. -/
structure Resolution where
  width : UInt32
  height : UInt32
  width_pos : 0 < width
  height_pos : 0 < height
  deriving DecidableEq

/-- The count of equal resolutions in `source_worker_vfmcap_recover_timeout`. -/
def noteResolution
    (worker : VfmcapWorker) : Option Resolution → VfmcapWorker
  | some found =>
      if found.width = worker.stableWidth ∧ found.height = worker.stableHeight then
        { worker with stableCount := worker.stableCount + 1 }
      else
        { worker with
          stableWidth := found.width
          stableHeight := found.height
          stableCount := 1 }
  | none => { worker with stableWidth := 0, stableHeight := 0, stableCount := 0 }

/-- `source_worker_vfmcap_recover_timeout`, and whether the source stays. -/
def recoverTimeout
    (worker : VfmcapWorker)
    (resolution : Option Resolution)
    (opens : Bool) : Bool × VfmcapWorker :=
  if worker.shuttingDown then (false, { worker with recoverTimer := 0 })
  else
    let noted := worker.noteResolution resolution
    if resolution.isNone ∨ noted.stableCount < vfmcapStabilityCheckCount then (true, noted)
    else
      match noted.openStart opens with
      | (true, opened) =>
          (false, ({ opened with
            recovering := false
            recoverTimer := 0 }).resetStatsWindow.addCaptureSources)
      | (false, failed) => (true, { failed with stableCount := 0 })

/-! ## Capture -/

/-- What `vfmcap_acquire_frame` returns. -/
inductive AcquireOutcome
  | timeout
  | nosig
  | error
  /-- A frame, with a DMA-BUF or without, in one plane or split. -/
  | frame (hasDmabuf split : Bool)
  deriving DecidableEq

/-- What `sbs_ipc_send_frame2` returns. -/
inductive SendOutcome
  | ok
  | wouldBlock
  /-- `SBS_ERR_PIPE` -/
  | pipe
  | error
  deriving DecidableEq

/-- The frame that the driver gives out is handed back at once. -/
def dropFrame (worker : VfmcapWorker) : VfmcapWorker :=
  { worker with
    captured := worker.captured + 1
    handedBack := worker.handedBack ++ [worker.captured] }

/-- The answer to the outcome of the send, with the lease of the frame. -/
def afterSend
    (worker : VfmcapWorker)
    (index : Fin vfmcapMaxInFlight) : SendOutcome → Bool × VfmcapWorker
  | .ok => (true, { worker with frameCounter := worker.frameCounter + 1 })
  | .wouldBlock =>
      (true, { worker with
        sendWouldBlock := worker.sendWouldBlock + 1
        framesDropped := worker.framesDropped + 1 }.releaseLeaseIndex index)
  | .pipe => (false, { worker with sendErrors := worker.sendErrors + 1 }.releaseLeaseIndex index)
  | .error =>
      (true, { worker with
        sendErrors := worker.sendErrors + 1
        framesDropped := worker.framesDropped + 1 }.releaseLeaseIndex index)

/-- `on_vfmcap_frame_timeout`, and whether the source stays. -/
def frameTimeout
    (worker : VfmcapWorker)
    (acquire : AcquireOutcome)
    (send : SendOutcome) : Bool × VfmcapWorker :=
  if worker.shuttingDown then (false, worker)
  else if worker.recovering || !worker.hasContext then (false, { worker with frameTimer := 0 })
  else if vfmcapMaxInFlight ≤ worker.leaseCount then (true, worker)
  else
    match acquire with
    | .timeout => (true, { worker with consecutiveNosig := 0 })
    | .nosig =>
        let counted := { worker with consecutiveNosig := worker.consecutiveNosig + 1 }
        if vfmcapNosigRecoverThreshold ≤ counted.consecutiveNosig then
          (false, { counted with frameTimer := 0 }.beginRecovery)
        else (true, counted)
    | .error => (true, worker)
    | .frame hasDmabuf split =>
        let acquired := { worker with consecutiveNosig := 0 }
        if !hasDmabuf then (true, acquired.dropFrame)
        else if split then
          (true, { acquired with framesDropped := acquired.framesDropped + 1 }.dropFrame)
        else
          match acquired.storeLease ⟨acquired.frameCounter, acquired.captured⟩ with
          | some (index, stored) =>
              { stored with captured := stored.captured + 1 }.afterSend index send
          | none =>
              (true, { acquired with
                leaseFullDrops := acquired.leaseFullDrops + 1
                framesDropped := acquired.framesDropped + 1 }.dropFrame)

/-- What `vfmcap_poll_event` returns, as far as the worker tells it apart. -/
inductive PollOutcome
  | nothing
  | error
  | sourceChange
  | nosig
  | other
  deriving DecidableEq

/-- `on_vfmcap_event_timeout`, and whether the source stays. -/
def eventTimeout
    (worker : VfmcapWorker)
    (polled : PollOutcome) : Bool × VfmcapWorker :=
  if worker.shuttingDown then (false, worker)
  else if worker.recovering || !worker.hasContext then (false, { worker with eventTimer := 0 })
  else
    match polled with
    | .sourceChange => (false, { worker with eventTimer := 0 }.beginRecovery)
    | .nosig => (false, { worker with eventTimer := 0 }.beginRecovery)
    | _ => (true, worker)

/-- `on_vfmcap_stats_timeout`, and whether the source stays.  Whether the measured rate is
too low is a comparison of clock values. -/
def statsTimeout
    (worker : VfmcapWorker)
    (slow opens : Bool) : Bool × VfmcapWorker :=
  if worker.shuttingDown then (false, worker)
  else if slow ∧ worker.leaseCount < vfmcapMaxInFlight / 2 ∧ worker.sendWouldBlock = 0 ∧
      worker.sendErrors = 0 ∧ worker.leaseFullDrops = 0 then
    let counted := { worker with lowFpsWindows := worker.lowFpsWindows + 1 }
    if vfmcapLowFpsRecoverWindows ≤ counted.lowFpsWindows then (true, counted.restartNow opens)
    else (true, counted.resetStatsWindow)
  else (true, { worker with lowFpsWindows := 0 }.resetStatsWindow)

/-- What `sbs_ipc_recv_msg` returns to `on_source_control_msg`. -/
inductive ControlMessage
  | frameRelease (sequence : UInt64)
  | shutdown
  | other
  deriving DecidableEq

/-- `sbs_worker_request_shutdown` -/
def requestShutdown (worker : VfmcapWorker) : VfmcapWorker :=
  { worker with shuttingDown := true }

/-- The loop of `on_source_control_msg` over the messages that it reads before there is no
more or the read fails. -/
def controlMessages
    (worker : VfmcapWorker) : List ControlMessage → VfmcapWorker
  | [] => worker
  | .frameRelease sequence :: rest => (worker.releaseSequence sequence).controlMessages rest
  | .shutdown :: _ => worker.requestShutdown
  | .other :: rest => worker.controlMessages rest

/-- `on_source_control_msg`, and whether the source stays.  A hang-up is seen at once, the
end of the connection after the messages before it. -/
def controlMsg
    (worker : VfmcapWorker)
    (hangUp : Bool)
    (messages : List ControlMessage)
    (ends : Bool) : Bool × VfmcapWorker :=
  if hangUp then (false, worker.requestShutdown)
  else if ends then (false, (worker.controlMessages messages).requestShutdown)
  else (true, worker.controlMessages messages)

/-- What a callback meets. -/
inductive VfmcapInput
  | frame (acquire : AcquireOutcome) (send : SendOutcome)
  | event (polled : PollOutcome)
  | stats (slow opens : Bool)
  | recover (resolution : Option Resolution) (opens : Bool)
  | heartbeat
  | control (hangUp : Bool) (messages : List ControlMessage) (ends : Bool)
  deriving DecidableEq

/-- One callback of the main loop, and whether its source stays. -/
def dispatch
    (worker : VfmcapWorker) : VfmcapCallback → VfmcapInput → Option (Bool × VfmcapWorker)
  | .frame, .frame acquire send => some (worker.frameTimeout acquire send)
  | .event, .event polled => some (worker.eventTimeout polled)
  | .stats, .stats slow opens => some (worker.statsTimeout slow opens)
  | .recover, .recover resolution opens => some (worker.recoverTimeout resolution opens)
  | .heartbeat, .heartbeat => some (!worker.shuttingDown, worker)
  | .control, .control hangUp messages ends => some (worker.controlMsg hangUp messages ends)
  | _, _ => none

/-- What happens to a worker. -/
inductive VfmcapEvent
  /-- The main loop calls the callback of a source. -/
  | fire (id : Nat) (input : VfmcapInput)
  /-- The server closes its end of the connection. -/
  | serverCloses
  /-- A signal asks the worker to shut down. -/
  | signal
  /-- The main loop has ended. -/
  | finish
  deriving DecidableEq

/-- The end of `source_worker_run` after the main loop. -/
def finish (worker : VfmcapWorker) : VfmcapWorker :=
  { worker with
    frameTimer := 0
    eventTimer := 0
    statsTimer := 0
    recoverTimer := 0
    heartbeatTimer := 0
    socketWatch := 0
    sources := [] }.closeCurrent

/-- The outcomes that the connection allows. -/
def allows
    (worker : VfmcapWorker) : VfmcapInput → Bool
  | .frame _ .pipe => !worker.serverOpen
  | .frame _ .ok => worker.serverOpen
  | .control true _ _ => !worker.serverOpen
  | .control _ _ true => !worker.serverOpen
  | _ => true

/-- The worker after an event, if the event can happen. -/
def next
    (worker : VfmcapWorker) : VfmcapEvent → Option VfmcapWorker
  | .fire id input =>
      ((worker.sources.find? fun source => source.1 = id).bind fun source =>
        if worker.allows input then worker.dispatch source.2 input else none).map fun result =>
          if result.1 then result.2 else result.2.removeSource id
  | .serverCloses => some { worker with serverOpen := false }
  | .signal => some worker.requestShutdown
  | .finish => if worker.shuttingDown then some worker.finish else none

/-- The worker when `source_worker_run` enters its main loop. -/
def started : VfmcapWorker where
  serverOpen := true
  shuttingDown := false
  hasContext := true
  recovering := false
  leases _ := none
  frameCounter := 0
  framesDropped := 0
  consecutiveNosig := 0
  lowFpsWindows := 0
  stableCount := 0
  stableWidth := 0
  stableHeight := 0
  sendWouldBlock := 0
  sendErrors := 0
  leaseFullDrops := 0
  frameTimer := 2
  eventTimer := 3
  statsTimer := 4
  recoverTimer := 0
  heartbeatTimer := 1
  socketWatch := 5
  sources := [(1, .heartbeat), (2, .frame), (3, .event), (4, .stats), (5, .control)]
  nextSourceId := 6
  captured := 0
  handedBack := []
  withdrawn := []

/-- Runs of a capture worker. -/
def system : System VfmcapWorker VfmcapEvent :=
  .ofNext (· = started) next

theorem releaseLeaseIndex_keeps
    (worker : VfmcapWorker)
    (index : Fin vfmcapMaxInFlight) :
    ∃ handedBack, worker.releaseLeaseIndex index =
      { worker with
        leases := Function.update worker.leases index none
        handedBack := handedBack } := by
  unfold releaseLeaseIndex
  split
  next lease _ => exact ⟨_, rfl⟩
  next none =>
    refine ⟨worker.handedBack, ?_⟩
    rw [← none, Function.update_eq_self]

theorem foldl_releaseLeaseIndex
    (indices : List (Fin vfmcapMaxInFlight))
    (worker : VfmcapWorker) :
    ∃ leases handedBack, indices.foldl releaseLeaseIndex worker =
        { worker with leases := leases, handedBack := handedBack } ∧
      ∀ index, leases index = if index ∈ indices then none else worker.leases index := by
  induction indices generalizing worker with
  | nil => exact ⟨worker.leases, worker.handedBack, rfl, by simp⟩
  | cons first rest ih =>
      obtain ⟨firstBack, firstSame⟩ := worker.releaseLeaseIndex_keeps first
      obtain ⟨leases, handedBack, same, empty⟩ :=
        ih (worker.releaseLeaseIndex first)
      rw [firstSame] at same empty
      refine ⟨leases, handedBack, ?_, ?_⟩
      · rw [List.foldl_cons, firstSame, same]
      · intro index
        rw [empty index]
        by_cases isFirst : index = first
        · simp [isFirst]
        · simp [isFirst, Function.update_of_ne]

theorem releaseAll_keeps
    (worker : VfmcapWorker) :
    ∃ handedBack, worker.releaseAll =
      { worker with leases := fun _ => none, handedBack := handedBack } := by
  obtain ⟨leases, handedBack, same, empty⟩ :=
    foldl_releaseLeaseIndex (List.finRange vfmcapMaxInFlight) worker
  have none : leases = fun _ => none := by
    funext index
    simpa using empty index
  exact ⟨handedBack, by rw [releaseAll, same, none]⟩

theorem releaseSequence_keeps
    (worker : VfmcapWorker)
    (sequence : UInt64) :
    ∃ leases handedBack,
      worker.releaseSequence sequence =
        { worker with leases := leases, handedBack := handedBack } ∧
      ∀ index, worker.leases index = none → leases index = none := by
  unfold releaseSequence
  split
  next found _ =>
    obtain ⟨handedBack, same⟩ := worker.releaseLeaseIndex_keeps found
    refine ⟨_, handedBack, same, ?_⟩
    intro index none
    by_cases isFound : index = found
    · rw [isFound, Function.update_self]
    · rw [Function.update_of_ne isFound, none]
  next => exact ⟨worker.leases, worker.handedBack, rfl, fun _ none => none⟩

/-- Control messages release leases and may ask for the end. -/
theorem controlMessages_keeps
    (messages : List ControlMessage)
    (worker : VfmcapWorker) :
    ∃ leases handedBack shuttingDown,
      worker.controlMessages messages =
        { worker with
          leases := leases
          handedBack := handedBack
          shuttingDown := shuttingDown } ∧
      (worker.shuttingDown = true → shuttingDown = true) ∧
      ∀ index, worker.leases index = none → leases index = none := by
  induction messages generalizing worker with
  | nil => exact ⟨_, _, _, rfl, id, fun _ none => none⟩
  | cons message rest ih =>
      cases message with
      | frameRelease sequence =>
          obtain ⟨first, firstBack, firstSame, firstNone⟩ := worker.releaseSequence_keeps sequence
          obtain ⟨leases, handedBack, shuttingDown, same, down, none⟩ :=
            ih (worker.releaseSequence sequence)
          rw [firstSame] at same down none
          refine ⟨leases, handedBack, shuttingDown, ?_, down, ?_⟩
          · rw [controlMessages, firstSame, same]
          · exact fun index empty => none index (firstNone index empty)
      | shutdown => exact ⟨_, _, true, rfl, fun _ => rfl, fun _ none => none⟩
      | other => exact ih worker

/-- Closing the capture leaves no context and no lease that needed one. -/
theorem closeCurrent_keeps
    (worker : VfmcapWorker)
    (none : worker.hasContext = false → ∀ index, worker.leases index = none) :
    ∃ handedBack withdrawn, worker.closeCurrent =
      { worker with
        hasContext := false
        leases := fun _ => Option.none
        handedBack := handedBack
        withdrawn := withdrawn } := by
  unfold closeCurrent
  split
  next =>
    obtain ⟨handedBack, same⟩ := worker.releaseAll_keeps
    rw [same]
    exact ⟨handedBack, _, rfl⟩
  next noContext =>
    rw [Bool.not_eq_true] at noContext
    have empty : worker.leases = fun _ => Option.none := funext (none noContext)
    refine ⟨worker.handedBack, worker.withdrawn, ?_⟩
    rw [← noContext, ← empty]

end VfmcapWorker
end Worker
end SbsServer
