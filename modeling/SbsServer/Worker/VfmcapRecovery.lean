import SbsServer.Worker.Vfmcap

/-!
# Recovery of the capture worker

A capture worker is open, with the frame and the event callback armed, or it
recovers, with the timer armed that looks for a stable signal.  The invariant
follows the sources of the main loop through every callback; the source that is
being dispatched is exempt from it, since it is removed after its callback when
the callback says so.
-/

namespace SbsServer
namespace Worker

open CLib

namespace VfmcapWorker

/-- The field in which the worker keeps the source of a callback. -/
def sourceOf (worker : VfmcapWorker) : VfmcapCallback → Nat
  | .frame => worker.frameTimer
  | .event => worker.eventTimer
  | .stats => worker.statsTimer
  | .recover => worker.recoverTimer
  | .heartbeat => worker.heartbeatTimer
  | .control => worker.socketWatch

/-- Sources have different ids, and every source other than an exempt one is the one that
the worker keeps for its callback. -/
structure RegisteredExcept
    (worker : VfmcapWorker)
    (exempt : Nat) : Prop where
  distinct : (worker.sources.map Prod.fst).Nodup
  issued : ∀ source ∈ worker.sources, 0 < source.1 ∧ source.1 < worker.nextSourceId
  kept : ∀ source ∈ worker.sources, source.1 ≠ exempt → source.1 = worker.sourceOf source.2
  exemptIssued : exempt < worker.nextSourceId

/-- The callback of a source is armed. -/
def Armed
    (worker : VfmcapWorker)
    (callback : VfmcapCallback) : Prop :=
  (worker.sourceOf callback, callback) ∈ worker.sources

instance
    (worker : VfmcapWorker)
    (callback : VfmcapCallback) : Decidable (worker.Armed callback) :=
  inferInstanceAs (Decidable (_ ∈ _))

/-- Capture runs. -/
structure IsOpen (worker : VfmcapWorker) : Prop where
  context : worker.hasContext = true
  notRecovering : worker.recovering = false
  frameArmed : worker.Armed .frame
  eventArmed : worker.Armed .event
  noRecoverTimer : ∀ source ∈ worker.sources, source.2 ≠ .recover

/-- Capture waits for a stable signal. -/
structure IsRecovering (worker : VfmcapWorker) : Prop where
  noContext : worker.hasContext = false
  recovering : worker.recovering = true
  noLease : ∀ index, worker.leases index = none
  recoverArmed : worker.Armed .recover

/-- The mode of a worker that captures, with its callbacks armed under sources other than an
exempt one; the frame callback is given up when the connection is closed. -/
structure OpenExcept
    (worker : VfmcapWorker)
    (exempt : Nat) : Prop where
  context : worker.hasContext = true
  notRecovering : worker.recovering = false
  frameArmed : worker.serverOpen = true → worker.Armed .frame ∧ worker.frameTimer ≠ exempt
  eventArmed : worker.Armed .event ∧ worker.eventTimer ≠ exempt
  noRecoverTimer : worker.recoverTimer = 0

/-- The mode of a recovering worker, with its timer armed under a source other than an exempt
one. -/
structure RecoveringExcept
    (worker : VfmcapWorker)
    (exempt : Nat) : Prop where
  noContext : worker.hasContext = false
  recovering : worker.recovering = true
  recoverArmed : worker.Armed .recover ∧ worker.recoverTimer ≠ exempt
  noCaptureTimer : worker.frameTimer = 0 ∧ worker.eventTimer = 0
  unstable : worker.stableCount < vfmcapStabilityCheckCount

/-- What holds of a worker at every point, except for a source that is about to be
removed. -/
structure SoundExcept
    (worker : VfmcapWorker)
    (exempt : Nat) : Prop where
  registered : worker.RegisteredExcept exempt
  leases : worker.hasContext = false → ∀ index, worker.leases index = none
  mode : worker.shuttingDown = false →
    worker.OpenExcept exempt ∨ worker.RecoveringExcept exempt

variable {worker after : VfmcapWorker} {exempt : Nat}

theorem RegisteredExcept.same_source
    (registered : worker.RegisteredExcept exempt)
    {left right : Nat × VfmcapCallback}
    (leftMember : left ∈ worker.sources)
    (rightMember : right ∈ worker.sources)
    (same : left.1 = right.1) :
    left = right :=
  List.inj_on_of_nodup_map registered.distinct leftMember rightMember same

/-- A callback without a source id has no source but an exempt one. -/
theorem RegisteredExcept.no_source
    (registered : worker.RegisteredExcept exempt)
    (callback : VfmcapCallback)
    (none : worker.sourceOf callback = 0)
    {source : Nat × VfmcapCallback}
    (member : source ∈ worker.sources)
    (different : source.1 ≠ exempt) :
    source.2 ≠ callback := by
  intro same
  have kept := registered.kept source member different
  rw [same, none] at kept
  have issued := (registered.issued source member).1
  omega

/-- The source that a callback is kept under may become exempt, and the worker may forget
its id. -/
theorem RegisteredExcept.forget
    {worker forgetful : VfmcapWorker}
    (registered : worker.RegisteredExcept 0)
    {callback : VfmcapCallback}
    (armed : worker.Armed callback)
    (sources : forgetful.sources = worker.sources)
    (nextSourceId : forgetful.nextSourceId = worker.nextSourceId)
    (others : ∀ other, other ≠ callback → forgetful.sourceOf other = worker.sourceOf other) :
    forgetful.RegisteredExcept (worker.sourceOf callback) := by
  refine ⟨sources ▸ registered.distinct, ?_, ?_, ?_⟩
  · rw [sources, nextSourceId]
    exact registered.issued
  · intro source member different
    rw [sources] at member
    have issued := (registered.issued source member).1
    have kept := registered.kept source member (by omega)
    rw [others, kept]
    intro same
    rw [same] at kept
    exact different kept
  · rw [nextSourceId]
    exact (registered.issued _ armed).2

theorem mem_removeCaptureSources
    {source : Nat × VfmcapCallback} :
    source ∈ worker.removeCaptureSources.sources ↔
      source ∈ worker.sources ∧ source.1 ≠ worker.frameTimer ∧ source.1 ≠ worker.eventTimer := by
  simp only [removeCaptureSources, removeSource, List.mem_filter, decide_eq_true_eq, and_assoc]

/-- After the removal no source of the frame or the event callback is left but an exempt
one. -/
theorem RegisteredExcept.removeCaptureSources
    (registered : worker.RegisteredExcept exempt) :
    worker.removeCaptureSources.RegisteredExcept exempt := by
  refine ⟨?_, ?_, ?_, registered.exemptIssued⟩
  · exact registered.distinct.sublist ((List.filter_sublist.trans List.filter_sublist).map _)
  · exact fun source member => registered.issued source (mem_removeCaptureSources.mp member).1
  · intro source member different
    obtain ⟨old, notFrame, notEvent⟩ := mem_removeCaptureSources.mp member
    have kept := registered.kept source old different
    obtain ⟨id, callback⟩ := source
    cases callback with
    | frame => exact absurd kept notFrame
    | event => exact absurd kept notEvent
    | stats => exact kept
    | recover => exact kept
    | heartbeat => exact kept
    | control => exact kept

/-- A worker without a source for the frame and the event callback gets one for each. -/
theorem RegisteredExcept.addCaptureSources
    (registered : worker.RegisteredExcept exempt)
    (noFrame : worker.frameTimer = 0)
    (noEvent : worker.eventTimer = 0) :
    worker.addCaptureSources.RegisteredExcept exempt := by
  have sources : worker.addCaptureSources.sources =
      worker.sources ++ [(worker.nextSourceId, .frame), (worker.nextSourceId + 1, .event)] := by
    simp [VfmcapWorker.addCaptureSources, addSource]
  have grows : worker.addCaptureSources.nextSourceId = worker.nextSourceId + 2 := rfl
  have exemptIssued := registered.exemptIssued
  refine ⟨?_, ?_, ?_, by omega⟩
  · rw [sources, List.map_append, List.nodup_append]
    refine ⟨registered.distinct, by simp, ?_⟩
    intro old oldMember new newMember same
    obtain ⟨source, member, rfl⟩ := List.mem_map.mp oldMember
    have issued := (registered.issued source member).2
    simp only [List.map_cons, List.map_nil, List.mem_cons, List.not_mem_nil, or_false] at newMember
    omega
  · intro source member
    rw [sources, List.mem_append] at member
    rcases member with old | new
    · have issued := registered.issued source old
      omega
    · simp only [List.mem_cons, List.not_mem_nil, or_false] at new
      rcases new with rfl | rfl
      · exact ⟨by omega, by omega⟩
      · exact ⟨by omega, by omega⟩
  · intro source member different
    rw [sources, List.mem_append] at member
    rcases member with old | new
    · have notFrame := registered.no_source .frame noFrame old different
      have notEvent := registered.no_source .event noEvent old different
      have kept := registered.kept source old different
      obtain ⟨id, callback⟩ := source
      cases callback with
      | frame => exact absurd rfl notFrame
      | event => exact absurd rfl notEvent
      | stats => exact kept
      | recover => exact kept
      | heartbeat => exact kept
      | control => exact kept
    · simp only [List.mem_cons, List.not_mem_nil, or_false] at new
      rcases new with rfl | rfl
      · rfl
      · rfl

/-- A worker without a recovery timer gets one. -/
theorem RegisteredExcept.startRecoverTimer
    (registered : worker.RegisteredExcept exempt)
    (noTimer : worker.recoverTimer = 0) :
    worker.startRecoverTimer.RegisteredExcept exempt ∧
      worker.startRecoverTimer.Armed .recover ∧
      worker.startRecoverTimer.recoverTimer ≠ exempt := by
  have started : worker.startRecoverTimer =
      { worker.addSource .recover with recoverTimer := worker.nextSourceId } := by
    rw [VfmcapWorker.startRecoverTimer, if_pos noTimer]
  have exemptIssued := registered.exemptIssued
  rw [started]
  refine ⟨⟨?_, ?_, ?_, Nat.lt_succ_of_lt exemptIssued⟩, ?_, Nat.ne_of_gt exemptIssued⟩
  · rw [addSource, List.map_append, List.nodup_append]
    refine ⟨registered.distinct, by simp, ?_⟩
    intro old oldMember new newMember same
    obtain ⟨source, member, rfl⟩ := List.mem_map.mp oldMember
    have issued := (registered.issued source member).2
    simp only [List.map_cons, List.map_nil, List.mem_singleton] at newMember
    omega
  · intro source member
    rcases List.mem_append.mp member with old | new
    · have issued := registered.issued source old
      exact ⟨issued.1, Nat.lt_succ_of_lt issued.2⟩
    · rw [List.mem_singleton.mp new]
      exact ⟨Nat.zero_lt_of_lt exemptIssued, Nat.lt_succ_self _⟩
  · intro source member different
    rcases List.mem_append.mp member with old | new
    · have notRecover := registered.no_source .recover noTimer old different
      have kept := registered.kept source old different
      obtain ⟨id, callback⟩ := source
      cases callback with
      | recover => exact absurd rfl notRecover
      | frame => exact kept
      | event => exact kept
      | stats => exact kept
      | heartbeat => exact kept
      | control => exact kept
    · rw [List.mem_singleton.mp new]
      rfl
  · exact List.mem_append_right _ (List.mem_singleton.mpr rfl)

/-- Counters, histories and leases in use decide nothing. -/
theorem SoundExcept.counted
    (sound : worker.SoundExcept exempt)
    {leases : VfmcapLeases}
    {frameCounter framesDropped : UInt64}
    {consecutiveNosig lowFpsWindows : UInt32}
    {sendWouldBlock sendErrors leaseFullDrops : UInt64}
    {captured : Nat}
    {handedBack withdrawn : List Nat}
    (none : worker.hasContext = false → ∀ index, leases index = none) :
    { worker with
      leases := leases
      frameCounter := frameCounter
      framesDropped := framesDropped
      consecutiveNosig := consecutiveNosig
      lowFpsWindows := lowFpsWindows
      sendWouldBlock := sendWouldBlock
      sendErrors := sendErrors
      leaseFullDrops := leaseFullDrops
      captured := captured
      handedBack := handedBack
      withdrawn := withdrawn }.SoundExcept exempt where
  registered := ⟨sound.registered.distinct, sound.registered.issued, sound.registered.kept,
    sound.registered.exemptIssued⟩
  leases := none
  mode alive :=
    (sound.mode alive).imp
      (fun isOpen => ⟨isOpen.context, isOpen.notRecovering, isOpen.frameArmed,
        isOpen.eventArmed, isOpen.noRecoverTimer⟩)
      (fun recovers => ⟨recovers.noContext, recovers.recovering, recovers.recoverArmed,
        recovers.noCaptureTimer, recovers.unstable⟩)

/-- A worker that is asked to shut down has no mode. -/
theorem SoundExcept.requestShutdown
    (sound : worker.SoundExcept exempt) :
    worker.requestShutdown.SoundExcept exempt where
  registered := ⟨sound.registered.distinct, sound.registered.issued, sound.registered.kept,
    sound.registered.exemptIssued⟩
  leases := sound.leases
  mode alive := absurd alive (by simp [VfmcapWorker.requestShutdown])

/-- An armed source may become exempt if the worker is asked to shut down. -/
theorem SoundExcept.exempt_of_shuttingDown
    {worker : VfmcapWorker}
    (sound : worker.SoundExcept 0)
    {callback : VfmcapCallback}
    (armed : worker.Armed callback)
    (down : worker.shuttingDown = true) :
    worker.SoundExcept (worker.sourceOf callback) where
  registered := sound.registered.forget armed rfl rfl fun _ _ => rfl
  leases := sound.leases
  mode alive := absurd (alive.symm.trans down) (by decide)

/-- Once the exempt source is removed there is none. -/
theorem SoundExcept.removeSource
    (sound : worker.SoundExcept exempt) :
    (worker.removeSource exempt).SoundExcept 0 := by
  have armed : ∀ callback, worker.Armed callback → worker.sourceOf callback ≠ exempt →
      (worker.removeSource exempt).Armed callback ∧ worker.sourceOf callback ≠ 0 := by
    intro callback armed different
    refine ⟨List.mem_filter.mpr ⟨armed, decide_eq_true different⟩, ?_⟩
    exact Nat.ne_of_gt (sound.registered.issued _ armed).1
  refine ⟨⟨?_, ?_, ?_, ?_⟩, sound.leases, ?_⟩
  · exact sound.registered.distinct.sublist (List.filter_sublist.map _)
  · exact fun source member => sound.registered.issued source (List.mem_filter.mp member).1
  · intro source member _
    obtain ⟨old, different⟩ := List.mem_filter.mp member
    exact sound.registered.kept source old (of_decide_eq_true different)
  · exact Nat.zero_lt_of_lt sound.registered.exemptIssued
  · intro alive
    refine (sound.mode alive).imp ?_ ?_
    · intro isOpen
      refine ⟨isOpen.context, isOpen.notRecovering, ?_, ?_, isOpen.noRecoverTimer⟩
      · exact fun serverOpen => armed .frame (isOpen.frameArmed serverOpen).1
          (isOpen.frameArmed serverOpen).2
      · exact armed .event isOpen.eventArmed.1 isOpen.eventArmed.2
    · intro recovers
      exact ⟨recovers.noContext, recovers.recovering,
        armed .recover recovers.recoverArmed.1 recovers.recoverArmed.2,
        recovers.noCaptureTimer, recovers.unstable⟩

/-- A worker that has closed its capture recovers once its timer runs. -/
theorem startRecoverTimer_sound
    (registered : worker.RegisteredExcept exempt)
    (noTimer : worker.recoverTimer = 0)
    (noContext : worker.hasContext = false)
    (recovering : worker.recovering = true)
    (noLease : ∀ index, worker.leases index = none)
    (noCaptureTimer : worker.frameTimer = 0 ∧ worker.eventTimer = 0)
    (unstable : worker.stableCount < vfmcapStabilityCheckCount) :
    worker.startRecoverTimer.SoundExcept exempt := by
  obtain ⟨timerRegistered, armed, different⟩ := registered.startRecoverTimer noTimer
  refine ⟨timerRegistered, ?_, fun _ => .inr ⟨?_, ?_, ⟨armed, different⟩, ?_, ?_⟩⟩
  all_goals rw [VfmcapWorker.startRecoverTimer, if_pos noTimer]
  · exact fun _ => noLease
  · exact noContext
  · exact recovering
  · exact noCaptureTimer
  · exact unstable

/-- A worker that loses its capture recovers. -/
theorem beginRecovery_sound
    (registered : worker.RegisteredExcept exempt)
    (leases : worker.hasContext = false → ∀ index, worker.leases index = none)
    (notRecovering : worker.recovering = false)
    (noTimer : worker.recoverTimer = 0) :
    worker.beginRecovery.SoundExcept exempt := by
  unfold beginRecovery
  split
  next stays =>
    rw [notRecovering, Bool.false_or] at stays
    exact ⟨registered, leases, fun alive => absurd (alive.symm.trans stays) (by decide)⟩
  next =>
    obtain ⟨handedBack, withdrawn, closed⟩ :=
      closeCurrent_keeps
        { worker with
          recovering := true
          consecutiveNosig := 0
          lowFpsWindows := 0
          stableCount := 0
          stableWidth := 0
          stableHeight := 0 }.removeCaptureSources leases
    have removed := registered.removeCaptureSources
    simp only [closed]
    exact startRecoverTimer_sound
      ⟨removed.distinct, removed.issued, removed.kept, removed.exemptIssued⟩
      noTimer rfl rfl (fun _ => rfl) ⟨rfl, rfl⟩
      (show (0 : UInt32) < vfmcapStabilityCheckCount by decide)

/-- New sources for the frame and the event callback make a worker with a context capture. -/
theorem addCaptureSources_sound
    (registered : worker.RegisteredExcept exempt)
    (noFrame : worker.frameTimer = 0)
    (noEvent : worker.eventTimer = 0)
    (context : worker.hasContext = true)
    (notRecovering : worker.recovering = false)
    (noTimer : worker.recoverTimer = 0) :
    worker.addCaptureSources.SoundExcept exempt := by
  have exemptIssued := registered.exemptIssued
  have sources : worker.addCaptureSources.sources =
      worker.sources ++ [(worker.nextSourceId, .frame), (worker.nextSourceId + 1, .event)] := by
    simp [VfmcapWorker.addCaptureSources, addSource]
  refine ⟨registered.addCaptureSources noFrame noEvent, ?_, fun _ => .inl ?_⟩
  · exact fun noContext => absurd (context.symm.trans noContext) (by decide)
  · refine ⟨context, notRecovering, fun _ => ⟨?_, ?_⟩, ⟨?_, ?_⟩, noTimer⟩
    · rw [Armed, sources]
      exact List.mem_append_right _ (List.mem_cons_self ..)
    · exact Nat.ne_of_gt exemptIssued
    · rw [Armed, sources]
      exact List.mem_append_right _ (List.mem_cons_of_mem _ (List.mem_cons_self ..))
    · exact Nat.ne_of_gt (Nat.lt_succ_of_lt exemptIssued)

/-! ## Callbacks -/

/-- Which source is about to be removed after the callback of a source. -/
def exemptAfter
    (id : Nat)
    (stays : Bool) : Nat :=
  if stays then 0 else id

section

variable (sound : worker.SoundExcept 0)
include sound

theorem restartNow_sound
    (opens : Bool) :
    (worker.restartNow opens).SoundExcept 0 := by
  unfold restartNow
  split
  next => exact sound
  next moves =>
    rw [Bool.or_eq_true, not_or, Bool.not_eq_true, Bool.not_eq_true] at moves
    obtain ⟨notRecovering, alive⟩ := moves
    have noTimer : worker.recoverTimer = 0 := by
      rcases sound.mode alive with isOpen | recovers
      · exact isOpen.noRecoverTimer
      · exact absurd (recovers.recovering.symm.trans notRecovering) (by decide)
    have removed := sound.registered.removeCaptureSources
    obtain ⟨handedBack, withdrawn, closed⟩ :=
      closeCurrent_keeps worker.removeCaptureSources sound.leases
    rw [closed]
    cases opens with
    | true =>
        exact addCaptureSources_sound
          ⟨removed.distinct, removed.issued, removed.kept, removed.exemptIssued⟩
          rfl rfl rfl notRecovering noTimer
    | false =>
        exact beginRecovery_sound
          ⟨removed.distinct, removed.issued, removed.kept, removed.exemptIssued⟩
          (fun _ _ => rfl) notRecovering noTimer

theorem statsTimeout_sound
    (armed : worker.Armed .stats)
    (slow opens : Bool) :
    (worker.statsTimeout slow opens).2.SoundExcept
      (exemptAfter worker.statsTimer (worker.statsTimeout slow opens).1) := by
  unfold statsTimeout
  split
  next down => exact sound.exempt_of_shuttingDown armed down
  next =>
    split
    next =>
      dsimp only
      split
      next => exact restartNow_sound (sound.counted sound.leases) opens
      next => exact sound.counted sound.leases
    next => exact sound.counted sound.leases

/-- A worker captures while the source of the frame or the event callback lives. -/
theorem SoundExcept.captures
    (alive : worker.shuttingDown = false)
    (armed : worker.Armed .frame ∨ worker.Armed .event) :
    worker.OpenExcept 0 := by
  refine (sound.mode alive).resolve_right fun recovers => ?_
  rcases armed with frame | event
  · exact Nat.ne_of_gt (sound.registered.issued _ frame).1 recovers.noCaptureTimer.1
  · exact Nat.ne_of_gt (sound.registered.issued _ event).1 recovers.noCaptureTimer.2

theorem eventTimeout_sound
    (armed : worker.Armed .event)
    (polled : PollOutcome) :
    (worker.eventTimeout polled).2.SoundExcept
      (exemptAfter worker.eventTimer (worker.eventTimeout polled).1) := by
  unfold eventTimeout
  split
  next down => exact sound.exempt_of_shuttingDown armed down
  next alive =>
    rw [Bool.not_eq_true] at alive
    have isOpen := sound.captures alive (.inr armed)
    rw [if_neg (by simp [isOpen.notRecovering, isOpen.context])]
    have lost : { worker with eventTimer := 0 }.beginRecovery.SoundExcept worker.eventTimer := by
      refine beginRecovery_sound ?_ sound.leases isOpen.notRecovering isOpen.noRecoverTimer
      refine sound.registered.forget armed rfl rfl fun other different => ?_
      cases other <;> first | rfl | exact absurd rfl different
    cases polled with
    | sourceChange => exact lost
    | nosig => exact lost
    | nothing => exact sound
    | error => exact sound
    | other => exact sound

end

/-- A worker that captures has a lease whenever it needs one. -/
theorem SoundExcept.countedOpen
    (sound : worker.SoundExcept exempt)
    (context : worker.hasContext = true)
    {leases : VfmcapLeases}
    {frameCounter framesDropped : UInt64}
    {consecutiveNosig : UInt32}
    {sendWouldBlock sendErrors leaseFullDrops : UInt64}
    {captured : Nat}
    {handedBack : List Nat} :
    { worker with
      leases := leases
      frameCounter := frameCounter
      framesDropped := framesDropped
      consecutiveNosig := consecutiveNosig
      sendWouldBlock := sendWouldBlock
      sendErrors := sendErrors
      leaseFullDrops := leaseFullDrops
      captured := captured
      handedBack := handedBack }.SoundExcept exempt :=
  sound.counted fun noContext => absurd (context.symm.trans noContext) (by decide)

/-- The frame callback may be given up once the server has closed the connection. -/
theorem SoundExcept.giveUpFrame
    (sound : worker.SoundExcept 0)
    (armed : worker.Armed .frame)
    (isOpen : worker.OpenExcept 0)
    (closed : worker.serverOpen = false) :
    worker.SoundExcept worker.frameTimer where
  registered := sound.registered.forget armed rfl rfl fun _ _ => rfl
  leases := sound.leases
  mode _ := by
    refine .inl ⟨isOpen.context, isOpen.notRecovering, ?_, ⟨isOpen.eventArmed.1, ?_⟩,
      isOpen.noRecoverTimer⟩
    · exact fun serverOpen => absurd (serverOpen.symm.trans closed) (by decide)
    · intro same
      have source := sound.registered.same_source isOpen.eventArmed.1 armed same
      exact nomatch (congrArg Prod.snd source : VfmcapCallback.event = .frame)

theorem afterSend_sound
    (sound : worker.SoundExcept 0)
    (armed : worker.Armed .frame)
    (alive : worker.shuttingDown = false)
    (index : Fin vfmcapMaxInFlight)
    (send : SendOutcome)
    (allowed : send = .pipe → worker.serverOpen = false) :
    (worker.afterSend index send).2.SoundExcept
      (exemptAfter worker.frameTimer (worker.afterSend index send).1) := by
  have isOpen := sound.captures alive (.inl armed)
  have released : ∀ { sendWouldBlock sendErrors framesDropped : UInt64 } { exempt : Nat },
      worker.SoundExcept exempt →
        ({ worker with
          sendWouldBlock := sendWouldBlock
          sendErrors := sendErrors
          framesDropped := framesDropped }.releaseLeaseIndex index).SoundExcept exempt := by
    intro sendWouldBlock sendErrors framesDropped exempt sound
    obtain ⟨handedBack, same⟩ :=
      { worker with
        sendWouldBlock := sendWouldBlock
        sendErrors := sendErrors
        framesDropped := framesDropped }.releaseLeaseIndex_keeps index
    rw [same]
    exact sound.countedOpen isOpen.context
  cases send with
  | ok => exact sound.countedOpen isOpen.context
  | wouldBlock => exact released sound
  | pipe => exact released (sound.giveUpFrame armed isOpen (allowed rfl))
  | error => exact released sound

theorem frameTimeout_sound
    (sound : worker.SoundExcept 0)
    (armed : worker.Armed .frame)
    (acquire : AcquireOutcome)
    (send : SendOutcome)
    (allowed : send = .pipe → worker.serverOpen = false) :
    (worker.frameTimeout acquire send).2.SoundExcept
      (exemptAfter worker.frameTimer (worker.frameTimeout acquire send).1) := by
  unfold frameTimeout
  split
  next down => exact sound.exempt_of_shuttingDown armed down
  next alive =>
    rw [Bool.not_eq_true] at alive
    have isOpen := sound.captures alive (.inl armed)
    have context := isOpen.context
    rw [if_neg (by simp [isOpen.notRecovering, isOpen.context])]
    split
    next => exact sound
    next =>
      cases acquire with
      | timeout => exact sound.countedOpen context
      | error => exact sound
      | nosig =>
          dsimp only
          split
          next =>
            refine beginRecovery_sound ?_ sound.leases isOpen.notRecovering isOpen.noRecoverTimer
            refine sound.registered.forget armed rfl rfl fun other different => ?_
            cases other <;> first | rfl | exact absurd rfl different
          next => exact sound.countedOpen context
      | frame hasDmabuf split =>
          dsimp only
          split
          next => exact sound.countedOpen context
          next =>
            split
            next => exact sound.countedOpen context
            next =>
              split
              next index stored kept =>
                obtain ⟨found, _, same⟩ := Option.map_eq_some_iff.mp kept
                obtain ⟨rfl, rfl⟩ := Prod.mk.inj same
                refine afterSend_sound ?_ ?_ ?_ _ send allowed
                · exact sound.countedOpen context
                · exact armed
                · exact alive
              next => exact sound.countedOpen context

/-- A look at the signal leaves a recovering worker as it was but for the resolution that is
stable so far. -/
theorem noteResolution_keeps
    (worker : VfmcapWorker)
    (resolution : Option Resolution) :
    ∃ stableCount stableWidth stableHeight, worker.noteResolution resolution =
      { worker with
        stableCount := stableCount
        stableWidth := stableWidth
        stableHeight := stableHeight } := by
  cases resolution with
  | none => exact ⟨_, _, _, rfl⟩
  | some found =>
      unfold noteResolution
      dsimp only
      split
      next => exact ⟨_, _, _, rfl⟩
      next => exact ⟨_, _, _, rfl⟩

/-- Without a resolution none is stable. -/
theorem noteResolution_none
    (worker : VfmcapWorker) :
    (worker.noteResolution none).stableCount = 0 :=
  rfl

/-- A worker keeps recovering while no signal is stable. -/
theorem SoundExcept.unstable
    {worker : VfmcapWorker}
    (sound : worker.SoundExcept 0)
    {stableCount stableWidth stableHeight : UInt32}
    (unstable : stableCount < vfmcapStabilityCheckCount) :
    { worker with
      stableCount := stableCount
      stableWidth := stableWidth
      stableHeight := stableHeight }.SoundExcept 0 where
  registered := ⟨sound.registered.distinct, sound.registered.issued, sound.registered.kept,
    sound.registered.exemptIssued⟩
  leases := sound.leases
  mode alive :=
    (sound.mode alive).imp
      (fun isOpen => ⟨isOpen.context, isOpen.notRecovering, isOpen.frameArmed,
        isOpen.eventArmed, isOpen.noRecoverTimer⟩)
      (fun recovers => ⟨recovers.noContext, recovers.recovering, recovers.recoverArmed,
        recovers.noCaptureTimer, unstable⟩)

section

variable (sound : worker.SoundExcept 0)
include sound

/-- A worker recovers while the source of the recovery timer lives. -/
theorem SoundExcept.recovers
    (alive : worker.shuttingDown = false)
    (armed : worker.Armed .recover) :
    worker.RecoveringExcept 0 := by
  refine (sound.mode alive).resolve_left fun isOpen => ?_
  exact Nat.ne_of_gt (sound.registered.issued _ armed).1 isOpen.noRecoverTimer

theorem recoverTimeout_sound
    (armed : worker.Armed .recover)
    (resolution : Option Resolution)
    (opens : Bool) :
    (worker.recoverTimeout resolution opens).2.SoundExcept
      (exemptAfter worker.recoverTimer (worker.recoverTimeout resolution opens).1) := by
  unfold recoverTimeout
  split
  next down =>
    refine ⟨?_, sound.leases, fun alive => absurd (alive.symm.trans down) (by decide)⟩
    refine sound.registered.forget armed rfl rfl fun other different => ?_
    cases other <;> first | rfl | exact absurd rfl different
  next alive =>
    rw [Bool.not_eq_true] at alive
    have recovers := sound.recovers alive armed
    obtain ⟨count, width, height, noted⟩ := worker.noteResolution_keeps resolution
    dsimp only
    split
    next waits =>
      have unstable : (worker.noteResolution resolution).stableCount <
          vfmcapStabilityCheckCount := by
        rcases waits with unreadable | unstable
        · rw [Option.isNone_iff_eq_none.mp unreadable, noteResolution_none]
          decide
        · exact unstable
      rw [noted] at unstable ⊢
      exact sound.unstable unstable
    next stable =>
      rw [noted]
      cases opens with
      | true =>
          refine addCaptureSources_sound ?_ recovers.noCaptureTimer.1 recovers.noCaptureTimer.2
            rfl rfl rfl
          refine sound.registered.forget armed rfl rfl fun other different => ?_
          cases other <;> first | rfl | exact absurd rfl different
      | false =>
          have waits := @SoundExcept.unstable _ sound 0 width height (by decide)
          rw [recovers.noContext] at waits
          exact waits

theorem controlMsg_sound
    (armed : worker.Armed .control)
    (hangUp : Bool)
    (messages : List ControlMessage)
    (ends : Bool) :
    (worker.controlMsg hangUp messages ends).2.SoundExcept
      (exemptAfter worker.socketWatch (worker.controlMsg hangUp messages ends).1) := by
  have handled : (worker.controlMessages messages).SoundExcept 0 ∧
      (worker.controlMessages messages).socketWatch = worker.socketWatch ∧
      (worker.controlMessages messages).Armed .control := by
    obtain ⟨leases, handedBack, shuttingDown, same, down, none⟩ :=
      controlMessages_keeps messages worker
    rw [same]
    refine ⟨⟨?_, ?_, ?_⟩, rfl, armed⟩
    · exact ⟨sound.registered.distinct, sound.registered.issued, sound.registered.kept,
        sound.registered.exemptIssued⟩
    · exact fun noContext index => none index (sound.leases noContext index)
    · intro alive
      have before : worker.shuttingDown = false := by
        cases wasDown : worker.shuttingDown with
        | false => rfl
        | true => exact absurd (alive.symm.trans (down wasDown)) (by decide)
      exact (sound.mode before).imp
        (fun isOpen => ⟨isOpen.context, isOpen.notRecovering, isOpen.frameArmed,
          isOpen.eventArmed, isOpen.noRecoverTimer⟩)
        (fun recovers => ⟨recovers.noContext, recovers.recovering, recovers.recoverArmed,
          recovers.noCaptureTimer, recovers.unstable⟩)
  obtain ⟨handledSound, watch, handledArmed⟩ := handled
  unfold controlMsg
  split
  next => exact @SoundExcept.exempt_of_shuttingDown _ sound.requestShutdown .control armed rfl
  next =>
    split
    next =>
      rw [← watch]
      exact @SoundExcept.exempt_of_shuttingDown _ handledSound.requestShutdown .control
        handledArmed rfl
    next => exact handledSound

/-- A callback leaves a sound worker, except for its source if that does not stay. -/
theorem dispatch_sound
    {callback : VfmcapCallback}
    (armed : worker.Armed callback)
    {input : VfmcapInput}
    (allowed : worker.allows input = true)
    {result : Bool × VfmcapWorker}
    (dispatched : worker.dispatch callback input = some result) :
    result.2.SoundExcept (exemptAfter (worker.sourceOf callback) result.1) := by
  cases callback <;> cases input <;> cases dispatched
  case frame.frame acquire send =>
    refine frameTimeout_sound sound armed acquire send fun pipe => ?_
    rw [pipe] at allowed
    simpa [allows] using allowed
  case event.event polled => exact eventTimeout_sound sound armed polled
  case stats.stats slow opens => exact statsTimeout_sound sound armed slow opens
  case recover.recover resolution opens => exact recoverTimeout_sound sound armed resolution opens
  case heartbeat.heartbeat =>
    cases down : worker.shuttingDown with
    | false => exact sound
    | true => exact sound.exempt_of_shuttingDown armed down
  case control.control hangUp messages ends =>
    exact controlMsg_sound sound armed hangUp messages ends

/-- The callback that the main loop calls is armed. -/
theorem SoundExcept.armed
    {source : Nat × VfmcapCallback}
    (member : source ∈ worker.sources) :
    source.1 = worker.sourceOf source.2 ∧ worker.Armed source.2 := by
  have kept := sound.registered.kept source member
    (Nat.ne_of_gt (sound.registered.issued source member).1)
  refine ⟨kept, ?_⟩
  rw [Armed, ← kept]
  exact member

end

/-- What the main loop does when it calls a callback. -/
theorem next_fire
    {id : Nat}
    {input : VfmcapInput}
    (stepped : worker.next (.fire id input) = some after) :
    ∃ callback result, (id, callback) ∈ worker.sources ∧ worker.allows input = true ∧
      worker.dispatch callback input = some result ∧
      after = if result.1 then result.2 else result.2.removeSource id := by
  obtain ⟨result, dispatched, same⟩ := Option.map_eq_some_iff.mp stepped
  obtain ⟨source, found, dispatched⟩ := Option.bind_eq_some_iff.mp dispatched
  have member := List.mem_of_find?_eq_some found
  have isId : source.1 = id := by simpa using List.find?_some found
  split at dispatched
  next allowed =>
    refine ⟨source.2, result, ?_, allowed, dispatched, same.symm⟩
    rw [← isId]
    exact member
  next => cases dispatched

theorem next_sound
    (sound : worker.SoundExcept 0)
    {event : VfmcapEvent}
    (stepped : worker.next event = some after) :
    after.SoundExcept 0 := by
  cases event with
  | fire id input =>
      obtain ⟨callback, result, member, allowed, dispatched, rfl⟩ := next_fire stepped
      obtain ⟨isSource, armed⟩ := sound.armed member
      have left := dispatch_sound sound armed allowed dispatched
      rw [← isSource] at left
      cases stays : result.1 with
      | true =>
          rw [stays] at left
          exact left
      | false =>
          rw [stays] at left
          exact left.removeSource
  | serverCloses =>
      cases stepped
      refine ⟨⟨sound.registered.distinct, sound.registered.issued, sound.registered.kept,
        sound.registered.exemptIssued⟩, sound.leases, fun alive => ?_⟩
      exact (sound.mode alive).imp
        (fun isOpen => ⟨isOpen.context, isOpen.notRecovering,
          (fun serverOpen => nomatch serverOpen), isOpen.eventArmed, isOpen.noRecoverTimer⟩)
        (fun recovers => ⟨recovers.noContext, recovers.recovering, recovers.recoverArmed,
          recovers.noCaptureTimer, recovers.unstable⟩)
  | signal =>
      cases stepped
      exact sound.requestShutdown
  | finish =>
      simp only [next] at stepped
      split at stepped
      next down =>
        cases stepped
        obtain ⟨handedBack, withdrawn, closed⟩ :=
          closeCurrent_keeps
            { worker with
              frameTimer := 0
              eventTimer := 0
              statsTimer := 0
              recoverTimer := 0
              heartbeatTimer := 0
              socketWatch := 0
              sources := [] } sound.leases
        rw [finish, closed]
        refine ⟨⟨List.nodup_nil, by simp, by simp, sound.registered.exemptIssued⟩,
          fun _ _ => rfl, ?_⟩
        exact fun alive => absurd (alive.symm.trans down) (by decide)
      next => cases stepped

/-- Every worker that runs is sound. -/
theorem sound_of_reachable
    (reachable : system.Reachable worker) :
    worker.SoundExcept 0 := by
  refine @System.ReachableWhen.invariant _ _ system _ (fun worker => worker.SoundExcept 0)
    ?_ ?_ _ reachable
  · rintro _ rfl
    refine ⟨⟨by decide, by decide, by decide, by decide⟩, fun _ _ => rfl, fun _ => .inl ?_⟩
    exact ⟨rfl, rfl, fun _ => by decide, by decide, rfl⟩
  · intro state label next sound _ stepped
    exact next_sound sound stepped

/-! ## Runs of a living worker -/

/-- The connection to the server is open and shutdown was not requested. -/
structure Alive (worker : VfmcapWorker) : Prop where
  serverOpen : worker.serverOpen = true
  notShuttingDown : worker.shuttingDown = false

instance (worker : VfmcapWorker) : Decidable worker.Alive :=
  decidable_of_iff (worker.serverOpen = true ∧ worker.shuttingDown = false)
    ⟨fun ⟨serverOpen, notShuttingDown⟩ => ⟨serverOpen, notShuttingDown⟩,
      fun alive => ⟨alive.serverOpen, alive.notShuttingDown⟩⟩

theorem SoundExcept.isOpen
    (sound : worker.SoundExcept 0)
    (alive : worker.Alive)
    (notRecovering : worker.recovering = false) :
    worker.IsOpen := by
  have opens := (sound.mode alive.notShuttingDown).resolve_right fun recovers =>
    absurd (recovers.recovering.symm.trans notRecovering) (by decide)
  refine ⟨opens.context, opens.notRecovering, (opens.frameArmed alive.serverOpen).1,
    opens.eventArmed.1, fun source member => ?_⟩
  exact sound.registered.no_source .recover opens.noRecoverTimer member
    (Nat.ne_of_gt (sound.registered.issued source member).1)

theorem SoundExcept.isRecovering
    (sound : worker.SoundExcept 0)
    (alive : worker.Alive)
    (recovering : worker.recovering = true) :
    worker.RecoveringExcept 0 :=
  (sound.mode alive.notShuttingDown).resolve_left fun opens =>
    absurd (opens.notRecovering.symm.trans recovering) (by decide)

/-- No callback has two sources. -/
theorem SoundExcept.callbacks_nodup
    (sound : worker.SoundExcept 0) :
    (worker.sources.map Prod.snd).Nodup := by
  refine List.Nodup.map_on ?_ (List.Nodup.of_map _ sound.registered.distinct)
  intro left leftMember right rightMember same
  refine sound.registered.same_source leftMember rightMember ?_
  rw [(sound.armed leftMember).1, (sound.armed rightMember).1, same]

/-- Whether the recovery timer looks at the signal. -/
def VfmcapEvent.isCheck : VfmcapEvent → Bool
  | .fire _ (.recover _ _) => true
  | _ => false

/-- Every look at the signal finds one resolution, and the capture can be opened. -/
def ChecksFind
    (found : Resolution)
    (events : List VfmcapEvent) : Prop :=
  ∀ id resolution opens, .fire id (.recover resolution opens) ∈ events →
    resolution = some found ∧ opens = true

/-- How often in a row the resolution was found so far. -/
def stableChecks
    (worker : VfmcapWorker)
    (found : Resolution) : Nat :=
  if found.width = worker.stableWidth ∧ found.height = worker.stableHeight then
    worker.stableCount.toNat
  else 0

/-- A look that finds the resolution is one more. -/
theorem noteResolution_stableChecks
    (unstable : worker.stableCount < vfmcapStabilityCheckCount)
    (found : Resolution) :
    (worker.noteResolution (some found)).stableCount.toNat = worker.stableChecks found + 1 ∧
      (worker.noteResolution (some found)).stableChecks found =
        worker.stableChecks found + 1 := by
  have bound : worker.stableCount.toNat < 3 := UInt32.lt_iff_toNat_lt.mp unstable
  simp only [noteResolution]
  split
  next same =>
    have counted : (worker.stableCount + 1).toNat = worker.stableCount.toNat + 1 := by
      rw [UInt32.toNat_add, UInt32.toNat_one, Nat.mod_eq_of_lt (by omega)]
    simp only [stableChecks, if_pos same]
    exact ⟨counted, counted⟩
  next different =>
    simp only [stableChecks, if_neg different, and_self, if_true]
    rfl

/-- The recovery timer waits for one more look, or capture runs again. -/
theorem recoverTimeout_check
    (alive : worker.Alive)
    (found : Resolution) :
    (worker.recoverTimeout (some found) true = (true, worker.noteResolution (some found)) ∧
        (worker.noteResolution (some found)).stableCount < vfmcapStabilityCheckCount) ∨
      ((worker.recoverTimeout (some found) true).1 = false ∧
        (worker.recoverTimeout (some found) true).2.Alive ∧
        (worker.recoverTimeout (some found) true).2.recovering = false) := by
  obtain ⟨count, width, height, noted⟩ := worker.noteResolution_keeps (some found)
  unfold recoverTimeout
  rw [if_neg (by simp [alive.notShuttingDown])]
  dsimp only
  split
  next waits => exact .inl ⟨rfl, waits.resolve_left (by simp)⟩
  next =>
    rw [noted]
    exact .inr ⟨rfl, ⟨alive.serverOpen, alive.notShuttingDown⟩, rfl⟩

/-- The recovery timer of a recovering worker finds the resolution once more, and capture runs
again when that is often enough. -/
theorem next_check
    (sound : worker.SoundExcept 0)
    (alive : worker.Alive)
    (recovering : worker.recovering = true)
    {id : Nat}
    {found : Resolution}
    (stepped : worker.next (.fire id (.recover (some found) true)) = some after) :
    (after.recovering = true ∧ after.stableCount < vfmcapStabilityCheckCount ∧
        after.stableChecks found = worker.stableChecks found + 1) ∨
      (after.Alive ∧ after.recovering = false) := by
  have recovers := sound.isRecovering alive recovering
  obtain ⟨callback, result, _, _, dispatched, rfl⟩ := next_fire stepped
  cases callback <;> cases dispatched
  rcases recoverTimeout_check alive found with ⟨same, unstable⟩ | ⟨leaves, opened, captures⟩
  · obtain ⟨_, counted⟩ := noteResolution_stableChecks recovers.unstable found
    obtain ⟨count, width, height, noted⟩ := worker.noteResolution_keeps (some found)
    rw [same]
    refine .inl ⟨?_, unstable, counted⟩
    rw [noted]
    exact recovering
  · rw [leaves]
    exact .inr ⟨⟨opened.serverOpen, opened.notShuttingDown⟩, captures⟩

/-- What recovery goes by. -/
structure SameRecovery (worker after : VfmcapWorker) : Prop where
  recovering : after.recovering = worker.recovering
  stableCount : after.stableCount = worker.stableCount
  stableWidth : after.stableWidth = worker.stableWidth
  stableHeight : after.stableHeight = worker.stableHeight

/-- A callback other than the recovery timer's leaves a recovering worker as far as recovery
is concerned. -/
theorem next_other
    (sound : worker.SoundExcept 0)
    (alive : worker.Alive)
    (recovering : worker.recovering = true)
    {event : VfmcapEvent}
    (notCheck : event.isCheck = false)
    (stepped : worker.next event = some after) :
    worker.SameRecovery after := by
  have notShuttingDown := alive.notShuttingDown
  cases event with
  | serverCloses =>
      cases stepped
      exact ⟨rfl, rfl, rfl, rfl⟩
  | signal =>
      cases stepped
      exact ⟨rfl, rfl, rfl, rfl⟩
  | finish =>
      rw [next, if_neg (by simp [notShuttingDown])] at stepped
      cases stepped
  | fire id input =>
      obtain ⟨callback, result, member, allowed, dispatched, rfl⟩ := next_fire stepped
      obtain ⟨_, armed⟩ := sound.armed member
      have stays : ∀ result : Bool × VfmcapWorker, worker.SameRecovery result.2 →
          worker.SameRecovery (if result.1 then result.2 else result.2.removeSource id) := by
        intro result same
        split
        next => exact same
        next => exact ⟨same.recovering, same.stableCount, same.stableWidth, same.stableHeight⟩
      refine stays result ?_
      cases callback <;> cases input <;> cases dispatched
      case fire.frame.frame.refl =>
        have opens := sound.captures notShuttingDown (.inl armed)
        exact absurd (opens.notRecovering.symm.trans recovering) (by decide)
      case fire.event.event.refl =>
        have opens := sound.captures notShuttingDown (.inr armed)
        exact absurd (opens.notRecovering.symm.trans recovering) (by decide)
      case fire.recover.recover.refl => cases notCheck
      case fire.heartbeat.heartbeat.refl => exact ⟨rfl, rfl, rfl, rfl⟩
      case fire.stats.stats.refl slow opens =>
        unfold statsTimeout
        rw [if_neg (by simp [notShuttingDown])]
        split
        next =>
          dsimp only
          split
          next =>
            rw [restartNow, if_pos (by simp [recovering])]
            exact ⟨rfl, rfl, rfl, rfl⟩
          next => exact ⟨rfl, rfl, rfl, rfl⟩
        next => exact ⟨rfl, rfl, rfl, rfl⟩
      case fire.control.control.refl hangUp messages ends =>
        obtain ⟨leases, handedBack, shuttingDown, same, _⟩ := controlMessages_keeps messages worker
        unfold controlMsg
        rw [same]
        split
        next => exact ⟨rfl, rfl, rfl, rfl⟩
        next =>
          split
          next => exact ⟨rfl, rfl, rfl, rfl⟩
          next => exact ⟨rfl, rfl, rfl, rfl⟩

/-- Enough looks at a stable signal make a recovering worker capture. -/
theorem opens_of_checks
    {events : List VfmcapEvent}
    {worker final : VfmcapWorker}
    (sound : worker.SoundExcept 0)
    (recovering : worker.recovering = true)
    (unstable : worker.stableCount < vfmcapStabilityCheckCount)
    {found : Resolution}
    (checksFind : ChecksFind found events)
    (enough : vfmcapStabilityCheckCount.toNat ≤
      worker.stableChecks found + events.countP VfmcapEvent.isCheck)
    (runs : System.run (System.guarded (fun state _ => state.Alive) next) worker events =
      some final) :
    ∃ before rest opened, before ++ rest = events ∧
      System.run (System.guarded (fun state _ => state.Alive) next) worker before = some opened ∧
      opened.Alive ∧ opened.IsOpen := by
  induction events generalizing worker with
  | nil =>
      have bound : worker.stableCount.toNat < vfmcapStabilityCheckCount.toNat :=
        UInt32.lt_iff_toNat_lt.mp unstable
      have fewer : worker.stableChecks found ≤ worker.stableCount.toNat := by
        unfold stableChecks
        split
        next => exact Nat.le_refl _
        next => exact Nat.zero_le _
      rw [List.countP_nil] at enough
      omega
  | cons event later ih =>
      obtain ⟨after, stepped, laterRuns⟩ := Option.bind_eq_some_iff.mp runs
      have first := stepped
      unfold System.guarded at stepped
      split at stepped
      next alive =>
        have afterSound := next_sound sound stepped
        have laterFind : ChecksFind found later := fun id resolution opens member =>
          checksFind id resolution opens (List.mem_cons_of_mem _ member)
        have later : ∀ (recovering : after.recovering = true)
            (unstable : after.stableCount < vfmcapStabilityCheckCount)
            (enough : vfmcapStabilityCheckCount.toNat ≤
              after.stableChecks found + later.countP VfmcapEvent.isCheck),
            ∃ before rest opened, before ++ rest = event :: later ∧
              System.run (System.guarded (fun state _ => state.Alive) next) worker before =
                some opened ∧
              opened.Alive ∧ opened.IsOpen := by
          intro recovering unstable enough
          obtain ⟨before, rest, opened, rfl, beforeRuns, isOpen⟩ :=
            ih afterSound recovering unstable laterFind enough laterRuns
          refine ⟨event :: before, rest, opened, rfl, ?_, isOpen⟩
          rw [System.run, first]
          exact beforeRuns
        cases check : event.isCheck with
        | false =>
            have same := next_other sound alive recovering check stepped
            rw [List.countP_cons_of_neg (by simp [check])] at enough
            refine later (same.recovering.trans recovering) (same.stableCount ▸ unstable) ?_
            rw [stableChecks, same.stableCount, same.stableWidth, same.stableHeight]
            exact enough
        | true =>
            rw [List.countP_cons_of_pos check] at enough
            obtain ⟨id, resolution, opens, rfl⟩ : ∃ id resolution opens,
                event = .fire id (.recover resolution opens) := by
              cases event with
              | fire id input =>
                  cases input with
                  | recover resolution opens => exact ⟨id, resolution, opens, rfl⟩
                  | _ => cases check
              | _ => cases check
            obtain ⟨rfl, rfl⟩ := checksFind id resolution opens (List.mem_cons_self ..)
            rcases next_check sound alive recovering stepped with waits | opened
            · obtain ⟨recovering, unstable, counted⟩ := waits
              exact later recovering unstable (by omega)
            · refine ⟨[_], _, after, rfl, ?_, opened.1, afterSound.isOpen opened.1 opened.2⟩
              rw [System.run, first]
              rfl
      next => cases stepped

/-- A living capture worker captures or recovers and gives no callback two sources, and while
it recovers enough looks at a stable signal make it capture again. -/
theorem modes_of_reachable
    {worker : VfmcapWorker}
    (reachable : system.Reachable worker) :
    (worker.sources.map Prod.snd).Nodup ∧
      (worker.Alive → worker.IsOpen ∨ worker.IsRecovering) ∧
      ∀ (found : Resolution) (events : List VfmcapEvent) (final : VfmcapWorker),
        worker.Alive → worker.IsRecovering → ChecksFind found events →
        vfmcapStabilityCheckCount.toNat ≤ events.countP VfmcapEvent.isCheck →
        System.run (System.guarded (fun state _ => state.Alive) next) worker events =
          some final →
        ∃ before rest opened, before ++ rest = events ∧
          System.run (System.guarded (fun state _ => state.Alive) next) worker before =
            some opened ∧
          opened.Alive ∧ opened.IsOpen := by
  have sound := sound_of_reachable reachable
  refine ⟨sound.callbacks_nodup, ?_, ?_⟩
  · intro alive
    cases recovering : worker.recovering with
    | false => exact .inl (sound.isOpen alive recovering)
    | true =>
        have recovers := sound.isRecovering alive recovering
        exact .inr ⟨recovers.noContext, recovering, sound.leases recovers.noContext,
          recovers.recoverArmed.1⟩
  · intro found events final alive recovers checksFind enough runs
    have unstable := (sound.isRecovering alive recovers.recovering).unstable
    exact opens_of_checks sound recovers.recovering unstable checksFind
      (Nat.le_trans enough (Nat.le_add_left _ _)) runs

/-- The size of a signal that comes back. -/
def fullHd : Resolution where
  width := 1920
  height := 1080
  width_pos := by decide
  height_pos := by decide

/-- A signal that is lost and found again. -/
def lossAndReturn : List VfmcapEvent :=
  [.fire 2 (.frame (.frame true false) .ok),
    .fire 3 (.event .sourceChange),
    .fire 5 (.control false [.frameRelease 0] false)]

/-- The recovery timer finds the signal three times. -/
def threeChecks : List VfmcapEvent :=
  [.fire 6 (.recover (some fullHd) true),
    .fire 1 .heartbeat,
    .fire 6 (.recover (some fullHd) true),
    .fire 6 (.recover (some fullHd) true)]

theorem modes_lossAndReturn :
    ∃ worker final,
      System.run next started lossAndReturn = some worker ∧ worker.IsRecovering ∧
      System.run (System.guarded (fun state _ => state.Alive) next) worker threeChecks =
        some final ∧
      ∃ before rest opened, before ++ rest = threeChecks ∧
        System.run (System.guarded (fun state _ => state.Alive) next) worker before =
          some opened ∧
        opened.Alive ∧ opened.IsOpen := by
  have runs : ((System.run next started lossAndReturn).bind fun worker =>
      if worker.Alive ∧ worker.recovering = true then
        System.run (System.guarded (fun state _ => state.Alive) next) worker threeChecks
      else none).isSome := by
    decide +kernel
  obtain ⟨final, runs⟩ := Option.isSome_iff_exists.mp runs
  obtain ⟨worker, lost, runs⟩ := Option.bind_eq_some_iff.mp runs
  split at runs
  next recovers =>
    obtain ⟨alive, recovering⟩ := recovers
    obtain ⟨_, modes, opens⟩ :=
      modes_of_reachable (System.reachable_of_run (.initial rfl) lost)
    have recovers := (modes alive).resolve_left fun isOpen =>
      absurd (isOpen.notRecovering.symm.trans recovering) (by decide)
    refine ⟨worker, final, lost, recovers, runs, ?_⟩
    refine opens fullHd threeChecks final alive recovers ?_ (by decide) runs
    intro id resolution captures member
    simp only [threeChecks, List.mem_cons, VfmcapEvent.fire.injEq, VfmcapInput.recover.injEq,
      reduceCtorEq, and_false, List.not_mem_nil, or_false, false_or] at member
    rcases member with ⟨_, same⟩ | ⟨_, same⟩ | ⟨_, same⟩
    all_goals exact same
  next => cases runs

end VfmcapWorker
end Worker
end SbsServer
