import Mathlib.Algebra.BigOperators.Fin
import SbsServer.CLib.System
import SbsServer.Engine.NativeCanvas

/-!
# The compositor thread and the consumers of the native canvas

`compositor.c` and `compositor_thread.c`: polling for finished renders, choosing
an entry and rendering into it, publishing, republishing and the reference that
a transition keeps, taken apart into atomic accesses.  The compositor thread
works off a list of instructions; an instruction makes one access that other
threads can see, or one call of the driver, and may put further instructions in
front of the others.  Consumers acquire from the mailboxes, add references to
what they hold and give them back, each at its own pace.  The GPU completes what
was submitted.

What is recorded into the command buffers is left out.  A frame that the
compositor thread starts to render takes the canvas ring of `Request`; a
downscaled copy of a picture takes the preview ring.
-/

namespace SbsServer
namespace Engine

open CLib

/-- What does not change while the rings exist.  For an entry it says whether it
is allocated and whether it has a command buffer and, in the preview ring, a
descriptor set.  For the preview it says whether there is a ring, its cadence and
whether the pictures can be downscaled to its mode. -/
structure CanvasConfig where
  allocated : EntryIdx → Bool
  cmdBuffer : EntryIdx → Bool
  previewInitialized : Bool
  previewInterval : UInt64
  previewPipeline : Bool

/-- The instructions of the compositor thread. -/
inductive Instr
  /-- `sbs_compositor_native_canvas_poll_ready` and
  `sbs_compositor_native_preview_poll_ready`: load the state of an entry. -/
  | pollState (entry : EntryIdx)
  /-- The same: `vkGetFenceStatus`. -/
  | pollFence (entry : EntryIdx)
  /-- `sbs_compositor_native_canvas_mark_ready`: store the state. -/
  | markReady (entry : EntryIdx) (frameNumber : UInt64)
  /-- The same: store `last_rendered_entry`. -/
  | markLast (entry : EntryIdx) (frameNumber : UInt64)
  /-- `sbs_compositor_native_canvas_mailbox_publish`: load the state. -/
  | publishState (type : MailboxType) (entry : EntryIdx) (frameNumber : UInt64)
  /-- The same: add the reference. -/
  | publishRef (type : MailboxType) (entry : EntryIdx) (frameNumber : UInt64)
  /-- The same: the critical section. -/
  | publishLocked (type : MailboxType) (entry : EntryIdx) (frameNumber : UInt64)
  /-- `sbs_compositor_native_canvas_unref`: load the count. -/
  | unrefLoad (entry : EntryIdx)
  /-- The same: exchange the count. -/
  | unrefExchange (entry : EntryIdx) (prev : UInt32)
  /-- `sbs_compositor_native_canvas_acquire` and
  `sbs_compositor_native_preview_acquire`: load the state. -/
  | acquireState (ring : CanvasRing) (n : Nat)
  /-- The same: load the count. -/
  | acquireRefs (ring : CanvasRing) (n : Nat) (state : EntryState)
  /-- The same: `vkGetFenceStatus`. -/
  | acquireFence (ring : CanvasRing) (n : Nat)
  /-- The same: store the state of the entry that is chosen. -/
  | claimState (entry : EntryIdx)
  /-- The same: store its count. -/
  | claimRefs (entry : EntryIdx)
  /-- `sbs_compositor_render_native_frame` and
  `sbs_compositor_submit_native_preview_from_entry`: `vkResetFences`. -/
  | reset (entry : EntryIdx)
  /-- The same: `vkBeginCommandBuffer`. -/
  | begin (entry : EntryIdx)
  /-- The same: `vkEndCommandBuffer`. -/
  | finish (entry : EntryIdx)
  /-- `sbs_compositor_native_canvas_mark_rendering`: store the state. -/
  | renderingState (entry : EntryIdx)
  /-- The same: store the count. -/
  | renderingRefs (entry : EntryIdx)
  /-- `vkQueueSubmit`. -/
  | submit (entry : EntryIdx)
  /-- `sbs_compositor_native_canvas_release_failed`: store the count. -/
  | failedRefs (entry : EntryIdx)
  /-- The same: store the state. -/
  | failedState (entry : EntryIdx)
  /-- `sbs_compositor_native_canvas_republish_last`: load the state of the last
  rendered entry. -/
  | republishState (orRender : Bool)
  /-- The same: `vkGetFenceStatus`. -/
  | republishFence (entry : EntryIdx) (orRender : Bool)
  /-- The same: load the state of the last rendered preview entry. -/
  | republishPreview
  /-- The same: `vkGetFenceStatus` of the preview entry. -/
  | republishPreviewFence (entry : EntryIdx)
  /-- The same: return. -/
  | republishEnd (orRender : Bool)
  /-- `capture_transition_cached_entry`: load the state. -/
  | captureState
  /-- The same: add the reference. -/
  | captureRef (slot : Fin nativeCanvasRingSize)
  deriving DecidableEq

/-- Where a consumer is in a call. -/
inductive ConsumerCall
  /-- `sbs_compositor_native_canvas_mailbox_acquire`, after its critical section. -/
  | acquired (entry : EntryIdx)
  /-- `sbs_compositor_native_canvas_ref`: load the state. -/
  | refState (entry : EntryIdx)
  /-- The same: add the reference. -/
  | refAdd (entry : EntryIdx)
  /-- `sbs_compositor_native_canvas_unref`, also as
  `sbs_compositor_native_canvas_mailbox_release`: load the count. -/
  | unrefLoad (entry : EntryIdx)
  /-- The same: exchange the count. -/
  | unrefExchange (entry : EntryIdx) (prev : UInt32)
  deriving DecidableEq

/-- A consumer: how many leases it holds on each entry and the call it is in. -/
structure CanvasConsumer where
  leases : EntryIdx → Nat
  call : Option ConsumerCall

/-- The compositor thread, the consumers and what they share.

`frame` is the number of the frame that the compositor thread works on.
`previewDue` and `republished` are the locals `preview_will_render` of a render
and the disjunction that a republication returns.  The last two fields are a
history of the output mailbox: the frame numbers that its acquisitions returned,
and for each entry that a publication dropped its number and the number that was
published. -/
structure CanvasState (consumers : Nat) where
  entries : EntryIdx → CanvasEntry
  writeIdx : CanvasRing → Nat
  lastRendered : CanvasRing → Option (Fin nativeCanvasRingSize)
  lastSubmitFrame : UInt64
  mailboxes : MailboxType → Mailbox
  frame : UInt64
  previewDue : Bool
  republished : Bool
  cached : Option (Fin nativeCanvasRingSize)
  program : List Instr
  consumer : Fin consumers → CanvasConsumer
  outputAcquired : List UInt64
  outputDropped : List (UInt64 × UInt64)

namespace CanvasState

variable {consumers : Nat}

/-- The rings after `sbs_compositor_init` and, if there is a preview,
`sbs_compositor_configure_native_preview`. -/
def init (consumers : Nat) : CanvasState consumers where
  entries := fun _ => .new
  writeIdx := fun _ => 0
  lastRendered
    | .canvas => some 0
    | .preview => none
  lastSubmitFrame := 0
  mailboxes := fun _ => .new
  frame := 0
  previewDue := false
  republished := false
  cached := none
  program := []
  consumer := fun _ => ⟨fun _ => 0, none⟩
  outputAcquired := []
  outputDropped := []

/-- Put instructions in front of the program. -/
def andThen
    (state : CanvasState consumers)
    (instrs : List Instr) : CanvasState consumers :=
  { state with program := instrs ++ state.program }

@[simp] theorem entries_andThen
    (state : CanvasState consumers)
    (instrs : List Instr) :
    (state.andThen instrs).entries = state.entries := rfl

@[simp] theorem program_andThen
    (state : CanvasState consumers)
    (instrs : List Instr) :
    (state.andThen instrs).program = instrs ++ state.program := rfl

@[simp] theorem cached_andThen
    (state : CanvasState consumers)
    (instrs : List Instr) :
    (state.andThen instrs).cached = state.cached := rfl

/-- Change an entry. -/
def modify
    (state : CanvasState consumers)
    (entry : EntryIdx)
    (change : CanvasEntry → CanvasEntry) : CanvasState consumers :=
  { state with
    entries := Function.update state.entries entry (change (state.entries entry)) }

@[simp] theorem entries_modify_self
    (state : CanvasState consumers)
    (entry : EntryIdx)
    (change : CanvasEntry → CanvasEntry) :
    (state.modify entry change).entries entry = change (state.entries entry) := by
  simp [modify]

theorem entries_modify_of_ne
    {state : CanvasState consumers}
    {entry other : EntryIdx}
    {change : CanvasEntry → CanvasEntry}
    (apart : other ≠ entry) :
    (state.modify entry change).entries other = state.entries other := by
  simp [modify, Function.update_of_ne apart]

/-- Store the state of an entry. -/
def storeState
    (state : CanvasState consumers)
    (entry : EntryIdx)
    (value : EntryState) : CanvasState consumers :=
  state.modify entry fun stored => { stored with state := value }

/-- Store the reference count of an entry. -/
def storeRefs
    (state : CanvasState consumers)
    (entry : EntryIdx)
    (value : UInt32) : CanvasState consumers :=
  state.modify entry fun stored => { stored with refcount := value }

/-- The entry that an acquisition looks at in a round of its loop. -/
def candidate
    (state : CanvasState consumers)
    (ring : CanvasRing)
    (n : Nat) : EntryIdx where
  ring := ring
  slot := Fin.ofNat nativeCanvasRingSize (state.writeIdx ring + n)

end CanvasState

/-! ## The compositor thread -/

/-- The entries of a ring, in the order in which they are polled. -/
def CanvasRing.entries (ring : CanvasRing) : List EntryIdx :=
  (List.finRange nativeCanvasRingSize).map fun slot => ⟨ring, slot⟩

/-- `sbs_compositor_native_canvas_poll_ready` and
`sbs_compositor_native_preview_poll_ready`. -/
def pollReady (config : CanvasConfig) : List Instr :=
  CanvasRing.canvas.entries.map .pollState ++
    if config.previewInitialized then CanvasRing.preview.entries.map .pollState else []

/-- `sbs_compositor_render_native_frame`. -/
def renderNativeFrame (config : CanvasConfig) : List Instr :=
  pollReady config ++ [.acquireState .canvas 0]

/-- `sbs_compositor_native_canvas_republish_last`; its caller may render if
nothing is republished. -/
def republishLast
    (config : CanvasConfig)
    (orRender : Bool) : List Instr :=
  pollReady config ++ [.republishState orRender]

/-- `sbs_compositor_submit_native_preview_from_entry`. -/
def submitNativePreview (config : CanvasConfig) : List Instr :=
  if config.previewInitialized && config.previewPipeline then
    [.acquireState .preview 0]
  else []

/-- The exits of the two render functions after an entry was chosen. -/
def releaseFailed (entry : EntryIdx) : List Instr :=
  match entry.ring with
  | .canvas => [.failedRefs entry]
  | .preview => [.failedState entry]

/-- The publications of an entry that became ready. -/
def publications
    (entry : EntryIdx)
    (frameNumber : UInt64) : List Instr :=
  match entry.ring with
  | .canvas =>
      [.publishState .output entry frameNumber, .publishState .snapshot entry frameNumber]
  | .preview => [.publishState .preview entry frameNumber]

/-- What the caller does if nothing is republished. -/
def notRepublished
    (config : CanvasConfig)
    (orRender : Bool) : List Instr :=
  if orRender then renderNativeFrame config else []

/-- The instructions with which calls begin.  They only read. -/
def Instr.opens : Instr → Bool
  | .pollState _ | .acquireState _ _ | .republishState _ => true
  | _ => false

variable {config : CanvasConfig}

variable {instr : Instr}

theorem opens_of_mem_pollReady
    (member : instr ∈ pollReady config) :
    instr.opens = true := by
  rcases List.mem_append.mp member with canvas | preview
  · obtain ⟨entry, -, rfl⟩ := List.mem_map.mp canvas
    rfl
  · split at preview
    · obtain ⟨entry, -, rfl⟩ := List.mem_map.mp preview
      rfl
    · cases preview

theorem opens_of_mem_renderNativeFrame
    (member : instr ∈ renderNativeFrame config) :
    instr.opens = true := by
  rcases List.mem_append.mp member with polls | last
  · exact opens_of_mem_pollReady polls
  · rw [List.mem_singleton.mp last]
    rfl

theorem opens_of_mem_republishLast
    {orRender : Bool}
    (member : instr ∈ republishLast config orRender) :
    instr.opens = true := by
  rcases List.mem_append.mp member with polls | last
  · exact opens_of_mem_pollReady polls
  · rw [List.mem_singleton.mp last]
    rfl

theorem opens_of_mem_notRepublished
    {orRender : Bool}
    (member : instr ∈ notRepublished config orRender) :
    instr.opens = true := by
  unfold notRepublished at member
  split at member
  · exact opens_of_mem_renderNativeFrame member
  · cases member

theorem opens_of_mem_submitNativePreview
    (member : instr ∈ submitNativePreview config) :
    instr.opens = true := by
  unfold submitNativePreview at member
  split at member
  · rw [List.mem_singleton.mp member]
    rfl
  · cases member

namespace CanvasState

variable {consumers : Nat}

/-- The local `preview_will_render`. -/
def previewWillRender
    (config : CanvasConfig)
    (state : CanvasState consumers) : Bool :=
  config.previewInitialized &&
    (decide (config.previewInterval ≤ 1) || state.lastSubmitFrame == 0 ||
      decide (config.previewInterval ≤ state.frame - state.lastSubmitFrame))

/-- The critical section of a publication; what it drops is given back after it. -/
def post
    (state : CanvasState consumers)
    (type : MailboxType)
    (posted : MailboxEntry) : CanvasState consumers :=
  let result := (state.mailboxes type).publish posted
  let dropped := result.2.toList
  let after : CanvasState consumers := { state with
    mailboxes := Function.update state.mailboxes type result.1
    republished := true
    outputDropped :=
      if type = MailboxType.output then
        state.outputDropped ++ dropped.map fun old => (old.frameNumber, posted.frameNumber)
      else state.outputDropped }
  after.andThen (dropped.map fun old => .unrefLoad old.entryIdx)

/-- Execute an instruction that is taken off the program.  The flag says whether
the driver call succeeds or, for an exchange, whether it does not fail
spuriously. -/
def exec
    (config : CanvasConfig)
    (succeeds : Bool)
    (state : CanvasState consumers) : Instr → CanvasState consumers
  | .pollState entry =>
      if (state.entries entry).state = .rendering then state.andThen [.pollFence entry]
      else state
  | .pollFence entry =>
      if (state.entries entry).fence then
        state.andThen [.markReady entry (state.entries entry).frameNumber]
      else state
  | .markReady entry frameNumber =>
      (state.modify entry fun stored =>
        { stored with frameNumber := frameNumber, state := .ready }).andThen
          [.markLast entry frameNumber]
  | .markLast entry frameNumber =>
      { state with
        lastRendered := Function.update state.lastRendered entry.ring
          (some entry.slot) }.andThen
            (publications entry frameNumber)
  | .publishState type entry frameNumber =>
      if (state.entries entry).state = .ready then
        state.andThen [.publishRef type entry frameNumber]
      else state
  | .publishRef type entry frameNumber =>
      (state.storeRefs entry ((state.entries entry).refcount + 1)).andThen
        [.publishLocked type entry frameNumber]
  | .publishLocked type entry frameNumber => state.post type ⟨entry, frameNumber⟩
  | .unrefLoad entry =>
      if 0 < (state.entries entry).refcount then
        state.andThen [.unrefExchange entry (state.entries entry).refcount]
      else state
  | .unrefExchange entry prev =>
      if succeeds && (state.entries entry).refcount == prev then
        state.storeRefs entry (prev - 1)
      else if 0 < (state.entries entry).refcount then
        state.andThen [.unrefExchange entry (state.entries entry).refcount]
      else state
  | .acquireState ring n =>
      if n < nativeCanvasRingSize then
        state.andThen [.acquireRefs ring n (state.entries (state.candidate ring n)).state]
      else state
  | .acquireRefs ring n stored =>
      let entry := state.candidate ring n
      if config.allocated entry && (state.entries entry).refcount == 0 &&
          stored != .rendering then
        state.andThen [.acquireFence ring n]
      else state.andThen [.acquireState ring (n + 1)]
  | .acquireFence ring n =>
      let entry := state.candidate ring n
      if (state.entries entry).fence then
        { state with
          writeIdx := Function.update state.writeIdx ring
            ((entry.slot.val + 1) % nativeCanvasRingSize) }.andThen
              [.claimState entry]
      else state.andThen [.acquireState ring (n + 1)]
  | .claimState entry => (state.storeState entry .rendering).andThen [.claimRefs entry]
  | .claimRefs entry => (state.storeRefs entry 0).andThen [.reset entry]
  | .reset entry =>
      if config.cmdBuffer entry then
        (state.modify entry fun stored => { stored with fence := false }).andThen
          [.begin entry]
      else state.andThen (releaseFailed entry)
  | .begin entry =>
      if succeeds then
        match entry.ring with
        | .canvas =>
            { state with previewDue := state.previewWillRender config }.andThen
              [.finish entry]
        | .preview => state.andThen [.finish entry]
      else state.andThen (releaseFailed entry)
  | .finish entry =>
      if succeeds then
        match entry.ring with
        | .canvas => state.andThen [.renderingState entry]
        | .preview =>
            (state.modify entry fun stored =>
              { stored with frameNumber := state.frame }).andThen [.submit entry]
      else state.andThen (releaseFailed entry)
  | .renderingState entry =>
      (state.storeState entry .rendering).andThen [.renderingRefs entry]
  | .renderingRefs entry =>
      (state.modify entry fun stored =>
        { stored with refcount := 0, frameNumber := state.frame }).andThen
          [.submit entry]
  | .submit entry =>
      if succeeds then
        let state := state.modify entry fun stored => { stored with submitted := true }
        match entry.ring with
        | .canvas =>
            state.andThen (if state.previewDue then submitNativePreview config else [])
        | .preview =>
            { state with
              lastSubmitFrame :=
                if state.previewDue then state.frame else state.lastSubmitFrame }
      else state.andThen (releaseFailed entry)
  | .failedRefs entry => (state.storeRefs entry 0).andThen [.failedState entry]
  | .failedState entry => state.storeState entry .free
  | .republishState orRender =>
      match state.lastRendered .canvas with
      | none => state.andThen (notRepublished config orRender)
      | some slot =>
          if (state.entries ⟨.canvas, slot⟩).state = .ready then
            state.andThen [.republishFence ⟨.canvas, slot⟩ orRender]
          else state.andThen (notRepublished config orRender)
  | .republishFence entry orRender =>
      if (state.entries entry).fence then
        { state with republished := false, previewDue := false }.andThen
          (publications entry state.frame ++
            (if config.previewInitialized then [Instr.republishPreview] else []) ++
            [Instr.republishEnd orRender])
      else state.andThen (notRepublished config orRender)
  | .republishPreview =>
      match state.lastRendered .preview with
      | none => state.andThen (submitNativePreview config)
      | some slot =>
          if (state.entries ⟨.preview, slot⟩).state = .ready then
            state.andThen [.republishPreviewFence ⟨.preview, slot⟩]
          else state
  | .republishPreviewFence entry =>
      if (state.entries entry).fence then
        state.andThen (publications entry state.frame)
      else state
  | .republishEnd orRender =>
      if state.republished then state
      else state.andThen (notRepublished config orRender)
  | .captureState =>
      match state.lastRendered .canvas with
      | none => state
      | some slot =>
          if (state.entries ⟨.canvas, slot⟩).state = .ready then
            state.andThen [.captureRef slot]
          else state
  | .captureRef slot =>
      { state.storeRefs ⟨.canvas, slot⟩ ((state.entries ⟨.canvas, slot⟩).refcount + 1) with
        cached := some slot }

/-- Execute the next instruction of the compositor thread. -/
def execNext
    (config : CanvasConfig)
    (succeeds : Bool)
    (state : CanvasState consumers) : Option (CanvasState consumers) :=
  match state.program with
  | [] => none
  | instr :: rest => some ({ state with program := rest }.exec config succeeds instr)

end CanvasState

/-- What the compositor thread calls next.  A tick renders a frame or tries to
republish the last one first; a late tick only republishes. -/
inductive CompositorCall
  | render (frame : UInt64)
  | republish (frame : UInt64) (orRender : Bool)
  | capture
  | release
  deriving DecidableEq

namespace CanvasState

variable {consumers : Nat}

/-- `release_transition_cached_entry`: the entry to unref.  Only the compositor
thread looks at what it keeps, so that it may be forgotten before the unref. -/
def releaseCached (state : CanvasState consumers) : List Instr :=
  state.cached.toList.map fun slot => Instr.unrefLoad ⟨.canvas, slot⟩

/-- The compositor thread, done with a call, starts the next. -/
def start
    (config : CanvasConfig)
    (state : CanvasState consumers)
    (call : CompositorCall) : Option (CanvasState consumers) :=
  if state.program = [] then
    match call with
    | .render frame => some ({ state with frame := frame }.andThen (renderNativeFrame config))
    | .republish frame orRender =>
        some ({ state with frame := frame }.andThen (republishLast config orRender))
    | .capture =>
        some ({ state with cached := none }.andThen (state.releaseCached ++ [Instr.captureState]))
    | .release => some ({ state with cached := none }.andThen state.releaseCached)
  else none

end CanvasState

/-- What a consumer does next: start a call, or go on with the call it is in. -/
inductive ConsumerAction
  | acquire (type : MailboxType)
  | ref (entry : EntryIdx)
  | unref (entry : EntryIdx)
  | proceed
  deriving DecidableEq

namespace CanvasConsumer

/-- A consumer that starts to give a lease back. -/
def giveBack
    (consumer : CanvasConsumer)
    (entry : EntryIdx) : CanvasConsumer where
  leases := Function.update consumer.leases entry (consumer.leases entry - 1)
  call := some (.unrefLoad entry)

/-- A consumer whose call returned a lease. -/
def take
    (consumer : CanvasConsumer)
    (entry : EntryIdx) : CanvasConsumer where
  leases := Function.update consumer.leases entry (consumer.leases entry + 1)
  call := none

/-- The call of a consumer goes on or, without a further access, returns. -/
def goOn
    (consumer : CanvasConsumer)
    (call : Option ConsumerCall) : CanvasConsumer :=
  { consumer with call := call }

end CanvasConsumer

namespace CanvasState

variable {consumers : Nat}

/-- Put a consumer into a new state. -/
def setConsumer
    (state : CanvasState consumers)
    (who : Fin consumers)
    (consumer : CanvasConsumer) : CanvasState consumers :=
  { state with consumer := Function.update state.consumer who consumer }

@[simp] theorem entries_setConsumer
    (state : CanvasState consumers)
    (who : Fin consumers)
    (consumer : CanvasConsumer) :
    (state.setConsumer who consumer).entries = state.entries := rfl

/-- The critical section of `sbs_compositor_native_canvas_mailbox_acquire`. -/
def acquireLocked
    (state : CanvasState consumers)
    (who : Fin consumers)
    (type : MailboxType) : CanvasState consumers :=
  let result := (state.mailboxes type).acquire
  let after : CanvasState consumers := { state with
    mailboxes := Function.update state.mailboxes type result.1
    outputAcquired :=
      if type = MailboxType.output then
        state.outputAcquired ++ result.2.toList.map MailboxEntry.frameNumber
      else state.outputAcquired }
  after.setConsumer who
    ((state.consumer who).goOn (result.2.map fun posted => .acquired posted.entryIdx))

/-- A consumer goes on with its call. -/
def proceed
    (succeeds : Bool)
    (state : CanvasState consumers)
    (who : Fin consumers) : ConsumerCall → CanvasState consumers
  | .acquired entry => state.setConsumer who ((state.consumer who).take entry)
  | .refState entry =>
      state.setConsumer who ((state.consumer who).goOn
        (if (state.entries entry).state = .ready then some (.refAdd entry) else none))
  | .refAdd entry =>
      (state.storeRefs entry ((state.entries entry).refcount + 1)).setConsumer who
        ((state.consumer who).take entry)
  | .unrefLoad entry =>
      state.setConsumer who ((state.consumer who).goOn
        (if 0 < (state.entries entry).refcount then
          some (.unrefExchange entry (state.entries entry).refcount)
        else none))
  | .unrefExchange entry prev =>
      if succeeds && (state.entries entry).refcount == prev then
        (state.storeRefs entry (prev - 1)).setConsumer who
          ((state.consumer who).goOn none)
      else
        state.setConsumer who ((state.consumer who).goOn
          (if 0 < (state.entries entry).refcount then
            some (.unrefExchange entry (state.entries entry).refcount)
          else none))

/-- A consumer acts.  It refers only to entries that it holds. -/
def consume
    (succeeds : Bool)
    (state : CanvasState consumers)
    (who : Fin consumers) : ConsumerAction → Option (CanvasState consumers)
  | .acquire type =>
      if (state.consumer who).call = none then some (state.acquireLocked who type) else none
  | .ref entry =>
      if (state.consumer who).call = none ∧ 0 < (state.consumer who).leases entry then
        some (state.setConsumer who ((state.consumer who).goOn (some (.refState entry))))
      else none
  | .unref entry =>
      if (state.consumer who).call = none ∧ 0 < (state.consumer who).leases entry then
        some (state.setConsumer who ((state.consumer who).giveBack entry))
      else none
  | .proceed => (state.consumer who).call.map (state.proceed succeeds who)

/-- The GPU completes a submission. -/
def complete
    (state : CanvasState consumers)
    (entry : EntryIdx) : Option (CanvasState consumers) :=
  if (state.entries entry).submitted then
    some (state.modify entry fun stored => { stored with fence := true, submitted := false })
  else none

end CanvasState

/-- A step of a run.  Flags are the outcome of a driver call or an exchange. -/
inductive CanvasStep (consumers : Nat)
  | start (call : CompositorCall)
  | exec (succeeds : Bool)
  | consume (who : Fin consumers) (action : ConsumerAction) (succeeds : Bool)
  | complete (entry : EntryIdx)
  deriving DecidableEq

/-- The state after a step, if it is possible. -/
def CanvasState.next
    {consumers : Nat}
    (config : CanvasConfig)
    (state : CanvasState consumers) :
    CanvasStep consumers → Option (CanvasState consumers)
  | .start call => state.start config call
  | .exec succeeds => state.execNext config succeeds
  | .consume who action succeeds => state.consume succeeds who action
  | .complete entry => state.complete entry

/-- The compositor thread, the consumers and the GPU, interleaved. -/
def canvasSystem
    (consumers : Nat)
    (config : CanvasConfig) : System (CanvasState consumers) (CanvasStep consumers) :=
  System.ofNext (· = .init consumers) (CanvasState.next config)

namespace CanvasState

/-- A configuration without preview. -/
def plainConfig : CanvasConfig where
  allocated := fun _ => true
  cmdBuffer := fun _ => true
  previewInitialized := false
  previewInterval := 1
  previewPipeline := false

/-- The first entry of the canvas ring. -/
def firstEntry : EntryIdx := ⟨.canvas, 0⟩

end CanvasState

end Engine
end SbsServer
