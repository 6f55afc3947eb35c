import SbsServer.CLib.Ring
import SbsServer.CLib.System
import Mathlib.Logic.Function.Basic

/-!
# Export slots

The rings of export slots that the export thread fills from render targets and
hands to their consumers, and the step with which the compositor thread retires
a render target.  A step of the model is one load, store, exchange or wait of the
source; the section that `sbs_compositor_export_dest_submit` makes of one store
is one step.
-/

namespace SbsServer
namespace Engine

open CLib

/-- `SBS_EXPORT_SLOT_COUNT` -/
abbrev exportSlotCount : Nat := 8

/-- `SBS_RENDER_TARGET_COUNT` -/
abbrev renderTargetCount : Nat := 8

/-- `sbs_export_dest_type_t` -/
inductive ExportDestType
  | preview
  | output
  deriving DecidableEq

/-- `sbs_export_slot_state_t` -/
inductive ExportSlotState
  | free
  | submitted
  | ready
  | inUse
  deriving DecidableEq

/-- A pointer to a slot: its destination and its index in the ring. -/
structure SlotPointer where
  dest : ExportDestType
  index : Fin exportSlotCount
  deriving DecidableEq

/-- An index of a render target. -/
abbrev TargetIndex := Fin renderTargetCount

/-- Who has a slot.  No code reads it; it tells what the calls have done. -/
inductive SlotUse
  | unused
  /-- A submit took the slot and has not returned. -/
  | claimed
  | offered
  /-- A consumer acquired the slot. -/
  | held
  /-- The consumer called release, which has not returned. -/
  | releasing
  | released
  deriving DecidableEq

/-- `sbs_export_slot_t` -/
structure ExportSlot where
  state : ExportSlotState
  frameNumber : UInt64
  retireRefs : UInt32
  releasePendingFree : Bool
  use : SlotUse
  deriving DecidableEq

/-- Where the retirement of a slot is. -/
inductive RetireStage
  /-- Before the load of `retire_refs`. -/
  | loading
  /-- Before the decrement. -/
  | dropping
  /-- Before the load of `release_pending_free`. -/
  | checking
  /-- Before the store of `SBS_EXPORT_SLOT_FREE`. -/
  | freeing
  /-- Before the pointer is cleared. -/
  | clearing
  deriving DecidableEq

/-- The reference is dropped and the pointer is not cleared. -/
def RetireStage.late : RetireStage → Bool
  | .loading | .dropping => false
  | .checking | .freeing | .clearing => true

/-- What a submit works on. -/
structure ExportSubmission where
  slot : SlotPointer
  target : TargetIndex
  frameNumber : UInt64
  deriving DecidableEq

/-- Where `sbs_compositor_export_dest_submit` is, once `vkQueueSubmit` succeeded. -/
inductive PublishStage
  /-- Before the first load of `retire_slot`. -/
  | testing
  /-- Before the second load of `retire_slot`. -/
  | comparing
  /-- Before the load of `release_retire_slot_if_done`. -/
  | entering
  | retiring (old : SlotPointer) (stage : RetireStage)
  /-- Before its section of `retire_slot_mutex`. -/
  | storing
  /-- Before the increment of `retire_refs`. -/
  | referencing
  /-- Before the plain stores of `sbs_export_slot_mark_submitted`. -/
  | marking
  /-- Before the store of `SBS_EXPORT_SLOT_SUBMITTED`. -/
  | offering
  deriving DecidableEq

/-- What the export thread does. -/
inductive ExportCall
  | idle
  /-- `sbs_export_dest_acquire_slot`, which has tried some slots. -/
  | claiming (dest : ExportDestType) (target : TargetIndex) (frameNumber : UInt64) (tried : Nat)
  /-- Records its commands for a slot it has claimed. -/
  | recording (submission : ExportSubmission)
  | publishing (submission : ExportSubmission) (stage : PublishStage)
  /-- `sbs_export_dest_acquire_ready`, in its first loop. -/
  | polling (dest : ExportDestType) (index : Nat)
  /-- `sbs_export_slot_poll_ready`, before its load. -/
  | reloading (dest : ExportDestType) (index : Fin exportSlotCount)
  /-- `sbs_export_slot_poll_ready`, before its store. -/
  | markingReady (dest : ExportDestType) (index : Fin exportSlotCount)
  /-- `sbs_export_dest_acquire_ready`, in its second loop. -/
  | finding (dest : ExportDestType) (index : Nat) (best : Option SlotPointer)
  /-- Before the store of `SBS_EXPORT_SLOT_IN_USE`. -/
  | taking (slot : SlotPointer)
  /-- `sbs_export_slot_release`, before its load. -/
  | releasing (slot : SlotPointer)
  /-- Has loaded no reference. -/
  | freeing (slot : SlotPointer)
  /-- Has loaded a reference, before it sets `release_pending_free`. -/
  | postponing (slot : SlotPointer)
  /-- Has set `release_pending_free`, before its last store. -/
  | keeping (slot : SlotPointer)
  deriving DecidableEq

/-- What the compositor thread does. -/
inductive RetireCall
  | idle
  | locking (target : TargetIndex)
  /-- In the section, before `retire_slot` is loaded again. -/
  | reloading (target : TargetIndex)
  /-- Waits for the fence of the slot. -/
  | waiting (target : TargetIndex) (slot : SlotPointer)
  | retiring (target : TargetIndex) (slot : SlotPointer) (stage : RetireStage)
  deriving DecidableEq

/-- The target in whose section of `retire_slot_mutex` the thread is. -/
def RetireCall.section : RetireCall → Option TargetIndex
  | .idle | .locking _ => none
  | .reloading target | .waiting target _ | .retiring target _ _ => some target

/-- The rings, the render targets and the two threads. -/
structure ExportState where
  slots : SlotPointer → ExportSlot
  submitIdx : ExportDestType → Fin exportSlotCount
  retireSlot : TargetIndex → Option SlotPointer
  exporter : ExportCall
  compositor : RetireCall

/-- A step of one thread. -/
inductive ExportStep
  | submit (dest : ExportDestType) (target : TargetIndex) (frameNumber : UInt64)
  | acquire (dest : ExportDestType)
  | release (slot : SlotPointer)
  /-- The export thread goes on; tells what `vkQueueSubmit` or a fence answers. -/
  | exporter (success : Bool)
  /-- The compositor thread comes to a target and loads its `retire_slot`. -/
  | retire (target : TargetIndex)
  /-- The compositor thread goes on; tells what a wait for a fence answers. -/
  | compositor (success : Bool)
  deriving DecidableEq

namespace ExportState

/-- A change of one slot. -/
def modify
    (state : ExportState)
    (slot : SlotPointer)
    (change : ExportSlot → ExportSlot) : ExportState :=
  { state with slots := Function.update state.slots slot (change (state.slots slot)) }

variable (state : ExportState)

@[simp, grind =] theorem slots_modify
    (slot other : SlotPointer)
    (change : ExportSlot → ExportSlot) :
    (state.modify slot change).slots other =
      if other = slot then change (state.slots slot) else state.slots other := by
  simp only [modify, Function.update_apply]

@[simp, grind =] theorem retireSlot_modify
    (slot : SlotPointer)
    (change : ExportSlot → ExportSlot)
    (target : TargetIndex) :
    (state.modify slot change).retireSlot target = state.retireSlot target := rfl

@[simp, grind =] theorem exporter_modify
    (slot : SlotPointer)
    (change : ExportSlot → ExportSlot) :
    (state.modify slot change).exporter = state.exporter := rfl

@[simp, grind =] theorem compositor_modify
    (slot : SlotPointer)
    (change : ExportSlot → ExportSlot) :
    (state.modify slot change).compositor = state.compositor := rfl

/-- A store to the pointer of a target. -/
def setRetireSlot
    (state : ExportState)
    (target : TargetIndex)
    (slot : Option SlotPointer) : ExportState :=
  { state with retireSlot := Function.update state.retireSlot target slot }

@[simp, grind =] theorem retireSlot_setRetireSlot
    (target other : TargetIndex)
    (slot : Option SlotPointer) :
    (state.setRetireSlot target slot).retireSlot other =
      if other = target then slot else state.retireSlot other := by
  simp only [setRetireSlot, Function.update_apply]

@[simp, grind =] theorem slots_setRetireSlot
    (target : TargetIndex)
    (slot : Option SlotPointer)
    (other : SlotPointer) :
    (state.setRetireSlot target slot).slots other = state.slots other := rfl

@[simp, grind =] theorem exporter_setRetireSlot
    (target : TargetIndex)
    (slot : Option SlotPointer) :
    (state.setRetireSlot target slot).exporter = state.exporter := rfl

@[simp, grind =] theorem compositor_setRetireSlot
    (target : TargetIndex)
    (slot : Option SlotPointer) :
    (state.setRetireSlot target slot).compositor = state.compositor := rfl

/-- One step of a retirement, and the stage it comes to.  `none`: the pointer is cleared. -/
def retireNext
    (state : ExportState)
    (target : TargetIndex)
    (slot : SlotPointer) : RetireStage → ExportState × Option RetireStage
  | .loading =>
      (state, some (if 0 < (state.slots slot).retireRefs then .dropping else .checking))
  | .dropping =>
      let refs := (state.slots slot).retireRefs - 1
      (state.modify slot fun entry => { entry with retireRefs := refs },
        some (if refs = 0 then .checking else .clearing))
  | .checking =>
      (state, some (if (state.slots slot).releasePendingFree then .freeing else .clearing))
  | .freeing =>
      (state.modify slot fun entry => { entry with state := .free }, some .clearing)
  | .clearing => (state.setRetireSlot target none, none)

/-- `sbs_export_dest_acquire_slot`: one exchange. -/
def claimNext
    (state : ExportState)
    (dest : ExportDestType)
    (target : TargetIndex)
    (frameNumber : UInt64)
    (tried : Nat) : ExportState :=
  if tried < exportSlotCount then
    let index := state.submitIdx dest + Fin.ofNat exportSlotCount tried
    if (state.slots ⟨dest, index⟩).state = .free then
      { state.modify ⟨dest, index⟩ fun entry =>
          { entry with state := .inUse, use := .claimed } with
        submitIdx := Function.update state.submitIdx dest (index + 1)
        exporter := .recording ⟨⟨dest, index⟩, target, frameNumber⟩ }
    else { state with exporter := .claiming dest target frameNumber (tried + 1) }
  else { state with exporter := .idle }

/-- `sbs_compositor_export_dest_submit` behind `vkQueueSubmit`: one step. -/
def publishNext
    (state : ExportState)
    (submission : ExportSubmission) : PublishStage → Option ExportState
  | .testing =>
      some { state with
        exporter := .publishing submission
          (if (state.retireSlot submission.target).isSome then .comparing else .storing) }
  | .comparing =>
      some { state with
        exporter := .publishing submission
          (if state.retireSlot submission.target ≠ some submission.slot then .entering
          else .storing) }
  | .entering =>
      some { state with
        exporter := .publishing submission
          (match state.retireSlot submission.target with
          | none => .storing
          | some old => .retiring old .loading) }
  | .retiring old stage =>
      match state.retireNext submission.target old stage with
      | (after, none) => some { after with exporter := .publishing submission .storing }
      | (after, some later) =>
          some { after with exporter := .publishing submission (.retiring old later) }
  | .storing =>
      if state.compositor.section.isSome then none
      else
        some { state.setRetireSlot submission.target (some submission.slot) with
          exporter := .publishing submission .referencing }
  | .referencing =>
      some { state.modify submission.slot fun entry =>
          { entry with retireRefs := entry.retireRefs + 1 } with
        exporter := .publishing submission .marking }
  | .marking =>
      some { state.modify submission.slot fun entry =>
          { entry with frameNumber := submission.frameNumber, releasePendingFree := false } with
        exporter := .publishing submission .offering }
  | .offering =>
      some { state.modify submission.slot fun entry =>
          { entry with state := .submitted, use := .offered } with
        exporter := .idle }

/-- `sbs_export_dest_acquire_ready`: one round of the first loop. -/
def pollNext
    (state : ExportState)
    (dest : ExportDestType)
    (index : Nat) : ExportState :=
  if bounded : index < exportSlotCount then
    if (state.slots ⟨dest, ⟨index, bounded⟩⟩).state = .submitted then
      { state with exporter := .reloading dest ⟨index, bounded⟩ }
    else { state with exporter := .polling dest (index + 1) }
  else { state with exporter := .finding dest 0 none }

/-- The older of the best slot and another. -/
def older
    (state : ExportState)
    (best : Option SlotPointer)
    (slot : SlotPointer) : SlotPointer :=
  match best with
  | none => slot
  | some first =>
      if (state.slots slot).frameNumber < (state.slots first).frameNumber then slot else first

/-- `sbs_export_dest_acquire_ready`: one round of the second loop. -/
def findNext
    (state : ExportState)
    (dest : ExportDestType)
    (index : Nat)
    (best : Option SlotPointer) : ExportState :=
  if bounded : index < exportSlotCount then
    if (state.slots ⟨dest, ⟨index, bounded⟩⟩).state = .ready then
      { state with
        exporter := .finding dest (index + 1)
          (some (state.older best ⟨dest, ⟨index, bounded⟩⟩)) }
    else { state with exporter := .finding dest (index + 1) best }
  else
    match best with
    | none => { state with exporter := .idle }
    | some slot => { state with exporter := .taking slot }

/-- A step of the export thread in a call. -/
def exporterNext
    (state : ExportState)
    (success : Bool) : Option ExportState :=
  match state.exporter with
  | .idle => none
  | .claiming dest target frameNumber tried =>
      some (state.claimNext dest target frameNumber tried)
  | .recording submission =>
      if success then some { state with exporter := .publishing submission .testing }
      else
        some { state.modify submission.slot fun entry =>
            { entry with state := .free, use := .unused } with
          exporter := .idle }
  | .publishing submission stage => state.publishNext submission stage
  | .polling dest index => some (state.pollNext dest index)
  | .reloading dest index =>
      if (state.slots ⟨dest, index⟩).state = .submitted ∧ success then
        some { state with exporter := .markingReady dest index }
      else some { state with exporter := .polling dest (index + 1) }
  | .markingReady dest index =>
      some { state.modify ⟨dest, index⟩ fun entry => { entry with state := .ready } with
        exporter := .polling dest (index + 1) }
  | .finding dest index best => some (state.findNext dest index best)
  | .taking slot =>
      some { state.modify slot fun entry => { entry with state := .inUse, use := .held } with
        exporter := .idle }
  | .releasing slot =>
      if (state.slots slot).retireRefs = 0 then some { state with exporter := .freeing slot }
      else some { state with exporter := .postponing slot }
  | .freeing slot =>
      some { state.modify slot fun entry => { entry with state := .free, use := .released } with
        exporter := .idle }
  | .postponing slot =>
      some { state.modify slot fun entry => { entry with releasePendingFree := true } with
        exporter := .keeping slot }
  | .keeping slot =>
      some { state.modify slot fun entry => { entry with state := .inUse, use := .released } with
        exporter := .idle }

/-- A step of the compositor thread in its retirement of a target. -/
def compositorNext
    (state : ExportState)
    (success : Bool) : Option ExportState :=
  match state.compositor with
  | .idle => none
  | .locking target => some { state with compositor := .reloading target }
  | .reloading target =>
      match state.retireSlot target with
      | none => some { state with compositor := .idle }
      | some slot => some { state with compositor := .waiting target slot }
  | .waiting target slot =>
      if success then some { state with compositor := .retiring target slot .loading }
      else some { state with compositor := .idle }
  | .retiring target slot stage =>
      match state.retireNext target slot stage with
      | (after, none) => some { after with compositor := .idle }
      | (after, some later) => some { after with compositor := .retiring target slot later }

/-- A step. -/
def next
    (state : ExportState) : ExportStep → Option ExportState
  | .submit dest target frameNumber =>
      if state.exporter = .idle then
        some { state with exporter := .claiming dest target frameNumber 0 }
      else none
  | .acquire dest =>
      if state.exporter = .idle then some { state with exporter := .polling dest 0 } else none
  | .release slot =>
      if state.exporter = .idle ∧ (state.slots slot).use = .held then
        some { state.modify slot fun entry => { entry with use := .releasing } with
          exporter := .releasing slot }
      else none
  | .exporter success => state.exporterNext success
  | .retire target =>
      if state.compositor = .idle then
        if (state.retireSlot target).isSome then
          some { state with compositor := .locking target }
        else some state
      else none
  | .compositor success => state.compositorNext success

/-- Rings just made. -/
def init : ExportState where
  slots _ := ⟨.free, 0, 0, false, .unused⟩
  submitIdx _ := 0
  retireSlot _ := none
  exporter := .idle
  compositor := .idle

end ExportState
end Engine
end SbsServer
