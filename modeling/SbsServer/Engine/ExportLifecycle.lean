import SbsServer.Engine.ExportSlot
import Mathlib.Data.Finset.Card
import Mathlib.Data.Fintype.Basic

/-!
# The lifecycle of an export slot

Releasing a slot and retiring its render target are a check and an act on two
threads, of which one holds `retire_slot_mutex`.  Where the two do not meet, a slot
is free just when nobody needs it; where they do, a slot may never come back.
-/

namespace SbsServer
namespace Engine

open CLib

/-- The slot that a submit has claimed. -/
def ExportCall.claims : ExportCall → Option SlotPointer
  | .recording submission | .publishing submission _ => some submission.slot
  | _ => none

/-- The target for which a submit publishes its slot. -/
def ExportCall.publishesOn : ExportCall → Option TargetIndex
  | .publishing submission _ => some submission.target
  | _ => none

/-- The submit has stored its slot to the target. -/
def PublishStage.stored : PublishStage → Bool
  | .referencing | .marking | .offering => true
  | _ => false

/-- The stored slot of a submit. -/
def ExportCall.published : ExportCall → TargetIndex → SlotPointer → Prop
  | .publishing submission stage, target, slot =>
      stage.stored ∧ submission.target = target ∧ submission.slot = slot
  | _, _, _ => False

variable {target : TargetIndex} {slot : SlotPointer}

theorem ExportCall.published.publishesOn
    {call : ExportCall}
    (published : call.published target slot) :
    call.publishesOn = some target := by
  cases call with
  | publishing submission stage => exact congrArg some published.2.1
  | _ => exact published.elim

/-- The export thread has dropped a reference that a pointer stands for, or not taken it yet. -/
def ExportCall.late : ExportCall → TargetIndex → SlotPointer → Prop
  | .publishing submission (.retiring old stage), target, slot =>
      stage.late ∧ submission.target = target ∧ old = slot
  | .publishing submission .referencing, target, slot =>
      submission.target = target ∧ submission.slot = slot
  | _, _, _ => False

/-- The compositor thread has dropped a reference that a pointer stands for. -/
def RetireCall.late : RetireCall → TargetIndex → SlotPointer → Prop
  | .retiring target old stage, other, slot => stage.late ∧ target = other ∧ old = slot
  | _, _, _ => False

theorem ExportCall.late.publishesOn
    {call : ExportCall}
    (late : call.late target slot) :
    call.publishesOn = some target := by
  cases call with
  | publishing submission stage =>
      cases stage with
      | retiring old stage => exact congrArg some late.2.1
      | referencing => exact congrArg some late.1
      | _ => exact late.elim
  | _ => exact late.elim

theorem RetireCall.late.section
    {call : RetireCall}
    (late : call.late target slot) :
    call.section = some target := by
  cases call with
  | retiring _ _ _ => exact congrArg some late.2.1
  | _ => exact late.elim

/-- The slot whose release has loaded a reference and not stored the state yet. -/
def ExportCall.postpones : ExportCall → Option SlotPointer
  | .postponing slot | .keeping slot => some slot
  | _ => none

/-- The submission whose commands go to the queue next. -/
def ExportCall.submits : ExportCall → Option ExportSubmission
  | .recording submission => some submission
  | _ => none

/-- The target for which the compositor thread waits for `retire_slot_mutex`. -/
def RetireCall.locks : RetireCall → Option TargetIndex
  | .locking target => some target
  | _ => none

/-- The slot whose flag the compositor thread loads next. -/
def RetireCall.checks : RetireCall → Option SlotPointer
  | .retiring _ slot .checking => some slot
  | _ => none

namespace ExportState

variable {state after : ExportState}

/-- The pointer of a target has no reference. -/
def Late (state : ExportState) (target : TargetIndex) (slot : SlotPointer) : Prop :=
  state.compositor.late target slot ∨ state.exporter.late target slot

/-- The compositor thread is about to clear the pointer, and frees nothing before. -/
def Leaving (state : ExportState) (target : TargetIndex) (slot : SlotPointer) : Prop :=
  state.compositor = .retiring target slot .clearing ∨
    state.compositor = .retiring target slot .checking ∧
      (state.slots slot).releasePendingFree = false

/-- A target points to the slot, and will look at its flag. -/
def Kept (state : ExportState) (slot : SlotPointer) : Prop :=
  ∃ target, state.retireSlot target = some slot ∧
    state.compositor ≠ .retiring target slot .clearing

/-- A slot as its use has it. -/
structure SlotSound (state : ExportState) (slot : SlotPointer) : Prop where
  unused :
    (state.slots slot).use = .unused → (state.slots slot).state = .free
  claimed :
    (state.slots slot).use = .claimed →
      (state.slots slot).state = .inUse ∧ state.exporter.claims = some slot
  offered :
    (state.slots slot).use = .offered →
      ((state.slots slot).state = .submitted ∨ (state.slots slot).state = .ready) ∧
        (state.slots slot).releasePendingFree = false
  held :
    (state.slots slot).use = .held →
      (state.slots slot).state = .inUse ∧ (state.slots slot).releasePendingFree = false
  releasing :
    (state.slots slot).use = .releasing →
      (state.slots slot).state = .inUse ∧
        ((state.slots slot).releasePendingFree = true → state.exporter = .keeping slot)
  released :
    (state.slots slot).use = .released →
      (state.slots slot).state = .free ∨
        (state.slots slot).state = .inUse ∧ (state.slots slot).releasePendingFree = true ∧
          state.Kept slot
  leaving :
    (state.slots slot).state = .free ∨ (state.slots slot).use = .claimed →
      ∀ target, state.retireSlot target = some slot →
        state.Leaving target slot ∨ state.exporter.published target slot

/-- What holds while a submit publishes its slot. -/
def PublishSound (state : ExportState) (submission : ExportSubmission) : PublishStage → Prop
  | .testing | .comparing | .entering =>
      ∀ old, state.retireSlot submission.target = some old →
        (state.slots old).releasePendingFree = false
  | .retiring old stage =>
      state.retireSlot submission.target = some old ∧
        (state.slots old).releasePendingFree = false ∧ stage ≠ .freeing
  | .storing => state.retireSlot submission.target = none
  | .referencing | .marking => state.retireSlot submission.target = some submission.slot
  | .offering =>
      state.retireSlot submission.target = some submission.slot ∧
        (state.slots submission.slot).releasePendingFree = false

/-- What holds where the export thread is. -/
def ExporterSound (state : ExportState) : ExportCall → Prop
  | .recording submission => (state.slots submission.slot).use = .claimed
  | .publishing submission stage =>
      (state.slots submission.slot).use = .claimed ∧ state.PublishSound submission stage
  | .markingReady dest index => (state.slots ⟨dest, index⟩).use = .offered
  | .finding _ _ best => ∀ slot ∈ best, (state.slots slot).use = .offered
  | .taking slot => (state.slots slot).use = .offered
  | .releasing slot => (state.slots slot).use = .releasing
  | .freeing slot =>
      (state.slots slot).use = .releasing ∧ (state.slots slot).retireRefs = 0
  | .postponing slot => (state.slots slot).use = .releasing ∧ state.Kept slot
  | .keeping slot =>
      (state.slots slot).use = .releasing ∧
        (state.slots slot).releasePendingFree = true ∧ state.Kept slot
  | _ => True

/-- What holds where the compositor thread is. -/
def CompositorSound (state : ExportState) : RetireCall → Prop
  | .waiting target slot => state.retireSlot target = some slot
  | .retiring target slot stage =>
      state.retireSlot target = some slot ∧
        (stage = .freeing →
          (state.slots slot).use = .released ∧ (state.slots slot).state = .inUse)
  | _ => True

/-- The invariant of the runs in which release and retirement do not meet. -/
structure Sound (state : ExportState) : Prop where
  distinct : ∀ target other slot,
    state.retireSlot target = some slot → state.retireSlot other = some slot → target = other
  counted : ∀ target slot,
    state.retireSlot target = some slot → ¬ state.Late target slot →
      (state.slots slot).retireRefs = 1
  late : ∀ target slot,
    state.retireSlot target = some slot → state.Late target slot →
      (state.slots slot).retireRefs = 0
  uncounted : ∀ slot,
    (∀ target, state.retireSlot target ≠ some slot) → (state.slots slot).retireRefs = 0
  used : ∀ slot, state.SlotSound slot
  exporting : state.ExporterSound state.exporter
  retiring : state.CompositorSound state.compositor
  apart : ∀ target,
    state.compositor.section = some target → state.exporter.publishesOn ≠ some target

/-- Release and retirement do not meet in a step: no section of `retire_slot_mutex` on a
target overlaps the publication of a slot for it, no submit finds a slot that its consumer
has released already, and no retirement looks at the flag of a slot between the load and the
last store of its release. -/
def Apart (state : ExportState) : ExportStep → Prop
  | .exporter success =>
      success = true → ∀ submission ∈ state.exporter.submits,
        state.compositor.section ≠ some submission.target ∧
          ∀ old ∈ state.retireSlot submission.target,
            (state.slots old).releasePendingFree = false
  | .compositor _ =>
      (∀ target ∈ state.compositor.locks, state.exporter.publishesOn ≠ some target) ∧
        ∀ slot ∈ state.compositor.checks, state.exporter.postpones ≠ some slot
  | _ => True

instance (state : ExportState) (step : ExportStep) : Decidable (state.Apart step) :=
  match step with
  | .submit _ _ _ | .acquire _ | .release _ | .retire _ => inferInstanceAs (Decidable True)
  | .exporter success => inferInstanceAs (Decidable (success = true → _))
  | .compositor _ => inferInstanceAs (Decidable (_ ∧ _))

/-! ## A step keeps the invariant -/

/-- A change of neither the pointers nor the references leaves them sound. -/
theorem Sound.changed
    (sound : state.Sound)
    (samePointers : after.retireSlot = state.retireSlot)
    (sameRefs : ∀ slot, (after.slots slot).retireRefs = (state.slots slot).retireRefs)
    (sameLate : ∀ target slot,
      state.retireSlot target = some slot → (after.Late target slot ↔ state.Late target slot))
    (used : ∀ slot, after.SlotSound slot)
    (exporting : after.ExporterSound after.exporter)
    (retiring : after.CompositorSound after.compositor)
    (apart : ∀ target,
      after.compositor.section = some target → after.exporter.publishesOn ≠ some target) :
    after.Sound where
  distinct := by
    rw [samePointers]
    exact sound.distinct
  counted target slot points notLate := by
    rw [samePointers] at points
    rw [sameRefs]
    exact sound.counted target slot points (mt (sameLate target slot points).mpr notLate)
  late target slot points isLate := by
    rw [samePointers] at points
    rw [sameRefs]
    exact sound.late target slot points ((sameLate target slot points).mp isLate)
  uncounted slot unpointed := by
    rw [samePointers] at unpointed
    rw [sameRefs]
    exact sound.uncounted slot unpointed
  used := used
  exporting := exporting
  retiring := retiring
  apart := apart

/-- The compositor thread goes on without a store. -/
theorem Sound.setCompositor
    (sound : state.Sound)
    {call : RetireCall}
    (late : ∀ target slot,
      state.retireSlot target = some slot →
        (call.late target slot ↔ state.compositor.late target slot))
    (leaving : ∀ target slot,
      (state.slots slot).state = .free ∨ (state.slots slot).use = .claimed →
        state.Leaving target slot →
          ({ state with compositor := call } : ExportState).Leaving target slot)
    (kept : ∀ target slot,
      state.exporter.postpones = some slot ∨
          (state.slots slot).use = .released ∧ (state.slots slot).state = .inUse →
        call = .retiring target slot .clearing →
          state.compositor = .retiring target slot .clearing)
    (retiring : state.CompositorSound call)
    (apart : ∀ target,
      call.section = some target → state.exporter.publishesOn ≠ some target) :
    ({ state with compositor := call } : ExportState).Sound := by
  refine sound.changed rfl (fun _ => rfl)
    (fun target slot points => or_congr (late target slot points) Iff.rfl) ?_ ?_ ?_ apart
  · intro other
    obtain ⟨unused, claimed, offered, held, releasing, released, leaves⟩ := sound.used other
    constructor
    case released => grind [Kept]
    case leaving => grind
    all_goals assumption
  · have exporting := sound.exporting
    cases same : state.exporter with
    | publishing submission stage =>
        rw [same] at exporting
        cases stage <;> exact exporting
    | _ => grind [ExporterSound, Kept, ExportCall.postpones]
  · cases call <;> exact retiring

/-- The export thread goes on without a store. -/
theorem Sound.setExporter
    (sound : state.Sound)
    {call : ExportCall}
    (claims : ∀ slot, (state.slots slot).use = .claimed → call.claims = some slot)
    (late : ∀ target slot,
      state.retireSlot target = some slot →
        (call.late target slot ↔ state.exporter.late target slot))
    (published : ∀ target slot,
      state.exporter.published target slot → call.published target slot)
    (keeping : ∀ slot, state.exporter = .keeping slot → call = .keeping slot)
    (exporting : state.ExporterSound call)
    (apart : ∀ target,
      state.compositor.section = some target → call.publishesOn ≠ some target) :
    ({ state with exporter := call } : ExportState).Sound := by
  refine sound.changed rfl (fun _ => rfl)
    (fun target slot points => or_congr Iff.rfl (late target slot points)) ?_ ?_ ?_ apart
  · intro other
    obtain ⟨unused, claimed, offered, held, releasing, released, leaves⟩ := sound.used other
    constructor
    case claimed => exact fun isClaimed => ⟨(claimed isClaimed).1, claims other isClaimed⟩
    case releasing => grind
    case leaving =>
      intro isFree target points
      exact (leaves isFree target points).imp id (published target other)
    all_goals assumption
  · cases call with
    | publishing submission stage => cases stage <;> exact exporting
    | _ => exact exporting
  · have retiring := sound.retiring
    cases same : state.compositor with
    | _ => rw [same] at retiring; exact retiring

variable {target : TargetIndex} {slot old : SlotPointer} {submission : ExportSubmission}

section

variable (sound : state.Sound)
include sound

/-- A target in whose section no submit publishes has its reference, until it is dropped. -/
theorem Sound.refs_eq_one
    (points : state.retireSlot target = some slot)
    (inSection : state.compositor.section = some target)
    (notLate : ¬ state.compositor.late target slot) :
    (state.slots slot).retireRefs = 1 := by
  apply sound.counted target slot points
  rintro (late | late)
  · exact notLate late
  · exact sound.apart target inSection late.publishesOn

/-- The old slot of a submit has its reference, until it is dropped. -/
theorem Sound.refs_eq_one_of_publishing
    {stage : RetireStage}
    (isPublishing : state.exporter = .publishing submission (.retiring old stage))
    (early : stage.late = false) :
    (state.slots old).retireRefs = 1 := by
  have exporting := sound.exporting
  rw [isPublishing] at exporting
  apply sound.counted submission.target old exporting.2.1
  rintro (late | late)
  · exact sound.apart submission.target late.section (by rw [isPublishing]; rfl)
  · simp [isPublishing, ExportCall.late, early] at late

/-- The compositor thread drops the reference of its target. -/
theorem Sound.dropRef
    (dropping : state.compositor = .retiring target slot .dropping) :
    (state.slots slot).retireRefs - 1 = 0 ∧
      ({ state.modify slot fun entry =>
          { entry with retireRefs := (state.slots slot).retireRefs - 1 } with
        compositor := .retiring target slot .checking } : ExportState).Sound := by
  have points : state.retireSlot target = some slot := by
    have retiring := sound.retiring
    rw [dropping] at retiring
    exact retiring.1
  have one := sound.refs_eq_one points (by rw [dropping]; rfl)
    (by simp [dropping, RetireCall.late, RetireStage.late])
  refine ⟨by rw [one]; rfl, ?_⟩
  obtain ⟨distinct, counted, late, uncounted, used, exporting, retiring, apart⟩ := sound
  constructor
  · exact distinct
  · grind [Late, RetireCall.late, RetireStage.late]
  · grind [Late, RetireCall.late, RetireStage.late]
  · intro other unpointed
    have different : other ≠ slot := fun same => unpointed target (same ▸ points)
    simp only [slots_modify, if_neg different]
    exact uncounted other unpointed
  · intro other
    obtain ⟨unused, claimed, offered, held, releasing, released, leaves⟩ := used other
    constructor <;> grind [Leaving, Kept]
  · cases same : state.exporter with
    | publishing submission stage => cases stage <;> grind [ExporterSound, PublishSound]
    | _ => grind [ExporterSound, Kept]
  · grind [CompositorSound]
  · grind [RetireCall.section]

/-- The compositor thread frees the slot of its target. -/
theorem Sound.freeSlot
    (freeing : state.compositor = .retiring target slot .freeing) :
    ({ state.modify slot fun entry => { entry with state := .free } with
        compositor := .retiring target slot .clearing } : ExportState).Sound := by
  obtain ⟨distinct, -, -, -, used, exporting, retiring, apart⟩ := id sound
  rw [freeing] at retiring
  obtain ⟨points, isKept⟩ := retiring
  refine sound.changed rfl (by grind) ?_ ?_ ?_ ?_ ?_
  · intro other old _
    simp [Late, freeing, RetireCall.late, RetireStage.late]
  · intro other
    obtain ⟨unused, claimed, offered, held, releasing, released, leaves⟩ := used other
    constructor <;> grind [Leaving, Kept]
  · cases same : state.exporter with
    | publishing submission stage => cases stage <;> grind [ExporterSound, PublishSound]
    | _ => grind [ExporterSound, Kept]
  · grind [CompositorSound]
  · grind [RetireCall.section]

/-- The compositor thread clears the pointer of its target. -/
theorem Sound.clearPointer
    (clearing : state.compositor = .retiring target slot .clearing) :
    ({ state.setRetireSlot target none with compositor := .idle } : ExportState).Sound := by
  obtain ⟨distinct, counted, late, uncounted, used, exporting, retiring, apart⟩ := sound
  rw [clearing] at retiring
  obtain ⟨points, -⟩ := retiring
  have cleared : (state.slots slot).retireRefs = 0 :=
    late target slot points (.inl (by rw [clearing]; exact ⟨rfl, rfl, rfl⟩))
  have kept : ∀ other, state.Kept other →
      ({ state.setRetireSlot target none with compositor := .idle } : ExportState).Kept other := by
    intro other ⟨keeper, keeps, notClearing⟩
    have different : keeper ≠ target := by
      intro same
      rw [same, points] at keeps
      cases keeps
      exact notClearing (same ▸ clearing)
    refine ⟨keeper, ?_, by simp⟩
    simpa [different] using keeps
  constructor
  · grind
  · grind [Late, RetireCall.late, RetireStage.late]
  · grind [Late, RetireCall.late, RetireStage.late]
  · intro other unpointed
    by_cases same : other = slot
    · exact same ▸ cleared
    · apply uncounted
      intro keeper keeps
      have different : keeper ≠ target := by
        intro isTarget
        rw [isTarget, points] at keeps
        cases keeps
        exact same rfl
      exact unpointed keeper (by simpa [different] using keeps)
  · intro other
    obtain ⟨unused, claimed, offered, held, releasing, released, leaves⟩ := used other
    constructor
    case released =>
      exact fun isReleased => (released isReleased).imp id
        fun ⟨inUse, pending, keeps⟩ => ⟨inUse, pending, kept other keeps⟩
    all_goals grind [Leaving]
  · cases same : state.exporter with
    | publishing submission stage =>
        cases stage <;>
          grind [ExporterSound, PublishSound, ExportCall.publishesOn, RetireCall.section]
    | _ => grind [ExporterSound]
  · grind [CompositorSound]
  · grind [RetireCall.section]

/-- A slot that the compositor thread may free. -/
theorem Sound.released_of_pending
    (checking : state.compositor = .retiring target slot .checking)
    (notPostponed : state.exporter.postpones ≠ some slot)
    (pending : (state.slots slot).releasePendingFree = true) :
    (state.slots slot).use = .released ∧ (state.slots slot).state = .inUse := by
  have points : state.retireSlot target = some slot := by
    have retiring := sound.retiring
    rw [checking] at retiring
    exact retiring.1
  have notLeaving : ¬ (state.Leaving target slot ∨ state.exporter.published target slot) := by
    rintro (leaving | published)
    · simp [Leaving, checking, pending] at leaving
    · exact sound.apart target (by rw [checking]; rfl) published.publishesOn
  obtain ⟨unused, claimed, offered, held, releasing, released, leaves⟩ := sound.used slot
  cases use : (state.slots slot).use with
  | unused => exact absurd (leaves (.inl (unused use)) target points) notLeaving
  | claimed => exact absurd (leaves (.inr use) target points) notLeaving
  | offered => simp [(offered use).2] at pending
  | held => simp [(held use).2] at pending
  | releasing =>
      have keeping := (releasing use).2 pending
      exact absurd (by rw [keeping]; rfl) notPostponed
  | released =>
      refine ⟨rfl, ?_⟩
      obtain free | ⟨inUse, -, -⟩ := released use
      · exact absurd (leaves (.inl free) target points) notLeaving
      · exact inUse

/-- A step of the compositor thread. -/
theorem Sound.compositorNext
    {success : Bool}
    (meets : state.Apart (.compositor success))
    (stepped : state.compositorNext success = some after) :
    after.Sound := by
  have retiring := sound.retiring
  simp only [ExportState.compositorNext] at stepped
  split at stepped
  next => cases stepped
  next target locking =>
      have notPublishing := meets.1 target (by rw [locking]; rfl)
      cases stepped
      apply sound.setCompositor
      all_goals grind [RetireCall.late, RetireCall.section, Leaving, CompositorSound]
  next target reloading =>
      have apart := sound.apart target (by rw [reloading]; rfl)
      split at stepped
      all_goals
        cases stepped
        apply sound.setCompositor
        all_goals grind [RetireCall.late, RetireCall.section, Leaving, CompositorSound]
  next target slot waiting =>
      have apart := sound.apart target (by rw [waiting]; rfl)
      split at stepped
      all_goals
        cases stepped
        apply sound.setCompositor
        all_goals
          grind [RetireCall.late, RetireStage.late, RetireCall.section, Leaving, CompositorSound]
  next target slot stage isRetiring =>
      have apart := sound.apart target (by rw [isRetiring]; rfl)
      rw [isRetiring] at retiring
      cases stage with
      | loading =>
          have one := sound.refs_eq_one retiring.1 (by rw [isRetiring]; rfl)
            (by simp [isRetiring, RetireCall.late, RetireStage.late])
          simp only [retireNext, one, if_pos (show (0 : UInt32) < 1 by decide)] at stepped
          cases stepped
          apply sound.setCompositor
          all_goals
            grind [RetireCall.late, RetireStage.late, RetireCall.section, Leaving,
              CompositorSound]
      | dropping =>
          obtain ⟨none, dropped⟩ := sound.dropRef isRetiring
          simp only [retireNext, none, if_pos] at stepped
          cases stepped
          rw [none] at dropped
          exact dropped
      | checking =>
          have notPostponed := meets.2 slot (by rw [isRetiring]; rfl)
          have kept := sound.released_of_pending isRetiring notPostponed
          have isReleased := (sound.used slot).released
          simp only [retireNext] at stepped
          cases stepped
          split
          all_goals
            apply sound.setCompositor
            all_goals
              grind [RetireCall.late, RetireStage.late, RetireCall.section, Leaving,
                CompositorSound]
      | freeing =>
          cases stepped
          exact sound.freeSlot isRetiring
      | clearing =>
          cases stepped
          exact sound.clearPointer isRetiring

end

/-- `sbs_export_dest_acquire_slot` claims a slot. -/
theorem Sound.claim
    (sound : state.Sound)
    {submission : ExportSubmission}
    (claiming : state.exporter.claims = none)
    (notPublishing : state.exporter.publishesOn = none)
    (notKeeping : state.exporter.postpones = none)
    (isFree : (state.slots submission.slot).state = .free)
    (submitIdx : ExportDestType → Fin exportSlotCount) :
    ({ state.modify submission.slot fun entry =>
          { entry with state := .inUse, use := .claimed } with
        submitIdx := submitIdx
        exporter := .recording submission } : ExportState).Sound := by
  have notPublished : ∀ target slot, ¬ state.exporter.published target slot := by
    intro target slot published
    rw [published.publishesOn] at notPublishing
    cases notPublishing
  have notLate : ∀ target slot, ¬ state.exporter.late target slot := by
    intro target slot late
    rw [late.publishesOn] at notPublishing
    cases notPublishing
  obtain ⟨distinct, -, -, -, used, exporting, retiring, apart⟩ := id sound
  refine sound.changed rfl (by grind)
    (fun target slot _ => or_congr Iff.rfl (iff_of_false id (notLate target slot))) ?_ ?_ ?_ ?_
  · intro other
    obtain ⟨unused, claimed, offered, held, releasing, released, leaves⟩ := used other
    constructor
    case released => grind [Kept]
    all_goals grind [Leaving, ExportCall.claims, ExportCall.postpones]
  · simp [ExporterSound]
  · have leaving := (used submission.slot).leaving (.inl isFree)
    cases same : state.compositor <;> grind [CompositorSound]
  · simp [ExportCall.publishesOn]

section

variable (sound : state.Sound)
include sound

/-- `vkQueueSubmit` failed, and the slot is given back. -/
theorem Sound.giveBack
    (recording : state.exporter = .recording submission) :
    ({ state.modify submission.slot fun entry => { entry with state := .free, use := .unused } with
        exporter := .idle } : ExportState).Sound := by
  obtain ⟨distinct, -, -, -, used, exporting, retiring, apart⟩ := id sound
  rw [recording] at exporting
  refine sound.changed rfl (by grind) ?_ ?_ ?_ ?_ ?_
  · intro target slot _
    simp [Late, recording, ExportCall.late]
  · intro other
    obtain ⟨unused, claimed, offered, held, releasing, released, leaves⟩ := used other
    constructor
    case released => grind [Kept, ExporterSound]
    all_goals
      grind [Leaving, ExportCall.claims, ExporterSound, ExportCall.published]
  · trivial
  · cases same : state.compositor <;> grind [CompositorSound, ExporterSound]
  · simp [ExportCall.publishesOn]

/-- The export thread drops the reference of its target. -/
theorem Sound.dropOld
    (dropping : state.exporter = .publishing submission (.retiring old .dropping)) :
    (state.slots old).retireRefs - 1 = 0 ∧
      ({ state.modify old fun entry =>
          { entry with retireRefs := (state.slots old).retireRefs - 1 } with
        exporter := .publishing submission (.retiring old .checking) } : ExportState).Sound := by
  have one := sound.refs_eq_one_of_publishing dropping rfl
  refine ⟨by rw [one]; rfl, ?_⟩
  obtain ⟨distinct, counted, late, uncounted, used, exporting, retiring, apart⟩ := sound
  rw [dropping] at exporting
  obtain ⟨claimedHere, points, notPending, -⟩ := exporting
  constructor
  · exact distinct
  · grind [Late, ExportCall.late, RetireStage.late]
  · grind [Late, ExportCall.late, RetireStage.late]
  · intro other unpointed
    have different : other ≠ old := fun same => unpointed submission.target (same ▸ points)
    simp only [slots_modify, if_neg different]
    exact uncounted other unpointed
  · intro other
    obtain ⟨unused, claimed, offered, held, releasing, released, leaves⟩ := used other
    constructor
    case released => grind [Kept]
    all_goals
      grind [Leaving, ExportCall.claims, ExportCall.published, PublishStage.stored]
  · grind [ExporterSound, PublishSound]
  · cases same : state.compositor <;> grind [CompositorSound]
  · grind [ExportCall.publishesOn]

/-- The export thread clears the pointer of its target. -/
theorem Sound.clearOld
    (clearing : state.exporter = .publishing submission (.retiring old .clearing)) :
    ({ state.setRetireSlot submission.target none with
        exporter := .publishing submission .storing } : ExportState).Sound := by
  obtain ⟨distinct, counted, late, uncounted, used, exporting, retiring, apart⟩ := sound
  rw [clearing] at exporting
  obtain ⟨claimedHere, points, notPending, -⟩ := exporting
  have cleared : (state.slots old).retireRefs = 0 :=
    late submission.target old points (.inr (by rw [clearing]; exact ⟨rfl, rfl, rfl⟩))
  have kept : ∀ other, (state.slots other).releasePendingFree = true → state.Kept other →
      ({ state.setRetireSlot submission.target none with
        exporter := .publishing submission .storing } : ExportState).Kept other := by
    intro other pending ⟨keeper, keeps, notClearing⟩
    have different : keeper ≠ submission.target := by
      intro same
      rw [same, points] at keeps
      cases keeps
      rw [pending] at notPending
      cases notPending
    exact ⟨keeper, by simpa [different] using keeps, notClearing⟩
  constructor
  · grind
  · grind [Late, ExportCall.late, RetireStage.late]
  · grind [Late, ExportCall.late, RetireStage.late]
  · intro other unpointed
    by_cases same : other = old
    · exact same ▸ cleared
    · apply uncounted
      intro keeper keeps
      have different : keeper ≠ submission.target := by
        intro isTarget
        rw [isTarget, points] at keeps
        cases keeps
        exact same rfl
      exact unpointed keeper (by simpa [different] using keeps)
  · intro other
    obtain ⟨unused, claimed, offered, held, releasing, released, leaves⟩ := used other
    constructor
    case released =>
      exact fun isReleased => (released isReleased).imp id
        fun ⟨inUse, pending, keeps⟩ => ⟨inUse, pending, kept other pending keeps⟩
    all_goals
      grind [Leaving, ExportCall.claims, ExportCall.published, PublishStage.stored]
  · exact ⟨claimedHere, by simp [PublishSound]⟩
  · cases same : state.compositor <;>
      grind [CompositorSound, RetireCall.section, ExportCall.publishesOn]
  · grind [ExportCall.publishesOn]

/-- The section of a submit stores the pointer. -/
theorem Sound.storePointer
    (storing : state.exporter = .publishing submission .storing)
    (outside : state.compositor.section = none) :
    ({ state.setRetireSlot submission.target (some submission.slot) with
        exporter := .publishing submission .referencing } : ExportState).Sound := by
  obtain ⟨distinct, counted, late, uncounted, used, exporting, retiring, apart⟩ := sound
  rw [storing] at exporting
  obtain ⟨isClaimed, empty⟩ := exporting
  have unpointed : ∀ target, state.retireSlot target ≠ some submission.slot := by
    intro target points
    obtain leaving | published := (used submission.slot).leaving (.inr isClaimed) target points
    · obtain clearing | ⟨checking, -⟩ := leaving
      · simp [clearing, RetireCall.section] at outside
      · simp [checking, RetireCall.section] at outside
    · simp [storing, ExportCall.published, PublishStage.stored] at published
  have zero := uncounted submission.slot unpointed
  have kept : ∀ other, state.Kept other →
      ({ state.setRetireSlot submission.target (some submission.slot) with
        exporter := .publishing submission .referencing } : ExportState).Kept other := by
    intro other ⟨keeper, keeps, notClearing⟩
    have different : keeper ≠ submission.target := by
      intro same
      rw [same, empty] at keeps
      cases keeps
    exact ⟨keeper, by simpa [different] using keeps, notClearing⟩
  constructor
  · grind
  · grind [Late, ExportCall.late]
  · grind [Late, ExportCall.late, RetireCall.late, RetireCall.section]
  · intro other unpointedAfter
    apply uncounted
    intro keeper keeps
    have different : keeper ≠ submission.target := by
      intro same
      rw [same, empty] at keeps
      cases keeps
    exact unpointedAfter keeper (by simpa [different] using keeps)
  · intro other
    obtain ⟨unused, claimed, offered, held, releasing, released, leaves⟩ := used other
    constructor
    case released =>
      exact fun isReleased => (released isReleased).imp id
        fun ⟨inUse, pending, keeps⟩ => ⟨inUse, pending, kept other keeps⟩
    all_goals
      grind [Leaving, ExportCall.claims, ExportCall.published, PublishStage.stored]
  · exact ⟨isClaimed, by simp [PublishSound]⟩
  · cases same : state.compositor <;> grind [CompositorSound, RetireCall.section]
  · grind [ExportCall.publishesOn]

/-- The submit takes the reference of its pointer. -/
theorem Sound.takeRef
    (referencing : state.exporter = .publishing submission .referencing) :
    ({ state.modify submission.slot fun entry =>
          { entry with retireRefs := entry.retireRefs + 1 } with
        exporter := .publishing submission .marking } : ExportState).Sound := by
  obtain ⟨distinct, counted, late, uncounted, used, exporting, retiring, apart⟩ := sound
  rw [referencing] at exporting
  obtain ⟨isClaimed, points : state.retireSlot submission.target = some submission.slot⟩ :=
    exporting
  have zero := late submission.target submission.slot points
    (.inr (by rw [referencing]; exact ⟨rfl, rfl⟩))
  have notLate : ¬ state.compositor.late submission.target submission.slot :=
    fun late => apart submission.target late.section (by rw [referencing]; rfl)
  constructor
  · exact distinct
  · grind [Late, ExportCall.late]
  · grind [Late, ExportCall.late]
  · intro other unpointed
    have different : other ≠ submission.slot := by
      intro same
      apply unpointed submission.target
      rw [same]
      exact points
    simp only [slots_modify, if_neg different]
    exact uncounted other unpointed
  · intro other
    obtain ⟨unused, claimed, offered, held, releasing, released, leaves⟩ := used other
    constructor
    case released => grind [Kept]
    all_goals
      grind [Leaving, ExportCall.claims, ExportCall.published, PublishStage.stored]
  · grind [ExporterSound, PublishSound]
  · cases same : state.compositor <;> grind [CompositorSound]
  · grind [ExportCall.publishesOn]

/-- The plain stores of `sbs_export_slot_mark_submitted`. -/
theorem Sound.mark
    (marking : state.exporter = .publishing submission .marking) :
    ({ state.modify submission.slot fun entry =>
          { entry with frameNumber := submission.frameNumber, releasePendingFree := false } with
        exporter := .publishing submission .offering } : ExportState).Sound := by
  obtain ⟨distinct, -, -, -, used, exporting, retiring, apart⟩ := id sound
  rw [marking] at exporting
  obtain ⟨isClaimed, points⟩ := exporting
  refine sound.changed rfl (by grind) ?_ ?_ ?_ ?_ ?_
  · intro target slot _
    simp [Late, marking, ExportCall.late]
  · intro other
    obtain ⟨unused, claimed, offered, held, releasing, released, leaves⟩ := used other
    constructor
    case released => grind [Kept]
    all_goals
      grind [Leaving, ExportCall.claims, ExportCall.published, PublishStage.stored]
  · grind [ExporterSound, PublishSound]
  · cases same : state.compositor <;> grind [CompositorSound]
  · grind [ExportCall.publishesOn]

/-- The submit offers its slot. -/
theorem Sound.offer
    (offering : state.exporter = .publishing submission .offering) :
    ({ state.modify submission.slot fun entry =>
          { entry with state := .submitted, use := .offered } with
        exporter := .idle } : ExportState).Sound := by
  obtain ⟨distinct, -, -, -, used, exporting, retiring, apart⟩ := id sound
  rw [offering] at exporting
  obtain ⟨isClaimed, points, notPending⟩ := exporting
  refine sound.changed rfl (by grind) ?_ ?_ ?_ ?_ ?_
  · intro target slot _
    simp [Late, offering, ExportCall.late]
  · intro other
    obtain ⟨unused, claimed, offered, held, releasing, released, leaves⟩ := used other
    constructor
    case released => grind [Kept]
    all_goals
      grind [Leaving, ExportCall.claims, ExportCall.published, PublishStage.stored]
  · trivial
  · cases same : state.compositor <;> grind [CompositorSound]
  · grind [ExportCall.publishesOn]

/-- A call that neither claims nor publishes changes the state and the use of one slot
that it works on, or sets its flag. -/
theorem Sound.handOver
    {call : ExportCall}
    {change : ExportSlot → ExportSlot}
    (notClaiming : state.exporter.claims = none)
    (notPublishing : state.exporter.publishesOn = none)
    (onlyKeeps : ∀ other, state.exporter = .keeping other → other = slot)
    (notPublishingAfter : call.publishesOn = none)
    (sameRefs : (change (state.slots slot)).retireRefs = (state.slots slot).retireRefs)
    (slotAfter :
      ({ state.modify slot change with exporter := call } : ExportState).SlotSound slot)
    (exporting :
      ({ state.modify slot change with exporter := call } : ExportState).ExporterSound call)
    (notReleased :
      (state.slots slot).use = .released →
        (change (state.slots slot)).use = .released ∧
          (change (state.slots slot)).state = (state.slots slot).state) :
    ({ state.modify slot change with exporter := call } : ExportState).Sound := by
  have notPublished : ∀ target other, ¬ state.exporter.published target other := by
    intro target other published
    rw [published.publishesOn] at notPublishing
    cases notPublishing
  have notLate : ∀ target other, ¬ state.exporter.late target other := by
    intro target other late
    rw [late.publishesOn] at notPublishing
    cases notPublishing
  have notLateAfter : ∀ target other, ¬ call.late target other := by
    intro target other late
    rw [late.publishesOn] at notPublishingAfter
    cases notPublishingAfter
  obtain ⟨distinct, -, -, -, used, -, retiring, apart⟩ := id sound
  refine sound.changed rfl (by grind)
    (fun target other _ =>
      or_congr Iff.rfl (iff_of_false (notLateAfter target other) (notLate target other)))
    ?_ exporting ?_ ?_
  · intro other
    by_cases same : other = slot
    · exact same ▸ slotAfter
    · obtain ⟨unused, claimed, offered, held, releasing, released, leaves⟩ := used other
      constructor
      case released => grind [Kept]
      all_goals grind [Leaving]
  · cases same : state.compositor <;> grind [CompositorSound]
  · simp [notPublishingAfter]

/-- A step of a submit that publishes its slot. -/
theorem Sound.publishNext
    {stage : PublishStage}
    (isPublishing : state.exporter = .publishing submission stage)
    (stepped : state.publishNext submission stage = some after) :
    after.Sound := by
  have exporting := sound.exporting
  rw [isPublishing] at exporting
  obtain ⟨isClaimed, publishes⟩ := exporting
  have outside : state.compositor.section ≠ some submission.target :=
    fun inside => sound.apart submission.target inside (by rw [isPublishing]; rfl)
  have claims := fun slot => ((sound.used slot).claimed · |>.2)
  -- The submit goes on without a store, before it has stored its pointer.
  have goOn : ∀ later : PublishStage,
      stage.stored = false → later.stored = false →
      (∀ old, state.retireSlot submission.target = some old →
        ((ExportCall.publishing submission later).late submission.target old ↔
          (ExportCall.publishing submission stage).late submission.target old)) →
      state.PublishSound submission later →
      ({ state with exporter := .publishing submission later } : ExportState).Sound := by
    intro later notStored notStoredLater sameLate publishesLater
    apply sound.setExporter
    · grind [ExportCall.claims]
    · intro target slot points
      rw [isPublishing]
      by_cases same : target = submission.target
      · exact same ▸ sameLate slot (same ▸ points)
      · have never : ∀ stage : PublishStage,
            ¬ (ExportCall.publishing submission stage).late target slot :=
          fun stage late => same (Option.some.inj late.publishesOn).symm
        exact iff_of_false (never later) (never stage)
    · grind [ExportCall.published]
    · grind
    · exact ⟨isClaimed, publishesLater⟩
    · grind [ExportCall.publishesOn]
  cases stage with
  | testing =>
      cases stepped
      split
      next =>
        apply goOn _ rfl rfl
        · grind [ExportCall.late]
        · exact publishes
      next nothing =>
        apply goOn _ rfl rfl
        · grind [ExportCall.late]
        · exact Option.not_isSome_iff_eq_none.mp nothing
  | comparing =>
      have notOwn : state.retireSlot submission.target ≠ some submission.slot := by
        intro points
        obtain leaving | published :=
          (sound.used submission.slot).leaving (.inr isClaimed) submission.target points
        · obtain clearing | ⟨checking, -⟩ := leaving
          · exact outside (by rw [clearing]; rfl)
          · exact outside (by rw [checking]; rfl)
        · simp [isPublishing, ExportCall.published, PublishStage.stored] at published
      simp only [ExportState.publishNext, if_pos notOwn] at stepped
      cases stepped
      apply goOn _ rfl rfl
      · grind [ExportCall.late]
      · exact publishes
  | entering =>
      cases stepped
      split
      all_goals
        apply goOn _ rfl rfl
        all_goals grind [ExportCall.late, RetireStage.late, PublishSound]
  | retiring old retireStage =>
      obtain ⟨points, notPending, notFreeing⟩ := publishes
      cases retireStage with
      | loading =>
          have one := sound.refs_eq_one_of_publishing isPublishing rfl
          simp only [ExportState.publishNext, retireNext, one,
            if_pos (show (0 : UInt32) < 1 by decide)] at stepped
          cases stepped
          apply goOn _ rfl rfl
          · grind [ExportCall.late, RetireStage.late]
          · exact ⟨points, notPending, by simp⟩
      | dropping =>
          obtain ⟨none, dropped⟩ := sound.dropOld isPublishing
          simp only [ExportState.publishNext, retireNext, none, if_pos] at stepped
          cases stepped
          rw [none] at dropped
          exact dropped
      | checking =>
          simp only [ExportState.publishNext, retireNext, notPending] at stepped
          cases stepped
          apply goOn _ rfl rfl
          · grind [ExportCall.late, RetireStage.late]
          · exact ⟨points, notPending, by simp⟩
      | freeing => exact absurd rfl notFreeing
      | clearing =>
          cases stepped
          exact sound.clearOld isPublishing
  | storing =>
      simp only [ExportState.publishNext] at stepped
      split at stepped
      next => cases stepped
      next free =>
          cases stepped
          exact sound.storePointer isPublishing (by simpa using free)
  | referencing =>
      cases stepped
      exact sound.takeRef isPublishing
  | marking =>
      cases stepped
      exact sound.mark isPublishing
  | offering =>
      cases stepped
      exact sound.offer isPublishing

end

/-- A call that neither claims nor publishes goes on without a store. -/
theorem Sound.goOn
    (sound : state.Sound)
    {call : ExportCall}
    (notClaiming : state.exporter.claims = none)
    (notPublishing : state.exporter.publishesOn = none)
    (notKeeping : ∀ slot, state.exporter ≠ .keeping slot)
    (notPublishingAfter : call.publishesOn = none)
    (exporting : state.ExporterSound call) :
    ({ state with exporter := call } : ExportState).Sound := by
  apply sound.setExporter
  · intro slot isClaimed
    have claims := ((sound.used slot).claimed isClaimed).2
    rw [notClaiming] at claims
    cases claims
  · intro target slot _
    have never : ∀ {call : ExportCall}, call.publishesOn = none → ¬ call.late target slot := by
      intro call nothing late
      rw [late.publishesOn] at nothing
      cases nothing
    exact iff_of_false (never notPublishingAfter) (never notPublishing)
  · intro target slot published
    rw [published.publishesOn] at notPublishing
    cases notPublishing
  · exact fun slot keeping => absurd keeping (notKeeping slot)
  · exact exporting
  · simp [notPublishingAfter]

variable {dest : ExportDestType}

section

variable (sound : state.Sound)
include sound

/-- A step of `sbs_export_dest_acquire_ready`, in its second loop. -/
theorem Sound.findNext
    {index : Nat}
    {best : Option SlotPointer}
    (finding : state.exporter = .finding dest index best) :
    (state.findNext dest index best).Sound := by
  have exporting := sound.exporting
  rw [finding] at exporting
  have goOn := fun call => @Sound.goOn state sound call
    (by rw [finding]; rfl) (by rw [finding]; rfl) (by simp [finding])
  simp only [ExportState.findNext]
  split
  next bounded =>
    split
    next ready =>
      apply goOn _ rfl
      have isOffered : (state.slots ⟨dest, ⟨index, bounded⟩⟩).use = .offered := by
        obtain ⟨unused, claimed, offered, held, releasing, released, leaves⟩ :=
          sound.used ⟨dest, ⟨index, bounded⟩⟩
        cases use : (state.slots ⟨dest, ⟨index, bounded⟩⟩).use <;> grind
      intro slot isBest
      cases isBest
      cases best with
      | none => exact isOffered
      | some first =>
          simp only [older]
          split
          · exact isOffered
          · exact exporting first rfl
    next => exact goOn _ rfl exporting
  next =>
    cases best with
    | none => exact goOn _ rfl trivial
    | some slot => exact goOn _ rfl (exporting slot rfl)

/-- A release that has loaded no reference finds no target that still counts. -/
theorem Sound.leaving_of_refs_eq_zero
    (freeing : state.exporter = .freeing slot)
    (isReleasing : (state.slots slot).use = .releasing)
    (zero : (state.slots slot).retireRefs = 0)
    (target : TargetIndex)
    (points : state.retireSlot target = some slot) :
    state.Leaving target slot := by
  have isLate : state.Late target slot := by
    by_contra notLate
    rw [sound.counted target slot points notLate] at zero
    cases zero
  have notPending : (state.slots slot).releasePendingFree = false := by
    have releasing := ((sound.used slot).releasing isReleasing).2
    grind
  have retiring := sound.retiring
  obtain late | late := isLate
  · cases same : state.compositor with
    | retiring other old stage =>
        rw [same] at late retiring
        obtain ⟨isLate, rfl, rfl⟩ := late
        cases stage with
        | loading => cases isLate
        | dropping => cases isLate
        | checking => exact .inr ⟨same, notPending⟩
        | freeing =>
            have isReleased := (retiring.2 rfl).1
            rw [isReleasing] at isReleased
            cases isReleased
        | clearing => exact .inl same
    | _ =>
        rw [same] at late
        exact late.elim
  · rw [freeing] at late
    exact late.elim

/-- A round of `sbs_export_dest_acquire_slot`. -/
theorem Sound.claimNext
    {frameNumber : UInt64}
    {tried : Nat}
    (claiming : state.exporter = .claiming dest target frameNumber tried) :
    (state.claimNext dest target frameNumber tried).Sound := by
  have goOn := fun call => @Sound.goOn state sound call
    (by rw [claiming]; rfl) (by rw [claiming]; rfl) (by simp [claiming])
  simp only [ExportState.claimNext]
  split
  next =>
    split
    next isFree =>
      exact @Sound.claim state sound ⟨⟨dest, _⟩, target, frameNumber⟩
        (by rw [claiming]; rfl) (by rw [claiming]; rfl) (by rw [claiming]; rfl) isFree _
    next => exact goOn _ rfl trivial
  next => exact goOn _ rfl trivial

/-- `vkQueueSubmit` succeeded. -/
theorem Sound.submitted
    (recording : state.exporter = .recording submission)
    (outside : state.compositor.section ≠ some submission.target)
    (notPending : ∀ old, state.retireSlot submission.target = some old →
      (state.slots old).releasePendingFree = false) :
    ({ state with exporter := .publishing submission .testing } : ExportState).Sound := by
  have exporting := sound.exporting
  rw [recording] at exporting
  apply sound.setExporter
  · intro slot isClaimed
    have claims := ((sound.used slot).claimed isClaimed).2
    rw [recording] at claims
    exact claims
  · intro target slot _
    rw [recording]
    exact Iff.rfl
  · intro target slot published
    rw [recording] at published
    exact published.elim
  · intro slot keeping
    rw [recording] at keeping
    cases keeping
  · exact ⟨exporting, notPending⟩
  · intro target inside publishes
    cases publishes
    exact outside inside

/-- `sbs_export_slot_poll_ready` loads the state. -/
theorem Sound.reload
    {index : Fin exportSlotCount}
    (reloading : state.exporter = .reloading dest index)
    (isSubmitted : (state.slots ⟨dest, index⟩).state = .submitted) :
    ({ state with exporter := .markingReady dest index } : ExportState).Sound := by
  apply sound.goOn (by rw [reloading]; rfl) (by rw [reloading]; rfl) (by simp [reloading]) rfl
  obtain ⟨unused, claimed, offered, held, releasing, released, leaves⟩ :=
    sound.used ⟨dest, index⟩
  cases use : (state.slots ⟨dest, index⟩).use <;> grind [ExporterSound]

/-- A submitted slot becomes ready. -/
theorem Sound.markReady
    {index : Fin exportSlotCount}
    (marking : state.exporter = .markingReady dest index) :
    ({ state.modify ⟨dest, index⟩ fun entry => { entry with state := .ready } with
        exporter := .polling dest (index + 1) } : ExportState).Sound := by
  have exporting := sound.exporting
  rw [marking] at exporting
  obtain ⟨unused, claimed, offered, held, releasing, released, leaves⟩ :=
    sound.used ⟨dest, index⟩
  apply sound.handOver (by rw [marking]; rfl) (by rw [marking]; rfl) (by simp [marking]) rfl rfl
  · constructor <;> grind [ExporterSound]
  · trivial
  · grind [ExporterSound]

/-- A consumer acquires a slot. -/
theorem Sound.take
    (taking : state.exporter = .taking slot) :
    ({ state.modify slot fun entry => { entry with state := .inUse, use := .held } with
        exporter := .idle } : ExportState).Sound := by
  have exporting := sound.exporting
  rw [taking] at exporting
  obtain ⟨unused, claimed, offered, held, releasing, released, leaves⟩ := sound.used slot
  apply sound.handOver (by rw [taking]; rfl) (by rw [taking]; rfl) (by simp [taking]) rfl rfl
  · constructor <;> grind [ExporterSound]
  · trivial
  · grind [ExporterSound]

/-- A target keeps a slot of which a release loads a reference. -/
theorem Sound.kept_of_refs_ne_zero
    (referenced : (state.slots slot).retireRefs ≠ 0) :
    state.Kept slot := by
  by_contra notKept
  apply referenced
  by_cases pointed : ∃ target, state.retireSlot target = some slot
  · obtain ⟨target, points⟩ := pointed
    have clearing : state.compositor = .retiring target slot .clearing := by
      by_contra notClearing
      exact notKept ⟨target, points, notClearing⟩
    exact sound.late target slot points (.inl (by rw [clearing]; exact ⟨rfl, rfl, rfl⟩))
  · exact sound.uncounted slot (not_exists.mp pointed)

/-- A release frees the slot. -/
theorem Sound.free
    (freeing : state.exporter = .freeing slot) :
    ({ state.modify slot fun entry => { entry with state := .free, use := .released } with
        exporter := .idle } : ExportState).Sound := by
  have exporting := sound.exporting
  rw [freeing] at exporting
  obtain ⟨isReleasing, zero⟩ := exporting
  have leaving := fun target => sound.leaving_of_refs_eq_zero freeing isReleasing zero target
  obtain ⟨unused, claimed, offered, held, releasing, released, -⟩ := sound.used slot
  apply sound.handOver (by rw [freeing]; rfl) (by rw [freeing]; rfl) (by simp [freeing]) rfl rfl
  · constructor
    case leaving =>
      exact fun _ target points => .inl (by simpa [Leaving] using leaving target points)
    all_goals grind
  · trivial
  · grind

/-- A release sets the flag. -/
theorem Sound.postpone
    (postponing : state.exporter = .postponing slot) :
    ({ state.modify slot fun entry => { entry with releasePendingFree := true } with
        exporter := .keeping slot } : ExportState).Sound := by
  have exporting := sound.exporting
  rw [postponing] at exporting
  obtain ⟨isReleasing, kept⟩ := exporting
  obtain ⟨unused, claimed, offered, held, releasing, released, leaves⟩ := sound.used slot
  apply sound.handOver (by rw [postponing]; rfl) (by rw [postponing]; rfl)
    (by simp [postponing]) rfl rfl
  · constructor <;> grind
  · exact ⟨by simpa using isReleasing, by simp, kept⟩
  · grind

/-- A release leaves the slot to the compositor thread. -/
theorem Sound.keep
    (keeping : state.exporter = .keeping slot) :
    ({ state.modify slot fun entry => { entry with state := .inUse, use := .released } with
        exporter := .idle } : ExportState).Sound := by
  have exporting := sound.exporting
  rw [keeping] at exporting
  obtain ⟨isReleasing, pending, kept⟩ := exporting
  obtain ⟨unused, claimed, offered, held, releasing, released, leaves⟩ := sound.used slot
  apply sound.handOver (by rw [keeping]; rfl) (by rw [keeping]; rfl)
    (by simp [keeping]) rfl rfl
  · constructor
    case released => exact fun _ => .inr ⟨by simp, by simpa using pending, kept⟩
    all_goals grind
  · trivial
  · grind

/-- A step of the export thread. -/
theorem Sound.exporterNext
    {success : Bool}
    (meets : state.Apart (.exporter success))
    (stepped : state.exporterNext success = some after) :
    after.Sound := by
  have exporting := sound.exporting
  simp only [ExportState.exporterNext] at stepped
  split at stepped
  next => cases stepped
  next dest target frameNumber tried claiming =>
      cases stepped
      exact sound.claimNext claiming
  next submission recording =>
      split at stepped
      next success =>
        cases stepped
        obtain ⟨outside, notPending⟩ := meets success submission (by rw [recording]; rfl)
        exact sound.submitted recording outside notPending
      next =>
        cases stepped
        exact sound.giveBack recording
  next submission stage isPublishing => exact sound.publishNext isPublishing stepped
  next dest index polling =>
      cases stepped
      have goOn := fun call => @Sound.goOn state sound call
        (by rw [polling]; rfl) (by rw [polling]; rfl) (by simp [polling])
      simp only [pollNext]
      split
      · split
        · exact goOn _ rfl trivial
        · exact goOn _ rfl trivial
      · exact goOn _ rfl (by simp [ExporterSound])
  next dest index reloading =>
      split at stepped
      next isSubmitted =>
        cases stepped
        exact sound.reload reloading isSubmitted.1
      next =>
        cases stepped
        exact sound.goOn (by rw [reloading]; rfl) (by rw [reloading]; rfl) (by simp [reloading])
          rfl trivial
  next dest index marking =>
      cases stepped
      exact sound.markReady marking
  next dest index best finding =>
      cases stepped
      exact sound.findNext finding
  next slot taking =>
      cases stepped
      exact sound.take taking
  next slot releasing =>
      rw [releasing] at exporting
      have goOn := fun call => @Sound.goOn state sound call
        (by rw [releasing]; rfl) (by rw [releasing]; rfl) (by simp [releasing])
      split at stepped
      next zero =>
        cases stepped
        exact goOn _ rfl ⟨exporting, zero⟩
      next referenced =>
        cases stepped
        exact goOn _ rfl ⟨exporting, sound.kept_of_refs_ne_zero referenced⟩
  next slot freeing =>
      cases stepped
      exact sound.free freeing
  next slot postponing =>
      cases stepped
      exact sound.postpone postponing
  next slot keeping =>
      cases stepped
      exact sound.keep keeping

/-- A step of either thread. -/
theorem Sound.next
    {step : ExportStep}
    (meets : state.Apart step)
    (stepped : state.next step = some after) :
    after.Sound := by
  cases step with
  | submit dest target frameNumber =>
      simp only [ExportState.next] at stepped
      split at stepped
      next idle =>
        cases stepped
        exact sound.goOn (by rw [idle]; rfl) (by rw [idle]; rfl) (by simp [idle]) rfl trivial
      next => cases stepped
  | acquire dest =>
      simp only [ExportState.next] at stepped
      split at stepped
      next idle =>
        cases stepped
        exact sound.goOn (by rw [idle]; rfl) (by rw [idle]; rfl) (by simp [idle]) rfl trivial
      next => cases stepped
  | release slot =>
      simp only [ExportState.next] at stepped
      split at stepped
      next isHeld =>
        cases stepped
        obtain ⟨idle, isHeld⟩ := isHeld
        obtain ⟨unused, claimed, offered, held, releasing, released, leaves⟩ := sound.used slot
        apply sound.handOver (by rw [idle]; rfl) (by rw [idle]; rfl) (by simp [idle]) rfl rfl
        · constructor <;> grind
        · simp [ExporterSound]
        · grind
      next => cases stepped
  | exporter success => exact sound.exporterNext meets stepped
  | retire target =>
      simp only [ExportState.next] at stepped
      split at stepped
      next idle =>
        split at stepped
        next =>
          cases stepped
          apply sound.setCompositor
          all_goals grind [RetireCall.late, RetireCall.section, Leaving, CompositorSound]
        next =>
          cases stepped
          exact sound
      next => cases stepped
  | compositor success => exact sound.compositorNext meets stepped

end

theorem sound_init : init.Sound where
  distinct := by simp [init]
  counted := by simp [init]
  late := by simp [init]
  uncounted _ _ := rfl
  used slot := by constructor <;> simp [init]
  exporting := trivial
  retiring := trivial
  apart := by simp [init, RetireCall.section]

/-! ## The lifecycle -/

/-- No call is in progress. -/
def Quiet (state : ExportState) : Prop :=
  state.exporter = .idle ∧ state.compositor = .idle

instance (state : ExportState) : Decidable state.Quiet :=
  inferInstanceAs (Decidable (_ ∧ _))

/-- What the states of a slot promise.  A section of `retire_slot_mutex` is one unit, so
pointers are looked at outside of it. -/
structure Lifecycle (state : ExportState) : Prop where
  /-- A free slot is not the `retire_slot` of a target. -/
  untargeted :
    state.compositor.section = none → ∀ slot target,
      (state.slots slot).state = .free → state.retireSlot target ≠ some slot
  /-- No consumer holds a free slot. -/
  unheld : ∀ slot, (state.slots slot).state = .free → (state.slots slot).use ≠ .held
  /-- `retire_refs` is the number of targets that point to the slot. -/
  counted :
    state.Quiet → ∀ slot,
      (state.slots slot).retireRefs.toNat =
        (Finset.univ.filter fun target => state.retireSlot target = some slot).card
  /-- A released slot that no target points to is free. -/
  comesBack :
    ∀ slot, (state.slots slot).use = .released →
      (∀ target, state.retireSlot target ≠ some slot) → (state.slots slot).state = .free

theorem Sound.refs_eq_card
    (sound : state.Sound)
    (quiet : state.Quiet)
    (slot : SlotPointer) :
    (state.slots slot).retireRefs.toNat =
      (Finset.univ.filter fun target => state.retireSlot target = some slot).card := by
  obtain ⟨idle, compositorIdle⟩ := quiet
  by_cases pointed : ∃ target, state.retireSlot target = some slot
  · obtain ⟨target, points⟩ := pointed
    have notLate : ¬ state.Late target slot := by
      simp [Late, idle, compositorIdle, RetireCall.late, ExportCall.late]
    have only : (Finset.univ.filter fun target => state.retireSlot target = some slot) =
        {target} := by
      ext other
      simp only [Finset.mem_filter, Finset.mem_univ, true_and, Finset.mem_singleton]
      constructor
      · exact fun otherPoints => sound.distinct other target slot otherPoints points
      · exact fun same => same ▸ points
    rw [sound.counted target slot points notLate, only, Finset.card_singleton]
    rfl
  · have unpointed := not_exists.mp pointed
    rw [sound.uncounted slot unpointed, Finset.filter_false_of_mem fun target _ => unpointed target]
    rfl

theorem Sound.lifecycle
    (sound : state.Sound) :
    state.Lifecycle where
  untargeted outside slot target isFree points := by
    obtain leaving | published := (sound.used slot).leaving (.inl isFree) target points
    · obtain clearing | ⟨checking, -⟩ := leaving
      · simp [clearing, RetireCall.section] at outside
      · simp [checking, RetireCall.section] at outside
    · have exporting := sound.exporting
      cases same : state.exporter with
      | publishing submission stage =>
          rw [same] at published exporting
          obtain ⟨-, -, rfl⟩ := published
          have inUse := ((sound.used submission.slot).claimed exporting.1).1
          rw [isFree] at inUse
          cases inUse
      | _ =>
          rw [same] at published
          exact published.elim
  unheld slot isFree isHeld := by
    have inUse := ((sound.used slot).held isHeld).1
    rw [isFree] at inUse
    cases inUse
  counted := sound.refs_eq_card
  comesBack slot isReleased unpointed := by
    obtain free | ⟨-, -, target, points, -⟩ := (sound.used slot).released isReleased
    · exact free
    · exact absurd points (unpointed target)

/-- The export thread and the compositor thread. -/
def exportSystem : System ExportState ExportStep :=
  .ofNext (· = init) next

/-- While release and retirement do not meet, slots keep their lifecycle. -/
theorem slots_keep_lifecycle
    (reachable : exportSystem.ReachableWhen Apart state) :
    state.Lifecycle := by
  apply Sound.lifecycle
  apply reachable.invariant
  · intro state starts
    rw [starts]
    exact sound_init
  · intro state step after sound meets stepped
    exact sound.next meets stepped

/-- A frame is submitted for the first target and acquired by the consumer of the output. -/
def acquiredFrame : List ExportStep :=
  [.submit .output 0 1] ++ List.replicate 7 (.exporter true) ++
    [.acquire .output] ++ List.replicate 21 (.exporter true)

/-- A slot that is retired behind its release is free again. -/
theorem slots_keep_lifecycle_retired :
    ∃ state : ExportState,
      exportSystem.ReachableWhen Apart state ∧ state.Quiet ∧
        (state.slots ⟨.output, 0⟩).use = .released ∧ state.Lifecycle := by
  have computed :
      (System.run (System.guarded Apart next) init
          (acquiredFrame ++ [.release ⟨.output, 0⟩] ++ List.replicate 3 (.exporter true) ++
            [.retire 0] ++ List.replicate 8 (.compositor true))).map
          (fun state => decide (state.Quiet ∧
            (state.slots ⟨.output, 0⟩).use = .released)) =
        some true := by
    decide +kernel
  obtain ⟨state, runs, fields⟩ := Option.map_eq_some_iff.mp computed
  obtain ⟨quiet, released⟩ := of_decide_eq_true fields
  have reachable := @System.reachableWhen_of_run _ _ Apart _ (· = init) _ _ _ _
    (.initial rfl) runs
  exact ⟨state, reachable, quiet, released, slots_keep_lifecycle reachable⟩

end ExportState
end Engine
end SbsServer
