import SbsServer.Engine.ExportLifecycle

/-!
# An export slot that never comes back

Where a release and a retirement meet, the slot may be left in use with nothing
that leads to it.  It then stays in use, whatever the two threads do.
-/

namespace SbsServer
namespace Engine

open CLib

/-- The slots that a call of the export thread works on. -/
def ExportCall.slots : ExportCall → List SlotPointer
  | .recording submission => [submission.slot]
  | .publishing submission (.retiring old _) => [submission.slot, old]
  | .publishing submission _ => [submission.slot]
  | .markingReady dest index => [⟨dest, index⟩]
  | .finding _ _ best => best.toList
  | .taking slot | .releasing slot | .freeing slot | .postponing slot | .keeping slot => [slot]
  | .idle | .claiming _ _ _ _ | .polling _ _ | .reloading _ _ => []

/-- The slot that the compositor thread works on. -/
def RetireCall.slot : RetireCall → Option SlotPointer
  | .waiting _ slot | .retiring _ slot _ => some slot
  | .idle | .locking _ | .reloading _ => none

namespace ExportState

variable {state after : ExportState}

/-- A released slot is in use, and nothing leads to it. -/
structure Lost (state : ExportState) (slot : SlotPointer) : Prop where
  released : (state.slots slot).use = .released
  inUse : (state.slots slot).state = .inUse
  unpointed : ∀ target, state.retireSlot target ≠ some slot
  notExporting : slot ∉ state.exporter.slots
  notRetiring : state.compositor.slot ≠ some slot

variable {slot : SlotPointer}

theorem Lost.kept
    (lost : state.Lost slot)
    (same : after.slots slot = state.slots slot)
    (samePointers : ∀ target,
      after.retireSlot target = some slot → state.retireSlot target = some slot)
    (notExporting : slot ∉ after.exporter.slots)
    (notRetiring : after.compositor.slot ≠ some slot) :
    after.Lost slot where
  released := same ▸ lost.released
  inUse := same ▸ lost.inUse
  unpointed target points := lost.unpointed target (samePointers target points)
  notExporting := notExporting
  notRetiring := notRetiring

/-- A retirement of another slot neither changes nor points to a slot. -/
theorem retireNext_other
    {target : TargetIndex}
    {slot other : SlotPointer}
    (different : slot ≠ other)
    (stage : RetireStage) :
    (state.retireNext target other stage).1.slots slot = state.slots slot ∧
      ∀ keeper, (state.retireNext target other stage).1.retireSlot keeper = some slot →
        state.retireSlot keeper = some slot := by
  cases stage <;> simp only [retireNext] <;> grind

theorem retireNext_threads
    (state : ExportState)
    (target : TargetIndex)
    (slot : SlotPointer)
    (stage : RetireStage) :
    (state.retireNext target slot stage).1.exporter = state.exporter ∧
      (state.retireNext target slot stage).1.compositor = state.compositor := by
  cases stage <;> exact ⟨rfl, rfl⟩

/-- A step of the compositor thread leaves a lost slot alone. -/
theorem Lost.compositorNext
    {success : Bool}
    (lost : state.Lost slot)
    (stepped : state.compositorNext success = some after) :
    after.Lost slot := by
  have unpointed := lost.unpointed
  have notExporting := lost.notExporting
  have notRetiring := lost.notRetiring
  simp only [ExportState.compositorNext] at stepped
  split at stepped
  next => cases stepped
  next target locking =>
      cases stepped
      exact lost.kept rfl (fun _ => id) notExporting (by simp [RetireCall.slot])
  next target reloading =>
      split at stepped
      next =>
        cases stepped
        exact lost.kept rfl (fun _ => id) notExporting (by simp [RetireCall.slot])
      next other points =>
        cases stepped
        apply lost.kept
        · rfl
        · exact fun _ => id
        · exact notExporting
        · exact fun same => unpointed target (points.trans same)
  next target other waiting =>
      rw [waiting] at notRetiring
      split at stepped
      next =>
        cases stepped
        exact lost.kept rfl (fun _ => id) notExporting notRetiring
      next =>
        cases stepped
        exact lost.kept rfl (fun _ => id) notExporting (by simp [RetireCall.slot])
  next target other stage isRetiring =>
      rw [isRetiring] at notRetiring
      have different : slot ≠ other := fun same => notRetiring (congrArg some same.symm)
      obtain ⟨same, samePointers⟩ := @retireNext_other state target slot other different stage
      obtain ⟨exporter, -⟩ := state.retireNext_threads target other stage
      rw [← exporter] at notExporting
      split at stepped
      next middle done =>
        rw [done] at same samePointers notExporting
        cases stepped
        exact lost.kept same samePointers notExporting (by simp [RetireCall.slot])
      next middle later goesOn =>
        rw [goesOn] at same samePointers notExporting
        cases stepped
        exact lost.kept same samePointers notExporting notRetiring

/-- A step of a submit leaves a lost slot alone. -/
theorem Lost.publishNext
    {submission : ExportSubmission}
    {stage : PublishStage}
    (lost : state.Lost slot)
    (isPublishing : state.exporter = .publishing submission stage)
    (stepped : state.publishNext submission stage = some after) :
    after.Lost slot := by
  have unpointed := lost.unpointed
  have notExporting := lost.notExporting
  have notRetiring := lost.notRetiring
  rw [isPublishing] at notExporting
  have different : slot ≠ submission.slot := by
    cases stage <;> grind [ExportCall.slots]
  cases stage with
  | retiring old retireStage =>
      have differentOld : slot ≠ old := by grind [ExportCall.slots]
      obtain ⟨same, samePointers⟩ :=
        @retireNext_other state submission.target slot old differentOld retireStage
      obtain ⟨-, compositor⟩ := state.retireNext_threads submission.target old retireStage
      rw [← compositor] at notRetiring
      simp only [ExportState.publishNext] at stepped
      split at stepped
      next middle done =>
        rw [done] at same samePointers notRetiring
        cases stepped
        exact lost.kept same samePointers (by simpa [ExportCall.slots] using different) notRetiring
      next middle later goesOn =>
        rw [goesOn] at same samePointers notRetiring
        cases stepped
        exact lost.kept same samePointers notExporting notRetiring
  | storing =>
      simp only [ExportState.publishNext] at stepped
      split at stepped
      next => cases stepped
      next =>
        cases stepped
        apply lost.kept
        · rfl
        · grind
        · simpa [ExportCall.slots] using different
        · exact notRetiring
  | _ =>
      cases stepped
      apply lost.kept
      · grind
      · grind
      · grind [ExportCall.slots]
      · exact notRetiring

/-- A slot in another state is not a lost one. -/
theorem Lost.ne_of_state
    {slot other : SlotPointer}
    {use : ExportSlotState}
    (lost : state.Lost slot)
    (stored : (state.slots other).state = use)
    (differs : use ≠ .inUse) :
    slot ≠ other := by
  rintro rfl
  exact differs (stored.symm.trans lost.inUse)

/-- An exchange of the search for a free slot leaves a lost slot alone. -/
theorem Lost.claimNext
    (lost : state.Lost slot)
    (dest : ExportDestType)
    (target : TargetIndex)
    (frameNumber : UInt64)
    (tried : Nat) :
    (state.claimNext dest target frameNumber tried).Lost slot := by
  simp only [ExportState.claimNext]
  split
  next =>
    split
    next isFree =>
      have different := lost.ne_of_state isFree (by decide)
      apply lost.kept
      · grind
      · grind
      · simpa [ExportCall.slots] using different
      · exact lost.notRetiring
    next => exact lost.kept rfl (fun _ => id) (by simp [ExportCall.slots]) lost.notRetiring
  next => exact lost.kept rfl (fun _ => id) (by simp [ExportCall.slots]) lost.notRetiring

/-- A look at a slot for the oldest frame leaves a lost slot alone. -/
theorem Lost.findNext
    {dest : ExportDestType}
    {index : Nat}
    {best : Option SlotPointer}
    (lost : state.Lost slot)
    (finding : state.exporter = .finding dest index best) :
    (state.findNext dest index best).Lost slot := by
  have notExporting := lost.notExporting
  have notRetiring := lost.notRetiring
  rw [finding] at notExporting
  simp only [ExportState.findNext]
  split
  next bounded =>
    split
    next ready =>
      have different := lost.ne_of_state ready (by decide)
      apply lost.kept
      · rfl
      · exact fun _ => id
      · cases best with
        | none => simpa [ExportCall.slots, older] using different
        | some first =>
            have differentFirst : slot ≠ first := by
              simpa [ExportCall.slots] using notExporting
            simp only [ExportCall.slots, older]
            split
            · simpa using different
            · simpa using differentFirst
      · exact notRetiring
    next => exact lost.kept rfl (fun _ => id) notExporting notRetiring
  next =>
    split
    · exact lost.kept rfl (fun _ => id) (by simp [ExportCall.slots]) notRetiring
    · exact lost.kept rfl (fun _ => id) notExporting notRetiring

/-- A step of the export thread leaves a lost slot alone. -/
theorem Lost.exporterNext
    {success : Bool}
    (lost : state.Lost slot)
    (stepped : state.exporterNext success = some after) :
    after.Lost slot := by
  have notExporting := lost.notExporting
  have notRetiring := lost.notRetiring
  simp only [ExportState.exporterNext] at stepped
  split at stepped
  next => cases stepped
  next dest target frameNumber tried claiming =>
      cases stepped
      exact lost.claimNext dest target frameNumber tried
  next submission recording =>
      rw [recording] at notExporting
      split at stepped
      next =>
        cases stepped
        exact lost.kept rfl (fun _ => id) notExporting notRetiring
      next =>
        cases stepped
        apply lost.kept
        · grind [ExportCall.slots]
        · grind
        · simp [ExportCall.slots]
        · exact notRetiring
  next submission stage isPublishing => exact lost.publishNext isPublishing stepped
  next dest index polling =>
      cases stepped
      simp only [pollNext]
      split
      · split
        · exact lost.kept rfl (fun _ => id) (by simp [ExportCall.slots]) notRetiring
        · exact lost.kept rfl (fun _ => id) (by simp [ExportCall.slots]) notRetiring
      · exact lost.kept rfl (fun _ => id) (by simp [ExportCall.slots]) notRetiring
  next dest index reloading =>
      split at stepped
      next submitted =>
        cases stepped
        have different := lost.ne_of_state submitted.1 (by decide)
        exact lost.kept rfl (fun _ => id) (by simpa [ExportCall.slots] using different) notRetiring
      next =>
        cases stepped
        exact lost.kept rfl (fun _ => id) (by simp [ExportCall.slots]) notRetiring
  next dest index marking =>
      rw [marking] at notExporting
      cases stepped
      apply lost.kept
      · grind [ExportCall.slots]
      · grind
      · simp [ExportCall.slots]
      · exact notRetiring
  next dest index best finding =>
      cases stepped
      exact lost.findNext finding
  next other taking =>
      rw [taking] at notExporting
      cases stepped
      apply lost.kept
      · grind [ExportCall.slots]
      · grind
      · simp [ExportCall.slots]
      · exact notRetiring
  next other releasing =>
      rw [releasing] at notExporting
      split at stepped
      all_goals
        cases stepped
        exact lost.kept rfl (fun _ => id) notExporting notRetiring
  all_goals
    rename_i other working
    rw [working] at notExporting
    cases stepped
    apply lost.kept
    · grind [ExportCall.slots]
    · grind
    · grind [ExportCall.slots]
    · exact notRetiring

/-- Whatever the two threads do, a lost slot stays lost. -/
theorem Lost.next
    {step : ExportStep}
    (lost : state.Lost slot)
    (stepped : state.next step = some after) :
    after.Lost slot := by
  have notExporting := lost.notExporting
  have notRetiring := lost.notRetiring
  cases step with
  | submit dest target frameNumber =>
      simp only [ExportState.next] at stepped
      split at stepped
      next =>
        cases stepped
        exact lost.kept rfl (fun _ => id) (by simp [ExportCall.slots]) notRetiring
      next => cases stepped
  | acquire dest =>
      simp only [ExportState.next] at stepped
      split at stepped
      next =>
        cases stepped
        exact lost.kept rfl (fun _ => id) (by simp [ExportCall.slots]) notRetiring
      next => cases stepped
  | release other =>
      simp only [ExportState.next] at stepped
      split at stepped
      next isHeld =>
        cases stepped
        have different : slot ≠ other := by
          intro same
          rw [← same, lost.released] at isHeld
          cases isHeld.2
        apply lost.kept
        · grind
        · grind
        · simpa [ExportCall.slots] using different
        · exact notRetiring
      next => cases stepped
  | exporter success => exact lost.exporterNext stepped
  | retire target =>
      simp only [ExportState.next] at stepped
      split at stepped
      next =>
        split at stepped
        next =>
          cases stepped
          exact lost.kept rfl (fun _ => id) notExporting (by simp [RetireCall.slot])
        next =>
          cases stepped
          exact lost
      next => cases stepped
  | compositor success => exact lost.compositorNext stepped

/-- Without a call in between, a released slot in use that no target points to is lost. -/
theorem Quiet.lost
    {slot : SlotPointer}
    (quiet : state.Quiet)
    (released : (state.slots slot).use = .released)
    (inUse : (state.slots slot).state = .inUse)
    (unpointed : ∀ target, state.retireSlot target ≠ some slot) :
    state.Lost slot where
  released := released
  inUse := inUse
  unpointed := unpointed
  notExporting := by simp [quiet.1, ExportCall.slots]
  notRetiring := by simp [quiet.2, RetireCall.slot]

/-- A lost slot is never free again.  The rebuild of the ring with a new canvas, which frees every
slot, is no step. -/
theorem lost_slot_never_free
    {slot : SlotPointer}
    {steps : List ExportStep}
    (lost : state.Lost slot)
    (runs : System.run next state steps = some after) :
    (after.slots slot).state = .inUse := by
  induction steps generalizing state with
  | nil =>
      cases runs
      exact lost.inUse
  | cons step rest ih =>
      obtain ⟨middle, stepped, restRuns⟩ := Option.bind_eq_some_iff.mp runs
      exact ih (lost.next stepped) restRuns

/-- The compositor thread retires the target of a slot after the release has loaded its
reference and before it sets its flag. -/
def overtakenRelease : List ExportStep :=
  acquiredFrame ++ [.release ⟨.output, 0⟩, .exporter true, .retire 0] ++
    List.replicate 7 (.compositor true) ++ List.replicate 2 (.exporter true)

/-- Another frame is submitted and acquired after that. -/
theorem lost_slot_never_free_acquired :
    ∃ state after : ExportState,
      System.run next init overtakenRelease = some state ∧
        System.run next state
            ([.submit .output 1 2] ++ List.replicate 7 (.exporter true) ++
              [.acquire .output, .exporter true]) =
          some after ∧
        (state.slots ⟨.output, 0⟩).use = .released ∧
        (after.slots ⟨.output, 0⟩).state = .inUse := by
  have computed :
      ((System.run next init overtakenRelease).bind fun state =>
        (System.run next state
          ([.submit .output 1 2] ++ List.replicate 7 (.exporter true) ++
            [.acquire .output, .exporter true])).map fun _ =>
          decide (state.Quiet ∧
            (state.slots ⟨.output, 0⟩).use = .released ∧
            (state.slots ⟨.output, 0⟩).state = .inUse ∧
            ∀ target, state.retireSlot target ≠ some ⟨.output, 0⟩)) =
        some true := by
    decide +kernel
  obtain ⟨state, overtaken, later⟩ := Option.bind_eq_some_iff.mp computed
  obtain ⟨after, runs, fields⟩ := Option.map_eq_some_iff.mp later
  obtain ⟨quiet, released, inUse, unpointed⟩ := of_decide_eq_true fields
  exact ⟨state, after, overtaken, runs, released,
    lost_slot_never_free (quiet.lost released inUse unpointed) runs⟩

theorem Lost.not_lifecycle
    (lost : state.Lost slot) :
    ¬ state.Lifecycle := by
  intro lifecycle
  have isFree := lifecycle.comesBack slot lost.released lost.unpointed
  rw [lost.inUse] at isFree
  cases isFree

/-- The release is overtaken by the retirement, and its slot is lost. -/
theorem release_meets_retirement :
    ∃ (state : ExportState) (slot : SlotPointer),
      exportSystem.Reachable state ∧ state.Quiet ∧ state.Lost slot ∧ ¬ state.Lifecycle := by
  have computed :
      (System.run next init overtakenRelease).map
          (fun state => decide (state.Quiet ∧
            (state.slots ⟨.output, 0⟩).use = .released ∧
            (state.slots ⟨.output, 0⟩).state = .inUse ∧
            ∀ target, state.retireSlot target ≠ some ⟨.output, 0⟩)) =
        some true := by
    decide +kernel
  obtain ⟨state, runs, fields⟩ := Option.map_eq_some_iff.mp computed
  obtain ⟨quiet, released, inUse, unpointed⟩ := of_decide_eq_true fields
  have lost := quiet.lost released inUse unpointed
  exact ⟨state, ⟨.output, 0⟩, System.reachable_of_run (.initial rfl) runs, quiet, lost,
    lost.not_lifecycle⟩

end ExportState
end Engine
end SbsServer
