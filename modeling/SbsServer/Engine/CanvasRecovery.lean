import SbsServer.Engine.CanvasOrder

/-!
# Recovery from failed renders

A render resets the fence of its entry before it begins the command buffer.  An
exit between the reset and a submission that succeeds frees the entry but leaves
the fence unsignalled, and no submission is under way that would signal it, so
that the entry is never chosen again.
-/

namespace SbsServer
namespace Engine

open CLib

/-- The instructions that call the driver between the reset of a fence and the end
of the submission that names it. -/
def Instr.drives : Instr → Option EntryIdx
  | .begin entry | .finish entry | .submit entry => some entry
  | _ => none

namespace CanvasState

variable {consumers : Nat}

/-- Every free entry can be chosen again: its fence is signalled. -/
def FreeSignalled (state : CanvasState consumers) : Prop :=
  ∀ entry, (state.entries entry).state = .free → (state.entries entry).fence = true

/-- What the recovery of entries relies on at an instruction. -/
def RecoveryRelies
    (state : CanvasState consumers) : Instr → Prop
  | .claimState entry | .failedRefs entry | .failedState entry =>
      (state.entries entry).fence = true
  | .claimRefs entry | .reset entry =>
      (state.entries entry).fence = true ∧ (state.entries entry).state = .rendering
  | _ => True

/-- Free entries can be chosen again and the entry that a render gives up was not
reset. -/
structure Recoverable (state : CanvasState consumers) : Prop where
  free : state.FreeSignalled
  head : ∀ instr ∈ state.program.head?, state.RecoveryRelies instr
  tail : ∀ instr ∈ state.program.tail, instr.claims = none

/-- The driver works: no command buffer fails to begin or end and no submission
fails. -/
def Working
    (state : CanvasState consumers) : CanvasStep consumers → Prop
  | .exec succeeds =>
      ∀ instr ∈ state.program.head?, instr.drives.isSome = true → succeeds = true
  | _ => True

instance (state : CanvasState consumers) (step : CanvasStep consumers) :
    Decidable (state.Working step) :=
  match step with
  | .start _ | .consume _ _ _ | .complete _ => inferInstanceAs (Decidable True)
  | .exec succeeds =>
      inferInstanceAs (Decidable (∀ instr ∈ state.program.head?,
        instr.drives.isSome = true → succeeds = true))

theorem FreeSignalled.modify
    {state : CanvasState consumers}
    {entry : EntryIdx}
    {change : CanvasEntry → CanvasEntry}
    (signalled : state.FreeSignalled)
    (keeps : (change (state.entries entry)).state = .free →
      (change (state.entries entry)).fence = true) :
    (state.modify entry change).FreeSignalled := by
  intro other
  by_cases same : other = entry
  · subst same
    rw [entries_modify_self]
    exact keeps
  · rw [entries_modify_of_ne same]
    exact signalled other

theorem FreeSignalled.storeRefs
    {state : CanvasState consumers}
    {entry : EntryIdx}
    {value : UInt32}
    (signalled : state.FreeSignalled) :
    (state.storeRefs entry value).FreeSignalled :=
  signalled.modify (signalled entry)

variable {state after : CanvasState consumers} {instr : Instr} {entry : EntryIdx}
variable {config : CanvasConfig}

/-- An instruction that works on no entry relies on nothing. -/
theorem recoveryRelies_of_unclaimed
    (unclaimed : instr.claims = none) :
    state.RecoveryRelies instr := by
  cases instr with
  | claimState entry => cases unclaimed
  | claimRefs entry => cases unclaimed
  | reset entry => cases unclaimed
  | failedRefs entry => cases unclaimed
  | failedState entry => cases unclaimed
  | _ => trivial

/-- What the recovery relies on stays while the state of the entry stays and no
fence is reset. -/
theorem RecoveryRelies.mono
    (relies : state.RecoveryRelies instr)
    (fences : ∀ entry, (state.entries entry).fence = true → (after.entries entry).fence = true)
    (states : ∀ entry, (after.entries entry).state = (state.entries entry).state) :
    after.RecoveryRelies instr := by
  cases instr with
  | claimState entry => exact fences entry relies
  | failedRefs entry => exact fences entry relies
  | failedState entry => exact fences entry relies
  | claimRefs entry => exact ⟨fences entry relies.1, (states entry).trans relies.2⟩
  | reset entry => exact ⟨fences entry relies.1, (states entry).trans relies.2⟩
  | _ => trivial

theorem claims_of_opens
    (opens : instr.opens = true) :
    instr.claims = none := by
  cases instr with
  | pollState entry => rfl
  | acquireState ring n => rfl
  | republishState orRender => rfl
  | _ => cases opens

theorem claims_of_mem_publications
    {frameNumber : UInt64}
    (member : instr ∈ publications entry frameNumber) :
    instr.claims = none := by
  unfold publications at member
  split at member
  · rcases List.mem_cons.mp member with rfl | snapshot
    · rfl
    · rw [List.mem_singleton.mp snapshot]
      rfl
  · rw [List.mem_singleton.mp member]
    rfl

theorem claims_of_mem_releaseCached
    (member : instr ∈ state.releaseCached) :
    instr.claims = none := by
  obtain ⟨slot, -, rfl⟩ := List.mem_map.mp member
  rfl

/-- Whatever it finds, the instruction changes nothing and goes on with no entry at work. -/
def looks : Instr → Bool
  | .pollState _ | .pollFence _ | .publishState .. | .unrefLoad _ | .acquireState .. => true
  | .acquireRefs .. | .republishState _ | .republishPreview | .republishPreviewFence _ => true
  | .republishEnd _ | .captureState => true
  | _ => false

theorem exec_of_looks
    (looks : looks instr = true)
    (config : CanvasConfig)
    (succeeds : Bool)
    (state : CanvasState consumers) :
    ∃ instrs, state.exec config succeeds instr = state.andThen instrs ∧
      ∀ pushed ∈ instrs, pushed.claims = none := by
  have nothing : ∃ instrs, state = state.andThen instrs ∧
      ∀ pushed ∈ instrs, Instr.claims pushed = none := ⟨[], rfl, nofun⟩
  have single : ∀ next : Instr, next.claims = none →
      ∃ instrs, state.andThen [next] = state.andThen instrs ∧
        ∀ pushed ∈ instrs, Instr.claims pushed = none := by
    intro next unclaimed
    exact ⟨[next], rfl, fun _ member => List.mem_singleton.mp member ▸ unclaimed⟩
  cases instr with
  | pollState entry =>
      simp only [CanvasState.exec]
      split
      · exact single _ rfl
      · exact nothing
  | pollFence entry =>
      simp only [CanvasState.exec]
      split
      · exact single _ rfl
      · exact nothing
  | publishState type entry frameNumber =>
      simp only [CanvasState.exec]
      split
      · exact single _ rfl
      · exact nothing
  | unrefLoad entry =>
      simp only [CanvasState.exec]
      split
      · exact single _ rfl
      · exact nothing
  | acquireState ring n =>
      simp only [CanvasState.exec]
      split
      · exact single _ rfl
      · exact nothing
  | acquireRefs ring n stored =>
      simp only [CanvasState.exec]
      split
      · exact single _ rfl
      · exact single _ rfl
  | republishState orRender =>
      simp only [CanvasState.exec]
      split
      · exact ⟨_, rfl, fun _ member => claims_of_opens (opens_of_mem_notRepublished member)⟩
      · split
        · exact single _ rfl
        · exact ⟨_, rfl, fun _ member => claims_of_opens (opens_of_mem_notRepublished member)⟩
  | republishPreview =>
      simp only [CanvasState.exec]
      split
      · exact ⟨_, rfl, fun _ member =>
          claims_of_opens (opens_of_mem_submitNativePreview member)⟩
      · split
        · exact single _ rfl
        · exact nothing
  | republishPreviewFence entry =>
      simp only [CanvasState.exec]
      split
      · exact ⟨_, rfl, fun _ => claims_of_mem_publications⟩
      · exact nothing
  | republishEnd orRender =>
      simp only [CanvasState.exec]
      split
      · exact nothing
      · exact ⟨_, rfl, fun _ member => claims_of_opens (opens_of_mem_notRepublished member)⟩
  | captureState =>
      simp only [CanvasState.exec]
      split
      · exact nothing
      · split
        · exact single _ rfl
        · exact nothing
  | _ => cases looks

/-! ## Steps of the compositor thread -/

/-- Instructions are put in front that work on no entry. -/
theorem Recoverable.of_unclaimed
    {state : CanvasState consumers}
    {instrs : List Instr}
    (signalled : state.FreeSignalled)
    (waiting : ∀ later ∈ state.program, later.claims = none)
    (unclaimed : ∀ pushed ∈ instrs, pushed.claims = none) :
    (state.andThen instrs).Recoverable := by
  have all : ∀ instr ∈ (state.andThen instrs).program, instr.claims = none := by
    intro instr member
    rcases List.mem_append.mp member with pushed | later
    · exact unclaimed instr pushed
    · exact waiting instr later
  refine ⟨signalled, ?_, ?_⟩
  · intro instr member
    exact recoveryRelies_of_unclaimed (all instr (List.mem_of_mem_head? member))
  · intro instr member
    exact all instr (List.mem_of_mem_tail member)

/-- Nothing is put in front. -/
theorem Recoverable.of_nothing
    (signalled : state.FreeSignalled)
    (waiting : ∀ later ∈ state.program, later.claims = none) :
    state.Recoverable :=
  @Recoverable.of_unclaimed _ _ [] signalled waiting (by simp)

/-- An instruction is put in front that relies on something. -/
theorem Recoverable.of_relies
    {next : Instr}
    (signalled : state.FreeSignalled)
    (waiting : ∀ later ∈ state.program, later.claims = none)
    (relies : state.RecoveryRelies next) :
    (state.andThen [next]).Recoverable := by
  refine ⟨signalled, ?_, waiting⟩
  intro instr member
  rw [← Option.some.inj member]
  exact relies.mono (fun _ signalled => signalled) fun _ => rfl

/-- A render gives up an entry that was not reset. -/
theorem Recoverable.of_releaseFailed
    (signalled : state.FreeSignalled)
    (waiting : ∀ later ∈ state.program, later.claims = none)
    (fence : (state.entries entry).fence = true) :
    (state.andThen (releaseFailed entry)).Recoverable := by
  unfold releaseFailed
  split
  · exact .of_relies signalled waiting fence
  · exact .of_relies signalled waiting fence

variable {succeeds : Bool}

/-- With a working driver the compositor thread keeps entries recoverable. -/
theorem Recoverable.exec
    (signalled : state.FreeSignalled)
    (relies : state.RecoveryRelies instr)
    (waiting : ∀ later ∈ state.program, later.claims = none)
    (working : instr.drives.isSome = true → succeeds = true) :
    (state.exec config succeeds instr).Recoverable := by
  have keep : ∀ instrs : List Instr, (∀ pushed ∈ instrs, pushed.claims = none) →
      (state.andThen instrs).Recoverable :=
    fun _ => .of_unclaimed signalled waiting
  have single : ∀ next : Instr, next.claims = none → (state.andThen [next]).Recoverable := by
    intro next unclaimed
    apply keep
    simpa using unclaimed
  have nothing : state.Recoverable := .of_nothing signalled waiting
  have counted : ∀ entry value, (state.storeRefs entry value).Recoverable := fun _ _ =>
    .of_nothing signalled.storeRefs waiting
  by_cases looks : looks instr = true
  · obtain ⟨instrs, same, unclaimed⟩ := exec_of_looks looks config succeeds state
    rw [same]
    exact keep instrs unclaimed
  cases instr with
  | markReady entry frameNumber =>
      refine .of_relies (signalled.modify ?_) waiting trivial
      intro free
      cases free
  | markLast entry frameNumber =>
      exact .of_unclaimed signalled waiting fun _ => claims_of_mem_publications
  | publishRef type entry frameNumber =>
      exact .of_relies signalled.storeRefs waiting trivial
  | publishLocked type entry frameNumber =>
      refine .of_unclaimed signalled waiting ?_
      intro pushed member
      obtain ⟨old, -, rfl⟩ := List.mem_map.mp member
      rfl
  | unrefExchange entry prev =>
      simp only [CanvasState.exec]
      split
      · exact counted _ _
      · split
        · exact single _ rfl
        · exact nothing
  | acquireFence ring n =>
      simp only [CanvasState.exec]
      split
      next fence => exact .of_relies signalled waiting fence
      next => exact single _ rfl
  | claimState entry =>
      refine .of_relies (signalled.modify fun free => by cases free) waiting ⟨?_, ?_⟩
      · rw [storeState, entries_modify_self]
        exact relies
      · rw [storeState, entries_modify_self]
  | claimRefs entry =>
      refine .of_relies signalled.storeRefs waiting ⟨?_, ?_⟩
      · rw [storeRefs, entries_modify_self]
        exact relies.1
      · rw [storeRefs, entries_modify_self]
        exact relies.2
  | reset entry =>
      simp only [CanvasState.exec]
      split
      · refine .of_relies (signalled.modify ?_) waiting trivial
        intro free
        rw [relies.2] at free
        cases free
      · exact .of_releaseFailed signalled waiting relies.1
  | begin entry =>
      simp only [CanvasState.exec, working rfl, if_true]
      split
      · exact .of_relies signalled waiting trivial
      · exact .of_relies signalled waiting trivial
  | finish entry =>
      simp only [CanvasState.exec, working rfl, if_true]
      split
      · exact .of_relies signalled waiting trivial
      · exact .of_relies (signalled.modify (signalled entry)) waiting trivial
  | renderingState entry =>
      exact .of_relies (signalled.modify fun free => by cases free) waiting trivial
  | renderingRefs entry =>
      exact .of_relies (signalled.modify (signalled entry)) waiting trivial
  | submit entry =>
      have submitted :
          (state.modify entry fun stored => { stored with submitted := true }).FreeSignalled :=
        signalled.modify (signalled entry)
      simp only [CanvasState.exec, working rfl, if_true]
      split
      · refine .of_unclaimed submitted waiting ?_
        intro pushed member
        split at member
        · exact claims_of_opens (opens_of_mem_submitNativePreview member)
        · cases member
      · obtain ⟨free, head, tail⟩ := Recoverable.of_nothing submitted waiting
        refine ⟨free, ?_, tail⟩
        intro instr member
        exact (head instr member).mono (fun _ signalled => signalled) fun _ => rfl
  | failedRefs entry =>
      refine .of_relies signalled.storeRefs waiting ?_
      change ((state.storeRefs entry 0).entries entry).fence = true
      rw [storeRefs, entries_modify_self]
      exact relies
  | failedState entry =>
      have freed : (state.storeState entry .free).FreeSignalled :=
        signalled.modify fun _ => relies
      exact .of_nothing freed waiting
  | republishFence entry orRender =>
      simp only [CanvasState.exec]
      split
      · refine .of_unclaimed signalled waiting ?_
        intro pushed member
        rw [List.append_assoc] at member
        rcases List.mem_append.mp member with published | preview
        · exact claims_of_mem_publications published
        · exact (@timeless_of_mem_republishPreview consumers config orRender _ preview).1
      · exact keep _ fun _ member => claims_of_opens (opens_of_mem_notRepublished member)
  | captureRef slot =>
      obtain ⟨free, head, tail⟩ :=
        counted ⟨.canvas, slot⟩ ((state.entries ⟨.canvas, slot⟩).refcount + 1)
      refine ⟨free, ?_, tail⟩
      intro instr member
      exact (head instr member).mono (fun _ signalled => signalled) fun _ => rfl
  | _ => exact absurd rfl looks

/-- A step beside the compositor thread keeps entries recoverable if it leaves their
states and resets no fence. -/
theorem Recoverable.beside
    (recoverable : state.Recoverable)
    (program : after.program = state.program)
    (fences : ∀ entry, (state.entries entry).fence = true → (after.entries entry).fence = true)
    (states : ∀ entry, (after.entries entry).state = (state.entries entry).state) :
    after.Recoverable := by
  refine ⟨?_, ?_, ?_⟩
  · intro entry free
    rw [states] at free
    exact fences entry (recoverable.free entry free)
  · intro instr member
    rw [program] at member
    exact (recoverable.head instr member).mono fences states
  · rw [program]
    exact recoverable.tail

theorem Recoverable.execNext
    (recoverable : state.Recoverable)
    (working : state.Working (.exec succeeds))
    (stepped : state.execNext config succeeds = some after) :
    after.Recoverable := by
  unfold CanvasState.execNext at stepped
  split at stepped
  next => cases stepped
  next instr rest program =>
    rw [← Option.some.inj stepped]
    refine Recoverable.exec recoverable.free ?_ ?_ ?_
    · have relies := recoverable.head instr (by simp [program])
      exact relies.mono (fun _ signalled => signalled) fun _ => rfl
    · intro later member
      exact recoverable.tail later (by simpa [program] using member)
    · exact working instr (by simp [program])

theorem Recoverable.start
    {call : CompositorCall}
    (recoverable : state.Recoverable)
    (stepped : state.start config call = some after) :
    after.Recoverable := by
  unfold CanvasState.start at stepped
  split at stepped
  next done =>
    have waiting : ∀ later ∈ state.program, later.claims = none := by simp [done]
    cases call with
    | render frame =>
        rw [← Option.some.inj stepped]
        exact .of_unclaimed recoverable.free waiting fun _ member =>
          claims_of_opens (opens_of_mem_renderNativeFrame member)
    | republish frame orRender =>
        rw [← Option.some.inj stepped]
        exact .of_unclaimed recoverable.free waiting fun _ member =>
          claims_of_opens (opens_of_mem_republishLast member)
    | capture =>
        rw [← Option.some.inj stepped]
        refine .of_unclaimed recoverable.free waiting ?_
        intro pushed member
        rcases List.mem_append.mp member with given | last
        · exact claims_of_mem_releaseCached given
        · rw [List.mem_singleton.mp last]
          rfl
    | release =>
        rw [← Option.some.inj stepped]
        exact .of_unclaimed recoverable.free waiting fun _ => claims_of_mem_releaseCached
  next => cases stepped

/-- What a consumer leaves of an entry. -/
theorem consume_keeps
    {who : Fin consumers}
    {action : ConsumerAction}
    (stepped : state.consume succeeds who action = some after) :
    after.program = state.program ∧ ∀ entry,
      (after.entries entry).state = (state.entries entry).state ∧
        (after.entries entry).fence = (state.entries entry).fence ∧
        (after.entries entry).submitted = (state.entries entry).submitted := by
  have counted : ∀ (changed : EntryIdx) (value : UInt32) (entry : EntryIdx),
      ((state.storeRefs changed value).entries entry).state = (state.entries entry).state ∧
        ((state.storeRefs changed value).entries entry).fence = (state.entries entry).fence ∧
        ((state.storeRefs changed value).entries entry).submitted =
          (state.entries entry).submitted := by
    intro changed value entry
    by_cases same : entry = changed
    · subst same
      simp [storeRefs]
    · simp [storeRefs, entries_modify_of_ne same]
  cases action with
  | acquire type =>
      simp only [CanvasState.consume] at stepped
      split at stepped
      · rw [← Option.some.inj stepped]
        exact ⟨rfl, fun _ => ⟨rfl, rfl, rfl⟩⟩
      · cases stepped
  | ref entry =>
      simp only [CanvasState.consume] at stepped
      split at stepped
      · rw [← Option.some.inj stepped]
        exact ⟨rfl, fun _ => ⟨rfl, rfl, rfl⟩⟩
      · cases stepped
  | unref entry =>
      simp only [CanvasState.consume] at stepped
      split at stepped
      · rw [← Option.some.inj stepped]
        exact ⟨rfl, fun _ => ⟨rfl, rfl, rfl⟩⟩
      · cases stepped
  | proceed =>
      obtain ⟨call, -, proceeds⟩ := Option.map_eq_some_iff.mp stepped
      rw [← proceeds]
      cases call with
      | acquired entry => exact ⟨rfl, fun _ => ⟨rfl, rfl, rfl⟩⟩
      | refState entry => exact ⟨rfl, fun _ => ⟨rfl, rfl, rfl⟩⟩
      | refAdd entry => exact ⟨rfl, counted entry _⟩
      | unrefLoad entry => exact ⟨rfl, fun _ => ⟨rfl, rfl, rfl⟩⟩
      | unrefExchange entry prev =>
          simp only [CanvasState.proceed]
          split
          · exact ⟨rfl, counted entry _⟩
          · exact ⟨rfl, fun _ => ⟨rfl, rfl, rfl⟩⟩

theorem Recoverable.complete
    (recoverable : state.Recoverable)
    (stepped : state.complete entry = some after) :
    after.Recoverable := by
  unfold CanvasState.complete at stepped
  split at stepped
  · rw [← Option.some.inj stepped]
    apply recoverable.beside
    · rfl
    · intro other signalled
      by_cases same : other = entry
      · subst same
        simp
      · rw [entries_modify_of_ne same]
        exact signalled
    · intro other
      by_cases same : other = entry
      · subst same
        simp
      · rw [entries_modify_of_ne same]
  · cases stepped

theorem recoverable_init (consumers : Nat) : (init consumers).Recoverable where
  free := fun _ _ => rfl
  head := by simp [init]
  tail := by simp [init]

theorem recoverable_of_reachable
    (reachable : (canvasSystem consumers config).ReachableWhen Working state) :
    state.Recoverable := by
  apply reachable.invariant
  · intro start initial
    rw [show start = init consumers from initial]
    exact recoverable_init consumers
  · intro before step after recoverable working stepped
    cases step with
    | start call => exact recoverable.start stepped
    | exec succeeds => exact recoverable.execNext working stepped
    | consume who action succeeds =>
        obtain ⟨program, entries⟩ := consume_keeps stepped
        apply recoverable.beside program
        · intro entry signalled
          rw [(entries entry).2.1]
          exact signalled
        · intro entry
          exact (entries entry).1
    | complete entry => exact recoverable.complete stepped

/-- In every run with a working driver every free entry without references has a
signalled fence. -/
theorem free_entries_signalled
    {config : CanvasConfig}
    {state : CanvasState consumers}
    (reachable : (canvasSystem consumers config).ReachableWhen Working state) :
    ∀ entry, (state.entries entry).state = .free → (state.entries entry).refcount = 0 →
      (state.entries entry).fence = true := by
  intro entry free _
  exact (recoverable_of_reachable reachable).free entry free

/-- The first entry has no command buffer. -/
def firstWithoutBuffer : CanvasConfig :=
  { plainConfig with cmdBuffer := fun entry => entry ≠ firstEntry }

/-- A driver that works, on entries of which the first has no command buffer. -/
def workingNext : CanvasState 1 → CanvasStep 1 → Option (CanvasState 1) :=
  System.guarded Working (CanvasState.next firstWithoutBuffer)

/-- The first entry is put into `RENDERING` and given up; the next render submits the second. -/
theorem free_entries_signalled_givenUp :
    ∃ claimed state : CanvasState 1,
      System.run workingNext claimed
          (List.replicate 4 (.exec true) ++ .start (.render 2) ::
            List.replicate 27 (.exec true)) = some state ∧
        (claimed.entries firstEntry).state = .rendering ∧
        (state.entries firstEntry).state = .free ∧
        (state.entries ⟨.canvas, 1⟩).submitted = true ∧
        (state.entries firstEntry).fence = true := by
  have computed :
      ((System.run workingNext (init 1)
          (.start (.render 1) :: List.replicate 20 (.exec true))).bind fun claimed =>
        (System.run workingNext claimed
          (List.replicate 4 (.exec true) ++ .start (.render 2) ::
            List.replicate 27 (.exec true))).map fun state =>
              decide ((claimed.entries firstEntry).state = .rendering ∧
                (state.entries firstEntry).state = .free ∧
                (state.entries firstEntry).refcount = 0 ∧
                (state.entries ⟨.canvas, 1⟩).submitted = true)) =
        some true := by
    decide +kernel
  obtain ⟨claimed, claims, rest⟩ := Option.bind_eq_some_iff.mp computed
  obtain ⟨state, goesOn, fields⟩ := Option.map_eq_some_iff.mp rest
  obtain ⟨rendering, free, unreferenced, submitted⟩ := of_decide_eq_true fields
  have reachable :
      (canvasSystem 1 firstWithoutBuffer).ReachableWhen Working claimed :=
    System.reachableWhen_of_run (.initial rfl) claims
  exact ⟨claimed, state, goesOn, rendering, free, submitted,
    free_entries_signalled (System.reachableWhen_of_run reachable goesOn) _ free unreferenced⟩

/-! ## Entries that are lost -/

/-- The fence of an entry is unsignalled, no submission names it and the compositor
thread is not at work on it. -/
structure Lost
    (state : CanvasState consumers)
    (entry : EntryIdx) : Prop where
  fence : (state.entries entry).fence = false
  submitted : (state.entries entry).submitted = false
  unclaimed : ∀ instr ∈ state.program, instr.claims ≠ some entry

/-- An entry stays lost while its fence and submission stay and no instruction is
put in front that works on it. -/
theorem Lost.andThen
    {instrs : List Instr}
    (lost : state.Lost entry)
    (program : after.program = state.program)
    (fence : (after.entries entry).fence = (state.entries entry).fence)
    (submitted : (after.entries entry).submitted = (state.entries entry).submitted)
    (pushed : ∀ instr ∈ instrs, instr.claims ≠ some entry) :
    (after.andThen instrs).Lost entry := by
  refine ⟨fence.trans lost.fence, submitted.trans lost.submitted, ?_⟩
  intro instr member
  rcases List.mem_append.mp member with front | waiting
  · exact pushed instr front
  · rw [program] at waiting
    exact lost.unclaimed instr waiting

/-- A change keeps an entry lost if it is one of another entry or leaves the fence
and the submission. -/
theorem Lost.modify
    {state : CanvasState consumers}
    {entry changed : EntryIdx}
    {change : CanvasEntry → CanvasEntry}
    (lost : state.Lost entry)
    (apart : changed ≠ entry ∨ ∀ stored : CanvasEntry,
      (change stored).fence = stored.fence ∧ (change stored).submitted = stored.submitted) :
    (state.modify changed change).Lost entry := by
  by_cases same : entry = changed
  · subst same
    obtain ⟨fence, submitted⟩ := apart.resolve_left (by simp) (state.entries entry)
    refine ⟨?_, ?_, lost.unclaimed⟩
    · rw [entries_modify_self, fence]
      exact lost.fence
    · rw [entries_modify_self, submitted]
      exact lost.submitted
  · refine ⟨?_, ?_, lost.unclaimed⟩
    · rw [entries_modify_of_ne same]
      exact lost.fence
    · rw [entries_modify_of_ne same]
      exact lost.submitted

theorem Lost.storeState
    {entry changed : EntryIdx}
    {value : EntryState}
    (lost : state.Lost entry) :
    (state.storeState changed value).Lost entry :=
  lost.modify (.inr fun _ => ⟨rfl, rfl⟩)

theorem Lost.storeRefs
    {state : CanvasState consumers}
    {entry changed : EntryIdx}
    {value : UInt32}
    (lost : state.Lost entry) :
    (state.storeRefs changed value).Lost entry :=
  lost.modify (.inr fun _ => ⟨rfl, rfl⟩)

theorem claims_ne_of_mem_releaseFailed
    {entry other : EntryIdx}
    (apart : other ≠ entry)
    (member : instr ∈ releaseFailed other) :
    instr.claims ≠ some entry := by
  unfold releaseFailed at member
  split at member
  · rw [List.mem_singleton.mp member]
    simpa [Instr.claims] using apart
  · rw [List.mem_singleton.mp member]
    simpa [Instr.claims] using apart

/-- Whatever the driver answers, the compositor thread does not choose an entry that
is lost. -/
theorem Lost.exec
    (lost : state.Lost entry)
    (unclaimed : instr.claims ≠ some entry) :
    (state.exec config succeeds instr).Lost entry := by
  have keep : ∀ instrs : List Instr, (∀ pushed ∈ instrs, pushed.claims = none) →
      (state.andThen instrs).Lost entry := by
    intro instrs none
    apply lost.andThen rfl rfl rfl
    intro pushed member
    simp [none pushed member]
  have single : ∀ next : Instr, next.claims = none → (state.andThen [next]).Lost entry := by
    intro next none
    apply keep
    simpa using none
  have claiming : ∀ next : Instr, next.claims = instr.claims →
      ∀ pushed ∈ [next], pushed.claims ≠ some entry := by
    intro next claims pushed member
    rw [List.mem_singleton.mp member, claims]
    exact unclaimed
  by_cases looks : looks instr = true
  · obtain ⟨instrs, same, unclaimed⟩ := exec_of_looks looks config succeeds state
    rw [same]
    exact keep instrs unclaimed
  cases instr with
  | markReady ready frameNumber =>
      have marked := @Lost.modify _ state entry ready
        (fun stored => { stored with frameNumber := frameNumber, state := .ready }) lost
        (.inr fun _ => ⟨rfl, rfl⟩)
      exact marked.andThen rfl rfl rfl (by simp [Instr.claims])
  | markLast ready frameNumber =>
      refine lost.andThen rfl rfl rfl ?_
      intro pushed member
      simp [claims_of_mem_publications member]
  | publishRef type posted frameNumber =>
      exact lost.storeRefs.andThen rfl rfl rfl (by simp [Instr.claims])
  | publishLocked type posted frameNumber =>
      refine lost.andThen rfl rfl rfl ?_
      intro pushed member
      obtain ⟨old, -, rfl⟩ := List.mem_map.mp member
      simp [Instr.claims]
  | unrefExchange given prev =>
      simp only [CanvasState.exec]
      split
      · exact lost.storeRefs
      · split
        · exact single _ rfl
        · exact lost
  | acquireFence ring n =>
      simp only [CanvasState.exec]
      split
      next fence =>
        refine lost.andThen rfl rfl rfl ?_
        intro pushed member
        rw [List.mem_singleton.mp member]
        -- An entry with a signalled fence is not lost.
        intro chosen
        rw [Option.some.inj chosen, lost.fence] at fence
        cases fence
      next => exact single _ rfl
  | claimState claimed => exact lost.storeState.andThen rfl rfl rfl (claiming _ rfl)
  | claimRefs claimed => exact lost.storeRefs.andThen rfl rfl rfl (claiming _ rfl)
  | reset claimed =>
      have apart : claimed ≠ entry := by simpa [Instr.claims] using unclaimed
      simp only [CanvasState.exec]
      split
      · exact (lost.modify (.inl apart)).andThen rfl rfl rfl (claiming _ rfl)
      · exact lost.andThen rfl rfl rfl fun _ => claims_ne_of_mem_releaseFailed apart
  | begin claimed =>
      have apart : claimed ≠ entry := by simpa [Instr.claims] using unclaimed
      simp only [CanvasState.exec]
      split
      · split
        · exact lost.andThen rfl rfl rfl (claiming _ rfl)
        · exact lost.andThen rfl rfl rfl (claiming _ rfl)
      · exact lost.andThen rfl rfl rfl fun _ => claims_ne_of_mem_releaseFailed apart
  | finish claimed =>
      have apart : claimed ≠ entry := by simpa [Instr.claims] using unclaimed
      simp only [CanvasState.exec]
      split
      · split
        · exact lost.andThen rfl rfl rfl (claiming _ rfl)
        · exact (lost.modify (.inl apart)).andThen rfl rfl rfl (claiming _ rfl)
      · exact lost.andThen rfl rfl rfl fun _ => claims_ne_of_mem_releaseFailed apart
  | renderingState claimed => exact lost.storeState.andThen rfl rfl rfl (claiming _ rfl)
  | renderingRefs claimed =>
      have numbered := @Lost.modify _ state entry claimed
        (fun stored => { stored with refcount := 0, frameNumber := state.frame }) lost
        (.inr fun _ => ⟨rfl, rfl⟩)
      exact numbered.andThen rfl rfl rfl (claiming _ rfl)
  | submit claimed =>
      have apart : claimed ≠ entry := by simpa [Instr.claims] using unclaimed
      have submitted := @Lost.modify _ state entry claimed
        (fun stored => { stored with submitted := true }) lost (.inl apart)
      simp only [CanvasState.exec]
      split
      · split
        · refine submitted.andThen rfl rfl rfl ?_
          intro pushed member
          split at member
          · simp [claims_of_opens (opens_of_mem_submitNativePreview member)]
          · cases member
        · exact ⟨submitted.fence, submitted.submitted, submitted.unclaimed⟩
      · exact lost.andThen rfl rfl rfl fun _ => claims_ne_of_mem_releaseFailed apart
  | failedRefs claimed => exact lost.storeRefs.andThen rfl rfl rfl (claiming _ rfl)
  | failedState claimed => exact lost.storeState
  | republishFence ready orRender =>
      simp only [CanvasState.exec]
      split
      · refine lost.andThen rfl rfl rfl ?_
        intro pushed member
        rw [List.append_assoc] at member
        rcases List.mem_append.mp member with published | preview
        · simp [claims_of_mem_publications published]
        · have timeless := @timeless_of_mem_republishPreview consumers config orRender _ preview
          simp [timeless.1]
      · exact keep _ fun _ member => claims_of_opens (opens_of_mem_notRepublished member)
  | captureRef slot =>
      have added := @Lost.storeRefs _ state entry ⟨.canvas, slot⟩
        ((state.entries ⟨.canvas, slot⟩).refcount + 1) lost
      exact ⟨added.fence, added.submitted, added.unclaimed⟩
  | _ => exact absurd rfl looks

/-- An entry that is lost stays lost, whatever is called and whatever the driver
answers. -/
theorem Lost.next
    {step : CanvasStep consumers}
    (lost : state.Lost entry)
    (stepped : state.next config step = some after) :
    after.Lost entry := by
  cases step with
  | start call =>
      change state.start config call = some after at stepped
      unfold CanvasState.start at stepped
      split at stepped
      · cases call with
        | render frame =>
            rw [← Option.some.inj stepped]
            refine lost.andThen rfl rfl rfl fun _ member => ?_
            simp [claims_of_opens (opens_of_mem_renderNativeFrame member)]
        | republish frame orRender =>
            rw [← Option.some.inj stepped]
            refine lost.andThen rfl rfl rfl fun _ member => ?_
            simp [claims_of_opens (opens_of_mem_republishLast member)]
        | capture =>
            rw [← Option.some.inj stepped]
            refine lost.andThen rfl rfl rfl fun _ member => ?_
            rcases List.mem_append.mp member with given | last
            · simp [claims_of_mem_releaseCached given]
            · rw [List.mem_singleton.mp last]
              simp [Instr.claims]
        | release =>
            rw [← Option.some.inj stepped]
            refine lost.andThen rfl rfl rfl fun _ member => ?_
            simp [claims_of_mem_releaseCached member]
      · cases stepped
  | exec succeeds =>
      change state.execNext config succeeds = some after at stepped
      unfold CanvasState.execNext at stepped
      split at stepped
      next => cases stepped
      next instr rest program =>
        rw [← Option.some.inj stepped]
        have taken : ({ state with program := rest } : CanvasState consumers).Lost entry :=
          ⟨lost.fence, lost.submitted, fun later member =>
            lost.unclaimed later (by simp [program, member])⟩
        exact taken.exec (lost.unclaimed instr (by simp [program]))
  | consume who action succeeds =>
      obtain ⟨program, entries⟩ := consume_keeps stepped
      obtain ⟨-, fence, submitted⟩ := entries entry
      refine ⟨fence.trans lost.fence, submitted.trans lost.submitted, ?_⟩
      rw [program]
      exact lost.unclaimed
  | complete completed =>
      change state.complete completed = some after at stepped
      unfold CanvasState.complete at stepped
      split at stepped
      next submitted =>
        rw [← Option.some.inj stepped]
        have apart : completed ≠ entry := by
          rintro rfl
          rw [lost.submitted] at submitted
          cases submitted
        exact lost.modify (.inl apart)
      next => cases stepped

/-- No run brings an entry back that is lost. -/
theorem Lost.run
    {steps : List (CanvasStep consumers)}
    (lost : state.Lost entry)
    (runs : System.run (CanvasState.next config) state steps = some after) :
    after.Lost entry := by
  induction steps generalizing state with
  | nil =>
      rw [← Option.some.inj runs]
      exact lost
  | cons step rest ih =>
      obtain ⟨middle, stepped, restRuns⟩ := Option.bind_eq_some_iff.mp runs
      exact ih (lost.next stepped) restRuns

/-- The first render fails to begin its command buffer. -/
def failedBegin : List (CanvasStep 1) :=
  List.flatten
    [[.start (.render 1)], List.replicate 22 (.exec true), [.exec false],
      List.replicate 2 (.exec true)]

/-- The entry of a render that fails is free, but it is never chosen again. -/
theorem failed_begin_loses_entry :
    ∃ state : CanvasState 1, (canvasSystem 1 plainConfig).Reachable state ∧
      (state.entries firstEntry).state = .free ∧ (state.entries firstEntry).refcount = 0 ∧
      (state.entries firstEntry).fence = false ∧
      ∀ steps after, System.run (CanvasState.next plainConfig) state steps = some after →
        after.Lost firstEntry := by
  have computed :
      (System.run (CanvasState.next plainConfig) (init 1) failedBegin).map
          (fun state => decide (state.program = [] ∧
            (state.entries firstEntry).state = .free ∧
            (state.entries firstEntry).refcount = 0 ∧
            (state.entries firstEntry).fence = false ∧
            (state.entries firstEntry).submitted = false)) =
        some true := by
    decide +kernel
  obtain ⟨state, runs, fields⟩ := Option.map_eq_some_iff.mp computed
  obtain ⟨done, free, refcount, fence, submitted⟩ := of_decide_eq_true fields
  have lost : state.Lost firstEntry := ⟨fence, submitted, by simp [done]⟩
  exact ⟨state, System.reachable_of_run (.initial rfl) runs, free, refcount, fence,
    fun _ _ => lost.run⟩

end CanvasState
end Engine
end SbsServer
