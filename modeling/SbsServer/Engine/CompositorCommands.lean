import Mathlib.Data.List.Nodup
import SbsServer.Common.SpscQueueOrder

/-!
# Commands for the compositor thread

`compositor_thread.c`: other threads send the compositor thread their commands
through a queue that is made for one producer.  Client threads of the API and the
main loop call these functions without a lock.
-/

namespace SbsServer
namespace Engine

open CLib Common

/-- `sbs_comp_cmd_t`, as far as other threads send it. -/
inductive CompCmd (Scene ColorMode : Type)
  /-- `SBS_COMP_CMD_SET_SCENE` -/
  | setScene (state : Scene)
  /-- `SBS_COMP_CMD_SET_NATIVE_PREVIEW` -/
  | setNativePreview
      (previewWidth previewHeight previewFrameInterval : UInt32)
      (previewColorMode : ColorMode)
  deriving DecidableEq

/-- A command with the number of its allocation. -/
structure AllocatedCmd (Scene ColorMode : Type) where
  number : Nat
  cmd : CompCmd Scene ColorMode
  deriving DecidableEq

/-- `SBS_COMP_QUEUE_SIZE` -/
def compQueueSize : UInt32 := 64

/-- What `sbs_compositor_thread_set_scene` pushes. -/
def setSceneCmd
    {Scene ColorMode : Type}
    (state : Option Scene)
    (memory : Bool) : Option (CompCmd Scene ColorMode) :=
  match state with
  | none => none
  | some state => if memory then some (.setScene state) else none

/-- What `sbs_compositor_thread_configure_native_preview` pushes. -/
def configureNativePreviewCmd
    {Scene ColorMode : Type}
    (width height frameInterval : UInt32)
    (colorMode : ColorMode)
    (memory : Bool) : Option (CompCmd Scene ColorMode) :=
  if (width == 0) ≠ (height == 0) then none
  else if memory then
    some (.setNativePreview width height (if 0 < frameInterval then frameInterval else 1)
      colorMode)
  else none

/-- The threads that send commands, the queue, and what the calls that pushed returned. -/
structure CommandState (Thread Scene ColorMode : Type) where
  cmdQueue : SpscState Thread (AllocatedCmd Scene ColorMode)
  allocated : Nat
  returned : List (AllocatedCmd Scene ColorMode × Int)

/-- What the threads do. -/
inductive CommandEvent (Thread Scene ColorMode : Type)
  /-- A thread calls `sbs_compositor_thread_set_scene`. -/
  | setScene (thread : Thread) (state : Option Scene) (memory : Bool)
  /-- A thread calls `sbs_compositor_thread_configure_native_preview`. -/
  | configureNativePreview
      (thread : Thread)
      (width height frameInterval : UInt32)
      (colorMode : ColorMode)
      (memory : Bool)
  /-- A thread goes on with its call. -/
  | goOn (thread : Thread)
  /-- The compositor thread calls pop or goes on with it. -/
  | pop
  deriving DecidableEq

namespace CommandState

variable {Thread Scene ColorMode : Type} [DecidableEq Thread]

/-- A compositor thread that was just created. -/
def start
    (queue : SpscQueue (AllocatedCmd Scene ColorMode)) :
    CommandState Thread Scene ColorMode where
  cmdQueue := .start queue
  allocated := 0
  returned := []

/-- A call that has made its checks starts to push, or returns at once. -/
def send
    (state : CommandState Thread Scene ColorMode)
    (thread : Thread) :
    Option (CompCmd Scene ColorMode) → Option (CommandState Thread Scene ColorMode)
  | none =>
      match state.cmdQueue.pushing thread with
      | .idle => some state
      | _ => none
  | some cmd =>
      (state.cmdQueue.next (.push thread ⟨state.allocated, cmd⟩)).map fun cmdQueue =>
        { state with
          cmdQueue := cmdQueue
          allocated := state.allocated + 1 }

/-- What a call returns when its push ends. -/
def results
    (state : CommandState Thread Scene ColorMode)
    (thread : Thread) : List (AllocatedCmd Scene ColorMode × Int) :=
  let point := state.cmdQueue.pushing thread
  match (state.cmdQueue.queue.pushStep point).2.2 with
  | none => []
  | some true => (SpscState.itemOf point).map (·, 0)
  | some false => (SpscState.itemOf point).map (·, -1)

/-- The state after an event, if it can happen. -/
def next
    (state : CommandState Thread Scene ColorMode) :
    CommandEvent Thread Scene ColorMode → Option (CommandState Thread Scene ColorMode)
  | .setScene thread scene memory => state.send thread (setSceneCmd scene memory)
  | .configureNativePreview thread width height frameInterval colorMode memory =>
      state.send thread (configureNativePreviewCmd width height frameInterval colorMode memory)
  | .goOn thread =>
      (state.cmdQueue.next (.pushOn thread)).map fun cmdQueue =>
        { state with
          cmdQueue := cmdQueue
          returned := state.returned ++ state.results thread }
  | .pop =>
      (state.cmdQueue.next .pop).map fun cmdQueue => { state with cmdQueue := cmdQueue }

/-- Runs of a compositor thread and of those that send it commands. -/
def system (queue : SpscQueue (AllocatedCmd Scene ColorMode)) :
    System (CommandState Thread Scene ColorMode) (CommandEvent Thread Scene ColorMode) :=
  .ofNext (· = start queue) next

/-- The compositor thread, if it goes on alone, has popped each command whose call returned 0
exactly once. -/
def NothingLost
    [DecidableEq Scene]
    [DecidableEq ColorMode]
    (state : CommandState Thread Scene ColorMode) : Prop :=
  ∃ pops final, System.run next state (List.replicate pops .pop) = some final ∧
    ∀ cmd, (cmd, (0 : Int)) ∈ state.returned → final.cmdQueue.popped.count cmd = 1

/-! ## Runs in which one thread stores at a time -/

/-- An event after which at most one thread stores. -/
def PushesAlone
    (state : CommandState Thread Scene ColorMode) :
    CommandEvent Thread Scene ColorMode → Prop
  | .goOn thread => state.cmdQueue.StoresAlone (.pushOn thread)
  | _ => True

instance [Fintype Thread]
    (state : CommandState Thread Scene ColorMode) :
    ∀ event, Decidable (state.PushesAlone event)
  | .goOn thread => inferInstanceAs (Decidable (state.cmdQueue.StoresAlone (.pushOn thread)))
  | .setScene .. => isTrue trivial
  | .configureNativePreview .. => isTrue trivial
  | .pop => isTrue trivial

/-- The commands that are being pushed, were pushed or were refused are different ones. -/
structure Numbered
    (state : CommandState Thread Scene ColorMode) : Prop where
  pushing : ∀ thread, ∀ cmd ∈ SpscState.itemOf (state.cmdQueue.pushing thread),
    cmd.number < state.allocated ∧ cmd ∉ state.cmdQueue.pushed
  distinct : ∀ first second, ∀ cmd ∈ SpscState.itemOf (state.cmdQueue.pushing first),
    cmd ∈ SpscState.itemOf (state.cmdQueue.pushing second) → first = second
  pushed : ∀ cmd ∈ state.cmdQueue.pushed, cmd.number < state.allocated
  nodup : state.cmdQueue.pushed.Nodup
  returned : ∀ cmd, (cmd, (0 : Int)) ∈ state.returned → cmd ∈ state.cmdQueue.pushed

omit [DecidableEq Thread] in
theorem numbered_start
    (queue : SpscQueue (AllocatedCmd Scene ColorMode)) :
    (start queue : CommandState Thread Scene ColorMode).Numbered where
  pushing _ _ member := nomatch member
  distinct _ _ _ member := nomatch member
  pushed _ member := nomatch member
  nodup := .nil
  returned _ member := nomatch member

variable {state : CommandState Thread Scene ColorMode}

/-- A command that was just allocated differs from the others. -/
theorem Numbered.push
    (numbered : state.Numbered)
    (thread : Thread)
    (cmd : CompCmd Scene ColorMode)
    (tail : UInt32) :
    { state with
      cmdQueue := { state.cmdQueue with
        pushing := state.cmdQueue.setPushing thread (.tailLoaded ⟨state.allocated, cmd⟩ tail) }
      allocated := state.allocated + 1 }.Numbered := by
  have points : ∀ other, ∀ item ∈ SpscState.itemOf (state.cmdQueue.setPushing thread
      (.tailLoaded ⟨state.allocated, cmd⟩ tail) other),
      (other = thread ∧ item = ⟨state.allocated, cmd⟩) ∨
        item ∈ SpscState.itemOf (state.cmdQueue.pushing other) := by
    intro other item member
    unfold SpscState.setPushing at member
    split at member
    next same => exact .inl ⟨same, List.mem_singleton.mp member⟩
    next => exact .inr member
  have fresh : ∀ other, (⟨state.allocated, cmd⟩ : AllocatedCmd Scene ColorMode) ∉
      SpscState.itemOf (state.cmdQueue.pushing other) :=
    fun other member => Nat.lt_irrefl _ (numbered.pushing other _ member).1
  refine { numbered with pushing := ?_, distinct := ?_, pushed := ?_ }
  · intro other item member
    rcases points other item member with ⟨_, rfl⟩ | old
    · exact ⟨Nat.lt_succ_self _, fun pushed => Nat.lt_irrefl _ (numbered.pushed _ pushed)⟩
    · have before := numbered.pushing other item old
      exact ⟨Nat.lt_succ_of_lt before.1, before.2⟩
  · intro first second item member alsoMember
    rcases points first item member with ⟨isFirst, rfl⟩ | old
    · rcases points second _ alsoMember with ⟨isSecond, _⟩ | old
      · rw [isFirst, isSecond]
      · exact absurd old (fresh second)
    · rcases points second item alsoMember with ⟨_, rfl⟩ | alsoOld
      · exact absurd old (fresh first)
      · exact numbered.distinct first second item old alsoOld
  · intro item member
    exact Nat.lt_succ_of_lt (numbered.pushed item member)

variable {thread : Thread} {size : Nat}

/-- A thread that goes on pushing its command, or ends with it refused. -/
theorem Numbered.move
    (numbered : state.Numbered)
    {point : PushPoint (AllocatedCmd Scene ColorMode)}
    (same : SpscState.itemOf point ⊆ SpscState.itemOf (state.cmdQueue.pushing thread))
    {queue : SpscQueue (AllocatedCmd Scene ColorMode)}
    {fullAt : List Nat}
    {refused : List (AllocatedCmd Scene ColorMode × Int)}
    (failed : ∀ cmd, (cmd, (0 : Int)) ∉ refused) :
    { state with
      cmdQueue := { state.cmdQueue with
        queue := queue
        pushing := state.cmdQueue.setPushing thread point
        fullAt := fullAt }
      returned := state.returned ++ refused }.Numbered := by
  have points : ∀ other, ∀ item ∈ SpscState.itemOf (state.cmdQueue.setPushing thread point other),
      item ∈ SpscState.itemOf (state.cmdQueue.pushing other) := by
    intro other item member
    unfold SpscState.setPushing at member
    split at member
    next isThread => exact isThread ▸ same member
    next => exact member
  refine { numbered with pushing := ?_, distinct := ?_, returned := ?_ }
  · exact fun other item member => numbered.pushing other item (points other item member)
  · exact fun first second item member alsoMember => numbered.distinct first second item
      (points first item member) (points second item alsoMember)
  · intro cmd member
    rcases List.mem_append.mp member with old | new
    · exact numbered.returned cmd old
    · exact absurd new (failed cmd)

/-- A thread whose command is accepted. -/
theorem Numbered.accept
    (numbered : state.Numbered)
    {cmd : AllocatedCmd Scene ColorMode}
    {next : UInt32}
    (stands : state.cmdQueue.pushing thread = .written cmd next)
    {queue : SpscQueue (AllocatedCmd Scene ColorMode)} :
    { state with
      cmdQueue := { state.cmdQueue with
        queue := queue
        pushing := state.cmdQueue.setPushing thread .idle
        pushed := state.cmdQueue.pushed ++ [cmd] }
      returned := state.returned ++ [(cmd, 0)] }.Numbered := by
  have mine : cmd ∈ SpscState.itemOf (state.cmdQueue.pushing thread) := by
    rw [stands]
    exact List.mem_singleton_self _
  have points : ∀ other, ∀ item ∈ SpscState.itemOf (state.cmdQueue.setPushing thread .idle other),
      other ≠ thread ∧ item ∈ SpscState.itemOf (state.cmdQueue.pushing other) := by
    intro other item member
    unfold SpscState.setPushing at member
    split at member
    next => cases member
    next different => exact ⟨different, member⟩
  refine { numbered with
    pushing := ?_
    distinct := ?_
    pushed := ?_
    nodup := ?_
    returned := ?_ }
  · intro other item member
    obtain ⟨different, old⟩ := points other item member
    have before := numbered.pushing other item old
    refine ⟨before.1, fun pushed => ?_⟩
    rcases List.mem_append.mp pushed with inside | last
    · exact before.2 inside
    · refine different (numbered.distinct other thread item old ?_)
      rw [List.mem_singleton.mp last]
      exact mine
  · exact fun first second item member alsoMember => numbered.distinct first second item
      (points first item member).2 (points second item alsoMember).2
  · intro item member
    rcases List.mem_append.mp member with old | last
    · exact numbered.pushed item old
    · rw [List.mem_singleton.mp last]
      exact (numbered.pushing thread cmd mine).1
  · exact List.nodup_append.mpr ⟨numbered.nodup, List.nodup_singleton cmd, by
      rintro item old _ last rfl
      rw [List.mem_singleton.mp last] at old
      exact (numbered.pushing thread cmd mine).2 old⟩
  · intro item member
    rcases List.mem_append.mp member with old | last
    · exact List.mem_append_left _ (numbered.returned item old)
    · cases List.mem_singleton.mp last
      exact List.mem_append_right _ (List.mem_singleton_self _)

/-- What holds of a compositor thread whose commands are stored by one thread at a time. -/
structure Sound
    (size : Nat)
    (state : CommandState Thread Scene ColorMode) : Prop where
  queue : state.cmdQueue.Sound size
  numbered : state.Numbered

/-- A call that starts. -/
theorem Sound.send
    {state after : CommandState Thread Scene ColorMode}
    (sound : state.Sound size)
    {cmd : Option (CompCmd Scene ColorMode)}
    (stepped : state.send thread cmd = some after) :
    after.Sound size := by
  cases cmd with
  | none =>
      simp only [CommandState.send] at stepped
      split at stepped
      next =>
        cases stepped
        exact sound
      next => cases stepped
  | some cmd =>
      obtain ⟨queue, pushes, rfl⟩ := Option.map_eq_some_iff.mp stepped
      have alone : state.cmdQueue.StoresAlone (.push thread ⟨state.allocated, cmd⟩) := trivial
      refine ⟨sound.queue.next alone pushes, ?_⟩
      simp only [SpscState.next] at pushes
      split at pushes
      next =>
        cases pushes
        exact sound.numbered.push thread cmd _
      next => cases pushes

/-- A call that goes on. -/
theorem Sound.goOn
    {size : Nat}
    {state : CommandState Thread Scene ColorMode}
    (sound : state.Sound size)
    {thread : Thread}
    (alone : state.cmdQueue.StoresAlone (.pushOn thread))
    {queue : SpscState Thread (AllocatedCmd Scene ColorMode)}
    (stepped : state.cmdQueue.next (.pushOn thread) = some queue) :
    { state with
      cmdQueue := queue
      returned := state.returned ++ state.results thread }.Sound size := by
  refine ⟨sound.queue.next alone stepped, ?_⟩
  unfold results
  simp only [SpscState.next] at stepped
  cases stands : state.cmdQueue.pushing thread with
  | idle =>
      rw [stands] at stepped
      cases stepped
  | tailLoaded item tail =>
      simp only [stands, SpscQueue.pushStep] at stepped ⊢
      split at stepped
      next full =>
        cases stepped
        rw [if_pos full]
        refine sound.numbered.move (List.nil_subset _) fun cmd member => ?_
        cases List.mem_singleton.mp member
      next room =>
        cases stepped
        rw [if_neg room]
        refine sound.numbered.move ?_ fun _ member => absurd member List.not_mem_nil
        rw [stands]
        exact List.Subset.refl _
  | admitted item tail next =>
      simp only [stands, SpscQueue.pushStep] at stepped ⊢
      cases stepped
      refine sound.numbered.move ?_ fun _ member => absurd member List.not_mem_nil
      rw [stands]
      exact List.Subset.refl _
  | written item next =>
      simp only [stands, SpscQueue.pushStep] at stepped ⊢
      cases stepped
      exact sound.numbered.accept stands

/-- A step that stores alone keeps the invariant. -/
theorem Sound.next
    {state after : CommandState Thread Scene ColorMode}
    (sound : state.Sound size)
    {event : CommandEvent Thread Scene ColorMode}
    (alone : state.PushesAlone event)
    (stepped : state.next event = some after) :
    after.Sound size := by
  cases event with
  | setScene thread scene memory => exact sound.send stepped
  | configureNativePreview thread width height frameInterval colorMode memory =>
      exact sound.send stepped
  | goOn thread =>
      obtain ⟨queue, pushes, rfl⟩ := Option.map_eq_some_iff.mp stepped
      exact sound.goOn alone pushes
  | pop =>
      simp only [CommandState.next] at stepped
      obtain ⟨queue, pops, rfl⟩ := Option.map_eq_some_iff.mp stepped
      have alone : state.cmdQueue.StoresAlone .pop := trivial
      refine ⟨sound.queue.next alone pops, ?_⟩
      simp only [SpscState.next] at pops
      cases pops
      exact { sound.numbered with }

/-- The pops of the compositor thread are those of its queue. -/
theorem run_pops
    (pops : Nat)
    {final : SpscState Thread (AllocatedCmd Scene ColorMode)}
    (runs : System.run SpscState.next state.cmdQueue (List.replicate pops .pop) = some final) :
    System.run next state (List.replicate pops .pop) =
      some { state with cmdQueue := final } := by
  induction pops generalizing state with
  | zero =>
      cases runs
      rfl
  | succ pops ih =>
      obtain ⟨queue, popped, rest⟩ := Option.bind_eq_some_iff.mp runs
      rw [List.replicate_succ, System.run, next, popped]
      exact @ih { state with cmdQueue := queue } rest

/-- Nothing is lost when one thread stores at a time. -/
theorem Sound.nothingLost
    [DecidableEq Scene]
    [DecidableEq ColorMode]
    (sound : state.Sound size) :
    state.NothingLost := by
  obtain ⟨pops, final, runs, popped⟩ := sound.queue.drains
  refine ⟨pops, _, run_pops pops runs, fun cmd accepted => ?_⟩
  dsimp only
  rw [popped]
  exact List.count_eq_one_of_mem sound.numbered.nodup (sound.numbered.returned cmd accepted)

theorem sound_of_reachableWhen
    {queue : SpscQueue (AllocatedCmd Scene ColorMode)}
    (made : SpscQueue.new compQueueSize = some queue)
    (reachable : (system queue).ReachableWhen PushesAlone state) :
    ∃ size, state.Sound size := by
  obtain ⟨size, sized, _, head, tail, slots⟩ := SpscQueue.sized_of_new made
  refine ⟨size, reachable.invariant ?_ ?_⟩
  · rintro _ rfl
    exact ⟨SpscState.sound_start sized head tail slots, numbered_start queue⟩
  · intro before event after sound alone stepped
    exact sound.next alone stepped

/-- In every run, with any number of threads, in which a push that finds room has loaded the
current tail and no other push is between finding room and storing tail, each command whose
call returned 0 is popped exactly once. -/
theorem nothingLost_of_reachable
    [DecidableEq Scene]
    [DecidableEq ColorMode]
    {queue : SpscQueue (AllocatedCmd Scene ColorMode)}
    (made : SpscQueue.new compQueueSize = some queue)
    {state : CommandState Thread Scene ColorMode}
    (reachable : (system queue).ReachableWhen PushesAlone state) :
    state.NothingLost := by
  obtain ⟨size, sound⟩ := sound_of_reachableWhen made reachable
  exact sound.nothingLost

/-- Two threads call at the same time; the second one finds room when the first has returned. -/
def oneAfterTheOther : List (CommandEvent Bool Nat Unit) :=
  [.setScene false (some 10) true, .goOn false, .goOn false, .goOn false,
    .configureNativePreview true 640 360 0 () true, .goOn true, .pop, .goOn true, .goOn true]

theorem nothingLost_oneAfterTheOther :
    ∃ queue state, SpscQueue.new compQueueSize = some queue ∧
      System.run (System.guarded PushesAlone next) (start queue) oneAfterTheOther = some state ∧
      state.returned.map (·.2) = [0, 0] ∧ state.NothingLost := by
  have runs : ((SpscQueue.new compQueueSize).bind fun queue =>
      (System.run (System.guarded PushesAlone next) (start queue) oneAfterTheOther).map fun state =>
        state.returned.map (·.2)) = some [0, 0] := by
    decide +kernel
  obtain ⟨queue, made, runs⟩ := Option.bind_eq_some_iff.mp runs
  obtain ⟨state, runs, returned⟩ := Option.map_eq_some_iff.mp runs
  exact ⟨queue, state, made, runs, returned,
    nothingLost_of_reachable made (System.reachableWhen_of_run (.initial rfl) runs)⟩

/-- The compositor thread finds its queue empty. -/
structure FindsEmpty (state : CommandState Thread Scene ColorMode) : Prop where
  empty : state.cmdQueue.queue.head = state.cmdQueue.queue.tail
  waits : state.cmdQueue.popping = .idle ∨
    state.cmdQueue.popping = .headLoaded state.cmdQueue.queue.head

/-- A compositor thread that finds its queue empty pops nothing more. -/
theorem FindsEmpty.popped_eq
    {state final : CommandState Thread Scene ColorMode}
    (finds : state.FindsEmpty)
    {pops : Nat}
    (runs : System.run next state (List.replicate pops .pop) = some final) :
    final.cmdQueue.popped = state.cmdQueue.popped := by
  induction pops generalizing state with
  | zero =>
      cases runs
      rfl
  | succ pops ih =>
      obtain ⟨after, stepped, rest⟩ := Option.bind_eq_some_iff.mp runs
      have kept : after.FindsEmpty ∧ after.cmdQueue.popped = state.cmdQueue.popped := by
        simp only [CommandState.next, SpscState.next, Option.map_some] at stepped
        rcases finds.waits with idle | loaded
        · simp only [idle, SpscQueue.popStep] at stepped
          cases stepped
          exact ⟨⟨finds.empty, .inr rfl⟩, List.append_nil _⟩
        · simp only [loaded, SpscQueue.popStep, if_pos finds.empty] at stepped
          cases stepped
          exact ⟨⟨finds.empty, .inl rfl⟩, List.append_nil _⟩
      rw [ih kept.1 rest, kept.2]

/-- Two threads load the same tail and store one after the other; then the compositor thread pops
what it finds. -/
def sameTail : List (CommandEvent Bool Nat Unit) :=
  [.setScene false (some 10) true, .setScene true (some 20) true,
    .goOn false, .goOn false, .goOn false,
    .goOn true, .goOn true, .goOn true,
    .pop, .pop, .pop, .pop, .pop]

/-- The thread of the first command was told that it was accepted, and it is never popped. -/
theorem lost_sameTail :
    ∃ queue state, SpscQueue.new compQueueSize = some queue ∧
      (system queue : System (CommandState Bool Nat Unit) _).Reachable state ∧
      state.returned.map (·.2) = [0, 0] ∧ ¬ state.NothingLost := by
  have runs : ((SpscQueue.new compQueueSize).bind fun queue =>
      (System.run next (start queue) sameTail).map fun state =>
        (state.returned, state.cmdQueue.popped,
          decide (state.cmdQueue.queue.head = state.cmdQueue.queue.tail),
          decide (state.cmdQueue.popping = .idle))) =
      some ([(⟨0, .setScene 10⟩, 0), (⟨1, .setScene 20⟩, 0)], [⟨1, .setScene 20⟩], true, true) := by
    decide +kernel
  obtain ⟨queue, made, runs⟩ := Option.bind_eq_some_iff.mp runs
  obtain ⟨state, runs, results⟩ := Option.map_eq_some_iff.mp runs
  simp only [Prod.mk.injEq, decide_eq_true_eq] at results
  obtain ⟨returned, popped, empty, idle⟩ := results
  refine ⟨queue, state, made, System.reachable_of_run (.initial rfl) runs, ?_, ?_⟩
  · rw [returned]
    rfl
  · rintro ⟨pops, final, drains, once⟩
    have finds : state.FindsEmpty := ⟨empty, .inl idle⟩
    have accepted : ((⟨0, .setScene 10⟩ : AllocatedCmd Nat Unit), (0 : Int)) ∈ state.returned := by
      rw [returned]
      exact List.mem_cons_self
    have poppedOnce := once _ accepted
    rw [finds.popped_eq drains, popped] at poppedOnce
    exact absurd poppedOnce (by decide)

end CommandState
end Engine
end SbsServer
