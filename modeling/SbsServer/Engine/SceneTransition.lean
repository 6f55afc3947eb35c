import SbsServer.CLib.Rounding
import SbsServer.CLib.System
import SbsServer.SceneGraph.Operations

/-!
# Transitions in the compositor thread

`compositor_thread.c`, `scene_graph.c`, `ws_server.c`: the graph and the
compositor thread each keep the start of a running transition.  The compositor
thread replaces the start in the command that began a transition by the time at
which it applied it, and takes any active command with another start for a new
transition.
-/

namespace SbsServer
namespace Engine

open CLib SceneGraph

/-- `SBS_COMP_SCENE_MAX_ITEMS` -/
def compSceneMaxItems : Nat := 32

/-- What a scene looks like to the compositor. -/
structure SceneDrawing (Item Background : Type) where
  /-- `fill_comp_item` -/
  fillCompItem : SceneGraph → SceneState → SceneItemState → Item
  /-- `background_hex_to_rgba` and `apply_filters_to_background` -/
  background : SceneGraph → Background
  /-- The colour that the thread starts with. -/
  firstBackground : Background

/-- `sbs_comp_scene_state_t` -/
structure CompSceneState (Item Background : Type) where
  backgroundRgba : Background
  activeItems : List Item
  transitionActive : Bool
  transitionProgress : Double
  transitionStartTimeUs : Int64
  transitionDurationMs : UInt32
  previousItems : List Item

section Scene

variable {Item Background : Type}

/-- `sbs_comp_scene_state_init` with the colour of the thread. -/
def CompSceneState.init (drawing : SceneDrawing Item Background) :
    CompSceneState Item Background where
  backgroundRgba := drawing.firstBackground
  activeItems := []
  transitionActive := false
  transitionProgress := .finite 1
  transitionStartTimeUs := 0
  transitionDurationMs := 0
  previousItems := []

/-- The items of a scene, if it exists. -/
def compItems
    (drawing : SceneDrawing Item Background)
    (graph : SceneGraph)
    (scene : Option SceneState) : List Item :=
  match scene with
  | some scene => (scene.items.take compSceneMaxItems).map (drawing.fillCompItem graph scene)
  | none => []

/-- `sbs_scene_graph_build_compositor_state` -/
def buildCompositorState
    (drawing : SceneDrawing Item Background)
    (graph : SceneGraph) : CompSceneState Item Background where
  backgroundRgba := drawing.background graph
  activeItems := compItems drawing graph (graph.activeSceneId.bind graph.getScene)
  transitionActive := graph.transitionRuntime.active
  transitionProgress := graph.transitionRuntime.progress.toFloat
  transitionStartTimeUs := graph.transitionRuntime.startTimeUs
  transitionDurationMs := graph.transitionRuntime.durationMs
  previousItems :=
    if graph.transitionRuntime.active then
      compItems drawing graph (graph.transitionRuntime.fromSceneId.bind graph.getScene)
    else []

/-- The progress that `update_scene_transition` computes for a transition that runs. -/
def elapsedProgress
    (startTimeUs : Int64)
    (durationMs : UInt32)
    (now : Int64) : Double :=
  let elapsedMs := (Double.roundToDouble (now - startTimeUs).toInt).divRat 1000
  (elapsedMs.divRat durationMs.toNat).toFloat

/-- A transition that is over. -/
def CompSceneState.finish
    (state : CompSceneState Item Background) : CompSceneState Item Background :=
  { state with
    transitionProgress := .finite 1
    transitionActive := false
    previousItems := [] }

/-- `update_scene_transition` at the monotonic time `now` -/
def updateSceneTransition
    (state : CompSceneState Item Background)
    (now : Int64) : CompSceneState Item Background :=
  if !state.transitionActive then state
  else if state.transitionDurationMs = 0 ∨ state.transitionStartTimeUs ≤ 0 then state.finish
  else
    let progress := elapsedProgress state.transitionStartTimeUs state.transitionDurationMs now
    if progress.atLeast 1 then state.finish
    else if progress.negative then { state with transitionProgress := .finite 0 }
    else { state with transitionProgress := progress }

/-- The canvas as `capture_transition_cached_entry` finds it. -/
structure CapturableCanvas where
  initialized : Bool
  /-- `last_rendered_entry`, if it is below the size of the ring. -/
  lastRenderedEntry : Option Nat
  /-- `sbs_compositor_native_canvas_ref` succeeds. -/
  refs : Bool
  deriving DecidableEq

/-- `capture_transition_cached_entry` -/
def captureTransitionCachedEntry
    (canvas : CapturableCanvas)
    (cachedEntry : Option Nat) : Option Nat :=
  if !canvas.initialized then cachedEntry
  else if canvas.refs then canvas.lastRenderedEntry
  else none

/-- A command for another transition than the one whose start the thread recorded. -/
def CompSceneState.newTransition (scene command : CompSceneState Item Background) : Bool :=
  command.transitionActive && command.transitionStartTimeUs ≠ scene.transitionStartTimeUs

/-- The scene after `SBS_COMP_CMD_SET_SCENE`. -/
def CompSceneState.setScene
    (scene command : CompSceneState Item Background)
    (now : Int64) : CompSceneState Item Background :=
  if scene.newTransition command then
    { command with
      transitionStartTimeUs := now
      transitionProgress := .finite 0 }
  else command

/-- The cached entry after `SBS_COMP_CMD_SET_SCENE`. -/
def CompSceneState.setSceneCached
    (scene command : CompSceneState Item Background)
    (canvas : CapturableCanvas)
    (cachedEntry : Option Nat) : Option Nat :=
  if scene.newTransition command then captureTransitionCachedEntry canvas cachedEntry
  else if !command.transitionActive then none
  else cachedEntry

end Scene

/-- `transition_progress` and `transition_active` after an iteration of the render loop. -/
structure TransitionReport where
  time : Int64
  progress : Double
  active : Bool
  deriving DecidableEq

/-- A history: what the thread made of the transition whose command it applied last. -/
structure SeenTransition where
  /-- The number of the `sbs_scene_graph_set_active_scene` call. -/
  number : Nat
  /-- When the first active command was applied, with the duration. -/
  firstSeen : Option (Int64 × UInt32)
  /-- Commands that were taken for a new transition. -/
  starts : Nat
  /-- Iterations since the first active command, the latest first. -/
  reports : List TransitionReport
  deriving DecidableEq

/-- Nothing was seen of a transition. -/
def SeenTransition.unseen (number : Nat) : SeenTransition where
  number := number
  firstSeen := none
  starts := 0
  reports := []

/-- A command with the number of the transition that the graph was in. -/
structure SetSceneCommand (Item Background : Type) where
  number : Nat
  state : CompSceneState Item Background

/-- The graph, the commands on their way and the compositor thread. -/
structure TransitionRun (Item Background : Type) where
  graph : SceneGraph
  /-- Calls of `sbs_scene_graph_set_active_scene` that succeeded. -/
  number : Nat
  commands : List (SetSceneCommand Item Background)
  scene : CompSceneState Item Background
  cachedEntry : Option Nat
  clock : Int64
  seen : SeenTransition

/-- What happens to the graph and the thread. -/
inductive TransitionEvent
  /-- `sbs_scene_graph_set_active_scene` -/
  | setActiveScene (sceneId transitionId : Option CStr) (now : Int64)
  /-- Another call changes the graph. -/
  | edit (graph : SceneGraph)
  /-- `sbs_scene_graph_update_transition_runtime` -/
  | updateRuntime (now : Int64)
  /-- `sbs_api_server_refresh_scene`; a command that cannot be pushed is dropped. -/
  | refresh (now : Int64) (pushed : Bool)
  /-- The thread pops and applies a command. -/
  | apply (now : Int64) (canvas : CapturableCanvas)
  /-- An iteration of the render loop updates the transition. -/
  | iterate (now : Int64)

/-- The fields of a runtime that other calls leave alone. -/
def SameTiming (first second : TransitionRuntime) : Prop :=
  first.active = second.active ∧ first.durationMs = second.durationMs ∧
    first.progress = second.progress ∧ first.startTimeUs = second.startTimeUs

instance (first second : TransitionRuntime) : Decidable (SameTiming first second) :=
  inferInstanceAs (Decidable (_ ∧ _ ∧ _ ∧ _))

/-- The history after a command. -/
def SeenTransition.afterCommand
    (seen : SeenTransition)
    (number : Nat)
    (active isNew : Bool)
    (durationMs : UInt32)
    (now : Int64) : SeenTransition :=
  let seen := if number = seen.number then seen else .unseen number
  { seen with
    firstSeen := if active then seen.firstSeen.or (some (now, durationMs)) else seen.firstSeen
    starts := if isNew then seen.starts + 1 else seen.starts }

/-- The history after an iteration. -/
def SeenTransition.afterIteration
    (seen : SeenTransition)
    (progress : Double)
    (active : Bool)
    (now : Int64) : SeenTransition :=
  if seen.firstSeen.isSome then
    { seen with reports := ⟨now, progress, active⟩ :: seen.reports }
  else seen

namespace TransitionRun

variable {Item Background : Type}

/-- The state after an event, if it can happen. -/
def next
    (drawing : SceneDrawing Item Background)
    (run : TransitionRun Item Background) :
    TransitionEvent → Option (TransitionRun Item Background)
  | .setActiveScene sceneId transitionId now =>
      if run.clock ≤ now then
        match run.graph.setActiveScene sceneId transitionId now with
        | (.ok, graph) => some { run with
            graph := graph
            number := run.number + 1
            clock := now }
        | (_, _) => some { run with clock := now }
      else none
  | .edit graph =>
      if SameTiming graph.transitionRuntime run.graph.transitionRuntime then
        some { run with graph := graph }
      else none
  | .updateRuntime now =>
      if run.clock ≤ now then
        some { run with
          graph := run.graph.updateTransitionRuntime now
          clock := now }
      else none
  | .refresh now pushed =>
      if run.clock ≤ now then
        let graph := run.graph.updateTransitionRuntime now
        some { run with
          graph := graph
          commands :=
            if pushed then run.commands ++ [⟨run.number, buildCompositorState drawing graph⟩]
            else run.commands
          clock := now }
      else none
  | .apply now canvas =>
      match run.commands with
      | command :: rest =>
          if run.clock ≤ now then
            some { run with
              commands := rest
              scene := run.scene.setScene command.state now
              cachedEntry := run.scene.setSceneCached command.state canvas run.cachedEntry
              clock := now
              seen := run.seen.afterCommand command.number command.state.transitionActive
                (run.scene.newTransition command.state) command.state.transitionDurationMs now }
          else none
      | [] => none
  | .iterate now =>
      if run.clock ≤ now then
        let scene := updateSceneTransition run.scene now
        some { run with
          scene := scene
          cachedEntry := if scene.transitionActive then run.cachedEntry else none
          clock := now
          seen := run.seen.afterIteration scene.transitionProgress scene.transitionActive now }
      else none

/-- A server that was just started, with a graph that was never switched. -/
def Initial
    (drawing : SceneDrawing Item Background)
    (run : TransitionRun Item Background) : Prop :=
  ∃ graph clock, graph.transitionRuntime = .zero ∧ (0 : Int64) ≤ clock ∧
    run = {
      graph := graph
      number := 0
      commands := []
      scene := .init drawing
      cachedEntry := none
      clock := clock
      seen := .unseen 0 }

/-- Runs of the graph and the thread. -/
def system
    (drawing : SceneDrawing Item Background) :
    System (TransitionRun Item Background) TransitionEvent :=
  .ofNext (Initial drawing) (next drawing)

/-- An active command of a transition that was seen before has the start that the thread
recorded. -/
def KeepsStart (run : TransitionRun Item Background) : TransitionEvent → Prop
  | .apply _ _ => ∀ command ∈ run.commands.head?, command.state.transitionActive = true →
      command.number = run.seen.number → run.seen.firstSeen.isSome = true →
        command.state.transitionStartTimeUs = run.scene.transitionStartTimeUs
  | _ => True

instance (run : TransitionRun Item Background) : ∀ event, Decidable (run.KeepsStart event)
  | .apply _ _ => inferInstanceAs (Decidable (∀ command ∈ run.commands.head?, _ → _ → _ → _))
  | .setActiveScene .. => .isTrue trivial
  | .edit _ => .isTrue trivial
  | .updateRuntime _ => .isTrue trivial
  | .refresh .. => .isTrue trivial
  | .iterate _ => .isTrue trivial

end TransitionRun

/-- A transition is taken for a new one at most once, its progress never decreases, and it is over
at most its duration after the thread first saw it. -/
structure Undisturbed (seen : SeenTransition) : Prop where
  once : seen.starts ≤ 1
  forward : seen.reports.Pairwise fun later earlier =>
    earlier.progress.atMost later.progress = true
  ended : ∀ since durationMs, seen.firstSeen = some (since, durationMs) →
    ∀ report ∈ seen.reports, since.toInt + 1000 * durationMs.toNat ≤ report.time.toInt →
      report.active = false

/-! ## Progress over time -/

/-- Time between two points of the clock. -/
theorem toInt_elapsed
    {start now : Int64}
    (nonneg : 0 ≤ start.toInt)
    (ordered : start.toInt ≤ now.toInt) :
    (now - start).toInt = now.toInt - start.toInt := by
  have bound := now.toInt_lt
  rw [Int64.toInt_sub]
  exact Int.bmod_eq_of_le (by omega) (by omega)

/-- The progress after some microseconds. -/
def progressAfter (elapsedUs : ℤ) (durationMs : UInt32) : Double :=
  (((Double.roundToDouble elapsedUs).divRat 1000).divRat durationMs.toNat).toFloat

/-- More time is no less progress. -/
theorem progressAfter_atMost
    {durationMs : UInt32}
    (positive : 0 < durationMs.toNat)
    {earlier later : ℤ}
    (ordered : earlier ≤ later) :
    (progressAfter earlier durationMs).atMost (progressAfter later durationMs) = true := by
  have times : ((earlier : ℤ) : ℚ) ≤ later := by exact_mod_cast ordered
  have duration : (0 : ℚ) < durationMs.toNat := by exact_mod_cast positive
  apply Double.toFloat_atMost
  apply Double.divRat_atMost duration
  apply Double.divRat_atMost (by norm_num)
  exact Double.roundToDouble_atMost times

theorem progressAfter_zero (durationMs : UInt32) :
    progressAfter 0 durationMs = .finite 0 := by
  have zero : Double.roundToDouble 0 = .finite 0 := rfl
  have float : (Double.finite 0).toFloat = .finite 0 := rfl
  unfold progressAfter
  rw [Int.cast_zero, zero, Double.divRat, zero_div, zero, Double.divRat, zero_div, zero, float]

theorem progressAfter_duration
    {durationMs : UInt32}
    (positive : 0 < durationMs.toNat) :
    progressAfter (1000 * durationMs.toNat) durationMs = .finite 1 := by
  have bound := durationMs.toNat_lt
  have duration : (durationMs.toNat : ℚ) ≠ 0 := by exact_mod_cast positive.ne'
  have whole : Double.roundToDouble ((1000 * durationMs.toNat : ℤ) : ℚ) =
      .finite (1000 * durationMs.toNat) := by
    have exact_ := @Double.roundToDouble_natCast (1000 * durationMs.toNat) (by omega)
    push_cast at exact_ ⊢
    rw [exact_, Double.ofInt]
    push_cast
    rfl
  have milliseconds : Double.roundToDouble (1000 * (durationMs.toNat : ℚ) / 1000) =
      .finite durationMs.toNat := by
    rw [mul_div_cancel_left₀ _ (by norm_num), Double.roundToDouble_natCast (by omega),
      Double.ofInt, Int.cast_natCast]
  have one : Double.roundToDouble 1 = .finite 1 := by decide +kernel
  have float : (Double.finite 1).toFloat = .finite 1 := by decide +kernel
  unfold progressAfter
  rw [whole, Double.divRat, milliseconds, Double.divRat, div_self duration, one, float]

/-- The progress that is reported for a running transition with a start and a duration. -/
def progressAt
    (startTimeUs : Int64)
    (durationMs : UInt32)
    (now : Int64) : Double :=
  if startTimeUs ≤ 0 then .finite 1
  else
    let progress := elapsedProgress startTimeUs durationMs now
    if progress.atLeast 1 then .finite 1
    else if progress.negative then .finite 0
    else progress

section Progress

variable {startTimeUs now later : Int64} {durationMs : UInt32}

/-- The progress within the transition. -/
theorem progressAt_eq
    (started : 0 < startTimeUs.toInt)
    (positive : 0 < durationMs.toNat)
    (ordered : startTimeUs.toInt ≤ now.toInt) :
    progressAt startTimeUs durationMs now =
      if (progressAfter (now.toInt - startTimeUs.toInt) durationMs).atLeast 1 then .finite 1
      else progressAfter (now.toInt - startTimeUs.toInt) durationMs := by
  have notZero : ¬startTimeUs ≤ 0 := by
    rw [Int64.le_iff_toInt_le, Int64.toInt_zero]
    omega
  have elapsed : elapsedProgress startTimeUs durationMs now =
      progressAfter (now.toInt - startTimeUs.toInt) durationMs := by
    unfold elapsedProgress
    rw [toInt_elapsed started.le ordered]
    rfl
  have nonneg := progressAfter_atMost positive (sub_nonneg.mpr ordered)
  rw [progressAfter_zero] at nonneg
  unfold progressAt
  rw [if_neg notZero, elapsed]
  dsimp only
  rw [Double.not_negative_of_atMost nonneg]
  rfl

theorem progressAt_not_started
    (notStarted : startTimeUs.toInt ≤ 0) :
    progressAt startTimeUs durationMs now = .finite 1 := by
  have zero : startTimeUs ≤ 0 := by
    rw [Int64.le_iff_toInt_le, Int64.toInt_zero]
    exact notStarted
  unfold progressAt
  rw [if_pos zero]

theorem progressAt_atMost_one
    (positive : 0 < durationMs.toNat)
    (ordered : startTimeUs.toInt ≤ now.toInt) :
    (progressAt startTimeUs durationMs now).atMost (.finite 1) = true := by
  rcases le_or_gt startTimeUs.toInt 0 with notStarted | started
  · rw [progressAt_not_started notStarted]
    exact decide_eq_true (le_refl 1)
  · rw [progressAt_eq started positive ordered]
    split
    next => exact decide_eq_true (le_refl 1)
    next short =>
      have nonneg := progressAfter_atMost positive (sub_nonneg.mpr ordered)
      exact Double.atMost_of_not_atLeast (Double.ne_nan_of_atMost nonneg)
        (Bool.eq_false_iff.mpr short)

/-- The progress never decreases. -/
theorem progressAt_atMost
    (positive : 0 < durationMs.toNat)
    (ordered : startTimeUs.toInt ≤ now.toInt)
    (forward : now.toInt ≤ later.toInt) :
    (progressAt startTimeUs durationMs now).atMost (progressAt startTimeUs durationMs later) =
      true := by
  rcases le_or_gt startTimeUs.toInt 0 with notStarted | started
  · rw [progressAt_not_started notStarted, progressAt_not_started notStarted]
    exact decide_eq_true (le_refl 1)
  · have raw := progressAfter_atMost positive
      (sub_le_sub_right forward startTimeUs.toInt)
    have below := progressAt_atMost_one positive ordered
    rw [progressAt_eq started positive ordered] at below ⊢
    rw [progressAt_eq started positive (ordered.trans forward)]
    split
    next whole =>
      rw [if_pos (Double.atLeast_of_atMost raw whole)]
      exact decide_eq_true (le_refl 1)
    next short =>
      rw [if_neg short] at below
      split
      next => exact below
      next => exact raw

/-- After its duration a transition is over. -/
theorem progressAt_over
    (positive : 0 < durationMs.toNat)
    (past : startTimeUs.toInt + 1000 * durationMs.toNat ≤ now.toInt) :
    (progressAt startTimeUs durationMs now).atLeast 1 = true := by
  rcases le_or_gt startTimeUs.toInt 0 with notStarted | started
  · rw [progressAt_not_started notStarted]
    exact decide_eq_true (le_refl 1)
  · have reached : (1000 * durationMs.toNat : ℤ) ≤ now.toInt - startTimeUs.toInt := by omega
    have whole := progressAfter_atMost positive reached
    rw [progressAfter_duration positive] at whole
    have atOne : (Double.finite 1).atLeast 1 = true := decide_eq_true (le_refl (1 : ℚ))
    rw [progressAt_eq started positive (by omega),
      if_pos (Double.atLeast_of_atMost whole atOne)]
    exact atOne

end Progress

section Update

variable {Item Background : Type} {scene : CompSceneState Item Background} {now : Int64}

theorem updateSceneTransition_inactive
    (inactive : scene.transitionActive = false) :
    updateSceneTransition scene now = scene := by
  unfold updateSceneTransition
  rw [inactive]
  rfl

/-- An active transition gets the progress of the time, and ends when it is whole. -/
theorem updateSceneTransition_active
    (active : scene.transitionActive = true)
    (positive : 0 < scene.transitionDurationMs.toNat) :
    let updated := updateSceneTransition scene now
    let progress := progressAt scene.transitionStartTimeUs scene.transitionDurationMs now
    updated.transitionProgress = progress ∧
      updated.transitionActive = !progress.atLeast 1 ∧
      updated.transitionStartTimeUs = scene.transitionStartTimeUs ∧
      updated.transitionDurationMs = scene.transitionDurationMs := by
  have notZero : ¬scene.transitionDurationMs = 0 := by
    intro zero
    rw [zero] at positive
    exact absurd positive (lt_irrefl 0)
  dsimp only
  unfold updateSceneTransition progressAt
  rw [active]
  simp only [notZero, false_or, Bool.not_true, Bool.false_eq_true, if_false]
  split
  next => exact ⟨rfl, rfl, rfl, rfl⟩
  next =>
    split
    next => exact ⟨rfl, rfl, rfl, rfl⟩
    next short =>
      split
      next => exact ⟨rfl, rfl, rfl, rfl⟩
      next =>
        rw [Bool.not_eq_true] at short
        rw [short]
        exact ⟨rfl, rfl, rfl, rfl⟩

end Update

end Engine
end SbsServer
