import SbsServer.Config.Restored
import SbsServer.Config.Validation

/-!
# The selection of a restored graph

The active scene and the preview scene are saved and restored.  The default
transition is not saved: the loader takes the transition of the last scene
change in its place.
-/

namespace SbsServer
namespace Config

open CLib SceneGraph

/-- The transition that `sbs_scene_graph_set_active_scene` picks for a scene
when it is given none, if the call succeeds. -/
def pickedTransition (graph : SceneGraph) (sceneId : CStr) (now : Int64) :
    Option (Option CStr) :=
  match graph.setActiveScene (some sceneId) none now with
  | (.ok, after) => some after.transitionRuntime.transitionId
  | _ => none

/-- The selection of a graph is that of the graph it was restored from. -/
structure SelectionSurvives (graph restored : SceneGraph) : Prop where
  /-- The same scene is active. -/
  active : restored.activeSceneId = graph.activeSceneId
  /-- The same scene is in preview. -/
  preview : restored.previewSceneId = graph.previewSceneId
  /-- The same transition is the default. -/
  default : restored.defaultTransitionId = graph.defaultTransitionId
  /-- No transition runs from or to a scene that does not exist. -/
  runtime : restored.transitionRuntime.active = false ∨
    ∀ id, restored.transitionRuntime.fromSceneId = some id ∨
        restored.transitionRuntime.toSceneId = some id →
      ∃ scene, restored.scenes.lookup id = some scene
  /-- The same transition is picked for every scene. -/
  picks : ∀ sceneId now, pickedTransition restored sceneId now =
    pickedTransition graph sceneId now

/-- Only the default and the ids of scenes and transitions matter to the choice
of a transition. -/
theorem pickedTransition_congr
    {graph other : SceneGraph}
    (default : graph.defaultTransitionId = other.defaultTransitionId)
    (scenes : ∀ id, (graph.scenes.lookup id).isSome = (other.scenes.lookup id).isSome)
    (transitions : ∀ id,
      (graph.transitions.lookup id).isSome = (other.transitions.lookup id).isSome)
    (sceneId : CStr)
    (now : Int64) :
    pickedTransition graph sceneId now = pickedTransition other sceneId now := by
  have picked : ∀ graph : SceneGraph, pickedTransition graph sceneId now =
      if (graph.scenes.lookup sceneId).isSome = true ∧
          ∀ id, graph.defaultTransitionId = some id →
            (graph.transitions.lookup id).isSome = true then
        some graph.defaultTransitionId
      else none := by
    intro graph
    unfold pickedTransition setActiveScene getScene
    dsimp only
    cases graph.scenes.lookup sceneId with
    | none => simp
    | some scene =>
        rw [Option.none_or]
        cases named : graph.defaultTransitionId with
        | none => simp [activate, startTransition, bumpVersion]
        | some id =>
            cases found : graph.transitions.lookup id with
            | none => simp [getTransition, found]
            | some transition =>
                simp [getTransition, found, activate, startTransition, bumpVersion]
  rw [picked, picked, default, scenes]
  simp only [transitions]

theorem transitions_loadOutput (graph : SceneGraph) (entry : Option CStr × CJson) :
    (loadOutput graph entry).transitions = graph.transitions := by
  have created : ∀ params : OutputCreateParams,
      (graph.createOutput (some params)).2.transitions = graph.transitions := by
    intro params
    unfold createOutput
    dsimp only
    split
    · rfl
    · split
      · rfl
      · split
        · rfl
        · rfl
  have same := created {
    id := entry.1
    name := CJson.str (some entry.2) "name"
    enabled := CJson.boolean (some entry.2) "enabled" true
    autostart := CJson.boolean (some entry.2) "autostart" false }
  unfold loadOutput
  dsimp only
  generalize graph.createOutput (some _) = result at same ⊢
  split
  · exact same
  · exact same

theorem mem_acceptKeys_table
    {table : HashTable CStr V}
    (valid : table.All fun id _ => validGraphId id = true)
    (id : CStr) :
    id ∈ acceptKeys [] (table.toList.map fun entry => some entry.1) ↔
      (table.lookup id).isSome = true := by
  have keys : (table.toList.map fun entry => some entry.1) = table.keys.map some := by
    unfold HashTable.keys
    rw [List.map_map]
    rfl
  have loadable : KeysLoadable (table.keys.map some) := by
    refine ⟨fun key member => ?_, table.nodup_keys.map (Option.some_injective _)⟩
    obtain ⟨known, listed, rfl⟩ := List.mem_map.mp member
    obtain ⟨value, found⟩ := HashTable.mem_keys_iff.mp listed
    exact ⟨known, rfl, valid known value found⟩
  have permuted := (acceptKeys_perm_iff _).mpr loadable
  rw [keys, Option.isSome_iff_exists, ← HashTable.mem_keys_iff,
    ← List.mem_map_of_injective (Option.some_injective _), permuted.mem_iff,
    List.mem_map_of_injective (Option.some_injective _)]

theorem exists_loadSources_serialize
    (gstElementAvailable : CStr → Bool)
    (table : HashTable CStr SourceState)
    (cleared : SceneGraph) :
    ∃ sources version,
      loadSources cleared (table.toList.map fun entry =>
          (some entry.1, serializeSource gstElementAvailable entry.2)) =
        (.ok, { cleared with sources := sources, version := version }) := by
  obtain ⟨sources, version, loaded, -⟩ := loadSources_keys cleared
    (table.toList.map fun entry => (some entry.1, serializeSource gstElementAvailable entry.2))
    (by
      intro entry member
      obtain ⟨source, -, rfl⟩ := List.mem_map.mp member
      rw [CJson.str, (getObjectItem_serializeSource gstElementAvailable source.2).1]
      exact Option.isSome_iff_exists.mpr ⟨_, parseSourceKind_sourceKindName source.2.kind⟩)
  exact ⟨sources, version, loaded⟩

/-- What is known of a graph that was restored from the state of another one. -/
structure RestoredFrom (graph target restored : SceneGraph) : Prop where
  active : restored.activeSceneId = graph.activeSceneId
  preview : restored.previewSceneId = graph.previewSceneId
  default : restored.defaultTransitionId = graph.transitionRuntime.transitionId
  runtime : restored.transitionRuntime = { target.transitionRuntime with
    fromSceneId := none
    toSceneId := none
    transitionId := none }
  scenes : ∀ id, (restored.scenes.lookup id).isSome = (graph.scenes.lookup id).isSome
  transitions : ∀ id,
    (restored.transitions.lookup id).isSome = (graph.transitions.lookup id).isSome

theorem restoredFrom_serialize
    (gstElementAvailable : CStr → Bool)
    {graph : SceneGraph}
    (storable : Storable graph)
    (target : SceneGraph) :
    ∃ restored,
      applySceneGraphBundle target (serializeFullState gstElementAvailable graph) =
        (.ok, restored) ∧
      RestoredFrom graph target restored := by
  let cleared := { clearSceneGraph target with canvas := graph.canvas }
  obtain ⟨sources, version, loadedSources⟩ :=
    exists_loadSources_serialize gstElementAvailable graph.sources cleared
  let withSources := { cleared with sources := sources, version := version }
  let listed : List (Option CStr × CJson) :=
    graph.scenes.toList.map fun entry => (some entry.1, serializeScene entry.2)
  let withScenes := listed.foldl loadScene withSources
  have sceneFrame : SceneFrame (listed.map Prod.fst) withSources withScenes :=
    foldl_loadScene_frame withSources listed
  have noTransitions : withScenes.transitions = .empty := sceneFrame.transitions
  obtain ⟨version, loadedTransitions⟩ := foldl_loadTransition_serialize withScenes
    (noTransitions.symm ▸
      Enterable.ofTable (storable.transitions.imp fun _ _ transition => transition.valid))
  let withTransitions := (graph.transitions.toList.map fun entry =>
    (some entry.1, serializeTransition entry.2)).foldl loadTransition withScenes
  have transitionFrame : RestFrame withScenes withTransitions :=
    RestFrame.foldl RestFrame.loadTransition _ _
  let outputs : List (Option CStr × CJson) :=
    graph.outputs.toList.map fun entry => (some entry.1, serializeOutput entry.2)
  let withOutputs := outputs.foldl loadOutput withTransitions
  have outputFrame : RestFrame withTransitions withOutputs :=
    RestFrame.foldl RestFrame.loadOutput _ _
  have rest := transitionFrame.trans outputFrame
  have sameTransitions : withOutputs.transitions = withTransitions.transitions := by
    have kept : ∀ (outputs : List (Option CStr × CJson)) (graph : SceneGraph),
        (outputs.foldl loadOutput graph).transitions = graph.transitions := by
      intro outputs
      induction outputs with
      | nil => exact fun _ => rfl
      | cons entry rest ih =>
          exact fun graph => (ih _).trans (transitions_loadOutput graph entry)
    exact kept outputs withTransitions
  refine ⟨loadSelection withOutputs (some (serializeSelection graph)),
    applySceneGraphBundle_of_loadSources_serialize loadedSources, ?_⟩
  rw [loadSelection_serialize]
  refine ⟨?_, ?_, ?_, ?_, ?_, ?_⟩
  · dsimp only
    cases named : graph.activeSceneId with
    | some id => rfl
    | none =>
        have noScenes : graph.scenes.toList = [] :=
          List.eq_nil_iff_forall_not_mem.mpr fun entry member =>
            storable.selected _ _ (HashTable.lookup_of_mem_toList member) named
        have unchanged : withScenes = withSources := by
          dsimp only [withScenes, listed]
          rw [noScenes]
          rfl
        rw [Option.none_or, rest.active, unchanged]
        rfl
  · dsimp only
    rw [rest.pointers.preview, sceneFrame.pointers.preview]
    exact Option.or_none
  · dsimp only
    rw [rest.pointers.default, sceneFrame.pointers.default]
    exact Option.or_none
  · dsimp only
    rw [rest.pointers.runtime, sceneFrame.pointers.runtime]
    rfl
  · intro id
    have keys : id ∈ withScenes.scenes.keys ↔ (graph.scenes.lookup id).isSome = true := by
      rw [sceneFrame.sceneKeys, List.map_map]
      exact mem_acceptKeys_table (storable.scenes.imp fun _ _ scene => scene.valid) id
    rw [Bool.eq_iff_iff, ← keys, HashTable.mem_keys_iff, ← Option.isSome_iff_exists]
    dsimp only
    rw [rest.scenes]
  · intro id
    dsimp only
    rw [sameTransitions]
    dsimp only [withTransitions]
    rw [loadedTransitions]
    dsimp only
    rw [noTransitions]
    exact (congrArg Option.isSome
      (lookup_restoredTable restoredTransition graph.transitions id)).trans Option.isSome_map

/-- The selection survives a save and a restore exactly when the last scene
change used the default transition. -/
theorem selectionSurvives_iff
    (gstElementAvailable : CStr → Bool)
    {graph : SceneGraph}
    (reachable : lifetime.Reachable graph)
    (target : SceneGraph) :
    (∃ restored,
      applySceneGraphBundle target (serializeFullState gstElementAvailable graph) =
        (.ok, restored) ∧
      SelectionSurvives graph restored) ↔
      graph.transitionRuntime.transitionId = graph.defaultTransitionId := by
  obtain ⟨restored, applied, facts⟩ :=
    restoredFrom_serialize gstElementAvailable (storable_of_reachable reachable) target
  constructor
  · rintro ⟨other, otherApplied, survives⟩
    rw [applied] at otherApplied
    cases otherApplied
    rw [← facts.default, survives.default]
  · intro sameTransition
    have default : restored.defaultTransitionId = graph.defaultTransitionId :=
      facts.default.trans sameTransition
    refine ⟨restored, applied, facts.active, facts.preview, default, Or.inr ?_, ?_⟩
    · rw [facts.runtime]
      rintro id (named | named)
      · cases named
      · cases named
    · exact pickedTransition_congr default facts.scenes facts.transitions

/-- The graph after a reset and a change to its scene by the default
transition. -/
def resetAndActivated : SceneGraph :=
  graphAfter (graphAfter newDefault .reset) (.call (.setActiveScene (some "scene-main") none 0))

/-- There the selection survives. -/
theorem selectionSurvives_resetAndActivated :
    ∃ restored,
      applySceneGraphBundle newDefault
          (serializeFullState (fun _ => false) resetAndActivated) =
        (.ok, restored) ∧
      SelectionSurvives resetAndActivated restored := by
  have started : lifetime.Reachable newDefault := .initial rfl
  have reset : lifetime.Reachable (graphAfter newDefault .reset) := started.step trivial rfl
  have activated : lifetime.Reachable resetAndActivated := reset.step trivial rfl
  have sameTransition : resetAndActivated.transitionRuntime.transitionId =
      resetAndActivated.defaultTransitionId := by
    decide +kernel
  exact (selectionSurvives_iff (fun _ => false) activated newDefault).mpr sameTransition

/-- The default graph, before any scene change, forgets its default
transition. -/
theorem default_transition_lost :
    ¬∀ graph target, lifetime.Reachable graph →
      ∃ restored,
        applySceneGraphBundle target (serializeFullState (fun _ => false) graph) =
          (.ok, restored) ∧
        SelectionSurvives graph restored := by
  intro survive
  have started : lifetime.Reachable newDefault := .initial rfl
  obtain ⟨restored, applied, survives⟩ := survive newDefault newDefault started
  have lost : (applySceneGraphBundle newDefault
      (serializeFullState (fun _ => false) newDefault)).2.defaultTransitionId = none := by
    decide +kernel
  have kept : newDefault.defaultTransitionId = some (CStr.lit "trans-fade") := by
    decide +kernel
  rw [applied, survives.default, kept] at lost
  cases lost

end Config
end SbsServer
