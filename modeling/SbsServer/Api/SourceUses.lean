import SbsServer.Api.OrderlyEnd
import SbsServer.CLib.RemovalLoop

/-!
# What the removal of a source removes

`sbs_scene_graph_remove_source` takes the items that show the source out of every scene, in
a loop over the indices of the scene's items; `sbs_scene_graph_count_source_refs` counts them
in a loop of its own.
-/

namespace SbsServer
namespace Api

open CLib SceneGraph

/-- An item shows the source. -/
def showsSource (id : CStr) (item : SceneItemState) : Bool :=
  item.sourceId = id

/-- The loop over the items of a scene in `sbs_scene_graph_remove_source`. -/
def removeUses (scene : SceneState) (id : CStr) : SceneState :=
  { scene with items := IndexLoop.removeFrom (showsSource id) scene.items 0 }

/-- `sbs_scene_graph_remove_source`, with its loops. -/
def removeSourceLoop
    (graph : SceneGraph)
    (id : Option CStr) : SbsResult × SceneGraph :=
  match id with
  | none => (.inval, graph)
  | some id =>
      if !graph.sources.contains id then (.notFound, graph)
      else
        (.ok, { graph with
          scenes := graph.scenes.mapValues fun _ (scene : SceneState) => removeUses scene id
          sources := graph.sources.remove id }.bumpVersion)

/-- `sbs_scene_graph_count_source_refs`, with its loops and its `int`. -/
def countSourceRefsLoop
    (graph : SceneGraph)
    (sourceId : Option CStr) : Int32 :=
  match sourceId with
  | none => 0
  | some id =>
      graph.scenes.toList.foldl
        (fun count entry => IndexLoop.countFrom (showsSource id) entry.2.items 0 count) 0

theorem removeUses_eq
    (scene : SceneState)
    (id : CStr) :
    removeUses scene id = scene.dropSource id := by
  unfold removeUses SceneState.dropSource
  rw [IndexLoop.removeFrom_zero]
  congr 2
  funext item
  exact decide_not.symm

variable (graph : SceneGraph)

/-- The loops and the filter of the earlier model. -/
theorem removeSourceLoop_eq
    (id : Option CStr) :
    removeSourceLoop graph id = graph.removeSource id := by
  cases id with
  | none => rfl
  | some id =>
      unfold removeSourceLoop SceneGraph.removeSource
      simp only [removeUses_eq]

/-- The count of the earlier model, as an `int`. -/
theorem countSourceRefsLoop_eq
    (id : CStr) :
    countSourceRefsLoop graph (some id) = Int32.ofNat (countSourceRefs graph id) := by
  unfold countSourceRefsLoop countSourceRefs
  dsimp only
  generalize graph.scenes.toList = entries
  have counted (count : Int32) :
      entries.foldl
          (fun count entry => IndexLoop.countFrom (showsSource id) entry.2.items 0 count) count =
        count + Int32.ofNat (entries.map fun entry =>
          (entry.2.items.filter fun item => item.sourceId = id).length).sum := by
    induction entries generalizing count with
    | nil => exact (Int32.add_zero count).symm
    | cons entry rest ih =>
        rw [List.foldl_cons, ih, IndexLoop.countFrom_eq, List.map_cons, List.sum_cons,
          Int32.ofNat_add, Int32.add_assoc, List.drop_zero, List.countP_eq_length_filter]
        rfl
  rw [counted, Int32.zero_add]

/-- The number of items in a graph. -/
def itemCount (graph : SceneGraph) : ℕ :=
  (graph.scenes.toList.map fun entry => entry.2.items.length).sum

/-- The items that the removal of a source drops. -/
def droppedCount
    (graph : SceneGraph)
    (id : CStr) : ℕ :=
  itemCount graph -
    itemCount { graph with
      scenes := graph.scenes.mapValues fun _ (scene : SceneState) => removeUses scene id }

/-- The items that show the source go, and the others stay. -/
theorem itemCount_removeUses
    (id : CStr) :
    itemCount { graph with
        scenes := graph.scenes.mapValues fun _ (scene : SceneState) => removeUses scene id } +
      countSourceRefs graph id = itemCount graph := by
  unfold itemCount countSourceRefs
  rw [HashTable.toList_mapValues, List.map_map, ← List.sum_map_add]
  congr 2
  funext entry
  rw [← IndexLoop.length_removeFrom_add (showsSource id) entry.2.items,
    List.countP_eq_length_filter]
  rfl

theorem droppedCount_eq
    (id : CStr) :
    droppedCount graph id = countSourceRefs graph id := by
  have dropped := itemCount_removeUses graph id
  unfold droppedCount
  omega

/-- A graph without a source and its uses. -/
structure RemovesUses
    (graph : SceneGraph)
    (id : CStr)
    (after : SceneGraph) : Prop where
  scenes : ∀ sceneId, after.scenes.lookup sceneId =
    (graph.scenes.lookup sceneId).map fun scene =>
      { scene with items := scene.items.filter fun item => item.sourceId ≠ id }
  sameScenes : after.scenes.keys = graph.scenes.keys
  sources : ∀ other, after.sources.lookup other =
    if other = id then none else graph.sources.lookup other
  version : after.version = graph.version + 1
  rest : { after with
    scenes := graph.scenes
    sources := graph.sources
    version := graph.version } = graph

/-- Nothing refers to a source when its uses were removed. -/
theorem countSourceRefs_removeUses
    {graph : SceneGraph}
    {scenes : HashTable CStr SceneState}
    {id : CStr}
    (removed : graph.scenes = scenes.mapValues fun _ (scene : SceneState) => removeUses scene id) :
    countSourceRefs graph id = 0 := by
  unfold countSourceRefs
  rw [removed, HashTable.toList_mapValues, List.map_map, List.sum_eq_zero_iff]
  intro count counted
  obtain ⟨entry, _, rfl⟩ := List.mem_map.mp counted
  rw [Function.comp_apply, removeUses_eq, List.length_eq_zero_iff, List.filter_eq_nil_iff]
  intro item present shows
  have other := (List.mem_filter.mp present).2
  exact of_decide_eq_true other (of_decide_eq_true shows)

/-- A removal fails only without the source, and changes nothing then. -/
theorem removeSourceLoop_cases
    (id : CStr) :
    (graph.sources.contains id = false ∧
        removeSourceLoop graph (some id) = (.notFound, graph)) ∨
      graph.sources.contains id = true ∧
        removeSourceLoop graph (some id) = (.ok, { graph with
          scenes := graph.scenes.mapValues fun _ (scene : SceneState) => removeUses scene id
          sources := graph.sources.remove id }.bumpVersion) := by
  unfold removeSourceLoop
  dsimp only
  cases graph.sources.contains id with
  | false => exact .inl ⟨rfl, rfl⟩
  | true => exact .inr ⟨rfl, rfl⟩

/-- As long as an `int` holds the count, it is the number of items dropped. -/
theorem toInt_countSourceRefsLoop
    {graph : SceneGraph}
    {id : CStr}
    (few : droppedCount graph id < 2 ^ 31) :
    (countSourceRefsLoop graph (some id)).toInt = droppedCount graph id := by
  rw [countSourceRefsLoop_eq, ← droppedCount_eq, Int32.toInt_ofNat_of_lt few]

/-- A removal succeeds exactly when the source exists; it removes the uses of the source and
nothing else, and as many items as are counted. -/
theorem removes_uses
    (graph : SceneGraph)
    (id : CStr) :
    ((removeSourceLoop graph (some id)).1 = .ok ↔ graph.sources.contains id = true) ∧
      (graph.sources.contains id = true →
        RemovesUses graph id (removeSourceLoop graph (some id)).2 ∧
          itemCount (removeSourceLoop graph (some id)).2 + droppedCount graph id =
            itemCount graph ∧
          countSourceRefsLoop (removeSourceLoop graph (some id)).2 (some id) = 0) ∧
      (graph.sources.contains id = false →
        removeSourceLoop graph (some id) = (.notFound, graph)) ∧
      countSourceRefsLoop graph (some id) = Int32.ofNat (droppedCount graph id) := by
  have counted : countSourceRefsLoop graph (some id) = Int32.ofNat (droppedCount graph id) := by
    rw [countSourceRefsLoop_eq, droppedCount_eq]
  obtain ⟨absent, failed⟩ | ⟨present, removed⟩ := removeSourceLoop_cases graph id
  · rw [failed, absent]
    exact ⟨⟨nofun, nofun⟩, nofun, fun _ => rfl, counted⟩
  · rw [removed, present]
    refine ⟨⟨fun _ => rfl, fun _ => rfl⟩, fun _ => ⟨⟨?_, ?_, ?_, rfl, rfl⟩, ?_, ?_⟩, nofun, counted⟩
    · intro sceneId
      refine (HashTable.lookup_mapValues _ _ _).trans ?_
      congr 1
      funext scene
      exact removeUses_eq scene id
    · exact HashTable.keys_mapValues _ _
    · exact HashTable.lookup_remove _ _
    · rw [droppedCount_eq]
      exact itemCount_removeUses graph id
    · rw [countSourceRefsLoop_eq, countSourceRefs_removeUses rfl]
      rfl

/-- A call that adds a source without a name. -/
def unnamedSource (id : CStr) : Op :=
  .createSource (some {
    id := some id
    name := none
    kind := .videotestsrc
    enabled := true
    keepAlive := false
    config := none })

/-- A call that adds an item that shows a source. -/
def newUse (sceneId id sourceId : CStr) : Op :=
  .addItem (some sceneId) (some {
    id := some id
    sourceId := some sourceId
    visible := true
    locked := false
    zOrder := 0
    transform := zeroTransform
    audio := none })

/-- Two sources in two scenes, with uses of the camera next to each other. -/
def sharedCamera : SceneGraph :=
  newDefault.applyAll [
    unnamedSource "camera", unnamedSource "desk",
    .createScene (some { id := some "main", name := none }),
    .createScene (some { id := some "pause", name := none }),
    newUse "main" "a" "camera", newUse "main" "b" "camera", newUse "main" "c" "desk",
    newUse "pause" "a" "desk", newUse "pause" "b" "camera", newUse "pause" "c" "camera",
    newUse "pause" "d" "camera", newUse "pause" "e" "desk"]

theorem removes_uses_sharedCamera :
    let removal := removeSourceLoop sharedCamera (some "camera")
    let items := fun scene => (removal.2.scenes.lookup scene).map fun found =>
      found.items.map SceneItemState.id
    removal.1 = .ok ∧ RemovesUses sharedCamera "camera" removal.2 ∧
      items "main" = some [CStr.lit "c"] ∧
      items "pause" = some [CStr.lit "a", CStr.lit "e"] ∧
      itemCount removal.2 + 5 = itemCount sharedCamera ∧
      countSourceRefsLoop sharedCamera (some "camera") = 5 ∧
      countSourceRefsLoop removal.2 (some "camera") = 0 := by
  have dropped : droppedCount sharedCamera "camera" = 5 := by
    decide +kernel
  obtain ⟨succeeds, removed, -, counted⟩ := removes_uses sharedCamera "camera"
  have present : sharedCamera.sources.contains "camera" = true := by
    decide +kernel
  obtain ⟨removes, fewer, none⟩ := removed present
  rw [dropped] at fewer counted
  exact ⟨succeeds.mpr present, removes, by decide +kernel, by decide +kernel, fewer, counted, none⟩

end Api
end SbsServer
