import SbsServer.SceneGraph.Outcome
import SbsServer.SceneGraph.Reorder

/-!
# Failed operations

Every mutating function checks its arguments before it writes, except
`sbs_scene_graph_reorder_items`: its early return on an unknown id keeps the
orders already written.  The results below say exactly when a failed call
leaves the graph as it was.
-/

namespace SbsServer
namespace SceneGraph

open CLib

/-- A call that returns an error code leaves the graph as it was. -/
def FailsAtomically (graph : SceneGraph) (op : Op) : Prop :=
  (graph.apply op).1 ≠ .ok → (graph.apply op).2 = graph

/-- A list of ids is known to a scene as a whole, or its known head assigns to
each item it names the order that the item has. -/
def HarmlessOrder (scene : SceneState) (itemIds : List (Option CStr)) : Prop :=
  (knownPrefix scene itemIds).length = itemIds.length ∨
    ∀ id order item,
      lastOrder 0 (knownPrefix scene itemIds) id = some order →
        scene.findItem id = some item → item.zOrder = order

/-- A call is not a reordering, or is one that the length check refuses, or
orders its scene harmlessly. -/
def HarmlessCall (graph : SceneGraph) (op : Op) : Prop :=
  ∀ sceneId itemIds scene,
    op = .reorderItems (some sceneId) (some itemIds) →
      graph.scenes.lookup sceneId = some scene →
        itemIds.length = scene.items.length → HarmlessOrder scene itemIds

/-- Replacing a scene leaves the graph alone exactly when the scene is the one
it replaces. -/
theorem modifyScene_const_eq_self_iff
    {graph : SceneGraph}
    {sceneId : CStr}
    {scene written : SceneState}
    (found : graph.scenes.lookup sceneId = some scene) :
    (graph.modifyScene sceneId fun _ => written) = graph ↔ written = scene := by
  constructor
  · intro same
    have scenes : (graph.scenes.modify sceneId fun _ => written) = graph.scenes :=
      congrArg SceneGraph.scenes same
    exact HashTable.modify_eq_self_iff.mp scenes scene found
  · rintro rfl
    unfold modifyScene
    rw [HashTable.modify_eq_self]
    intro value stored
    rw [found] at stored
    exact Option.some.inj stored

/-- A failed reordering leaves the graph alone exactly when the orders it wrote
were the old ones. -/
theorem reorder_failure
    {graph : SceneGraph}
    {sceneId : CStr}
    {itemIds : List (Option CStr)}
    {scene written : SceneState}
    {code : SbsResult}
    (found : graph.scenes.lookup sceneId = some scene)
    (looped : reorderLoop scene 0 itemIds = (code, written))
    (failed : code ≠ .ok) :
    (graph.modifyScene sceneId fun _ => written) = graph ↔
      HarmlessOrder scene itemIds := by
  have stopped : (knownPrefix scene itemIds).length ≠ itemIds.length := by
    intro complete
    rw [← reorderLoop_ok_iff scene 0, looped] at complete
    exact failed complete
  have writes : written =
      scene.withOrders (lastOrder 0 (knownPrefix scene itemIds)) := by
    rw [← reorderLoop_scene, looped]
  rw [modifyScene_const_eq_self_iff found, writes, withOrders_eq_self_iff]
  unfold HarmlessOrder
  rw [or_iff_right stopped]

/-- A call that returns an error code leaves the graph as it was exactly when it
is harmless: only a reordering can fail after it has written something. -/
theorem failsAtomically_iff (graph : SceneGraph) (op : Op) :
    FailsAtomically graph op ↔ HarmlessCall graph op := by
  unfold FailsAtomically HarmlessCall
  constructor
  · rintro atomic sceneId itemIds scene rfl found counted
    cases looped : reorderLoop scene 0 itemIds with
    | mk code written =>
        by_cases succeeded : code = .ok
        · left
          rw [← reorderLoop_ok_iff scene 0, looped]
          exact succeeded
        · have called : graph.apply (.reorderItems (some sceneId) (some itemIds)) =
              (code, graph.modifyScene sceneId fun _ => written) := by
            simp only [apply, SceneGraph.reorderItems, getScene, found, counted, looped,
              ne_eq, not_true, if_false]
          rw [called] at atomic
          exact (reorder_failure found looped succeeded).mp (atomic succeeded)
  · intro harmless failed
    have outcome := apply_outcome graph op
    generalize graph.apply op = result at outcome failed ⊢
    cases outcome with
    | refused => rfl
    | changed => exact absurd rfl failed
    | abandoned calls found counted looped stopped =>
        exact (reorder_failure found looped stopped).mpr
          (harmless _ _ _ calls found counted)

/-- Run calls one after the other. -/
def applyAll (graph : SceneGraph) (ops : List Op) : SceneGraph :=
  ops.foldl (fun graph op => (graph.apply op).2) graph

/-- A transform with every field zero. -/
def zeroTransform : SceneItemTransform where
  positionX := 0
  positionY := 0
  width := 0
  height := 0
  cropTop := 0
  cropBottom := 0
  cropLeft := 0
  cropRight := 0
  rotationDeg := .finite 0
  flipHorizontal := false
  flipVertical := false
  boundsType := none
  alignment := none
  opacity := .finite 0

/-- The call that adds an item showing the source `camera` to the scene
`main`. -/
def addCameraItem (id : Option CStr) (zOrder : Int32) : Op :=
  .addItem (some "main") (some {
    id := id
    sourceId := some "camera"
    visible := true
    locked := false
    zOrder := zOrder
    transform := zeroTransform
    audio := none })

/-- A graph with one source and one scene, in which the item `first` lies below
the item `second`. -/
def twoItemGraph : SceneGraph :=
  newDefault.applyAll [
    .createSource (some {
      id := some "camera"
      name := none
      kind := .videotestsrc
      enabled := true
      keepAlive := false
      config := none }),
    .createScene (some { id := some "main", name := none }),
    addCameraItem (some "first") 1,
    addCameraItem (some "second") 2]

/-- The order of `second` is overwritten before the unknown id is met. -/
theorem reorder_fails_after_writing :
    ¬FailsAtomically twoItemGraph
      (.reorderItems (some "main") (some [some "second", some "missing"])) := by
  intro atomic
  have unchanged := congrArg
    (fun graph => (graph.scenes.lookup "main").map fun scene =>
      scene.items.map SceneItemState.zOrder)
    (atomic (by decide +kernel))
  revert unchanged
  decide +kernel

end SceneGraph
end SbsServer
