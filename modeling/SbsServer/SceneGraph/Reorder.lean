import SbsServer.SceneGraph.Operations

/-!
# The reordering loop

`sbs_scene_graph_reorder_items` writes one order per listed id and stops at the
first id that names no item.  Its writes are described at once, as the function
from ids to the last order that the list gives them.
-/

namespace SbsServer
namespace SceneGraph

open CLib

/-- The ids at the head of a list that name items of a scene. -/
def knownPrefix (scene : SceneState) : List (Option CStr) → List CStr
  | [] => []
  | itemId :: rest =>
      match itemId.filter fun id => (scene.findItem id).isSome with
      | none => []
      | some id => id :: knownPrefix scene rest

/-- The order that the last mention of an id receives, with positions counted
from an index. -/
def lastOrder (index : Nat) : List CStr → CStr → Option Int32
  | [], _ => none
  | itemId :: rest, id =>
      (lastOrder (index + 1) rest id).or
        (if id = itemId then some (orderAt index) else none)

/-- Write orders to the first item of each id. -/
def writeOrders (orders : CStr → Option Int32) : List SceneItemState → List SceneItemState
  | [] => []
  | item :: rest =>
      { item with zOrder := (orders item.id).getD item.zOrder } ::
        writeOrders (fun id => if id = item.id then none else orders id) rest

theorem writeOrders_none
    {orders : CStr → Option Int32}
    (nothing : ∀ id, orders id = none)
    (items : List SceneItemState) :
    writeOrders orders items = items := by
  induction items generalizing orders with
  | nil => rfl
  | cons item rest ih =>
      have remaining :
          ∀ id, (if id = item.id then none else orders id) = none := by
        intro id
        split
        · rfl
        · exact nothing id
      unfold writeOrders
      rw [nothing, ih remaining]
      rfl

/-- A write through the pointer of `scene_find_item` writes one order. -/
theorem modifyItem_zOrder
    (itemId : CStr)
    (order : Int32)
    (items : List SceneItemState) :
    PtrArray.modifyFirst (fun item => item.id = itemId)
        ({ · with zOrder := order }) items =
      writeOrders (fun id => if id = itemId then some order else none) items := by
  induction items with
  | nil => rfl
  | cons item rest ih =>
      unfold PtrArray.modifyFirst writeOrders
      by_cases named : item.id = itemId
      · have remaining :
            ∀ id, (if id = item.id then none
              else if id = itemId then some order else none) = none := by
          intro id
          split
          · rfl
          · next different => rw [if_neg (named ▸ different)]
        rw [if_pos (decide_eq_true named), if_pos named,
          writeOrders_none remaining]
        rfl
      · have unaffected :
            (fun id => if id = item.id then none
              else if id = itemId then some order else none) =
            fun id => if id = itemId then some order else none := by
          funext id
          by_cases same : id = item.id
          · rw [if_pos same, if_neg (same ▸ named)]
          · rw [if_neg same]
        rw [if_neg (by simpa using named), if_neg named,
          ih, unaffected]
        rfl

/-- Later writes take precedence over earlier ones. -/
theorem writeOrders_writeOrders
    (earlier later : CStr → Option Int32)
    (items : List SceneItemState) :
    writeOrders later (writeOrders earlier items) =
      writeOrders (fun id => (later id).or (earlier id)) items := by
  induction items generalizing earlier later with
  | nil => rfl
  | cons item rest ih =>
      have remaining :
          (fun id => (if id = item.id then none else later id).or
            (if id = item.id then none else earlier id)) =
          fun id => if id = item.id then none else (later id).or (earlier id) := by
        funext id
        split <;> rfl
      simp only [writeOrders, ih, remaining]
      cases later item.id <;> rfl

/-- Writing orders changes nothing exactly when the first item of each id has
its order already. -/
theorem writeOrders_eq_self_iff
    (orders : CStr → Option Int32)
    (items : List SceneItemState) :
    writeOrders orders items = items ↔
      ∀ id order item, orders id = some order →
        items.find? (fun item => item.id = id) = some item →
          item.zOrder = order := by
  induction items generalizing orders with
  | nil => simp [writeOrders]
  | cons item rest ih =>
      simp only [writeOrders, List.cons.injEq, ih]
      constructor
      · rintro ⟨headKept, restKept⟩ id order found given located
        rw [List.find?_cons] at located
        split at located
        · next named =>
            have named : item.id = id := by simpa using named
            cases located
            have written := congrArg SceneItemState.zOrder headKept
            rw [named, given] at written
            exact written.symm
        · next different =>
            have different : ¬id = item.id := fun same => by simp [same] at different
            exact restKept id order found (by rw [if_neg different, given]) located
      · intro kept
        constructor
        · cases given : orders item.id with
          | none => rfl
          | some order =>
              have same := kept item.id order item given (by simp)
              rw [Option.getD_some, ← same]
        · intro id order found given located
          split at given
          · cases given
          · next different =>
              refine kept id order found given ?_
              rw [List.find?_cons, decide_eq_false (Ne.symm different)]
              exact located

/-- Writing orders keeps every view of the items that does not show them. -/
theorem map_writeOrders
    (view : SceneItemState → β)
    (keeps : ∀ item order, view { item with zOrder := order } = view item)
    (orders : CStr → Option Int32)
    (items : List SceneItemState) :
    (writeOrders orders items).map view = items.map view := by
  induction items generalizing orders with
  | nil => rfl
  | cons item rest ih =>
      simp only [writeOrders, List.map_cons, keeps, ih]

/-- An item is found exactly when its id is in the scene. -/
theorem isSome_findItem (scene : SceneState) (itemId : CStr) :
    (scene.findItem itemId).isSome = true ↔
      itemId ∈ scene.items.map SceneItemState.id := by
  unfold SceneState.findItem
  rw [List.find?_isSome, List.mem_map]
  simp only [decide_eq_true_eq]

/-- The scene after a run of the loop over known ids. -/
def SceneState.withOrders
    (scene : SceneState)
    (orders : CStr → Option Int32) : SceneState :=
  { scene with items := writeOrders orders scene.items }

variable (scene : SceneState)

theorem knownPrefix_withOrders
    (orders : CStr → Option Int32)
    (itemIds : List (Option CStr)) :
    knownPrefix (scene.withOrders orders) itemIds = knownPrefix scene itemIds := by
  have found :
      ∀ id, ((scene.withOrders orders).findItem id).isSome =
        (scene.findItem id).isSome := by
    intro id
    rw [Bool.eq_iff_iff, isSome_findItem, isSome_findItem]
    unfold SceneState.withOrders
    rw [map_writeOrders SceneItemState.id fun _ _ => rfl]
  induction itemIds with
  | nil => rfl
  | cons itemId rest ih =>
      simp only [knownPrefix, found, ih]

theorem withOrders_lastOrder_nil (scene : SceneState) (index : Nat) :
    scene.withOrders (lastOrder index []) = scene := by
  have nothing : ∀ id, lastOrder index [] id = none := fun _ => rfl
  unfold SceneState.withOrders
  rw [writeOrders_none nothing]

theorem withOrders_withOrders
    (earlier later : CStr → Option Int32) :
    (scene.withOrders earlier).withOrders later =
      scene.withOrders fun id => (later id).or (earlier id) := by
  unfold SceneState.withOrders
  rw [writeOrders_writeOrders]

theorem modifyItem_eq_withOrders
    (itemId : CStr)
    (order : Int32) :
    scene.modifyItem itemId ({ · with zOrder := order }) =
      scene.withOrders fun id => if id = itemId then some order else none := by
  unfold SceneState.modifyItem SceneState.withOrders
  rw [modifyItem_zOrder]

/-- The loop writes the orders of the known prefix. -/
theorem reorderLoop_scene
    (index : Nat)
    (itemIds : List (Option CStr)) :
    (reorderLoop scene index itemIds).2 =
      scene.withOrders (lastOrder index (knownPrefix scene itemIds)) := by
  induction itemIds generalizing scene index with
  | nil => exact (withOrders_lastOrder_nil scene index).symm
  | cons itemId rest ih =>
      cases itemId with
      | none => exact (withOrders_lastOrder_nil scene index).symm
      | some itemId =>
          cases found : scene.findItem itemId with
          | none =>
              simp only [reorderLoop, knownPrefix, found, Option.filter_some,
                Option.isSome_none, Bool.false_eq_true, if_false]
              exact (withOrders_lastOrder_nil scene index).symm
          | some item =>
              simp only [reorderLoop, knownPrefix, found, Option.filter_some,
                Option.isSome_some, if_true]
              rw [modifyItem_eq_withOrders, ih,
                knownPrefix_withOrders, withOrders_withOrders]
              rfl

/-- The loop succeeds exactly when every listed id is known. -/
theorem reorderLoop_ok_iff
    (index : Nat)
    (itemIds : List (Option CStr)) :
    (reorderLoop scene index itemIds).1 = .ok ↔
      (knownPrefix scene itemIds).length = itemIds.length := by
  induction itemIds generalizing scene index with
  | nil => simp [reorderLoop, knownPrefix]
  | cons itemId rest ih =>
      cases itemId with
      | none => simp [reorderLoop, knownPrefix]
      | some itemId =>
          cases found : scene.findItem itemId with
          | none => simp [reorderLoop, knownPrefix, found, Option.filter_some]
          | some item =>
              simp only [reorderLoop, knownPrefix, found, Option.filter_some,
                Option.isSome_some, if_true, List.length_cons, Nat.add_right_cancel_iff]
              rw [modifyItem_eq_withOrders, ih, knownPrefix_withOrders]

/-- A run of the loop leaves the scene alone exactly when the known items have
their last orders already. -/
theorem withOrders_eq_self_iff
    (orders : CStr → Option Int32) :
    scene.withOrders orders = scene ↔
      ∀ id order item, orders id = some order →
        scene.findItem id = some item → item.zOrder = order := by
  unfold SceneState.findItem
  rw [← writeOrders_eq_self_iff]
  constructor
  · exact congrArg SceneState.items
  · intro same
    unfold SceneState.withOrders
    rw [same]

end SceneGraph
end SbsServer
