import SbsServer.SceneGraph.Atomicity

/-!
# What a reordering does

`sbs_scene_graph_reorder_items` compares lengths and looks every id up, writes the
orders 0, 10, 20 and so on, and sorts.  A list that mentions an item twice passes,
and so do lists whose orders do not fit into an `int`.
-/

namespace SbsServer
namespace SceneGraph

open CLib

/-- The positions from 0 on whose orders do not wrap around. -/
def orderedPositions : Nat := 214748365

/-- The reordering is accepted iff the list is a permutation of the ids of the items, and
then the items are in the order of the list. -/
structure ReordersAsAsked
    (graph : SceneGraph)
    (sceneId : CStr)
    (scene : SceneState)
    (itemIds : List (Option CStr)) : Prop where
  accepted : (graph.reorderItems (some sceneId) (some itemIds)).1 = .ok ↔
    itemIds.Perm (scene.items.map fun item => some item.id)
  ordered : (graph.reorderItems (some sceneId) (some itemIds)).1 = .ok →
    ∃ after, (graph.reorderItems (some sceneId) (some itemIds)).2.scenes.lookup sceneId =
        some after ∧
      after.items.map (fun item => some item.id) = itemIds

/-- The checks that the function makes. -/
structure PassesChecks
    (scene : SceneState)
    (itemIds : List (Option CStr)) : Prop where
  counted : itemIds.length = scene.items.length
  known : ∀ itemId ∈ itemIds, itemId ∈ scene.items.map fun item => some item.id

theorem toInt_orderAt
    {index : Nat}
    (few : index < orderedPositions) :
    (orderAt index).toInt = 10 * index := by
  unfold orderedPositions at few
  unfold orderAt
  rw [Int32.toInt_ofNat', Int.bmod_eq_of_le (by simp [Int32.size]; omega)
    (by simp [Int32.size]; omega)]
  omega

/-- The orders rise as long as they do not wrap around. -/
theorem orderAt_lt_iff
    {first second : Nat}
    (few : first < orderedPositions)
    (fewer : second < orderedPositions) :
    orderAt first < orderAt second ↔ first < second := by
  rw [Int32.lt_iff_toInt_lt, toInt_orderAt few, toInt_orderAt fewer]
  omega

/-- The first order that wraps around is below the one before it. -/
theorem orderAt_wraps : orderAt orderedPositions < orderAt (orderedPositions - 1) := by
  decide

variable {id : CStr}

theorem lastOrder_of_notMem
    {ids : List CStr}
    (fresh : id ∉ ids)
    (index : Nat) :
    lastOrder index ids id = none := by
  induction ids generalizing index with
  | nil => rfl
  | cons head rest ih =>
      rw [List.mem_cons, not_or] at fresh
      rw [lastOrder, ih fresh.2, if_neg fresh.1]
      rfl

/-- The order of an id in a list without repetitions is that of its position. -/
theorem lastOrder_of_nodup
    {ids : List CStr}
    (nodup : ids.Nodup)
    (index : Nat)
    (member : id ∈ ids) :
    lastOrder index ids id = some (orderAt (index + ids.idxOf id)) := by
  induction ids generalizing index with
  | nil => cases member
  | cons head rest ih =>
      obtain ⟨fresh, nodup⟩ := List.nodup_cons.mp nodup
      unfold lastOrder
      by_cases same : id = head
      · subst same
        rw [lastOrder_of_notMem fresh, if_pos rfl, List.idxOf_cons_self]
        rfl
      · have later : id ∈ rest := (List.mem_cons.mp member).resolve_left same
        rw [ih nodup (index + 1) later, List.idxOf_cons_ne _ (Ne.symm same), Option.some_or]
        congr 2
        omega

/-- Every item of distinct ids is given the order of its id. -/
theorem writeOrders_of_nodup
    (orders : CStr → Option Int32)
    {items : List SceneItemState}
    (distinct : (items.map SceneItemState.id).Nodup) :
    writeOrders orders items =
      items.map fun item => { item with zOrder := (orders item.id).getD item.zOrder } := by
  induction items generalizing orders with
  | nil => rfl
  | cons item rest ih =>
      rw [List.map_cons, List.nodup_cons] at distinct
      rw [writeOrders, ih _ distinct.2, List.map_cons]
      congr 1
      apply List.map_congr_left
      intro other member
      have apart : other.id ≠ item.id :=
        fun same => distinct.1 (same ▸ List.mem_map_of_mem member)
      rw [if_neg apart]

/-- The ids of a list that names only items. -/
theorem knownPrefix_of_known
    {scene : SceneState}
    {itemIds : List (Option CStr)}
    (known : ∀ itemId ∈ itemIds, itemId ∈ scene.items.map fun item => some item.id) :
    (knownPrefix scene itemIds).map some = itemIds := by
  induction itemIds with
  | nil => rfl
  | cons itemId rest ih =>
      obtain ⟨item, member, rfl⟩ := List.mem_map.mp (known itemId (List.mem_cons_self ..))
      have found : (scene.findItem item.id).isSome = true :=
        (isSome_findItem scene item.id).mpr (List.mem_map_of_mem member)
      simp only [knownPrefix, Option.filter_some, found, if_true, List.map_cons]
      rw [ih fun other present => known other (List.mem_cons_of_mem _ present)]

/-- What the loop gets through names items of the scene. -/
theorem mem_of_mem_knownPrefix
    {scene : SceneState}
    {itemIds : List (Option CStr)}
    (member : id ∈ knownPrefix scene itemIds) :
    id ∈ scene.items.map SceneItemState.id := by
  induction itemIds with
  | nil => cases member
  | cons itemId rest ih =>
      unfold knownPrefix at member
      split at member
      · cases member
      next head found =>
        rw [Option.filter_eq_some_iff] at found
        obtain rfl | later := List.mem_cons.mp member
        · exact (isSome_findItem scene id).mp found.2
        · exact ih later

/-- The ids that the loop gets through are the head of the list. -/
theorem initial_knownPrefix
    (scene : SceneState)
    (itemIds : List (Option CStr)) :
    (knownPrefix scene itemIds).map some <+: itemIds := by
  induction itemIds with
  | nil => exact List.prefix_rfl
  | cons itemId rest ih =>
      unfold knownPrefix
      split
      · exact List.nil_prefix
      next head found =>
        rw [Option.filter_eq_some_iff] at found
        rw [found.1, List.map_cons, List.cons_prefix_cons]
        exact ⟨rfl, ih⟩

/-- The loop gets to the end of a list that names only items. -/
theorem known_iff
    (scene : SceneState)
    (itemIds : List (Option CStr)) :
    (knownPrefix scene itemIds).length = itemIds.length ↔
      ∀ itemId ∈ itemIds, itemId ∈ scene.items.map fun item => some item.id := by
  constructor
  · intro complete itemId member
    have whole : (knownPrefix scene itemIds).map some = itemIds :=
      (initial_knownPrefix scene itemIds).eq_of_length (by rw [List.length_map, complete])
    rw [← whole] at member
    obtain ⟨id, present, rfl⟩ := List.mem_map.mp member
    obtain ⟨item, inside, rfl⟩ := List.mem_map.mp (mem_of_mem_knownPrefix present)
    exact List.mem_map_of_mem inside
  · intro known
    have lengths := congrArg List.length (knownPrefix_of_known known)
    rwa [List.length_map] at lengths

section Call

variable
  {graph : SceneGraph}
  {sceneId : CStr}
  {scene : SceneState}
  {itemIds : List (Option CStr)}

theorem reorderItems_ok_iff (found : graph.scenes.lookup sceneId = some scene) :
    (graph.reorderItems (some sceneId) (some itemIds)).1 = .ok ↔
      PassesChecks scene itemIds := by
  have looped := (reorderLoop_ok_iff scene 0 itemIds).trans (known_iff scene itemIds)
  unfold reorderItems getScene
  dsimp only
  rw [found]
  dsimp only
  by_cases counted : itemIds.length = scene.items.length
  · rw [if_neg (not_not.mpr counted)]
    constructor
    · intro ok
      refine ⟨counted, looped.1 ?_⟩
      cases result : reorderLoop scene 0 itemIds with
      | mk code written =>
          rw [result] at ok
          cases code with
          | ok => rfl
          | _ => exact ok
    · intro passes
      have succeeded := looped.2 passes.known
      cases result : reorderLoop scene 0 itemIds with
      | mk code written =>
          rw [result] at succeeded
          subst succeeded
          rfl
  · rw [if_pos counted]
    refine iff_of_false ?_ fun passes => counted passes.counted
    exact fun invalid => by cases invalid

/-- The items after a successful call. -/
theorem reorderItems_scene
    (found : graph.scenes.lookup sceneId = some scene)
    (passes : PassesChecks scene itemIds) :
    (graph.reorderItems (some sceneId) (some itemIds)).2.scenes.lookup sceneId =
      some (scene.withOrders (lastOrder 0 (knownPrefix scene itemIds))).sortItems := by
  have succeeded := (reorderLoop_ok_iff scene 0 itemIds).mpr
    ((known_iff scene itemIds).mpr passes.known)
  have written := reorderLoop_scene scene 0 itemIds
  unfold reorderItems getScene
  dsimp only
  rw [found]
  dsimp only
  rw [if_neg (not_not.mpr passes.counted)]
  cases result : reorderLoop scene 0 itemIds with
  | mk code after =>
      rw [result] at succeeded written
      dsimp only at succeeded written
      subst succeeded
      subst written
      dsimp only [bumpVersion, modifyScene]
      rw [HashTable.lookup_modify, if_pos rfl, found]
      rfl

end Call

/-- The items of a scene after a list of ids was accepted. -/
def reordered
    (scene : SceneState)
    (ids : List CStr) : List SceneItemState :=
  (scene.withOrders (lastOrder 0 ids)).sortItems.items

section Order

variable
  {scene : SceneState}
  {ids : List CStr}

theorem map_id_reordered_perm
    (scene : SceneState)
    (ids : List CStr) :
    ((reordered scene ids).map SceneItemState.id).Perm
      (scene.items.map SceneItemState.id) := by
  have sorted := PtrArray.map_sort_perm ItemBelow SceneItemState.id
    (scene.withOrders (lastOrder 0 ids)).items
  refine sorted.trans (List.Perm.of_eq ?_)
  exact map_writeOrders SceneItemState.id (fun _ _ => rfl) _ _

/-- Every item has the order of its position in the list. -/
theorem zOrder_reordered
    (distinct : (scene.items.map SceneItemState.id).Nodup)
    (nodup : ids.Nodup)
    (every : ∀ id ∈ scene.items.map SceneItemState.id, id ∈ ids)
    {item : SceneItemState}
    (member : item ∈ reordered scene ids) :
    item.zOrder = orderAt (ids.idxOf item.id) := by
  unfold reordered SceneState.sortItems SceneState.withOrders at member
  rw [PtrArray.mem_sort, writeOrders_of_nodup _ distinct] at member
  obtain ⟨before, inside, rfl⟩ := List.mem_map.mp member
  dsimp only
  rw [lastOrder_of_nodup nodup 0 (every _ (List.mem_map_of_mem inside)), Nat.zero_add]
  rfl

/-- A list without repetitions of as many ids as there are items is a permutation of
their ids. -/
theorem perm_of_nodup
    (nodup : ids.Nodup)
    (counted : ids.length = scene.items.length)
    (known : ∀ id ∈ ids, id ∈ scene.items.map SceneItemState.id) :
    ids.Perm (scene.items.map SceneItemState.id) :=
  (nodup.subperm known).perm_of_length_le (by rw [List.length_map, counted])

/-- The sort puts the items into the order of the list if no order wraps around. -/
theorem map_id_reordered
    (distinct : (scene.items.map SceneItemState.id).Nodup)
    (perm : ids.Perm (scene.items.map SceneItemState.id))
    (few : ids.length ≤ orderedPositions) :
    (reordered scene ids).map SceneItemState.id = ids := by
  have nodup : ids.Nodup := perm.nodup_iff.mpr distinct
  have position {id : CStr} (member : id ∈ ids) : ids.idxOf id < orderedPositions :=
    lt_of_lt_of_le (List.idxOf_lt_length_of_mem member) few
  have within {item : SceneItemState} (member : item ∈ reordered scene ids) : item.id ∈ ids :=
    perm.mem_iff.mpr ((map_id_reordered_perm scene ids).mem_iff.mp (List.mem_map_of_mem member))
  have orders {item : SceneItemState} (member : item ∈ reordered scene ids) :=
    zOrder_reordered distinct nodup (fun id present => perm.mem_iff.mpr present) member
  have same := (map_id_reordered_perm scene ids).trans perm.symm
  refine @List.Perm.eq_of_pairwise _ (fun first second => ids.idxOf first ≤ ids.idxOf second)
    _ _ ?_ ?_ ?_ same
  · intro first second _ member forth back
    exact ((List.idxOf_inj member).mp (le_antisymm back forth)).symm
  · rw [List.pairwise_map]
    refine List.Pairwise.imp_of_mem ?_ (PtrArray.pairwise_sort ItemBelow _)
    intro lower upper memberLower memberUpper below
    by_contra later
    have less := (orderAt_lt_iff (position (within memberUpper))
      (position (within memberLower))).mpr (not_le.mp later)
    rw [← orders memberUpper, ← orders memberLower, Int32.lt_iff_toInt_lt] at less
    obtain under | ⟨same, _⟩ := below
    · rw [Int32.lt_iff_toInt_lt] at under
      omega
    · rw [same] at less
      exact lt_irrefl _ less
  · rw [List.pairwise_iff_getElem]
    intro i j inside inside' before
    rw [nodup.idxOf_getElem, nodup.idxOf_getElem]
    exact le_of_lt before

/-- Once an order wraps around, the items are not in the order of the list. -/
theorem length_le_of_reordered
    (distinct : (scene.items.map SceneItemState.id).Nodup)
    (perm : ids.Perm (scene.items.map SceneItemState.id))
    (asked : (reordered scene ids).map SceneItemState.id = ids) :
    ids.length ≤ orderedPositions := by
  by_contra many
  have nodup : ids.Nodup := perm.nodup_iff.mpr distinct
  have lengths : (reordered scene ids).length = ids.length := by
    rw [← congrArg List.length asked, List.length_map]
  have order (i : Nat) (bound : i < (reordered scene ids).length) :
      ((reordered scene ids)[i]).zOrder = orderAt i := by
    rw [zOrder_reordered distinct nodup (fun id present => perm.mem_iff.mpr present)
      (List.getElem_mem bound)]
    have short : i < ids.length := by omega
    have here : ((reordered scene ids)[i]).id = ids[i] := by
      have named : ((reordered scene ids).map SceneItemState.id)[i]? =
          (reordered scene ids)[i]?.map SceneItemState.id := List.getElem?_map
      rw [asked, List.getElem?_eq_getElem bound, List.getElem?_eq_getElem short,
        Option.map_some] at named
      exact (Option.some.inj named).symm
    rw [here, nodup.idxOf_getElem]
  have sorted : (reordered scene ids).Pairwise ItemBelow :=
    PtrArray.pairwise_sort ItemBelow _
  rw [List.pairwise_iff_getElem] at sorted
  have below := sorted (orderedPositions - 1) orderedPositions (by omega) (by omega)
    (by decide)
  have wraps := orderAt_wraps
  unfold ItemBelow at below
  rw [order, order, Int32.lt_iff_toInt_lt] at below
  rw [Int32.lt_iff_toInt_lt] at wraps
  obtain under | ⟨same, _⟩ := below
  · omega
  · rw [same] at wraps
    exact lt_irrefl _ wraps

end Order

theorem perm_map_some_iff
    (scene : SceneState)
    (ids : List CStr) :
    (ids.map some).Perm (scene.items.map fun item => some item.id) ↔
      ids.Perm (scene.items.map SceneItemState.id) := by
  rw [← List.map_perm_map_iff (Option.some_injective CStr), List.map_map]
  rfl

/-- For a scene with distinct ids a call does what it is asked to iff a list that passes the
checks mentions no item twice and its orders do not wrap around. -/
theorem reorders_as_asked
    {graph : SceneGraph}
    {sceneId : CStr}
    {scene : SceneState}
    (found : graph.scenes.lookup sceneId = some scene)
    (distinct : (scene.items.map SceneItemState.id).Nodup)
    (itemIds : List (Option CStr)) :
    ReordersAsAsked graph sceneId scene itemIds ↔
      (PassesChecks scene itemIds →
        itemIds.Nodup ∧ itemIds.length ≤ orderedPositions) := by
  have ok := @reorderItems_ok_iff graph sceneId scene itemIds found
  constructor
  · intro asked passes
    have whole := knownPrefix_of_known passes.known
    have perm := asked.accepted.mp (ok.mpr passes)
    rw [← whole, perm_map_some_iff] at perm
    obtain ⟨after, lookup, ordered⟩ := asked.ordered (ok.mpr passes)
    rw [reorderItems_scene found passes, Option.some.injEq] at lookup
    subst lookup
    have named : (reordered scene (knownPrefix scene itemIds)).map SceneItemState.id =
        knownPrefix scene itemIds := by
      apply List.map_injective_iff.mpr (Option.some_injective CStr)
      rw [whole, List.map_map]
      exact ordered
    rw [← whole, List.length_map]
    exact ⟨(perm.nodup_iff.mpr distinct).map (Option.some_injective CStr),
      length_le_of_reordered distinct perm named⟩
  · intro condition
    have perm (passes : PassesChecks scene itemIds) :
        (knownPrefix scene itemIds).Perm (scene.items.map SceneItemState.id) := by
      have whole := knownPrefix_of_known passes.known
      have nodup := (condition passes).1
      rw [← whole] at nodup
      refine perm_of_nodup nodup.of_map ?_ fun id => mem_of_mem_knownPrefix
      rw [← passes.counted, ← congrArg List.length whole, List.length_map]
    constructor
    · rw [ok]
      constructor
      · intro passes
        rw [← knownPrefix_of_known passes.known, perm_map_some_iff]
        exact perm passes
      · intro permuted
        exact ⟨by rw [permuted.length_eq, List.length_map],
          fun itemId member => permuted.mem_iff.mp member⟩
    · intro succeeded
      have passes := ok.mp succeeded
      have whole := knownPrefix_of_known passes.known
      have few := (condition passes).2
      rw [← whole, List.length_map] at few
      refine ⟨_, reorderItems_scene found passes, ?_⟩
      have named := congrArg (List.map some) (map_id_reordered distinct (perm passes) few)
      rw [whole, List.map_map] at named
      exact named

theorem ids_twoItemGraph :
    ∃ scene, twoItemGraph.scenes.lookup "main" = some scene ∧
      scene.items.map SceneItemState.id = [CStr.lit "first", CStr.lit "second"] := by
  have named : (twoItemGraph.scenes.lookup "main").map (fun scene =>
      scene.items.map SceneItemState.id) = some [CStr.lit "first", CStr.lit "second"] := by
    decide +kernel
  exact Option.map_eq_some_iff.mp named

/-- The two items of a scene change places. -/
theorem reorders_as_asked_swap :
    ∃ scene, twoItemGraph.scenes.lookup "main" = some scene ∧
      ReordersAsAsked twoItemGraph "main" scene [some "second", some "first"] := by
  obtain ⟨scene, found, ids⟩ := ids_twoItemGraph
  refine ⟨scene, found, (reorders_as_asked found ?_ _).mpr fun _ => ⟨?_, ?_⟩⟩
  · rw [ids]
    decide +kernel
  · decide +kernel
  · decide

/-- A list that names one of two items twice is accepted. -/
theorem repeated_item_accepted :
    ¬ ∀ (graph : SceneGraph) (sceneId : CStr) (scene : SceneState)
        (itemIds : List (Option CStr)),
      graph.scenes.lookup sceneId = some scene →
        (scene.items.map SceneItemState.id).Nodup →
          ReordersAsAsked graph sceneId scene itemIds := by
  intro asked
  obtain ⟨scene, found, ids⟩ := ids_twoItemGraph
  have reorders := asked twoItemGraph "main" scene [some "first", some "first"] found (by
    rw [ids]
    decide +kernel)
  have accepted : (twoItemGraph.reorderItems (some "main")
      (some [some "first", some "first"])).1 = .ok := by
    decide +kernel
  have perm := (reorders.accepted.mp accepted).symm
  have nodup := perm.nodup_iff.mp (by
    rw [show (fun item : SceneItemState => some item.id) =
      some ∘ SceneItemState.id from rfl, ← List.map_map, ids]
    decide +kernel)
  exact absurd nodup (by decide +kernel)

end SceneGraph
end SbsServer
