import SbsServer.CLib.System
import SbsServer.SceneGraph.Atomicity

/-!
# The scene-graph invariant

Ids link the tables of a graph: items name sources, the selection names scenes
and transitions.  The invariant says that these links resolve and that ids are
unique where lookups rely on it.  Calls keep it except in two situations: an
unnamed item or filter takes an automatic id that is in use, and a reordering
fails after it has written.
-/

namespace SbsServer
namespace SceneGraph

open CLib

/-- A pointer is NULL or names an entry of a table. -/
def Named (table : HashTable CStr V) (pointer : Option CStr) : Prop :=
  ∀ id, pointer = some id → ∃ value, table.lookup id = some value

/-- The invariant of one scene over the ids of the sources. -/
structure SceneConsistent
    (sources : HashTable CStr SourceState)
    (scene : SceneState) : Prop where
  /-- Item ids are pairwise distinct. -/
  itemIdsDistinct : (scene.items.map SceneItemState.id).Nodup
  /-- Items are sorted by order and id. -/
  itemsSorted : scene.items.Pairwise ItemBelow
  /-- Filter ids are pairwise distinct. -/
  filterIdsDistinct : (scene.filters.map FilterState.id).Nodup
  /-- Every item shows an existing source. -/
  itemSourcesExist : ∀ sourceId ∈ scene.items.map SceneItemState.sourceId,
    ∃ source, sources.lookup sourceId = some source

/-- The invariant of a graph. -/
structure Consistent (graph : SceneGraph) : Prop where
  /-- Every scene is consistent. -/
  scenes : graph.scenes.All fun _ => SceneConsistent graph.sources
  /-- Filter ids are pairwise distinct in every source. -/
  sourceFilterIdsDistinct : graph.sources.All fun _ source =>
    (source.filters.map FilterState.id).Nodup
  /-- The active scene exists. -/
  activeExists : Named graph.scenes graph.activeSceneId
  /-- The preview scene exists. -/
  previewExists : Named graph.scenes graph.previewSceneId
  /-- The default transition exists. -/
  defaultExists : Named graph.transitions graph.defaultTransitionId

/-- A call that keeps the invariant: it adds nothing without an id next to an
element that took the automatic id, and reorders harmlessly. -/
structure SoundCall (graph : SceneGraph) (op : Op) : Prop where
  /-- No item is added under an automatic id in use. -/
  itemAuto : ∀ sceneId params scene,
    op = .addItem (some sceneId) (some params) → params.id = none →
      graph.scenes.lookup sceneId = some scene →
        scene.findItem "item-auto" = none
  /-- No source filter is added under an automatic id in use. -/
  filterAuto : ∀ sourceId params source,
    op = .addFilter (some sourceId) (some params) → params.id = none →
      graph.sources.lookup sourceId = some source →
        filterArrayFind source.filters "filter-auto" = none
  /-- No scene filter is added under an automatic id in use. -/
  sceneFilterAuto : ∀ sceneId params scene,
    op = .addSceneFilter (some sceneId) (some params) → params.id = none →
      graph.scenes.lookup sceneId = some scene →
        filterArrayFind scene.filters "filter-auto" = none
  /-- A reordering does not fail after a write. -/
  harmless : HarmlessCall graph op

theorem Named.null (table : HashTable CStr V) : Named table none := by
  intro id named
  cases named

variable {table : HashTable CStr V} {filters : List FilterState} {graph : SceneGraph}

theorem Named.of_lookup
    {id : CStr}
    {value : V}
    (found : table.lookup id = some value) :
    Named table (some id) := by
  intro other named
  cases named
  exact ⟨value, found⟩

/-- A pointer stays valid while no entry goes away. -/
theorem Named.mono
    {table grown : HashTable CStr V}
    {pointer : Option CStr}
    (named : Named table pointer)
    (grows : ∀ id value, table.lookup id = some value →
      ∃ value, grown.lookup id = some value) :
    Named grown pointer := by
  intro id points
  obtain ⟨value, found⟩ := named id points
  exact grows id value found

theorem lookup_modify_exists
    {key id : CStr}
    {change : V → V}
    {value : V}
    (found : table.lookup id = some value) :
    ∃ value, (table.modify key change).lookup id = some value := by
  rw [HashTable.lookup_modify, found]
  split
  · exact ⟨change value, rfl⟩
  · exact ⟨value, rfl⟩

theorem lookup_insert_exists
    {key id : CStr}
    {value stored : V}
    (found : table.lookup id = some stored) :
    ∃ stored, (table.insert key value).lookup id = some stored := by
  rw [HashTable.lookup_insert]
  split
  · exact ⟨value, rfl⟩
  · exact ⟨stored, found⟩

/-- A pointer to another entry stays valid when an entry is removed. -/
theorem Named.remove
    {pointer : Option CStr}
    {id : CStr}
    (named : Named table pointer)
    (different : pointer ≠ some id) :
    Named (table.remove id) pointer := by
  intro other points
  obtain ⟨value, found⟩ := named other points
  refine ⟨value, ?_⟩
  rw [HashTable.lookup_remove, if_neg, found]
  rintro rfl
  exact different points

namespace SceneConsistent

variable {sources : HashTable CStr SourceState} {scene : SceneState}

/-- A scene stays consistent while no source goes away. -/
theorem mono
    (consistent : SceneConsistent sources scene)
    {grown : HashTable CStr SourceState}
    (grows : ∀ id source, sources.lookup id = some source →
      ∃ source, grown.lookup id = some source) :
    SceneConsistent grown scene := by
  refine { consistent with itemSourcesExist := ?_ }
  intro sourceId member
  obtain ⟨source, found⟩ := consistent.itemSourcesExist sourceId member
  exact grows sourceId source found

/-- An empty scene is consistent. -/
theorem newScene (id : CStr) (params : SceneCreateParams) :
    SceneConsistent sources (SceneGraph.newScene id params) where
  itemIdsDistinct := List.nodup_nil
  itemsSorted := List.Pairwise.nil
  filterIdsDistinct := List.nodup_nil
  itemSourcesExist := by
    intro sourceId member
    cases member

/-- Sorting restores the order and keeps everything else. -/
theorem sortItems
    (idsDistinct : (scene.items.map SceneItemState.id).Nodup)
    (filterIdsDistinct : (scene.filters.map FilterState.id).Nodup)
    (sourcesExist : ∀ sourceId ∈ scene.items.map SceneItemState.sourceId,
      ∃ source, sources.lookup sourceId = some source) :
    SceneConsistent sources scene.sortItems where
  itemIdsDistinct :=
    (PtrArray.map_sort_perm ItemBelow SceneItemState.id scene.items).nodup_iff.mpr
      idsDistinct
  itemsSorted := PtrArray.pairwise_sort ItemBelow scene.items
  filterIdsDistinct := filterIdsDistinct
  itemSourcesExist := by
    intro sourceId member
    have permuted := PtrArray.map_sort_perm ItemBelow SceneItemState.sourceId scene.items
    exact sourcesExist sourceId (permuted.mem_iff.mp member)

/-- The id of a new item is free when its explicit or automatic id is. -/
theorem findItem_newItem
    {params : SceneItemCreateParams}
    {source : SourceState}
    {sourceId : CStr}
    (auto : params.id = none → scene.findItem "item-auto" = none)
    (fresh : ∀ id, params.id = some id → scene.findItem id = none) :
    scene.findItem (newItem params source sourceId).id = none := by
  unfold newItem
  cases named : params.id with
  | none => exact auto named
  | some id => exact fresh id named

/-- A new item with a free id and an existing source may be added. -/
theorem addItem
    (consistent : SceneConsistent sources scene)
    {item : SceneItemState}
    {source : SourceState}
    (free : scene.findItem item.id = none)
    (found : sources.lookup item.sourceId = some source) :
    SceneConsistent sources (scene.addItem item) := by
  have unused : item.id ∉ scene.items.map SceneItemState.id := by
    rw [← isSome_findItem, free]
    simp
  refine sortItems ?_ consistent.filterIdsDistinct ?_
  · rw [List.map_append, List.map_singleton]
    exact List.Nodup.append consistent.itemIdsDistinct (List.nodup_singleton _)
      (List.disjoint_singleton.mpr unused)
  · intro sourceId member
    rw [List.map_append, List.map_singleton, List.mem_append, List.mem_singleton] at member
    rcases member with old | rfl
    · exact consistent.itemSourcesExist sourceId old
    · exact ⟨source, found⟩

/-- A change of one item that keeps its id and source, followed by a sort. -/
theorem modifyItem_sortItems
    (consistent : SceneConsistent sources scene)
    {itemId : CStr}
    {change : SceneItemState → SceneItemState}
    (keepsId : ∀ item, (change item).id = item.id)
    (keepsSource : ∀ item, (change item).sourceId = item.sourceId) :
    SceneConsistent sources (scene.modifyItem itemId change).sortItems := by
  refine sortItems ?_ consistent.filterIdsDistinct ?_
  · unfold SceneState.modifyItem
    rw [PtrArray.map_modifyFirst SceneItemState.id fun item _ => keepsId item]
    exact consistent.itemIdsDistinct
  · unfold SceneState.modifyItem
    rw [PtrArray.map_modifyFirst SceneItemState.sourceId fun item _ => keepsSource item]
    exact consistent.itemSourcesExist

/-- The place of an item in its scene. -/
private def place (item : SceneItemState) : Int32 × CStr :=
  (item.zOrder, item.id)

private theorem pairwise_itemBelow_iff (items : List SceneItemState) :
    items.Pairwise ItemBelow ↔
      (items.map place).Pairwise fun lower upper =>
        lower.1 < upper.1 ∨ (lower.1 = upper.1 ∧ lower.2 ≤ upper.2) := by
  rw [List.pairwise_map]
  rfl

section

variable (consistent : SceneConsistent sources scene)
include consistent

/-- A change of one item that keeps its id, source and order needs no sort. -/
theorem modifyItem
    {itemId : CStr}
    {change : SceneItemState → SceneItemState}
    (keepsPlace : ∀ item, (change item).zOrder = item.zOrder ∧ (change item).id = item.id)
    (keepsSource : ∀ item, (change item).sourceId = item.sourceId) :
    SceneConsistent sources (scene.modifyItem itemId change) where
  itemIdsDistinct := by
    unfold SceneState.modifyItem
    rw [PtrArray.map_modifyFirst SceneItemState.id fun item _ => (keepsPlace item).2]
    exact consistent.itemIdsDistinct
  itemsSorted := by
    have places : ∀ item, place (change item) = place item := fun item =>
      Prod.ext (keepsPlace item).1 (keepsPlace item).2
    unfold SceneState.modifyItem
    rw [pairwise_itemBelow_iff, PtrArray.map_modifyFirst place fun item _ => places item,
      ← pairwise_itemBelow_iff]
    exact consistent.itemsSorted
  filterIdsDistinct := consistent.filterIdsDistinct
  itemSourcesExist := by
    unfold SceneState.modifyItem
    rw [PtrArray.map_modifyFirst SceneItemState.sourceId fun item _ => keepsSource item]
    exact consistent.itemSourcesExist

/-- A scene stays consistent when items are taken out of it. -/
theorem sublist
    {items : List SceneItemState}
    (taken : items.Sublist scene.items) :
    SceneConsistent sources { scene with items := items } where
  itemIdsDistinct := consistent.itemIdsDistinct.sublist (taken.map _)
  itemsSorted := consistent.itemsSorted.sublist taken
  filterIdsDistinct := consistent.filterIdsDistinct
  itemSourcesExist := fun sourceId member =>
    consistent.itemSourcesExist sourceId ((taken.map _).subset member)

/-- The scene after a completed reordering. -/
theorem reorder
    (index : Nat)
    (itemIds : List (Option CStr)) :
    SceneConsistent sources (reorderLoop scene index itemIds).2.sortItems := by
  rw [reorderLoop_scene]
  refine sortItems ?_ consistent.filterIdsDistinct ?_
  · unfold SceneState.withOrders
    rw [map_writeOrders SceneItemState.id fun _ _ => rfl]
    exact consistent.itemIdsDistinct
  · unfold SceneState.withOrders
    rw [map_writeOrders SceneItemState.sourceId fun _ _ => rfl]
    exact consistent.itemSourcesExist

/-- The filters of a scene may be exchanged for others with distinct ids. -/
theorem withFilters
    {filters : List FilterState}
    (distinct : (filters.map FilterState.id).Nodup) :
    SceneConsistent sources { scene with filters := filters } :=
  { consistent with filterIdsDistinct := distinct }

/-- No item of a scene is left without its source when the source is removed. -/
theorem dropSource
    (id : CStr) :
    SceneConsistent (sources.remove id) (scene.dropSource id) := by
  have remaining := consistent.sublist
    (List.filter_sublist (p := fun item => item.sourceId ≠ id))
  refine { remaining with itemSourcesExist := ?_ }
  intro sourceId member
  obtain ⟨source, found⟩ := remaining.itemSourcesExist sourceId member
  refine ⟨source, ?_⟩
  have different : sourceId ≠ id := by
    rintro rfl
    obtain ⟨item, kept, shows⟩ := List.mem_map.mp member
    have := List.of_mem_filter kept
    simp [shows] at this
  rw [HashTable.lookup_remove, if_neg different, found]

end

end SceneConsistent

/-! ## Filters -/

/-- The id of a new filter is free when its explicit or automatic id is. -/
theorem filterArrayFind_newFilter
    {type : CStr}
    {params : FilterCreateParams}
    (auto : params.id = none → filterArrayFind filters "filter-auto" = none)
    (fresh : ∀ id, params.id = some id → filterArrayFind filters id = none) :
    filterArrayFind filters (newFilter type params).id = none := by
  unfold newFilter
  cases named : params.id with
  | none => exact auto named
  | some id => exact fresh id named

/-- A filter with a free id may be appended. -/
theorem nodup_append_filter
    {filter : FilterState}
    (distinct : (filters.map FilterState.id).Nodup)
    (free : filterArrayFind filters filter.id = none) :
    ((filters ++ [filter]).map FilterState.id).Nodup := by
  have unused : filter.id ∉ filters.map FilterState.id := by
    intro member
    obtain ⟨other, present, named⟩ := List.mem_map.mp member
    have missing := List.find?_eq_none.mp free other present
    simp [named] at missing
  rw [List.map_append, List.map_singleton]
  exact List.Nodup.append distinct (List.nodup_singleton _)
    (List.disjoint_singleton.mpr unused)

theorem nodup_update_filter
    {filterId : CStr}
    {params : FilterUpdateParams}
    (distinct : (filters.map FilterState.id).Nodup) :
    ((PtrArray.modifyFirst (fun filter => filter.id = filterId)
      (·.update params) filters).map FilterState.id).Nodup := by
  have keepsId : ∀ filter : FilterState, (filter.update params).id = filter.id :=
    fun _ => rfl
  rw [PtrArray.map_modifyFirst FilterState.id fun filter _ => keepsId filter]
  exact distinct

theorem nodup_erase_filter
    {filterId : CStr}
    (distinct : (filters.map FilterState.id).Nodup) :
    ((filters.eraseP fun filter => filter.id = filterId).map FilterState.id).Nodup :=
  distinct.sublist (List.eraseP_sublist.map _)

namespace Consistent

variable {graph : SceneGraph}

/-- The version is not part of the invariant. -/
theorem bumpVersion (consistent : Consistent graph) :
    Consistent graph.bumpVersion :=
  ⟨consistent.scenes, consistent.sourceFilterIdsDistinct, consistent.activeExists,
    consistent.previewExists, consistent.defaultExists⟩

/-- A change of one scene that keeps it consistent. -/
theorem modifyScene
    (consistent : Consistent graph)
    {sceneId : CStr}
    {change : SceneState → SceneState}
    (keeps : ∀ scene, graph.scenes.lookup sceneId = some scene →
      SceneConsistent graph.sources scene → SceneConsistent graph.sources (change scene)) :
    Consistent (graph.modifyScene sceneId change) where
  scenes := consistent.scenes.modify keeps
  sourceFilterIdsDistinct := consistent.sourceFilterIdsDistinct
  activeExists := consistent.activeExists.mono fun _ _ => lookup_modify_exists
  previewExists := consistent.previewExists.mono fun _ _ => lookup_modify_exists
  defaultExists := consistent.defaultExists

/-- A change of one source that keeps its filter ids distinct. -/
theorem modifySource
    (consistent : Consistent graph)
    {sourceId : CStr}
    {change : SourceState → SourceState}
    (keeps : ∀ source, graph.sources.lookup sourceId = some source →
      (source.filters.map FilterState.id).Nodup →
        ((change source).filters.map FilterState.id).Nodup) :
    Consistent (graph.modifySource sourceId change) where
  scenes := consistent.scenes.imp fun _ _ scene =>
    scene.mono fun _ _ => lookup_modify_exists
  sourceFilterIdsDistinct := consistent.sourceFilterIdsDistinct.modify keeps
  activeExists := consistent.activeExists
  previewExists := consistent.previewExists
  defaultExists := consistent.defaultExists

/-- Every change made by a sound call keeps the invariant. -/
theorem change
    (consistent : Consistent graph)
    {op : Op}
    {next : SceneGraph}
    (sound : SoundCall graph op)
    (change : Change graph op next) :
    Consistent next := by
  cases change with
  | createSource named valid absent =>
      exact {
        scenes := consistent.scenes.imp fun _ _ scene =>
          scene.mono fun _ _ => lookup_insert_exists
        sourceFilterIdsDistinct :=
          consistent.sourceFilterIdsDistinct.insert List.nodup_nil
        activeExists := consistent.activeExists
        previewExists := consistent.previewExists
        defaultExists := consistent.defaultExists }
  | updateSource found =>
      exact consistent.modifySource fun _ _ distinct => distinct
  | removeSource found =>
      exact {
        scenes := consistent.scenes.mapValues fun _ _ scene => scene.dropSource _
        sourceFilterIdsDistinct := consistent.sourceFilterIdsDistinct.remove _
        activeExists := consistent.activeExists.mono fun id scene stored =>
          ⟨_, by rw [HashTable.lookup_mapValues, stored]; rfl⟩
        previewExists := consistent.previewExists.mono fun id scene stored =>
          ⟨_, by rw [HashTable.lookup_mapValues, stored]; rfl⟩
        defaultExists := consistent.defaultExists }
  | @createScene params id named valid absent =>
      refine {
        scenes := consistent.scenes.insert (SceneConsistent.newScene _ _)
        sourceFilterIdsDistinct := consistent.sourceFilterIdsDistinct
        activeExists := ?_
        previewExists := consistent.previewExists.mono fun _ _ => lookup_insert_exists
        defaultExists := consistent.defaultExists }
      cases active : graph.activeSceneId with
      | none =>
          have created :
              (graph.scenes.insert id (newScene id params)).lookup id =
                some (newScene id params) := by
            rw [HashTable.lookup_insert, if_pos rfl]
          exact Named.of_lookup created
      | some activeId =>
          rw [Option.getD_some, ← active]
          exact consistent.activeExists.mono fun _ _ => lookup_insert_exists
  | updateSceneName found =>
      exact consistent.modifyScene fun _ _ scene =>
        ⟨scene.itemIdsDistinct, scene.itemsSorted, scene.filterIdsDistinct,
          scene.itemSourcesExist⟩
  | removeScene found inactive =>
      refine {
        scenes := consistent.scenes.remove _
        sourceFilterIdsDistinct := consistent.sourceFilterIdsDistinct
        activeExists := consistent.activeExists.remove inactive
        previewExists := ?_
        defaultExists := consistent.defaultExists }
      split
      · exact Named.null _
      · next different => exact consistent.previewExists.remove different
  | addItem sourced found sourceFound fresh =>
      refine consistent.modifyScene fun scene stored kept => ?_
      rw [found] at stored
      cases stored
      have auto := fun named => sound.itemAuto _ _ _ rfl named found
      exact kept.addItem (SceneConsistent.findItem_newItem auto fresh) sourceFound
  | updateItem found =>
      exact consistent.modifyScene fun _ _ scene =>
        scene.modifyItem_sortItems (fun _ => rfl) (fun _ => rfl)
  | updateItemAudio found =>
      exact consistent.modifyScene fun _ _ scene =>
        scene.modifyItem (fun _ => ⟨rfl, rfl⟩) (fun _ => rfl)
  | removeItem found =>
      exact consistent.modifyScene fun _ _ scene => scene.sublist List.eraseP_sublist
  | @reorderItems _ itemIds _ _ found looped =>
      refine consistent.modifyScene fun scene stored kept => ?_
      rw [found] at stored
      cases stored
      have reordered := kept.reorder 0 itemIds
      rw [looped] at reordered
      exact reordered
  | addFilter found fresh =>
      refine consistent.modifySource fun source stored distinct => ?_
      rw [found] at stored
      cases stored
      have auto := fun named => sound.filterAuto _ _ _ rfl named found
      exact nodup_append_filter distinct (filterArrayFind_newFilter auto fresh)
  | updateFilter found =>
      refine consistent.modifySource fun source stored distinct => ?_
      rw [found] at stored
      cases stored
      exact nodup_update_filter distinct
  | removeFilter found =>
      refine consistent.modifySource fun source stored distinct => ?_
      rw [found] at stored
      cases stored
      exact nodup_erase_filter distinct
  | addSceneFilter found fresh =>
      refine consistent.modifyScene fun scene stored kept => ?_
      rw [found] at stored
      cases stored
      have auto := fun named => sound.sceneFilterAuto _ _ _ rfl named found
      exact kept.withFilters
        (nodup_append_filter kept.filterIdsDistinct (filterArrayFind_newFilter auto fresh))
  | updateSceneFilter found =>
      refine consistent.modifyScene fun scene stored kept => ?_
      rw [found] at stored
      cases stored
      exact kept.withFilters (nodup_update_filter kept.filterIdsDistinct)
  | removeSceneFilter found =>
      refine consistent.modifyScene fun scene stored kept => ?_
      rw [found] at stored
      cases stored
      exact kept.withFilters (nodup_erase_filter kept.filterIdsDistinct)
  | createOutput named valid absent =>
      exact ⟨consistent.scenes, consistent.sourceFilterIdsDistinct,
        consistent.activeExists, consistent.previewExists, consistent.defaultExists⟩
  | removeOutput found =>
      exact ⟨consistent.scenes, consistent.sourceFilterIdsDistinct,
        consistent.activeExists, consistent.previewExists, consistent.defaultExists⟩
  | createTransition named valid absent =>
      exact { consistent with
        defaultExists := consistent.defaultExists.mono fun _ _ => lookup_insert_exists }
  | updateTransition found =>
      exact { consistent with
        defaultExists := consistent.defaultExists.mono fun _ _ => lookup_modify_exists }
  | setDefaultTransition found =>
      exact { consistent with defaultExists := Named.of_lookup found }
  | setActiveScene calls found resolves =>
      exact { consistent with activeExists := Named.of_lookup found }
  | setPreviewScene found =>
      exact { consistent with previewExists := found }

/-- A sound call keeps the invariant. -/
theorem apply
    (consistent : Consistent graph)
    {op : Op}
    (sound : SoundCall graph op) :
    Consistent (graph.apply op).2 := by
  have outcome := apply_outcome graph op
  generalize graph.apply op = result at outcome ⊢
  cases outcome with
  | refused => exact consistent
  | changed change => exact (consistent.change sound change).bumpVersion
  | abandoned calls found counted looped failed =>
      have harmless := sound.harmless _ _ _ calls found counted
      have unchanged := (reorder_failure found looped failed).mpr harmless
      rw [unchanged]
      exact consistent

end Consistent

/-- Runs of calls with arbitrary arguments from the default graph. -/
def calls : System SceneGraph Op where
  initial graph := graph = newDefault
  step graph op next := next = (graph.apply op).2

theorem consistent_newDefault : Consistent newDefault where
  scenes := HashTable.All.empty
  sourceFilterIdsDistinct := HashTable.All.empty
  activeExists := Named.null _
  previewExists := Named.null _
  defaultExists := by
    have present : newDefault.transitions.contains "trans-fade" = true := by
      decide +kernel
    obtain ⟨transition, found⟩ := HashTable.contains_eq_true.mp present
    exact Named.of_lookup found

/-- In every run of sound calls the invariant holds in every state reached. -/
theorem consistent_of_soundRun
    {graph : SceneGraph}
    (run : calls.ReachableWhen SoundCall graph) :
    Consistent graph := by
  refine run.invariant ?_ ?_
  · rintro _ rfl
    exact consistent_newDefault
  · rintro graph op _ consistent sound rfl
    exact consistent.apply sound

/-- A check that a call passes only if it is sound: what it adds without an id finds the
automatic id free, and the items that it orders are known. -/
def passesSound (graph : SceneGraph) : Op → Bool
  | .addItem (some sceneId) (some params) =>
      params.id.isSome || (graph.scenes.lookup sceneId).all fun scene =>
        (scene.findItem "item-auto").isNone
  | .addFilter (some sourceId) (some params) =>
      params.id.isSome || (graph.sources.lookup sourceId).all fun source =>
        (filterArrayFind source.filters "filter-auto").isNone
  | .addSceneFilter (some sceneId) (some params) =>
      params.id.isSome || (graph.scenes.lookup sceneId).all fun scene =>
        (filterArrayFind scene.filters "filter-auto").isNone
  | .reorderItems (some sceneId) (some itemIds) =>
      (graph.scenes.lookup sceneId).all fun scene =>
        (knownPrefix scene itemIds).length = itemIds.length
  | _ => true

theorem soundCall_of_passesSound
    {op : Op}
    (passes : passesSound graph op = true) :
    SoundCall graph op where
  itemAuto := by
    rintro sceneId params scene rfl unnamed found
    simpa [passesSound, unnamed, found] using passes
  filterAuto := by
    rintro sourceId params source rfl unnamed found
    simpa [passesSound, unnamed, found] using passes
  sceneFilterAuto := by
    rintro sceneId params scene rfl unnamed found
    simpa [passesSound, unnamed, found] using passes
  harmless := by
    rintro sceneId itemIds scene rfl found _
    exact .inl (by simpa [passesSound, found] using passes)

/-- Every call of a list passes the check where it is made. -/
def allPassSound (graph : SceneGraph) : List Op → Bool
  | [] => true
  | op :: rest => passesSound graph op && allPassSound (graph.apply op).2 rest

theorem reachableWhen_applyAll
    {ops : List Op}
    (reachable : calls.ReachableWhen SoundCall graph)
    (passes : allPassSound graph ops = true) :
    calls.ReachableWhen SoundCall (graph.applyAll ops) := by
  induction ops generalizing graph with
  | nil => exact reachable
  | cons op rest ih =>
      rw [allPassSound, Bool.and_eq_true] at passes
      have next : calls.ReachableWhen SoundCall (graph.apply op).2 :=
        .step reachable (soundCall_of_passesSound passes.1) rfl
      exact ih next passes.2

/-- A filter that is switched on. -/
def enabledFilter (id : Option CStr) (type : CStr) : FilterCreateParams where
  id := id
  type := some type
  enabled := true
  params := none

/-- Calls that add items and filters with and without ids, reorder and select. -/
def studioCalls : List Op := [
  addCameraItem none 3,
  .createScene (some { id := some "pause", name := none }),
  .addFilter (some "camera") (some (enabledFilter (some "soft") "blur")),
  .addFilter (some "camera") (some (enabledFilter none "sharpen")),
  .addSceneFilter (some "main") (some (enabledFilter none "contrast")),
  .reorderItems (some "main") (some [some "second", some "item-auto", some "first"]),
  .setActiveScene (some "main") none 5,
  .setPreviewScene (some "pause"),
  .removeItem (some "main") (some "item-auto"),
  addCameraItem none 1]

/-- The invariant after a run with items, filters, an order and selections. -/
theorem consistent_studio :
    let graph := twoItemGraph.applyAll studioCalls
    Consistent graph ∧
      (graph.scenes.lookup "main").map (fun scene =>
          (scene.items.map fun item => (item.id, item.zOrder), scene.filters.map (·.id))) =
        some ([(CStr.lit "second", 0), (CStr.lit "item-auto", 1), (CStr.lit "first", 20)],
          [CStr.lit "filter-auto"]) ∧
      (graph.sources.lookup "camera").map (fun source => source.filters.map (·.id)) =
        some [CStr.lit "soft", CStr.lit "filter-auto"] ∧
      graph.activeSceneId = some (CStr.lit "main") ∧
      graph.previewSceneId = some (CStr.lit "pause") := by
  have start : calls.ReachableWhen SoundCall twoItemGraph :=
    reachableWhen_applyAll (.initial rfl) (by decide +kernel)
  refine ⟨consistent_of_soundRun (reachableWhen_applyAll start ?_), ?_, ?_, ?_, ?_⟩
  · decide +kernel
  · decide +kernel
  · decide +kernel
  · decide +kernel
  · decide +kernel

/-- A run may make any list of calls. -/
theorem reachable_applyAll
    (reachable : calls.Reachable graph)
    (ops : List Op) :
    calls.Reachable (graph.applyAll ops) :=
  System.reachable_foldl (fun _ _ => rfl) reachable ops

/-- Two items added without an id share the automatic one. -/
theorem unnamed_items_collide :
    ∃ graph, calls.Reachable graph ∧ ¬Consistent graph := by
  let crowded := twoItemGraph.applyAll [addCameraItem none 3, addCameraItem none 4]
  have reachable : calls.Reachable crowded :=
    reachable_applyAll (reachable_applyAll (.initial rfl) _) _
  have repeats :
      ((crowded.scenes.lookup "main").map fun scene =>
        decide (scene.items.map SceneItemState.id).Nodup) = some false := by
    decide +kernel
  obtain ⟨scene, found, repeated⟩ := Option.map_eq_some_iff.mp repeats
  refine ⟨crowded, reachable, fun consistent => ?_⟩
  exact of_decide_eq_false repeated (consistent.scenes _ _ found).itemIdsDistinct

end SceneGraph
end SbsServer
