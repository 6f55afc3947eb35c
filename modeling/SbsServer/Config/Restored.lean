import SbsServer.Config.Lifetime
import SbsServer.Config.Loader
import SbsServer.SceneGraph.Serialize

/-!
# What the loader makes of a serialized graph

Each serializer is followed by the loader that reads its tree: first single
records, then the loops over filters, items and tables.  The result is one
equation for `apply_scene_graph_bundle` on the state of a graph.
-/

namespace SbsServer
namespace Config

open CLib SceneGraph

/-- The text of a parameter survives. -/
theorem jsonObjectToMap_strMapToJson (map : StrMap) :
    jsonObjectToMap (some (strMapToJson map)) =
      (HashTable.empty : StrMap).insertAll map.toList := by
  unfold jsonObjectToMap strMapToJson
  dsimp only
  rw [List.foldl_map]
  rfl

@[simp] theorem lookup_jsonObjectToMap_strMapToJson
    (map : StrMap)
    (key : CStr) :
    (jsonObjectToMap (some (strMapToJson map))).lookup key = map.lookup key := by
  have same := HashTable.lookup_insertAll_toList (fun _ value => value) map key
  rw [jsonObjectToMap_strMapToJson]
  simpa using same

/-- Every binding is loaded as its copy. -/
theorem loadAudioBinding_serialize
    (binding : AudioBinding)
    (defaultEnabled : Bool) :
    loadAudioBinding (some (serializeAudioBinding binding)) defaultEnabled =
      audioBindingCopy (some binding) := by
  have items : CJson.arrayItems (CJson.getObjectItem (some (serializeAudioBinding binding))
      "eq_bands") = binding.eqBands.toList.map CJson.number := by
    rfl
  have bands : (loadAudioBinding (some (serializeAudioBinding binding)) defaultEnabled).eqBands =
      binding.eqBands := by
    unfold loadAudioBinding
    dsimp only
    rw [items]
    ext index bound
    simp
  have device : CJson.getStringValue (some (CJson.ofPointer binding.device)) = binding.device := by
    cases binding.device with
    | none => rfl
    | some device => rfl
  have delay : (Double.ofInt binding.delayMs.toInt).toInt32 = binding.delayMs :=
    Double.toInt32_ofInt binding.delayMs
  have opened : loadAudioBinding (some (serializeAudioBinding binding)) defaultEnabled = {
      enabled := binding.enabled
      device := CJson.getStringValue (some (CJson.ofPointer binding.device))
      volume := gainOrOne binding.volume
      leftGain := gainOrOne binding.leftGain
      rightGain := gainOrOne binding.rightGain
      delayMs := (Double.ofInt binding.delayMs.toInt).toInt32
      eqBands := (loadAudioBinding (some (serializeAudioBinding binding)) defaultEnabled).eqBands
      mute := binding.mute
      monitor := binding.monitor } := by
    rfl
  rw [opened, bands, device, delay]
  rfl

/-- Every transform is loaded with its angle snapped and its names filled in. -/
theorem loadTransform_serialize (transform : SceneItemTransform) :
    loadTransform (some (serializeTransform transform)) = { transform with
      rotationDeg := snapQuarterRotation transform.rotationDeg
      boundsType := some (transform.boundsType.getD "stretch")
      alignment := some (transform.alignment.getD "center") } := by
  have opened : loadTransform (some (serializeTransform transform)) = {
      positionX := (Double.ofInt transform.positionX.toInt).toInt32
      positionY := (Double.ofInt transform.positionY.toInt).toInt32
      width := (Double.ofInt transform.width.toInt).toInt32
      height := (Double.ofInt transform.height.toInt).toInt32
      cropTop := (Double.ofInt transform.cropTop.toInt).toInt32
      cropBottom := (Double.ofInt transform.cropBottom.toInt).toInt32
      cropLeft := (Double.ofInt transform.cropLeft.toInt).toInt32
      cropRight := (Double.ofInt transform.cropRight.toInt).toInt32
      rotationDeg := snapQuarterRotation transform.rotationDeg
      flipHorizontal := transform.flipHorizontal
      flipVertical := transform.flipVertical
      boundsType := some (transform.boundsType.getD "stretch")
      alignment := some (transform.alignment.getD "center")
      opacity := transform.opacity } := by
    rfl
  rw [opened]
  simp only [Double.toInt32_ofInt]

theorem loadCanvas_serialize (canvas : CanvasState) :
    loadCanvas (some (serializeCanvas canvas)) = canvas := by
  have opened : loadCanvas (some (serializeCanvas canvas)) = {
      width := (Double.ofInt canvas.width.toNat).toUInt32
      height := (Double.ofInt canvas.height.toNat).toUInt32
      fpsNum := (Double.ofInt canvas.fpsNum.toNat).toUInt32
      fpsDen := (Double.ofInt canvas.fpsDen.toNat).toUInt32
      colorMode := if some (if canvas.colorMode = .hdr10 then CStr.lit "hdr10" else "sdr") =
        some (CStr.lit "hdr10") then .hdr10 else .sdr
      backgroundColor := CharArray.strlcpy 16 canvas.backgroundColor.text } := by
    rfl
  have colorMode : (if some (if canvas.colorMode = .hdr10 then CStr.lit "hdr10" else "sdr") =
      some (CStr.lit "hdr10") then ColorMode.hdr10 else .sdr) = canvas.colorMode := by
    cases canvas.colorMode with
    | sdr => decide
    | hdr10 => decide
  rw [opened, colorMode]
  simp only [Double.toUInt32_ofInt, CharArray.strlcpy_text]

/-- The filter that a serialized filter becomes. -/
def restoredFilter (filter : FilterState) : FilterState :=
  { filter with
    params :=
      filterParamsCopy filter.type (some (jsonObjectToMap (some (strMapToJson filter.params)))) }

theorem appendFilter_serialize
    {filters : List FilterState}
    {filter : FilterState}
    (fresh : filter.id ∉ filters.map FilterState.id) :
    appendFilter filters (serializeFilter filter) = filters ++ [restoredFilter filter] := by
  have params : filterParams (serializeFilter filter) = {
      id := some filter.id
      type := some filter.type
      enabled := filter.enabled
      params := some (jsonObjectToMap (some (strMapToJson filter.params))) } := by
    rfl
  have unused : filterArrayFind filters filter.id = none := by
    unfold filterArrayFind
    rw [List.find?_eq_none]
    intro other member
    rw [decide_eq_true_eq]
    exact fun same => fresh (same ▸ List.mem_map_of_mem member)
  unfold appendFilter filterArrayAdd
  simp only [params, Option.bind_some, unused, Option.isSome_none, Bool.false_eq_true, if_false]
  rfl

/-- The loop over serialized filters with distinct ids loses none of them. -/
theorem foldl_appendFilter_serialize
    (loaded : List FilterState)
    {filters : List FilterState}
    (distinct : ((loaded ++ filters).map FilterState.id).Nodup) :
    (filters.map serializeFilter).foldl appendFilter loaded =
      loaded ++ filters.map restoredFilter := by
  induction filters generalizing loaded with
  | nil => simp
  | cons filter rest ih =>
      have fresh : filter.id ∉ loaded.map FilterState.id := by
        rw [List.map_append, List.nodup_append] at distinct
        intro member
        exact distinct.2.2 filter.id member filter.id List.mem_cons_self rfl
      have restDistinct :
          ((loaded ++ [restoredFilter filter] ++ rest).map FilterState.id).Nodup := by
        simpa [restoredFilter] using distinct
      rw [List.map_cons, List.foldl_cons, appendFilter_serialize fresh,
        ih _ restDistinct]
      simp

theorem children_serializeTable
    (serialize : V → CJson)
    (table : HashTable CStr V) :
    CJson.children (some (serializeTable serialize table)) =
      table.toList.map fun entry => (some entry.1, serialize entry.2) := by
  unfold serializeTable CJson.children
  dsimp only
  rw [List.map_map]
  rfl

/-- Entries that can be put into a table one after the other. -/
structure Enterable (table : HashTable CStr V) (entries : List (CStr × W)) : Prop where
  valid : ∀ entry ∈ entries, validGraphId entry.1 = true
  distinct : (entries.map Prod.fst).Nodup
  fresh : ∀ entry ∈ entries, table.lookup entry.1 = none

namespace Enterable

variable {table : HashTable CStr V} {entry : CStr × W} {rest : List (CStr × W)}

theorem head (enterable : Enterable table (entry :: rest)) :
    validGraphId entry.1 = true ∧ table.lookup entry.1 = none :=
  ⟨enterable.valid entry List.mem_cons_self, enterable.fresh entry List.mem_cons_self⟩

theorem tail
    (enterable : Enterable table (entry :: rest))
    (value : V) :
    Enterable (table.insert entry.1 value) rest := by
  obtain ⟨headAbsent, restDistinct⟩ := List.nodup_cons.mp enterable.distinct
  refine ⟨fun other member => enterable.valid other (List.mem_cons_of_mem _ member),
    restDistinct, ?_⟩
  intro other member
  rw [HashTable.lookup_insert, if_neg]
  · exact enterable.fresh other (List.mem_cons_of_mem _ member)
  · intro same
    exact headAbsent (same ▸ List.mem_map_of_mem member)

/-- The entries of a table with valid keys can be put into an empty table. -/
theorem ofTable
    {source : HashTable CStr W}
    (valid : source.All fun id _ => validGraphId id = true) :
    Enterable (HashTable.empty : HashTable CStr V) source.toList where
  valid := fun entry member => valid entry.1 entry.2 (HashTable.lookup_of_mem_toList member)
  distinct := source.nodup_keys
  fresh := fun entry _ => HashTable.lookup_empty entry.1

end Enterable

/-- The audio binding that a restored source gets. -/
def restoredAudio (kind : SourceKind) (config : StrMap) (audio : AudioBinding) : AudioBinding :=
  let copy := audioBindingCopy (some audio)
  if kind = .alsaAudio ∧ copy.device = none then
    let device := match config.lookup "device" with
      | some device => if device.bytes ≠ [] then device else "hw:0,2"
      | none => "hw:0,2"
    { copy with device := some device }
  else copy

/-- The source that a serialized source becomes. -/
def restoredSource (id : CStr) (source : SourceState) : SourceState :=
  let config := jsonObjectToMap (some (strMapToJson source.config))
  let created := newSource id {
    id := some id
    name := some source.name
    kind := source.kind
    enabled := source.enabled
    keepAlive := source.keepAlive
    config := none }
  { created with
    keepAlive := (source.kind = .v4l2src ∨ source.kind = .vfmcap) || source.keepAlive
    config := config
    filters := source.filters.map restoredFilter
    audio := restoredAudio source.kind config source.audio }

section Sources

variable (gstElementAvailable : CStr → Bool)

/-- The members of a serialized source that the loader reads. -/
theorem getObjectItem_serializeSource (source : SourceState) :
    let entry := some (serializeSource gstElementAvailable source)
    CJson.getObjectItem entry "type" = some (.string (sourceKindName source.kind)) ∧
      CJson.getObjectItem entry "name" = some (.string source.name) ∧
      CJson.getObjectItem entry "enabled" = some (.bool source.enabled) ∧
      CJson.getObjectItem entry "keep_alive" = some (.bool source.keepAlive) ∧
      CJson.getObjectItem entry "config" = some (strMapToJson source.config) ∧
      CJson.getObjectItem entry "filters" = some (serializeFilters source.filters) ∧
      CJson.getObjectItem entry "audio" = some (serializeAudioBinding source.audio) := by
  unfold serializeSource
  dsimp only
  by_cases capture : source.kind = .v4l2src
  · rw [if_pos capture]
    exact ⟨rfl, rfl, rfl, rfl, rfl, rfl, rfl⟩
  · rw [if_neg capture]
    exact ⟨rfl, rfl, rfl, rfl, rfl, rfl, rfl⟩

theorem loadedSource_serialize
    (id : CStr)
    {source : SourceState}
    (distinct : (source.filters.map FilterState.id).Nodup) :
    loadedSource id (serializeSource gstElementAvailable source) source.kind =
      restoredSource id source := by
  obtain ⟨_, name, enabled, keepAlive, config, filters, audio⟩ :=
    getObjectItem_serializeSource gstElementAvailable source
  have folded := foldl_appendFilter_serialize [] distinct
  have loadedAudio := loadAudioBinding_serialize source.audio (source.kind = .alsaAudio)
  unfold loadedSource restoredSource sourceParams loadSourceAudio restoredAudio
  simp only [CJson.str, CJson.boolean, name, enabled, keepAlive, config, filters, audio,
    CJson.getStringValue, loadedAudio]
  unfold serializeFilters CJson.arrayItems
  dsimp only
  rw [folded]
  rfl

/-- The loop over serialized sources loses none of them. -/
theorem loadSources_serialize
    (graph : SceneGraph)
    {entries : List (CStr × SourceState)}
    (enterable : Enterable graph.sources entries)
    (distinct : ∀ entry ∈ entries, (entry.2.filters.map FilterState.id).Nodup) :
    ∃ version,
      loadSources graph
          (entries.map fun entry => (some entry.1, serializeSource gstElementAvailable entry.2)) =
        (.ok, { graph with
          sources := graph.sources.insertAll
            (entries.map fun entry => (entry.1, restoredSource entry.1 entry.2))
          version := version }) := by
  induction entries generalizing graph with
  | nil => exact ⟨graph.version, rfl⟩
  | cons entry rest ih =>
      obtain ⟨id, source⟩ := entry
      obtain ⟨valid, absent⟩ := enterable.head
      obtain ⟨version, loaded⟩ := loadSource_eq graph valid absent
        (serializeSource gstElementAvailable source) source.kind
      rw [loadedSource_serialize gstElementAvailable id (distinct _ List.mem_cons_self)] at loaded
      obtain ⟨last, restLoaded⟩ := ih
        { graph with
          sources := graph.sources.insert id (restoredSource id source)
          version := version }
        (enterable.tail (restoredSource id source))
        (fun other member => distinct other (List.mem_cons_of_mem _ member))
      have type := (getObjectItem_serializeSource gstElementAvailable source).1
      have parsed : parseSourceKind
          (CJson.str (some (serializeSource gstElementAvailable source)) "type") =
            some source.kind := by
        rw [CJson.str, type]
        exact parseSourceKind_sourceKindName source.kind
      refine ⟨last, ?_⟩
      rw [List.map_cons]
      unfold loadSources
      rw [parsed]
      dsimp only
      rw [loaded, restLoaded]
      rfl

end Sources

/-! ## Items -/

theorem loadFilterArrayForSource_nil
    (graph : SceneGraph)
    (sourceId : CStr)
    (onlyIfEmpty : Bool) :
    loadFilterArrayForSource graph sourceId (some (.array [])) onlyIfEmpty = graph := by
  unfold loadFilterArrayForSource
  split
  · rfl
  · split
    · rfl
    · rfl

/-- An item that can be saved is added again as it was. -/
theorem newItem_serialize
    {item : SceneItemState}
    (storable : StorableItem item)
    (source : SourceState) :
    newItem (itemParams (serializeItem item)) source item.sourceId = item := by
  have params : itemParams (serializeItem item) = {
      id := some item.id
      sourceId := some item.sourceId
      visible := item.visible
      locked := item.locked
      zOrder := (Double.ofInt item.zOrder.toInt).toInt32
      transform := loadTransform (some (serializeTransform item.transform))
      audio := some (loadAudioBinding (some (serializeAudioBinding item.audio)) false) } := by
    rfl
  have transform : sceneItemTransformCopy
      (loadTransform (some (serializeTransform item.transform))) = item.transform := by
    rw [loadTransform_serialize]
    refine Eq.trans ?_ storable.transform
    unfold sceneItemTransformCopy
    simp only [snapQuarterRotation_idem, Option.getD_some]
  have audio : audioBindingCopy
      (some (loadAudioBinding (some (serializeAudioBinding item.audio)) false)) = item.audio := by
    rw [loadAudioBinding_serialize, audioBindingCopy_idem]
    exact storable.audio
  unfold newItem
  rw [params]
  simp only [Option.getD_some, transform, audio, Double.toInt32_ofInt]
  rw [← storable.filters]

variable {graph : SceneGraph}

variable {id : CStr} {scene : SceneState}

theorem loadItem_serialize
    {sceneId : CStr}
    {item : SceneItemState}
    (found : graph.scenes.lookup sceneId = some scene)
    (fresh : scene.findItem item.id = none)
    (storable : StorableItem item) :
    loadItem sceneId graph (serializeItem item) =
      if graph.sources.contains item.sourceId then
        (graph.modifyScene sceneId (·.addItem item)).bumpVersion
      else graph := by
  have sourced : CJson.str (some (serializeItem item)) "source_id" = some item.sourceId := by
    rfl
  have filters : CJson.getObjectItem (some (serializeItem item)) "filters" =
      some (.array []) := by
    have opened : CJson.getObjectItem (some (serializeItem item)) "filters" =
        some (serializeFilters item.filters) := by
      rfl
    rw [opened, storable.filters]
    rfl
  cases present : graph.sources.lookup item.sourceId with
  | none =>
      have absent : graph.sources.contains item.sourceId = false :=
        HashTable.contains_eq_false.mpr present
      have params : (itemParams (serializeItem item)).sourceId = some item.sourceId := by
        rfl
      rw [absent, if_neg Bool.false_ne_true]
      unfold loadItem
      simp only [addItem, params, getScene, getSource, found, present]
  | some source =>
      have contained : graph.sources.contains item.sourceId = true :=
        HashTable.contains_eq_true.mpr ⟨source, present⟩
      rw [contained, if_pos rfl, loadItem_eq graph sourced found present, filters,
        loadFilterArrayForSource_nil, newItem_serialize storable]
      intro id named
      have same : some item.id = some id := named
      cases same
      exact fresh

/-- The items of a list whose sources are in a table. -/
def shown (sources : HashTable CStr SourceState) (items : List SceneItemState) :
    List SceneItemState :=
  items.filter fun item => sources.contains item.sourceId

/-- The loop over the serialized items of a scene adds those whose sources
exist, in their order. -/
theorem foldl_loadItem_serialize
    {sceneId : CStr}
    {items : List SceneItemState}
    (found : graph.scenes.lookup sceneId = some scene)
    (distinct : ((scene.items ++ items).map SceneItemState.id).Nodup)
    (sorted : (scene.items ++ items).Pairwise ItemBelow)
    (storable : ∀ item ∈ items, StorableItem item) :
    ∃ version,
      (items.map serializeItem).foldl (loadItem sceneId) graph =
        { graph.modifyScene sceneId
            ({ · with items := scene.items ++ shown graph.sources items }) with
          version := version } := by
  induction items generalizing graph scene with
  | nil =>
      refine ⟨graph.version, ?_⟩
      have unchanged : graph.scenes.modify sceneId
          ({ · with items := scene.items ++ shown graph.sources [] }) = graph.scenes := by
        refine HashTable.modify_eq_self fun stored lookedUp => ?_
        rw [found] at lookedUp
        cases lookedUp
        simp [shown]
      unfold modifyScene
      rw [unchanged]
      rfl
  | cons item rest ih =>
      have fresh : scene.findItem item.id = none := by
        unfold SceneState.findItem
        rw [List.find?_eq_none]
        intro other member
        rw [List.map_append, List.nodup_append] at distinct
        rw [decide_eq_true_eq]
        exact distinct.2.2 other.id (List.mem_map_of_mem member) item.id List.mem_cons_self
      have restStorable := fun other member => storable other (List.mem_cons_of_mem item member)
      have stepped := loadItem_serialize found fresh (storable item List.mem_cons_self)
      rw [List.map_cons, List.foldl_cons, stepped]
      by_cases present : graph.sources.contains item.sourceId = true
      · have headSorted : (scene.items ++ [item]).Pairwise ItemBelow :=
          sorted.sublist (List.Sublist.append_left (by simp) scene.items)
        have added : scene.addItem item = { scene with items := scene.items ++ [item] } := by
          unfold SceneState.addItem SceneState.sortItems
          dsimp only
          rw [PtrArray.sort_eq_self ItemBelow headSorted]
        have stored : (graph.scenes.modify sceneId (·.addItem item)).lookup sceneId =
            some { scene with items := scene.items ++ [item] } := by
          rw [HashTable.lookup_modify, if_pos rfl, found, ← added]
          rfl
        obtain ⟨version, folded⟩ := @ih
          (graph.modifyScene sceneId (·.addItem item)).bumpVersion
          { scene with items := scene.items ++ [item] } stored
          (by simpa using distinct) (by simpa using sorted) restStorable
        refine ⟨version, ?_⟩
        rw [if_pos present, folded]
        have listed : shown graph.sources (item :: rest) =
            item :: shown graph.sources rest :=
          List.filter_cons_of_pos present
        unfold modifyScene bumpVersion
        dsimp only
        rw [HashTable.modify_modify, listed, List.append_assoc]
        rfl
      · obtain ⟨version, folded⟩ := ih found
          (distinct.sublist ((List.Sublist.append_left (List.sublist_cons_self _ _) _).map _))
          (sorted.sublist (List.Sublist.append_left (List.sublist_cons_self _ _) _)) restStorable
        refine ⟨version, ?_⟩
        have listed : shown graph.sources (item :: rest) = shown graph.sources rest :=
          List.filter_cons_of_neg present
        rw [if_neg present, folded, listed]

/-- The scene that a serialized scene becomes next to some sources. -/
def restoredScene
    (sources : HashTable CStr SourceState)
    (id : CStr)
    (scene : SceneState) : SceneState where
  id := id
  name := scene.name
  items := shown sources scene.items
  filters := scene.filters.map restoredFilter

/-- Distinct ids and sorted items, as the calls of the graph's functions that
name what they add and reorder completely leave them. -/
structure TidyScene (scene : SceneState) : Prop where
  items : (scene.items.map SceneItemState.id).Nodup
  sorted : scene.items.Pairwise ItemBelow
  filters : (scene.filters.map FilterState.id).Nodup

instance (scene : SceneState) : Decidable (TidyScene scene) :=
  decidable_of_iff
    ((scene.items.map SceneItemState.id).Nodup ∧ scene.items.Pairwise ItemBelow ∧
      (scene.filters.map FilterState.id).Nodup)
    ⟨fun ⟨items, sorted, filters⟩ => ⟨items, sorted, filters⟩,
      fun tidy => ⟨tidy.items, tidy.sorted, tidy.filters⟩⟩

theorem loadScene_serialize
    (valid : validGraphId id = true)
    (absent : graph.scenes.lookup id = none)
    (storable : StorableScene id scene)
    (tidy : TidyScene scene) :
    ∃ version,
      loadScene graph (some id, serializeScene scene) =
        { graph with
          scenes := graph.scenes.insert id (restoredScene graph.sources id scene)
          activeSceneId := some (graph.activeSceneId.getD id)
          version := version } := by
  obtain ⟨version, loaded⟩ := loadScene_eq graph valid absent (serializeScene scene)
  have opened :
      openedScene id (serializeScene scene) =
        { id := id, name := scene.name, items := []
          filters := scene.filters.map restoredFilter } := by
    have folded := foldl_appendFilter_serialize [] tidy.filters
    have unfolded : openedScene id (serializeScene scene) =
        { id := id
          name := scene.name
          items := []
          filters := (scene.filters.map serializeFilter).foldl appendFilter [] } := by
      rfl
    rw [unfolded, folded]
    rfl
  let begun := { graph with
    scenes := graph.scenes.insert id
      { id := id, name := scene.name, items := [], filters := scene.filters.map restoredFilter }
    activeSceneId := some (graph.activeSceneId.getD id)
    version := version }
  have stored : begun.scenes.lookup id = some
      { id := id, name := scene.name, items := [], filters := scene.filters.map restoredFilter } :=
    (HashTable.lookup_insert _ _ _ _).trans (if_pos rfl)
  obtain ⟨last, folded⟩ := foldl_loadItem_serialize stored tidy.items tidy.sorted storable.items
  refine ⟨last, ?_⟩
  have items : CJson.arrayItems (CJson.getObjectItem (some (serializeScene scene)) "items") =
      scene.items.map serializeItem := by
    rfl
  rw [loaded, opened, items]
  refine folded.trans ?_
  unfold modifyScene
  dsimp only [begun]
  rw [HashTable.modify_insert absent]
  rfl

/-- The loop over serialized scenes loses none of them. -/
theorem foldl_loadScene_serialize
    (graph : SceneGraph)
    {entries : List (CStr × SceneState)}
    (enterable : Enterable graph.scenes entries)
    (storable : ∀ entry ∈ entries, StorableScene entry.1 entry.2)
    (tidy : ∀ entry ∈ entries, TidyScene entry.2) :
    ∃ active version,
      (entries = [] → active = graph.activeSceneId) ∧
      (entries.map fun entry => (some entry.1, serializeScene entry.2)).foldl loadScene graph =
        { graph with
          scenes := graph.scenes.insertAll
            (entries.map fun entry => (entry.1, restoredScene graph.sources entry.1 entry.2))
          activeSceneId := active
          version := version } := by
  induction entries generalizing graph with
  | nil => exact ⟨graph.activeSceneId, graph.version, fun _ => rfl, rfl⟩
  | cons entry rest ih =>
      obtain ⟨id, scene⟩ := entry
      obtain ⟨valid, absent⟩ := enterable.head
      obtain ⟨version, loaded⟩ := loadScene_serialize valid absent
        (storable _ List.mem_cons_self) (tidy _ List.mem_cons_self)
      obtain ⟨active, last, _, restLoaded⟩ := ih
        { graph with
          scenes := graph.scenes.insert id (restoredScene graph.sources id scene)
          activeSceneId := some (graph.activeSceneId.getD id)
          version := version }
        (enterable.tail (restoredScene graph.sources id scene))
        (fun other member => storable other (List.mem_cons_of_mem _ member))
        (fun other member => tidy other (List.mem_cons_of_mem _ member))
      refine ⟨active, last, nofun, ?_⟩
      rw [List.map_cons, List.foldl_cons, loaded, restLoaded]
      rfl

/-! ## Transitions and outputs -/

/-- The transition that a serialized transition becomes. -/
def restoredTransition (id : CStr) (transition : TransitionState) : TransitionState where
  id := id
  kind := transition.kind
  durationMs :=
    if id = "trans-fade" ∧ transition.durationMs = 500 then 2000 else transition.durationMs
  params := .empty

theorem loadTransition_serialize
    (valid : validGraphId id = true)
    (absent : graph.transitions.lookup id = none)
    (transition : TransitionState) :
    ∃ version,
      loadTransition graph (some id, serializeTransition transition) =
        { graph with
          transitions := graph.transitions.insert id (restoredTransition id transition)
          version := version } := by
  have stored : (CJson.num (some (serializeTransition transition)) "duration_ms"
      (.finite 0)).toUInt32 = transition.durationMs :=
    Double.toUInt32_ofInt transition.durationMs
  have type : CJson.str (some (serializeTransition transition)) "type" =
      some (transitionKindName transition.kind) := by
    rfl
  have kind : (if some (transitionKindName transition.kind) = some (CStr.lit "fade") then
      TransitionKind.fade
      else if some (transitionKindName transition.kind) = some (CStr.lit "slide") then .slide
      else .cut) = transition.kind := by
    cases transition.kind with
    | cut => decide
    | fade => decide
    | slide => decide
  let params : TransitionCreateParams := {
    id := some id
    kind := transition.kind
    durationMs :=
      if id = "trans-fade" ∧ transition.durationMs = 500 then 2000 else transition.durationMs }
  have opened : loadTransition graph (some id, serializeTransition transition) =
      (graph.createTransition (some params)).2 := by
    unfold loadTransition
    dsimp only
    rw [stored, type, kind]
    simp only [Option.some.injEq, params]
  refine ⟨graph.version + 1, ?_⟩
  rw [opened]
  have created : graph.createTransition (some params) = _ :=
    createTransition_eq rfl valid absent
  rw [created]
  rfl

/-- The output that a serialized output becomes. -/
def restoredOutput (id : CStr) (output : OutputState) : OutputState :=
  { newOutput id {
      id := some id
      name := some output.name
      enabled := output.enabled
      autostart := output.autostart } with
    encoder := jsonObjectToMap (some (strMapToJson output.encoder)) }

theorem loadOutput_serialize
    (valid : validGraphId id = true)
    (absent : graph.outputs.lookup id = none)
    (output : OutputState) :
    ∃ version,
      loadOutput graph (some id, serializeOutput output) =
        { graph with
          outputs := graph.outputs.insert id (restoredOutput id output)
          version := version } := by
  have created : graph.createOutput (some {
      id := some id
      name := CJson.str (some (serializeOutput output)) "name"
      enabled := CJson.boolean (some (serializeOutput output)) "enabled" true
      autostart := CJson.boolean (some (serializeOutput output)) "autostart" false }) =
      (.ok, { graph with
        outputs := graph.outputs.insert id (newOutput id {
          id := some id
          name := some output.name
          enabled := output.enabled
          autostart := output.autostart }) }.bumpVersion) :=
    createOutput_eq rfl valid absent
  refine ⟨graph.version + 1, ?_⟩
  unfold loadOutput
  simp only [created]
  unfold bumpVersion
  dsimp only
  rw [HashTable.modify_insert absent]
  rfl

/-- A loop that puts one entry after the other into a table. -/
theorem foldl_insert
    {table : SceneGraph → HashTable CStr V}
    {write : SceneGraph → HashTable CStr V → UInt64 → SceneGraph}
    {load : SceneGraph → Option CStr × CJson → SceneGraph}
    {serialize : V → CJson}
    {restored : CStr → V → V}
    (tableWrite : ∀ graph entries version, table (write graph entries version) = entries)
    (writeWrite : ∀ graph entries later version last,
      write (write graph entries version) later last = write graph later last)
    (writeSame : ∀ graph, ∃ version, write graph (table graph) version = graph)
    (loads : ∀ graph id value, validGraphId id = true → (table graph).lookup id = none →
      ∃ version, load graph (some id, serialize value) =
        write graph ((table graph).insert id (restored id value)) version)
    (graph : SceneGraph)
    {entries : List (CStr × V)}
    (enterable : Enterable (table graph) entries) :
    ∃ version,
      (entries.map fun entry => (some entry.1, serialize entry.2)).foldl load graph =
        write graph ((table graph).insertAll
          (entries.map fun entry => (entry.1, restored entry.1 entry.2))) version := by
  induction entries generalizing graph with
  | nil =>
      obtain ⟨version, same⟩ := writeSame graph
      exact ⟨version, same.symm⟩
  | cons entry rest ih =>
      obtain ⟨id, value⟩ := entry
      obtain ⟨valid, absent⟩ := enterable.head
      obtain ⟨version, loaded⟩ := loads graph id value valid absent
      have restEnterable := enterable.tail (restored id value)
      obtain ⟨last, restLoaded⟩ := ih
        (write graph ((table graph).insert id (restored id value)) version)
        (by
          rw [tableWrite]
          exact restEnterable)
      refine ⟨last, ?_⟩
      rw [List.map_cons, List.foldl_cons, loaded, restLoaded, tableWrite, writeWrite]
      rfl

theorem foldl_loadTransition_serialize
    (graph : SceneGraph)
    {entries : List (CStr × TransitionState)}
    (enterable : Enterable graph.transitions entries) :
    ∃ version,
      (entries.map fun entry => (some entry.1, serializeTransition entry.2)).foldl
          loadTransition graph =
        { graph with
          transitions := graph.transitions.insertAll
            (entries.map fun entry => (entry.1, restoredTransition entry.1 entry.2))
          version := version } := by
  let write (graph : SceneGraph) (transitions : HashTable CStr TransitionState)
      (version : UInt64) : SceneGraph :=
    { graph with transitions := transitions, version := version }
  exact @foldl_insert _ SceneGraph.transitions write loadTransition serializeTransition
    restoredTransition (fun _ _ _ => rfl) (fun _ _ _ _ _ => rfl)
    (fun graph => ⟨graph.version, rfl⟩)
    (fun _ _ transition valid absent => loadTransition_serialize valid absent transition)
    graph entries enterable

theorem foldl_loadOutput_serialize
    (graph : SceneGraph)
    {entries : List (CStr × OutputState)}
    (enterable : Enterable graph.outputs entries) :
    ∃ version,
      (entries.map fun entry => (some entry.1, serializeOutput entry.2)).foldl loadOutput graph =
        { graph with
          outputs := graph.outputs.insertAll
            (entries.map fun entry => (entry.1, restoredOutput entry.1 entry.2))
          version := version } := by
  let write (graph : SceneGraph) (outputs : HashTable CStr OutputState)
      (version : UInt64) : SceneGraph :=
    { graph with outputs := outputs, version := version }
  exact @foldl_insert _ SceneGraph.outputs write loadOutput serializeOutput restoredOutput
    (fun _ _ _ => rfl) (fun _ _ _ _ _ => rfl) (fun graph => ⟨graph.version, rfl⟩)
    (fun _ _ output valid absent => loadOutput_serialize valid absent output)
    graph entries enterable

/-- Distinct ids and sorted items throughout a graph. -/
structure Tidy (graph : SceneGraph) : Prop where
  sources : graph.sources.All fun _ source => (source.filters.map FilterState.id).Nodup
  scenes : graph.scenes.All fun _ scene => TidyScene scene

instance (graph : SceneGraph) : Decidable (Tidy graph) :=
  decidable_of_iff
    ((graph.sources.All fun _ source => (source.filters.map FilterState.id).Nodup) ∧
      graph.scenes.All fun _ scene => TidyScene scene)
    ⟨fun ⟨sources, scenes⟩ => ⟨sources, scenes⟩, fun tidy => ⟨tidy.sources, tidy.scenes⟩⟩

/-- The table that a serialized table becomes. -/
def restoredTable (restored : CStr → V → V) (table : HashTable CStr V) : HashTable CStr V :=
  HashTable.empty.insertAll (table.toList.map fun entry => (entry.1, restored entry.1 entry.2))

@[simp] theorem lookup_restoredTable
    (restored : CStr → V → V)
    (table : HashTable CStr V)
    (id : CStr) :
    (restoredTable restored table).lookup id = (table.lookup id).map (restored id) :=
  HashTable.lookup_insertAll_toList restored table id

theorem loadSelection_serialize (graph loaded : SceneGraph) :
    loadSelection loaded (some (serializeSelection graph)) = { loaded with
      activeSceneId := graph.activeSceneId.or loaded.activeSceneId
      previewSceneId := graph.previewSceneId.or loaded.previewSceneId
      defaultTransitionId :=
        graph.transitionRuntime.transitionId.or loaded.defaultTransitionId } := by
  have pointer : ∀ pointer : Option CStr,
      CJson.getStringValue (some (CJson.ofPointer pointer)) = pointer := by
    intro pointer
    cases pointer with
    | none => rfl
    | some id => rfl
  have active : CJson.str (some (serializeSelection graph)) "active_scene_id" =
      graph.activeSceneId :=
    pointer graph.activeSceneId
  have preview : CJson.str (some (serializeSelection graph)) "preview_scene_id" =
      graph.previewSceneId :=
    pointer graph.previewSceneId
  have transition : CJson.str (some (serializeSelection graph)) "transition_id" =
      graph.transitionRuntime.transitionId :=
    pointer graph.transitionRuntime.transitionId
  unfold loadSelection
  rw [active, preview, transition]

theorem applySceneGraphBundle_of_loadSources_serialize
    {gstElementAvailable : CStr → Bool}
    {graph target loaded : SceneGraph}
    (sources : loadSources { clearSceneGraph target with canvas := graph.canvas }
        (graph.sources.toList.map fun entry =>
          (some entry.1, serializeSource gstElementAvailable entry.2)) =
      (.ok, loaded)) :
    applySceneGraphBundle target (serializeFullState gstElementAvailable graph) =
      (.ok, loadSelection
        ((graph.outputs.toList.map fun entry =>
          (some entry.1, serializeOutput entry.2)).foldl loadOutput
            ((graph.transitions.toList.map fun entry =>
              (some entry.1, serializeTransition entry.2)).foldl loadTransition
                ((graph.scenes.toList.map fun entry =>
                  (some entry.1, serializeScene entry.2)).foldl loadScene loaded)))
        (some (serializeSelection graph))) := by
  rw [← loadCanvas_serialize graph.canvas, ← children_serializeTable] at sources
  rw [← children_serializeTable, ← children_serializeTable, ← children_serializeTable]
  exact applySceneGraphBundle_of_loadSources rfl sources

/-- The state of a graph, loaded over any graph. -/
theorem applySceneGraphBundle_serialize
    (gstElementAvailable : CStr → Bool)
    (storable : Storable graph)
    (tidy : Tidy graph)
    (target : SceneGraph) :
    ∃ version,
      applySceneGraphBundle target (serializeFullState gstElementAvailable graph) =
        (.ok, {
          canvas := graph.canvas
          sources := restoredTable restoredSource graph.sources
          scenes := restoredTable
            (restoredScene (restoredTable restoredSource graph.sources)) graph.scenes
          outputs := restoredTable restoredOutput graph.outputs
          transitions := restoredTable restoredTransition graph.transitions
          activeSceneId := graph.activeSceneId
          previewSceneId := graph.previewSceneId
          defaultTransitionId := graph.transitionRuntime.transitionId
          version := version
          transitionRuntime := { target.transitionRuntime with
            fromSceneId := none
            toSceneId := none
            transitionId := none } }) := by
  let cleared := { clearSceneGraph target with canvas := graph.canvas }
  obtain ⟨version, loadedSources⟩ := loadSources_serialize gstElementAvailable cleared
    (Enterable.ofTable (storable.sources.imp fun _ _ source => source.valid))
    (fun entry member => tidy.sources _ _ (HashTable.lookup_of_mem_toList member))
  let withSources := { cleared with
    sources := restoredTable restoredSource graph.sources
    version := version }
  obtain ⟨active, version, unselected, loadedScenes⟩ := foldl_loadScene_serialize withSources
    (Enterable.ofTable (storable.scenes.imp fun _ _ scene => scene.valid))
    (fun entry member => storable.scenes _ _ (HashTable.lookup_of_mem_toList member))
    (fun entry member => tidy.scenes _ _ (HashTable.lookup_of_mem_toList member))
  let withScenes := { withSources with
    scenes := restoredTable (restoredScene withSources.sources) graph.scenes
    activeSceneId := active
    version := version }
  obtain ⟨version, loadedTransitions⟩ := foldl_loadTransition_serialize withScenes
    (Enterable.ofTable (storable.transitions.imp fun _ _ transition => transition.valid))
  let withTransitions := { withScenes with
    transitions := restoredTable restoredTransition graph.transitions
    version := version }
  obtain ⟨version, loadedOutputs⟩ := foldl_loadOutput_serialize withTransitions
    (Enterable.ofTable (storable.outputs.imp fun _ _ output => output.valid))
  have selected : graph.activeSceneId.or active = graph.activeSceneId := by
    cases named : graph.activeSceneId with
    | some id => rfl
    | none =>
        refine unselected (List.eq_nil_iff_forall_not_mem.mpr fun entry member => ?_)
        exact storable.selected _ _ (HashTable.lookup_of_mem_toList member) named
  refine ⟨version, ?_⟩
  refine (applySceneGraphBundle_of_loadSources_serialize loadedSources).trans ?_
  refine congrArg (Prod.mk SbsResult.ok) ?_
  refine Eq.trans (congrArg (fun loaded => loadSelection (List.foldl loadOutput
    (List.foldl loadTransition loaded _) _) _) loadedScenes) ?_
  refine Eq.trans (congrArg (fun loaded => loadSelection (List.foldl loadOutput loaded _) _)
    loadedTransitions) ?_
  refine Eq.trans (congrArg (fun loaded => loadSelection loaded _) loadedOutputs) ?_
  rw [loadSelection_serialize]
  dsimp only [withTransitions, withScenes, withSources, cleared, clearSceneGraph]
  rw [selected, Option.or_none, Option.or_none]
  rfl

end Config
end SbsServer
