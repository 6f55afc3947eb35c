import SbsServer.CLib.System
import SbsServer.Config.Bundle
import SbsServer.SceneGraph.Invariant

/-!
# The life of a scene graph

Everything a server process does with its scene graph: calls of the graph's
functions, writes of handlers, supervisors and the mixer through pointers into
it, bundles that are applied and resets.  The writes are taken with arbitrary
values.  The invariant says what a saved state relies on.
-/

namespace SbsServer
namespace Config

open CLib SceneGraph

/-- `seed_default_graph`. -/
def seedDefaultGraph (graph : SceneGraph) : SceneGraph :=
  let withSource := (graph.createSource (some {
    id := some "default-src"
    name := some "Default Test Source"
    kind := .videotestsrc
    enabled := true
    keepAlive := false
    config := none })).2
  let withAudio := withSource.modifySource "default-src" fun source => { source with
    audio := { source.audio with
      enabled := true
      device := some "hw:0,2"
      volume := .finite 1
      leftGain := .finite 1
      rightGain := .finite 1
      monitor := false
      mute := false } }
  let withScene := (withAudio.createScene (some {
    id := some "scene-main"
    name := some "Main" })).2
  (withScene.addItem (some "scene-main") (some {
    id := some "item-default"
    sourceId := some "default-src"
    visible := true
    locked := false
    zOrder := 0
    transform := {
      positionX := 0
      positionY := 0
      width := 3840
      height := 2160
      cropTop := 0
      cropBottom := 0
      cropLeft := 0
      cropRight := 0
      rotationDeg := .finite 0
      flipHorizontal := false
      flipVertical := false
      boundsType := some "stretch"
      alignment := some "center"
      opacity := .finite 1 }
    audio := none })).2

/-- A source after writes to the fields that the graph's functions leave to
handlers, supervisors and the mixer. -/
def writtenSource (values source : SourceState) : SourceState :=
  { values with
    id := source.id
    name := source.name
    kind := source.kind
    enabled := source.enabled
    config := source.config
    filters := source.filters }

/-- An output after writes to the fields that the graph's functions leave to
handlers. -/
def writtenOutput (values output : OutputState) : OutputState :=
  { values with
    id := output.id
    enabled := output.enabled
    sinks := output.sinks }

/-- What happens to the graph of a server. -/
inductive GraphEvent
  | call (op : Op)
  | steal (id : Option CStr)
  | updateTransitionRuntime (now : Int64)
  | writeSource (id : CStr) (values : SourceState)
  | writeOutput (id : CStr) (values : OutputState)
  | writeCanvas (canvas : CanvasState)
  | applyBundle (bundle : CJson)
  | reset

/-- The graph after an event. -/
def graphAfter (graph : SceneGraph) : GraphEvent → SceneGraph
  | .call op => (graph.apply op).2
  | .steal id => (graph.stealSource id).2
  | .updateTransitionRuntime now => graph.updateTransitionRuntime now
  | .writeSource id values => graph.modifySource id (writtenSource values)
  | .writeOutput id values =>
      { graph with outputs := graph.outputs.modify id (writtenOutput values) }
  | .writeCanvas canvas => { graph with canvas := canvas }
  | .applyBundle bundle => (applySceneGraphBundle graph bundle).2
  | .reset => seedDefaultGraph newDefault

/-- The life of the graph of a server from its default. -/
def lifetime : System SceneGraph GraphEvent where
  initial graph := graph = newDefault
  step graph event next := next = graphAfter graph event

/-- A filter whose parameters `filter_params_copy` would not change. -/
def Snapped (filter : FilterState) : Prop :=
  ∀ key, (filterParamsCopy filter.type (some filter.params)).lookup key =
    filter.params.lookup key

/-- An item that a copy would not change, without filters of its own. -/
structure StorableItem (item : SceneItemState) : Prop where
  transform : sceneItemTransformCopy item.transform = item.transform
  audio : audioBindingCopy (some item.audio) = item.audio
  filters : item.filters = []

/-- A source under its own valid id. -/
structure StorableSource (id : CStr) (source : SourceState) : Prop where
  valid : validGraphId id = true
  named : source.id = id
  filters : ∀ filter ∈ source.filters, Snapped filter

/-- A scene under its own valid id. -/
structure StorableScene (id : CStr) (scene : SceneState) : Prop where
  valid : validGraphId id = true
  named : scene.id = id
  filters : ∀ filter ∈ scene.filters, Snapped filter
  items : ∀ item ∈ scene.items, StorableItem item

/-- An output under its own valid id, without sinks. -/
structure StorableOutput (id : CStr) (output : OutputState) : Prop where
  valid : validGraphId id = true
  named : output.id = id
  sinks : output.sinks = []

/-- A transition under its own valid id, without parameters. -/
structure StorableTransition (id : CStr) (transition : TransitionState) : Prop where
  valid : validGraphId id = true
  named : transition.id = id
  params : transition.params = .empty

/-- What a saved state relies on. -/
structure Storable (graph : SceneGraph) : Prop where
  sources : graph.sources.All StorableSource
  scenes : graph.scenes.All StorableScene
  outputs : graph.outputs.All StorableOutput
  transitions : graph.transitions.All StorableTransition
  /-- A scene is active as soon as there is one. -/
  selected : ∀ id scene, graph.scenes.lookup id = some scene → graph.activeSceneId ≠ none

theorem snapQuarterRotation_cases (degrees : Double) :
    ∃ quarter : Fin 4,
      snapQuarterRotation degrees = .ofInt (quarter.val * 90) := by
  unfold snapQuarterRotation
  dsimp only
  generalize (Int32.ofInt (degrees.divRat 90).lround).toInt = turns
  have lower : 0 ≤ (turns.tmod 4 + 4).tmod 4 := by
    have bound := Int.lt_tmod_of_pos turns (by decide : (0 : ℤ) < 4)
    exact Int.tmod_nonneg 4 (by omega)
  have upper := Int.tmod_lt_of_pos (turns.tmod 4 + 4) (by decide : (0 : ℤ) < 4)
  refine ⟨⟨((turns.tmod 4 + 4).tmod 4).toNat, by omega⟩, ?_⟩
  dsimp only
  rw [Int.toNat_of_nonneg lower]

theorem snapQuarterRotation_ofInt (quarter : Fin 4) :
    snapQuarterRotation (.ofInt (quarter.val * 90)) = .ofInt (quarter.val * 90) := by
  revert quarter
  decide +kernel

@[simp] theorem snapQuarterRotation_idem (degrees : Double) :
    snapQuarterRotation (snapQuarterRotation degrees) = snapQuarterRotation degrees := by
  obtain ⟨quarter, equal⟩ := snapQuarterRotation_cases degrees
  rw [equal, snapQuarterRotation_ofInt]

/-- A quarter turn survives its text. -/
theorem snapQuarterRotation_text (degrees : Double) :
    snapQuarterRotation (Double.strtod ((snapQuarterRotation degrees).formatFixed 0)) =
      snapQuarterRotation degrees := by
  have texts : ∀ quarter : Fin 4,
      snapQuarterRotation (Double.strtod ((Double.ofInt (quarter.val * 90)).formatFixed 0)) =
        .ofInt (quarter.val * 90) := by
    decide +kernel
  obtain ⟨quarter, equal⟩ := snapQuarterRotation_cases degrees
  rw [equal, texts]

@[simp] theorem sceneItemTransformCopy_idem (transform : SceneItemTransform) :
    sceneItemTransformCopy (sceneItemTransformCopy transform) =
      sceneItemTransformCopy transform := by
  have opacity : ∀ opacity : Double,
      (if (if opacity.positive = true then opacity else .finite 1).positive = true then
        (if opacity.positive = true then opacity else .finite 1) else .finite 1) =
        (if opacity.positive = true then opacity else .finite 1) := by
    intro opacity
    split
    · rfl
    · exact ite_self _
  unfold sceneItemTransformCopy
  simp only [snapQuarterRotation_idem, opacity, Option.getD_some]

theorem gain_idem (gain : Double) :
    (if (if gain.nonneg = true then gain else .finite 1).nonneg = true then
      (if gain.nonneg = true then gain else .finite 1) else .finite 1) =
      (if gain.nonneg = true then gain else .finite 1) := by
  split
  · rfl
  · exact ite_self _

@[simp] theorem audioBindingCopy_idem (audio : AudioBinding) :
    audioBindingCopy (some (audioBindingCopy (some audio))) = audioBindingCopy (some audio) := by
  unfold audioBindingCopy
  simp only [gain_idem]

theorem lookup_filterParamsCopy_congr
    {params other : StrMap}
    (same : ∀ key, params.lookup key = other.lookup key)
    (type key : CStr) :
    (filterParamsCopy type (some params)).lookup key =
      (filterParamsCopy type (some other)).lookup key := by
  unfold filterParamsCopy
  dsimp only [Option.getD_some]
  rw [same "degrees"]
  split
  · rw [HashTable.lookup_insert, HashTable.lookup_insert, same key]
  · exact same key

theorem lookup_filterParamsCopy_idem
    (type : CStr)
    (source : Option StrMap)
    (key : CStr) :
    (filterParamsCopy type (some (filterParamsCopy type source))).lookup key =
      (filterParamsCopy type source).lookup key := by
  unfold filterParamsCopy
  dsimp only [Option.getD_some]
  by_cases rotation : type = "rotation"
  · simp only [if_pos rotation, HashTable.lookup_insert, if_true, snapQuarterRotation_text]
    split
    · rfl
    · rfl
  · simp only [if_neg rotation]

theorem snapped_newFilter
    (type : CStr)
    (params : FilterCreateParams) :
    Snapped (newFilter type params) :=
  lookup_filterParamsCopy_idem type params.params

theorem Snapped.update
    {filter : FilterState}
    (snapped : Snapped filter)
    (params : FilterUpdateParams) :
    Snapped (filter.update params) := by
  intro key
  unfold FilterState.update
  cases params.params with
  | none => exact snapped key
  | some source => exact lookup_filterParamsCopy_idem filter.type (some source) key

variable {filters : List FilterState}

theorem snapped_append
    (snapped : ∀ filter ∈ filters, Snapped filter)
    (type : CStr)
    (params : FilterCreateParams) :
    ∀ filter ∈ filters ++ [newFilter type params], Snapped filter := by
  intro filter member
  rcases List.mem_append.mp member with old | added
  · exact snapped filter old
  · rw [List.mem_singleton.mp added]
    exact snapped_newFilter type params

theorem snapped_modifyFirst
    (snapped : ∀ filter ∈ filters, Snapped filter)
    (filterId : CStr)
    (params : FilterUpdateParams) :
    ∀ filter ∈ PtrArray.modifyFirst (fun filter => filter.id = filterId)
      (·.update params) filters, Snapped filter := by
  intro filter member
  rcases PtrArray.mem_modifyFirst member with old | ⟨before, present, _, rfl⟩
  · exact snapped filter old
  · exact (snapped before present).update params

theorem snapped_eraseP
    (snapped : ∀ filter ∈ filters, Snapped filter)
    (test : FilterState → Bool) :
    ∀ filter ∈ filters.eraseP test, Snapped filter :=
  fun filter member => snapped filter (List.mem_of_mem_eraseP member)

theorem storableItem_newItem
    (params : SceneItemCreateParams)
    (source : SourceState)
    (sourceId : CStr) :
    StorableItem (newItem params source sourceId) where
  transform := sceneItemTransformCopy_idem params.transform
  audio := audioBindingCopy_idem _
  filters := rfl

theorem StorableItem.update
    {item : SceneItemState}
    (storable : StorableItem item)
    (params : SceneItemUpdateParams) :
    StorableItem (item.update params) where
  transform := by
    unfold SceneItemState.update
    dsimp only
    split
    · exact sceneItemTransformCopy_idem params.transform
    · exact storable.transform
  audio := storable.audio
  filters := storable.filters

/-- New orders do not matter to an item. -/
theorem storableItem_writeOrders
    {items : List SceneItemState}
    (storable : ∀ item ∈ items, StorableItem item)
    (orders : CStr → Option Int32) :
    ∀ item ∈ writeOrders orders items, StorableItem item := by
  induction items generalizing orders with
  | nil => exact storable
  | cons head rest ih =>
      have kept := storable head List.mem_cons_self
      intro item member
      unfold writeOrders at member
      rcases List.mem_cons.mp member with rfl | later
      · exact ⟨kept.transform, kept.audio, kept.filters⟩
      · exact ih
          (fun other present => storable other (List.mem_cons_of_mem _ present)) _ item later

namespace StorableScene

variable {id : CStr} {scene : SceneState}

theorem withItems
    (storable : StorableScene id scene)
    {items : List SceneItemState}
    (kept : ∀ item ∈ items, StorableItem item) :
    StorableScene id { scene with items := items } :=
  ⟨storable.valid, storable.named, storable.filters, kept⟩

theorem withFilters
    (storable : StorableScene id scene)
    {filters : List FilterState}
    (snapped : ∀ filter ∈ filters, Snapped filter) :
    StorableScene id { scene with filters := filters } :=
  ⟨storable.valid, storable.named, snapped, storable.items⟩

theorem sortItems (storable : StorableScene id scene) : StorableScene id scene.sortItems :=
  storable.withItems fun item member =>
    storable.items item ((PtrArray.mem_sort ItemBelow).mp member)

theorem addItem
    (storable : StorableScene id scene)
    {item : SceneItemState}
    (added : StorableItem item) :
    StorableScene id (scene.addItem item) := by
  refine (storable.withItems fun other member => ?_).sortItems
  rcases List.mem_append.mp member with old | new
  · exact storable.items other old
  · rw [List.mem_singleton.mp new]
    exact added

theorem modifyItem
    (storable : StorableScene id scene)
    {itemId : CStr}
    {change : SceneItemState → SceneItemState}
    (keeps : ∀ item, StorableItem item → StorableItem (change item)) :
    StorableScene id (scene.modifyItem itemId change) := by
  refine storable.withItems fun item member => ?_
  rcases PtrArray.mem_modifyFirst member with old | ⟨before, present, _, rfl⟩
  · exact storable.items item old
  · exact keeps before (storable.items before present)

theorem reorderLoop
    (storable : StorableScene id scene)
    (index : Nat)
    (itemIds : List (Option CStr)) :
    StorableScene id (SceneGraph.reorderLoop scene index itemIds).2 := by
  rw [reorderLoop_scene]
  exact storable.withItems (storableItem_writeOrders storable.items _)

end StorableScene

/-! ## Graphs -/

namespace Storable

variable {graph : SceneGraph}

theorem modifyScene
    (storable : Storable graph)
    {sceneId : CStr}
    {change : SceneState → SceneState}
    (keeps : ∀ scene, graph.scenes.lookup sceneId = some scene →
      StorableScene sceneId scene → StorableScene sceneId (change scene)) :
    Storable (graph.modifyScene sceneId change) := by
  refine ⟨storable.sources, storable.scenes.modify keeps, storable.outputs,
    storable.transitions, ?_⟩
  intro id scene found
  have modified := (HashTable.lookup_modify _ _ _ _).symm.trans found
  split at modified
  · obtain ⟨before, stored, _⟩ := Option.map_eq_some_iff.mp modified
    exact storable.selected id before stored
  · exact storable.selected id scene modified

theorem modifySource
    (storable : Storable graph)
    {sourceId : CStr}
    {change : SourceState → SourceState}
    (keeps : ∀ source, graph.sources.lookup sourceId = some source →
      StorableSource sourceId source → StorableSource sourceId (change source)) :
    Storable (graph.modifySource sourceId change) :=
  { storable with sources := storable.sources.modify keeps }

/-- Every successful call keeps the invariant. -/
theorem change
    (storable : Storable graph)
    {op : Op}
    {next : SceneGraph}
    (change : Change graph op next) :
    Storable next := by
  cases change with
  | createSource named valid absent =>
      exact { storable with
        sources := storable.sources.insert
          ⟨valid, rfl, fun _ member => absurd member List.not_mem_nil⟩ }
  | updateSource found =>
      exact storable.modifySource fun _ _ kept => ⟨kept.valid, kept.named, kept.filters⟩
  | removeSource found =>
      refine ⟨storable.sources.remove _, ?_, storable.outputs, storable.transitions, ?_⟩
      · refine storable.scenes.mapValues fun _ scene kept => ?_
        exact kept.withItems fun item member => kept.items item (List.mem_of_mem_filter member)
      · intro id scene dropped
        rw [HashTable.lookup_mapValues] at dropped
        obtain ⟨before, stored, _⟩ := Option.map_eq_some_iff.mp dropped
        exact storable.selected id before stored
  | createScene named valid absent =>
      refine ⟨storable.sources, storable.scenes.insert ⟨valid, rfl, ?_, ?_⟩,
        storable.outputs, storable.transitions, fun _ _ _ => Option.some_ne_none _⟩
      · exact fun _ member => absurd member List.not_mem_nil
      · exact fun _ member => absurd member List.not_mem_nil
  | updateSceneName found =>
      exact storable.modifyScene fun _ _ kept =>
        ⟨kept.valid, kept.named, kept.filters, kept.items⟩
  | removeScene found inactive =>
      refine ⟨storable.sources, storable.scenes.remove _, storable.outputs,
        storable.transitions, ?_⟩
      intro id scene remains
      rw [HashTable.lookup_remove] at remains
      split at remains
      · cases remains
      · exact storable.selected id scene remains
  | addItem sourced found sourceFound fresh =>
      exact storable.modifyScene fun _ _ kept => kept.addItem (storableItem_newItem _ _ _)
  | updateItem found =>
      exact storable.modifyScene fun _ _ kept =>
        (kept.modifyItem fun _ item => item.update _).sortItems
  | updateItemAudio found =>
      exact storable.modifyScene fun _ _ kept =>
        kept.modifyItem fun _ item => ⟨item.transform, audioBindingCopy_idem _, item.filters⟩
  | removeItem found =>
      exact storable.modifyScene fun _ _ kept =>
        kept.withItems fun item member => kept.items item (List.mem_of_mem_eraseP member)
  | @reorderItems _ itemIds _ _ found looped =>
      refine storable.modifyScene fun scene stored kept => ?_
      rw [found] at stored
      cases stored
      have reordered := kept.reorderLoop 0 itemIds
      rw [looped] at reordered
      exact reordered.sortItems
  | addFilter found fresh =>
      refine storable.modifySource fun source stored kept => ?_
      rw [found] at stored
      cases stored
      exact ⟨kept.valid, kept.named, snapped_append kept.filters _ _⟩
  | updateFilter found =>
      refine storable.modifySource fun source stored kept => ?_
      rw [found] at stored
      cases stored
      exact ⟨kept.valid, kept.named, snapped_modifyFirst kept.filters _ _⟩
  | removeFilter found =>
      refine storable.modifySource fun source stored kept => ?_
      rw [found] at stored
      cases stored
      exact ⟨kept.valid, kept.named, snapped_eraseP kept.filters _⟩
  | addSceneFilter found fresh =>
      refine storable.modifyScene fun scene stored kept => ?_
      rw [found] at stored
      cases stored
      exact kept.withFilters (snapped_append kept.filters _ _)
  | updateSceneFilter found =>
      refine storable.modifyScene fun scene stored kept => ?_
      rw [found] at stored
      cases stored
      exact kept.withFilters (snapped_modifyFirst kept.filters _ _)
  | removeSceneFilter found =>
      refine storable.modifyScene fun scene stored kept => ?_
      rw [found] at stored
      cases stored
      exact kept.withFilters (snapped_eraseP kept.filters _)
  | createOutput named valid absent =>
      exact { storable with outputs := storable.outputs.insert ⟨valid, rfl, rfl⟩ }
  | removeOutput found =>
      exact { storable with outputs := storable.outputs.remove _ }
  | createTransition named valid absent =>
      exact { storable with transitions := storable.transitions.insert ⟨valid, rfl, rfl⟩ }
  | updateTransition found =>
      exact { storable with
        transitions := storable.transitions.modify fun _ _ kept =>
          ⟨kept.valid, kept.named, kept.params⟩ }
  | setDefaultTransition found => exact { storable with }
  | setActiveScene calls found resolves =>
      exact { storable with selected := fun _ _ _ => Option.some_ne_none _ }
  | setPreviewScene found => exact { storable with }

/-- Every call keeps the invariant, whether it succeeds or not. -/
theorem apply (storable : Storable graph) (op : Op) : Storable (graph.apply op).2 := by
  have outcome := apply_outcome graph op
  generalize graph.apply op = result at outcome ⊢
  cases outcome with
  | refused => exact storable
  | changed change =>
      have changed := storable.change change
      exact { changed with }
  | @abandoned _ itemIds _ _ _ calls found counted looped failed =>
      refine storable.modifyScene fun scene stored kept => ?_
      rw [found] at stored
      cases stored
      have reordered := kept.reorderLoop 0 itemIds
      rw [looped] at reordered
      exact reordered

section

variable (storable : Storable graph)
include storable

theorem loadFilterArrayForSource
    (sourceId : CStr)
    (filters : Option CJson)
    (onlyIfEmpty : Bool) :
    Storable (Config.loadFilterArrayForSource graph sourceId filters onlyIfEmpty) := by
  have folded : ∀ (filters : List CJson) (graph : SceneGraph), Storable graph →
      Storable (filters.foldl (fun graph filter =>
        (graph.addFilter (some sourceId) (some (filterParams filter))).2) graph) := by
    intro filters
    induction filters with
    | nil => exact fun _ storable => storable
    | cons filter rest ih =>
        intro graph storable
        exact ih _
          (storable.apply (.addFilter (some sourceId) (some (filterParams filter))))
  unfold Config.loadFilterArrayForSource
  split
  · exact storable
  · split
    · exact storable
    · exact folded _ _ storable

theorem loadFilterArrayForScene
    (sceneId : CStr)
    (filters : Option CJson) :
    Storable (Config.loadFilterArrayForScene graph sceneId filters) := by
  unfold Config.loadFilterArrayForScene
  induction CJson.arrayItems filters generalizing graph with
  | nil => exact storable
  | cons filter rest ih =>
      exact ih
        (storable.apply (.addSceneFilter (some sceneId) (some (filterParams filter))))

/-- A write to a source that keeps its id and filters. -/
theorem writeSource
    (sourceId : CStr)
    {change : SourceState → SourceState}
    (id : ∀ source, (change source).id = source.id)
    (filters : ∀ source, (change source).filters = source.filters) :
    Storable (graph.modifySource sourceId change) :=
  storable.modifySource fun source _ kept =>
    ⟨kept.valid, (id source).trans kept.named, (filters source).symm ▸ kept.filters⟩

theorem loadSource
    (key : Option CStr)
    (entry : CJson)
    (kind : SourceKind) :
    Storable (Config.loadSource graph key entry kind) := by
  have created := storable.apply (.createSource (some (sourceParams key entry kind)))
  unfold Config.loadSource
  change Storable (graph.createSource (some (sourceParams key entry kind))).2 at created
  generalize graph.createSource (some (sourceParams key entry kind)) = result at created ⊢
  split
  · next id next =>
      have keptAlive : Storable (if kind = .v4l2src ∨ kind = .vfmcap then
          next.modifySource id ({ · with keepAlive := true }) else next) := by
        split
        · exact created.writeSource _ (fun _ => rfl) (fun _ => rfl)
        · exact created
      dsimp only
      refine writeSource ?_ id (fun _ => rfl) (fun _ => rfl)
      refine loadFilterArrayForSource ?_ _ _ _
      exact keptAlive.writeSource id (fun _ => rfl) (fun _ => rfl)
  · exact created

theorem loadItem
    (sceneId : CStr)
    (item : CJson) :
    Storable (Config.loadItem sceneId graph item) := by
  have added := storable.apply (.addItem (some sceneId) (some (itemParams item)))
  unfold Config.loadItem
  change Storable (graph.addItem (some sceneId) (some (itemParams item))).2 at added
  dsimp only
  generalize graph.addItem (some sceneId) (some (itemParams item)) = result at added ⊢
  split
  · exact added.loadFilterArrayForSource _ _ _
  · exact added

theorem loadScene
    (entry : Option CStr × CJson) :
    Storable (Config.loadScene graph entry) := by
  let params : SceneCreateParams :=
    { id := entry.1, name := CJson.str (some entry.2) "name" }
  have items : ∀ (id : CStr) (items : List CJson) (graph : SceneGraph), Storable graph →
      Storable (items.foldl (Config.loadItem id) graph) := by
    intro id items
    induction items with
    | nil => exact fun _ storable => storable
    | cons item rest ih =>
        exact fun graph storable => ih _ (storable.loadItem id item)
  have created := storable.apply (.createScene (some params))
  unfold Config.loadScene
  change Storable (graph.createScene (some params)).2 at created
  simp only [params] at created
  dsimp only
  generalize graph.createScene _ = result at created ⊢
  split
  · exact items _ _ _ (created.loadFilterArrayForScene _ _)
  · exact created

theorem loadTransition
    (entry : Option CStr × CJson) :
    Storable (Config.loadTransition graph entry) :=
  storable.apply (.createTransition (some _))

theorem loadOutput
    (entry : Option CStr × CJson) :
    Storable (Config.loadOutput graph entry) := by
  have created := storable.apply (.createOutput (some {
    id := entry.1
    name := CJson.str (some entry.2) "name"
    enabled := CJson.boolean (some entry.2) "enabled" true
    autostart := CJson.boolean (some entry.2) "autostart" false }))
  unfold Config.loadOutput
  dsimp only
  change Storable (graph.createOutput (some _)).2 at created
  generalize graph.createOutput (some _) = result at created ⊢
  split
  · exact { created with
      outputs := created.outputs.modify fun _ _ kept => ⟨kept.valid, kept.named, kept.sinks⟩ }
  · exact created

end

theorem loadSelection (storable : Storable graph) (state : Option CJson) :
    Storable (Config.loadSelection graph state) := by
  refine ⟨storable.sources, storable.scenes, storable.outputs, storable.transitions, ?_⟩
  intro id scene found
  have selected := storable.selected id scene found
  unfold Config.loadSelection
  dsimp only
  cases CJson.str state "active_scene_id" with
  | none => exact selected
  | some active => exact nofun

theorem clearSceneGraph (graph : SceneGraph) : Storable (Config.clearSceneGraph graph) :=
  ⟨.empty, .empty, .empty, .empty, nofun⟩

/-- A loop over entries keeps the invariant when its body does. -/
theorem foldl
    {load : SceneGraph → α → SceneGraph}
    (keeps : ∀ graph entry, Storable graph → Storable (load graph entry))
    (storable : Storable graph)
    (entries : List α) :
    Storable (entries.foldl load graph) := by
  induction entries generalizing graph with
  | nil => exact storable
  | cons entry rest ih =>
      exact ih (keeps graph entry storable)

theorem loadSources
    (storable : Storable graph)
    (entries : List (Option CStr × CJson)) :
    Storable (Config.loadSources graph entries).2 := by
  induction entries generalizing graph with
  | nil => exact storable
  | cons entry rest ih =>
      unfold Config.loadSources
      split
      · exact storable
      · exact ih (storable.loadSource _ _ _)

/-- Any bundle leaves a graph that can be saved. -/
theorem applySceneGraphBundle (storable : Storable graph) (bundle : CJson) :
    Storable (Config.applySceneGraphBundle graph bundle).2 := by
  unfold Config.applySceneGraphBundle
  split
  · exact storable
  · let member := CJson.getObjectItem (some bundle)
    have cleared : Storable
        { Config.clearSceneGraph graph with canvas := loadCanvas (member "canvas") } :=
      { clearSceneGraph graph with }
    have sources := cleared.loadSources (CJson.children (member "sources"))
    dsimp only
    generalize Config.loadSources _ (CJson.children (CJson.getObjectItem (some bundle) "sources"))
      = result at sources ⊢
    obtain ⟨code, next⟩ := result
    have loaded := foldl (fun _ entry storable => storable.loadOutput entry)
      (foldl (fun _ entry storable => storable.loadTransition entry)
        (foldl (fun _ entry storable => storable.loadScene entry) sources
          (CJson.children (member "scenes")))
        (CJson.children (member "transitions")))
      (CJson.children (member "output_groups"))
    split
    · next same =>
        cases same
        exact loaded.loadSelection _
    · next same =>
        cases same
        exact sources

theorem newDefault : Storable SceneGraph.newDefault := by
  have blank : Storable SceneGraph.blank := ⟨.empty, .empty, .empty, .empty, nofun⟩
  have withCut := blank.apply (.createTransition (some
    { id := some "trans-cut", kind := .cut, durationMs := 0 }))
  have withFade := withCut.apply (.createTransition (some
    { id := some "trans-fade", kind := .fade, durationMs := 2000 }))
  exact { withFade with }

theorem seedDefaultGraph (storable : Storable graph) :
    Storable (Config.seedDefaultGraph graph) := by
  unfold Config.seedDefaultGraph
  dsimp only
  refine apply ?_ (.addItem (some "scene-main") (some _))
  refine apply ?_ (.createScene (some _))
  refine writeSource ?_ _ (fun _ => rfl) (fun _ => rfl)
  exact storable.apply (.createSource (some _))

/-- Every event keeps the invariant. -/
theorem graphAfter (storable : Storable graph) (event : GraphEvent) :
    Storable (Config.graphAfter graph event) := by
  cases event with
  | call op => exact storable.apply op
  | steal id =>
      unfold Config.graphAfter stealSource
      cases id with
      | none => exact storable
      | some id =>
          dsimp only
          split
          · exact storable
          · exact { storable with sources := storable.sources.remove id }
  | updateTransitionRuntime now =>
      unfold Config.graphAfter updateTransitionRuntime
      dsimp only
      repeat' split
      all_goals exact { storable with }
  | writeSource id values => exact storable.writeSource id (fun _ => rfl) (fun _ => rfl)
  | writeOutput id values =>
      exact { storable with
        outputs := storable.outputs.modify fun _ _ kept => ⟨kept.valid, kept.named, kept.sinks⟩ }
  | writeCanvas canvas => exact { storable with }
  | applyBundle bundle => exact storable.applySceneGraphBundle bundle
  | reset => exact newDefault.seedDefaultGraph

end Storable

/-- Every graph in the life of a server can be saved. -/
theorem storable_of_reachable
    {graph : SceneGraph}
    (reachable : lifetime.Reachable graph) :
    Storable graph := by
  refine reachable.invariant ?_ ?_
  · rintro _ rfl
    exact Storable.newDefault
  · rintro state event _ storable _ rfl
    exact storable.graphAfter event

end Config
end SbsServer
