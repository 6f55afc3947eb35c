import SbsServer.Config.Restored

/-!
# The persistent content of a graph

What a saved state is meant to keep, with tables as functions from ids, and
what a graph restored from its own state keeps of it.  The differences are
those that the serializer and the loader make on purpose.
-/

namespace SbsServer
namespace Config

open CLib SceneGraph

/-- The content of a filter. -/
structure FilterContent where
  id : CStr
  type : CStr
  enabled : Bool
  params : CStr → Option CStr

/-- The content of a source. -/
structure SourceContent where
  kind : SourceKind
  name : CStr
  enabled : Bool
  config : CStr → Option CStr
  filters : List FilterContent
  audio : AudioBinding

/-- The content of an item. -/
structure ItemContent where
  id : CStr
  sourceId : CStr
  visible : Bool
  locked : Bool
  zOrder : Int32
  transform : SceneItemTransform
  audio : AudioBinding
  filters : List FilterContent

/-- The content of a scene. -/
structure SceneContent where
  name : CStr
  items : List ItemContent
  filters : List FilterContent

/-- The content of a transition. -/
structure TransitionContent where
  kind : TransitionKind
  durationMs : UInt32
  params : CStr → Option CStr

/-- The content of a sink. -/
structure SinkContent where
  id : CStr
  type : CStr
  enabled : Bool
  config : CStr → Option CStr

/-- The content of an output. -/
structure OutputContent where
  name : CStr
  enabled : Bool
  autostart : Bool
  encoder : CStr → Option CStr
  sinks : List SinkContent

/-- The content of a graph. -/
structure Persistent where
  canvas : CanvasState
  sources : CStr → Option SourceContent
  scenes : CStr → Option SceneContent
  transitions : CStr → Option TransitionContent
  outputs : CStr → Option OutputContent

def filterContent (filter : FilterState) : FilterContent where
  id := filter.id
  type := filter.type
  enabled := filter.enabled
  params := filter.params.lookup

def sourceContent (source : SourceState) : SourceContent where
  kind := source.kind
  name := source.name
  enabled := source.enabled
  config := source.config.lookup
  filters := source.filters.map filterContent
  audio := source.audio

def itemContent (item : SceneItemState) : ItemContent where
  id := item.id
  sourceId := item.sourceId
  visible := item.visible
  locked := item.locked
  zOrder := item.zOrder
  transform := item.transform
  audio := item.audio
  filters := item.filters.map filterContent

def sceneContent (scene : SceneState) : SceneContent where
  name := scene.name
  items := scene.items.map itemContent
  filters := scene.filters.map filterContent

def transitionContent (transition : TransitionState) : TransitionContent where
  kind := transition.kind
  durationMs := transition.durationMs
  params := transition.params.lookup

def sinkContent (sink : SinkState) : SinkContent where
  id := sink.id
  type := sink.type
  enabled := sink.enabled
  config := sink.config.lookup

def outputContent (output : OutputState) : OutputContent where
  name := output.name
  enabled := output.enabled
  autostart := output.autostart
  encoder := output.encoder.lookup
  sinks := output.sinks.map sinkContent

/-- The persistent content of a graph. -/
def persistent (graph : SceneGraph) : Persistent where
  canvas := graph.canvas
  sources := fun id => (graph.sources.lookup id).map sourceContent
  scenes := fun id => (graph.scenes.lookup id).map sceneContent
  transitions := fun id => (graph.transitions.lookup id).map transitionContent
  outputs := fun id => (graph.outputs.lookup id).map outputContent

/-- Applying the state of a graph to another one gives its content. -/
def RoundTrips
    (gstElementAvailable : CStr → Bool)
    (graph target : SceneGraph) : Prop :=
  ∃ restored,
    applySceneGraphBundle target (serializeFullState gstElementAvailable graph) =
      (.ok, restored) ∧
    persistent restored = persistent graph

/-- The audio binding that a saved source is given: gains that are negative or
no number become one, and an ALSA source without a device gets the device of
its configuration or the default device. -/
def normalisedAudio (source : SourceState) : AudioBinding :=
  let copy := audioBindingCopy (some source.audio)
  if source.kind = .alsaAudio ∧ copy.device = none then
    { copy with device := some ((given (source.config.lookup "device")).getD "hw:0,2") }
  else copy

/-- The duration that a saved transition is given: 500 ms was the default of
older versions for the fade. -/
def normalisedDuration (id : CStr) (transition : TransitionState) : UInt32 :=
  if id = "trans-fade" ∧ transition.durationMs = 500 then 2000 else transition.durationMs

/-- The content that a saved graph is given.  Items are shown only next to
their sources. -/
def normalised (graph : SceneGraph) : Persistent :=
  { persistent graph with
    sources := fun id => (graph.sources.lookup id).map fun source =>
      { sourceContent source with audio := normalisedAudio source }
    scenes := fun id => (graph.scenes.lookup id).map fun scene =>
      { sceneContent scene with items := (shown graph.sources scene.items).map itemContent }
    transitions := fun id => (graph.transitions.lookup id).map fun transition =>
      { transitionContent transition with durationMs := normalisedDuration id transition } }

theorem filterContent_restoredFilter
    {filter : FilterState}
    (snapped : Snapped filter) :
    filterContent (restoredFilter filter) = filterContent filter := by
  have params : (restoredFilter filter).params.lookup = filter.params.lookup := by
    funext key
    refine Eq.trans ?_ (snapped key)
    exact lookup_filterParamsCopy_congr (lookup_jsonObjectToMap_strMapToJson filter.params) _ key
  unfold filterContent
  rw [params]
  rfl

theorem map_filterContent_restoredFilter
    {filters : List FilterState}
    (snapped : ∀ filter ∈ filters, Snapped filter) :
    (filters.map restoredFilter).map filterContent = filters.map filterContent := by
  rw [List.map_map]
  exact List.map_congr_left fun filter member =>
    filterContent_restoredFilter (snapped filter member)

theorem restoredAudio_eq (source : SourceState) :
    restoredAudio source.kind (jsonObjectToMap (some (strMapToJson source.config))) source.audio =
      normalisedAudio source := by
  unfold restoredAudio normalisedAudio
  dsimp only
  rw [lookup_jsonObjectToMap_strMapToJson]
  split
  · refine congrArg (fun device : CStr =>
      { audioBindingCopy (some source.audio) with device := some device }) ?_
    cases source.config.lookup "device" with
    | none => rfl
    | some device =>
        have empty : device = "" ↔ device.bytes = [] := CStr.ext_iff
        unfold given
        by_cases nonempty : device.bytes = []
        · simp [Option.filter, nonempty, empty]
        · simp [Option.filter, nonempty, empty]
  · rfl

variable {id : CStr}

theorem sourceContent_restoredSource
    {source : SourceState}
    (storable : StorableSource id source) :
    sourceContent (restoredSource id source) =
      { sourceContent source with audio := normalisedAudio source } := by
  have config : (jsonObjectToMap (some (strMapToJson source.config))).lookup =
      source.config.lookup := by
    funext key
    exact lookup_jsonObjectToMap_strMapToJson source.config key
  unfold restoredSource sourceContent
  dsimp only
  rw [config, restoredAudio_eq, map_filterContent_restoredFilter storable.filters]
  rfl

/-- The same sources are present after a restore. -/
theorem shown_restoredTable
    (sources : HashTable CStr SourceState)
    (items : List SceneItemState) :
    shown (restoredTable restoredSource sources) items = shown sources items := by
  unfold shown
  refine List.filter_congr fun item _ => ?_
  unfold HashTable.contains
  rw [lookup_restoredTable, Option.isSome_map]

theorem sceneContent_restoredScene
    {sources : HashTable CStr SourceState}
    {scene : SceneState}
    (storable : StorableScene id scene) :
    sceneContent (restoredScene (restoredTable restoredSource sources) id scene) =
      { sceneContent scene with items := (shown sources scene.items).map itemContent } := by
  unfold restoredScene sceneContent
  dsimp only
  rw [shown_restoredTable, map_filterContent_restoredFilter storable.filters]

theorem transitionContent_restoredTransition
    {transition : TransitionState}
    (storable : StorableTransition id transition) :
    transitionContent (restoredTransition id transition) =
      { transitionContent transition with durationMs := normalisedDuration id transition } := by
  unfold restoredTransition transitionContent
  rw [storable.params]
  rfl

theorem outputContent_restoredOutput
    {output : OutputState}
    (storable : StorableOutput id output) :
    outputContent (restoredOutput id output) = outputContent output := by
  have encoder : (jsonObjectToMap (some (strMapToJson output.encoder))).lookup =
      output.encoder.lookup := by
    funext key
    exact lookup_jsonObjectToMap_strMapToJson output.encoder key
  unfold restoredOutput outputContent
  dsimp only
  rw [encoder, storable.sinks]
  rfl

theorem content_restoredTable
    {restored : CStr → V → V}
    {content : V → W}
    {expected : CStr → V → W}
    {storable : CStr → V → Prop}
    {table : HashTable CStr V}
    (all : table.All storable)
    (keeps : ∀ id value, storable id value → content (restored id value) = expected id value) :
    (fun id => ((restoredTable restored table).lookup id).map content) =
      fun id => (table.lookup id).map (expected id) := by
  funext id
  rw [lookup_restoredTable, Option.map_map]
  cases found : table.lookup id with
  | none => rfl
  | some value => exact congrArg some (keeps id value (all id value found))

/-- A graph in the life of a server with distinct ids and sorted items is
restored from its own state up to the normal form. -/
theorem restores_normalised
    (gstElementAvailable : CStr → Bool)
    {graph : SceneGraph}
    (reachable : lifetime.Reachable graph)
    (tidy : Tidy graph)
    (target : SceneGraph) :
    ∃ restored,
      applySceneGraphBundle target (serializeFullState gstElementAvailable graph) =
        (.ok, restored) ∧
      persistent restored = normalised graph := by
  have storable := storable_of_reachable reachable
  obtain ⟨version, applied⟩ :=
    applySceneGraphBundle_serialize gstElementAvailable storable tidy target
  refine ⟨_, applied, ?_⟩
  unfold persistent normalised persistent
  dsimp only
  rw [content_restoredTable storable.sources fun _ _ source => sourceContent_restoredSource source,
    content_restoredTable storable.scenes fun _ _ scene => sceneContent_restoredScene scene,
    content_restoredTable storable.transitions fun _ _ transition =>
      transitionContent_restoredTransition transition,
    content_restoredTable storable.outputs fun _ _ output => outputContent_restoredOutput output]

/-- The graph after a reset is restored over an empty one. -/
theorem restores_reset :
    ∃ restored,
      applySceneGraphBundle newDefault
          (serializeFullState (fun _ => false) (seedDefaultGraph newDefault)) =
        (.ok, restored) ∧
      persistent restored = normalised (seedDefaultGraph newDefault) := by
  have reset : lifetime.Reachable (graphAfter newDefault .reset) := by
    have started : lifetime.Reachable newDefault := .initial rfl
    exact started.step trivial rfl
  have tidy : Tidy (graphAfter newDefault .reset) := by decide +kernel
  exact restores_normalised (fun _ => false) reset tidy newDefault

/-- The default graph with the fade shortened to 500 ms. -/
def shortFade : SceneGraph :=
  graphAfter newDefault (.call (.updateTransition (some "trans-fade") 500))

/-- A fade of 500 ms does not survive. -/
theorem shortFade_lost :
    ¬∀ graph target, lifetime.Reachable graph → RoundTrips (fun _ => false) graph target := by
  intro roundTrips
  have started : lifetime.Reachable newDefault := .initial rfl
  have shortened : lifetime.Reachable shortFade := started.step trivial rfl
  obtain ⟨restored, applied, same⟩ := roundTrips shortFade newDefault shortened
  have duration : ((persistent shortFade).transitions "trans-fade").map (·.durationMs) =
      some 500 := by
    decide +kernel
  have changed : ((persistent (applySceneGraphBundle newDefault
      (serializeFullState (fun _ => false) shortFade)).2).transitions "trans-fade").map
        (·.durationMs) = some 2000 := by
    decide +kernel
  rw [applied, same, duration] at changed
  cases changed

end Config
end SbsServer
