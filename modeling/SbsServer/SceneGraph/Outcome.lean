import SbsServer.SceneGraph.Operations

/-!
# What an operation can do

One inductive description of every way a mutating call can end: it is refused
and leaves the graph alone, it makes its change and bumps the version, or it is
a reordering that gives up after some writes.  Invariants are proved by cases
on this description instead of on the code of each function.
-/

namespace SbsServer
namespace SceneGraph

open CLib

/-- The change that a successful call makes, before the version is bumped,
with the checks that came before it. -/
inductive Change (graph : SceneGraph) : Op → SceneGraph → Prop
  | createSource {params : SourceCreateParams} {id : CStr}
      (named : params.id = some id)
      (valid : validGraphId id = true)
      (absent : graph.sources.lookup id = none) :
      Change graph (.createSource (some params))
        { graph with sources := graph.sources.insert id (newSource id params) }
  | updateSource {id : CStr} {params : SourceUpdateParams} {source : SourceState}
      (found : graph.sources.lookup id = some source) :
      Change graph (.updateSource (some id) (some params))
        (graph.modifySource id (·.update params))
  | removeSource {id : CStr} {source : SourceState}
      (found : graph.sources.lookup id = some source) :
      Change graph (.removeSource (some id))
        { graph with
          scenes := graph.scenes.mapValues fun _ (scene : SceneState) => scene.dropSource id
          sources := graph.sources.remove id }
  | createScene {params : SceneCreateParams} {id : CStr}
      (named : params.id = some id)
      (valid : validGraphId id = true)
      (absent : graph.scenes.lookup id = none) :
      Change graph (.createScene (some params))
        { graph with
          scenes := graph.scenes.insert id (newScene id params)
          activeSceneId := some (graph.activeSceneId.getD id) }
  | updateSceneName {id name : CStr} {scene : SceneState}
      (found : graph.scenes.lookup id = some scene) :
      Change graph (.updateSceneName (some id) (some name))
        (graph.modifyScene id ({ · with name := name }))
  | removeScene {id : CStr} {scene : SceneState}
      (found : graph.scenes.lookup id = some scene)
      (inactive : graph.activeSceneId ≠ some id) :
      Change graph (.removeScene (some id))
        { graph with
          previewSceneId :=
            if graph.previewSceneId = some id then none else graph.previewSceneId
          scenes := graph.scenes.remove id }
  | addItem {sceneId sourceId : CStr} {params : SceneItemCreateParams}
      {scene : SceneState} {source : SourceState}
      (sourced : params.sourceId = some sourceId)
      (found : graph.scenes.lookup sceneId = some scene)
      (sourceFound : graph.sources.lookup sourceId = some source)
      (fresh : ∀ id, params.id = some id → scene.findItem id = none) :
      Change graph (.addItem (some sceneId) (some params))
        (graph.modifyScene sceneId (·.addItem (newItem params source sourceId)))
  | updateItem {sceneId itemId : CStr} {params : SceneItemUpdateParams}
      {scene : SceneState}
      (found : graph.scenes.lookup sceneId = some scene) :
      Change graph (.updateItem (some sceneId) (some itemId) (some params))
        (graph.modifyScene sceneId fun scene =>
          (scene.modifyItem itemId (·.update params)).sortItems)
  | updateItemAudio {sceneId itemId : CStr} {audio : AudioBinding}
      {scene : SceneState}
      (found : graph.scenes.lookup sceneId = some scene) :
      Change graph (.updateItemAudio (some sceneId) (some itemId) (some audio))
        (graph.modifyScene sceneId fun scene =>
          scene.modifyItem itemId
            ({ · with audio := audioBindingCopy (some audio) }))
  | removeItem {sceneId itemId : CStr} {scene : SceneState}
      (found : graph.scenes.lookup sceneId = some scene) :
      Change graph (.removeItem (some sceneId) (some itemId))
        (graph.modifyScene sceneId (·.removeItem itemId))
  | reorderItems {sceneId : CStr} {itemIds : List (Option CStr)}
      {scene written : SceneState}
      (found : graph.scenes.lookup sceneId = some scene)
      (looped : reorderLoop scene 0 itemIds = (.ok, written)) :
      Change graph (.reorderItems (some sceneId) (some itemIds))
        (graph.modifyScene sceneId fun _ => written.sortItems)
  | addFilter {sourceId type : CStr} {params : FilterCreateParams}
      {source : SourceState}
      (found : graph.sources.lookup sourceId = some source)
      (fresh : ∀ id, params.id = some id → filterArrayFind source.filters id = none) :
      Change graph (.addFilter (some sourceId) (some params))
        (graph.modifySource sourceId
          ({ · with filters := source.filters ++ [newFilter type params] }))
  | updateFilter {sourceId filterId : CStr} {params : FilterUpdateParams}
      {source : SourceState}
      (found : graph.sources.lookup sourceId = some source) :
      Change graph (.updateFilter (some sourceId) (some filterId) (some params))
        (graph.modifySource sourceId
          ({ · with
            filters := PtrArray.modifyFirst (fun filter => filter.id = filterId)
              (·.update params) source.filters }))
  | removeFilter {sourceId filterId : CStr} {source : SourceState}
      (found : graph.sources.lookup sourceId = some source) :
      Change graph (.removeFilter (some sourceId) (some filterId))
        (graph.modifySource sourceId
          ({ · with
            filters := source.filters.eraseP fun filter => filter.id = filterId }))
  | addSceneFilter {sceneId type : CStr} {params : FilterCreateParams}
      {scene : SceneState}
      (found : graph.scenes.lookup sceneId = some scene)
      (fresh : ∀ id, params.id = some id → filterArrayFind scene.filters id = none) :
      Change graph (.addSceneFilter (some sceneId) (some params))
        (graph.modifyScene sceneId
          ({ · with filters := scene.filters ++ [newFilter type params] }))
  | updateSceneFilter {sceneId filterId : CStr} {params : FilterUpdateParams}
      {scene : SceneState}
      (found : graph.scenes.lookup sceneId = some scene) :
      Change graph (.updateSceneFilter (some sceneId) (some filterId) (some params))
        (graph.modifyScene sceneId
          ({ · with
            filters := PtrArray.modifyFirst (fun filter => filter.id = filterId)
              (·.update params) scene.filters }))
  | removeSceneFilter {sceneId filterId : CStr} {scene : SceneState}
      (found : graph.scenes.lookup sceneId = some scene) :
      Change graph (.removeSceneFilter (some sceneId) (some filterId))
        (graph.modifyScene sceneId
          ({ · with
            filters := scene.filters.eraseP fun filter => filter.id = filterId }))
  | createOutput {params : OutputCreateParams} {id : CStr}
      (named : params.id = some id)
      (valid : validGraphId id = true)
      (absent : graph.outputs.lookup id = none) :
      Change graph (.createOutput (some params))
        { graph with outputs := graph.outputs.insert id (newOutput id params) }
  | removeOutput {id : CStr} {output : OutputState}
      (found : graph.outputs.lookup id = some output) :
      Change graph (.removeOutput (some id))
        { graph with outputs := graph.outputs.remove id }
  | createTransition {params : TransitionCreateParams} {id : CStr}
      (named : params.id = some id)
      (valid : validGraphId id = true)
      (absent : graph.transitions.lookup id = none) :
      Change graph (.createTransition (some params))
        { graph with transitions := graph.transitions.insert id (newTransition id params) }
  | updateTransition {transitionId : CStr} {durationMs : UInt32}
      {transition : TransitionState}
      (found : graph.transitions.lookup transitionId = some transition) :
      Change graph (.updateTransition (some transitionId) durationMs)
        { graph with
          transitions := graph.transitions.modify transitionId
            ({ · with durationMs := durationMs }) }
  | setDefaultTransition {transitionId : CStr} {transition : TransitionState}
      (found : graph.transitions.lookup transitionId = some transition) :
      Change graph (.setDefaultTransition (some transitionId))
        { graph with defaultTransitionId := some transitionId }
  | setActiveScene {op : Op} {sceneId : CStr} {transitionId : Option CStr}
      {scene : SceneState} {now : Int64}
      (calls : op = .setActiveScene (some sceneId) transitionId now ∨
        op = .transitionToPreview transitionId now)
      (found : graph.scenes.lookup sceneId = some scene)
      (resolves : ∀ id, transitionId.or graph.defaultTransitionId = some id →
        ∃ transition, graph.transitions.lookup id = some transition) :
      Change graph op
        (graph.activate sceneId (transitionId.or graph.defaultTransitionId)
          ((transitionId.or graph.defaultTransitionId).bind graph.getTransition) now)
  | setPreviewScene {sceneId : Option CStr}
      (found : ∀ id, sceneId = some id →
        ∃ scene, graph.scenes.lookup id = some scene) :
      Change graph (.setPreviewScene sceneId)
        { graph with previewSceneId := sceneId }

/-- The ways a call can end. -/
inductive Outcome (graph : SceneGraph) (op : Op) : SbsResult × SceneGraph → Prop
  | refused {code : SbsResult}
      (failed : code ≠ .ok) :
      Outcome graph op (code, graph)
  | changed {next : SceneGraph}
      (change : Change graph op next) :
      Outcome graph op (.ok, next.bumpVersion)
  | abandoned {sceneId : CStr} {itemIds : List (Option CStr)}
      {scene written : SceneState} {code : SbsResult}
      (calls : op = .reorderItems (some sceneId) (some itemIds))
      (found : graph.scenes.lookup sceneId = some scene)
      (counted : itemIds.length = scene.items.length)
      (looped : reorderLoop scene 0 itemIds = (code, written))
      (failed : code ≠ .ok) :
      Outcome graph op (code, graph.modifyScene sceneId fun _ => written)

namespace Outcome

variable {graph : SceneGraph}

private theorem inval {op : Op} : Outcome graph op (.inval, graph) :=
  .refused (by decide)

private theorem notFound {op : Op} : Outcome graph op (.notFound, graph) :=
  .refused (by decide)

private theorem absent_of_contains
    {K V : Type}
    [DecidableEq K]
    {table : HashTable K V}
    {key : K}
    (missing : ¬table.contains key = true) :
    table.lookup key = none :=
  HashTable.contains_eq_false.mp (Bool.eq_false_iff.mpr missing)

private theorem present_of_contains
    {K V : Type}
    [DecidableEq K]
    {table : HashTable K V}
    {key : K}
    (present : ¬(!table.contains key) = true) :
    ∃ value, table.lookup key = some value := by
  rw [Bool.not_eq_true, Bool.not_eq_false'] at present
  exact HashTable.contains_eq_true.mp present

theorem createSource (params : Option SourceCreateParams) :
    Outcome graph (.createSource params) (graph.createSource params) := by
  unfold SceneGraph.createSource
  split
  · exact inval
  · split
    · exact inval
    · next named =>
        split
        · exact inval
        · next valid =>
            split
            · exact inval
            · next missing =>
                exact .changed (.createSource named (by simpa using valid)
                  (absent_of_contains missing))

theorem updateSource (id : Option CStr) (params : Option SourceUpdateParams) :
    Outcome graph (.updateSource id params) (graph.updateSource id params) := by
  unfold SceneGraph.updateSource
  split
  · split
    · exact notFound
    · next found => exact .changed (.updateSource found)
  · exact inval

theorem removeSource (id : Option CStr) :
    Outcome graph (.removeSource id) (graph.removeSource id) := by
  unfold SceneGraph.removeSource
  split
  · exact inval
  · split
    · exact notFound
    · next present =>
        obtain ⟨source, found⟩ := present_of_contains present
        exact .changed (.removeSource found)

theorem createScene (params : Option SceneCreateParams) :
    Outcome graph (.createScene params) (graph.createScene params) := by
  unfold SceneGraph.createScene
  split
  · exact inval
  · split
    · exact inval
    · next named =>
        split
        · exact inval
        · next valid =>
            split
            · exact inval
            · next missing =>
                exact .changed (.createScene named (by simpa using valid)
                  (absent_of_contains missing))

theorem updateSceneName (id name : Option CStr) :
    Outcome graph (.updateSceneName id name) (graph.updateSceneName id name) := by
  unfold SceneGraph.updateSceneName
  split
  · next found => exact .changed (.updateSceneName found)
  · exact inval
  · exact notFound

theorem removeScene (id : Option CStr) :
    Outcome graph (.removeScene id) (graph.removeScene id) := by
  unfold SceneGraph.removeScene
  split
  · exact inval
  · split
    · exact notFound
    · next present =>
        split
        · exact inval
        · next inactive =>
            obtain ⟨scene, found⟩ := present_of_contains present
            exact .changed (.removeScene found inactive)

theorem addItem (sceneId : Option CStr) (params : Option SceneItemCreateParams) :
    Outcome graph (.addItem sceneId params) (graph.addItem sceneId params) := by
  unfold SceneGraph.addItem
  split
  · split
    · exact inval
    · next sourced =>
        split
        · exact notFound
        · next found =>
            split
            · exact notFound
            · next sourceFound =>
                split
                · exact inval
                · next unused =>
                    refine .changed (.addItem sourced found sourceFound ?_)
                    intro id named
                    simpa [named] using unused
  · exact inval

theorem updateItem
    (sceneId itemId : Option CStr)
    (params : Option SceneItemUpdateParams) :
    Outcome graph (.updateItem sceneId itemId params)
      (graph.updateItem sceneId itemId params) := by
  unfold SceneGraph.updateItem
  split
  · split
    · exact notFound
    · next found =>
        split
        · exact notFound
        · exact .changed (.updateItem found)
  · exact inval

theorem updateItemAudio
    (sceneId itemId : Option CStr)
    (audio : Option AudioBinding) :
    Outcome graph (.updateItemAudio sceneId itemId audio)
      (graph.updateItemAudio sceneId itemId audio) := by
  unfold SceneGraph.updateItemAudio
  split
  · split
    · exact notFound
    · next located =>
        obtain ⟨scene, found, _⟩ := Option.bind_eq_some_iff.mp located
        exact .changed (.updateItemAudio found)
  · exact inval

theorem removeItem (sceneId itemId : Option CStr) :
    Outcome graph (.removeItem sceneId itemId) (graph.removeItem sceneId itemId) := by
  unfold SceneGraph.removeItem
  split
  · split
    · exact notFound
    · next found =>
        split
        · exact notFound
        · exact .changed (.removeItem found)
  · exact inval

theorem reorderItems
    (sceneId : Option CStr)
    (itemIds : Option (List (Option CStr))) :
    Outcome graph (.reorderItems sceneId itemIds)
      (graph.reorderItems sceneId itemIds) := by
  unfold SceneGraph.reorderItems
  split
  · split
    · exact notFound
    · next found =>
        split
        · exact inval
        · next counted =>
            split
            · next looped => exact .changed (.reorderItems found looped)
            · next failed looped =>
                exact .abandoned rfl found (by simpa using counted) looped failed
  · exact inval

/-- An addition refuses an id that the array already holds. -/
private theorem fresh_of_filterArrayAdd
    {type : CStr}
    {params : FilterCreateParams}
    {filters extended : List FilterState}
    (added : filterArrayAdd type params filters = .ok extended) :
    (∀ id, params.id = some id → filterArrayFind filters id = none) ∧
      extended = filters ++ [newFilter type params] := by
  unfold filterArrayAdd at added
  split at added
  · cases added
  · next unused =>
      cases added
      refine ⟨fun id named => ?_, rfl⟩
      simpa [named] using unused

/-- Errors of an edit of a filter array are error codes. -/
private theorem editSourceFilters
    {op : Op}
    {sourceId : CStr}
    {edit : List FilterState → Except SbsResult (List FilterState)}
    (errors : ∀ filters code, edit filters = .error code → code ≠ .ok)
    (changes : ∀ source filters,
      graph.sources.lookup sourceId = some source →
      edit source.filters = .ok filters →
        Change graph op
          (graph.modifySource sourceId ({ · with filters := filters }))) :
    Outcome graph op (graph.editSourceFilters sourceId edit) := by
  unfold SceneGraph.editSourceFilters
  split
  · exact notFound
  · next source found =>
      split
      · next code failed => exact .refused (errors _ _ failed)
      · next filters edited => exact .changed (changes source filters found edited)

private theorem editSceneFilters
    {op : Op}
    {sceneId : CStr}
    {edit : List FilterState → Except SbsResult (List FilterState)}
    (errors : ∀ filters code, edit filters = .error code → code ≠ .ok)
    (changes : ∀ scene filters,
      graph.scenes.lookup sceneId = some scene →
      edit scene.filters = .ok filters →
        Change graph op
          (graph.modifyScene sceneId ({ · with filters := filters }))) :
    Outcome graph op (graph.editSceneFilters sceneId edit) := by
  unfold SceneGraph.editSceneFilters
  split
  · exact notFound
  · next scene found =>
      split
      · next code failed => exact .refused (errors _ _ failed)
      · next filters edited => exact .changed (changes scene filters found edited)

private theorem filterArrayAdd_error
    (type : CStr)
    (params : FilterCreateParams)
    (filters : List FilterState)
    (code : SbsResult)
    (failed : filterArrayAdd type params filters = .error code) :
    code ≠ .ok := by
  unfold filterArrayAdd at failed
  split at failed
  · cases failed
    decide
  · cases failed

private theorem filterArrayUpdate_error
    (filterId : CStr)
    (params : FilterUpdateParams)
    (filters : List FilterState)
    (code : SbsResult)
    (failed : filterArrayUpdate filterId params filters = .error code) :
    code ≠ .ok := by
  unfold filterArrayUpdate at failed
  split at failed
  · cases failed
    decide
  · cases failed

private theorem filterArrayRemove_error
    (filterId : CStr)
    (filters : List FilterState)
    (code : SbsResult)
    (failed : filterArrayRemove filterId filters = .error code) :
    code ≠ .ok := by
  unfold filterArrayRemove at failed
  split at failed
  · cases failed
    decide
  · cases failed

private theorem eq_of_filterArrayUpdate
    {filterId : CStr}
    {params : FilterUpdateParams}
    {filters updated : List FilterState}
    (edited : filterArrayUpdate filterId params filters = .ok updated) :
    updated =
      PtrArray.modifyFirst (fun filter => filter.id = filterId)
        (·.update params) filters := by
  unfold filterArrayUpdate at edited
  split at edited
  · cases edited
  · cases edited
    rfl

private theorem eq_of_filterArrayRemove
    {filterId : CStr}
    {filters remaining : List FilterState}
    (edited : filterArrayRemove filterId filters = .ok remaining) :
    remaining = filters.eraseP fun filter => filter.id = filterId := by
  unfold filterArrayRemove at edited
  split at edited
  · cases edited
  · cases edited
    rfl

theorem addFilter (sourceId : Option CStr) (params : Option FilterCreateParams) :
    Outcome graph (.addFilter sourceId params) (graph.addFilter sourceId params) := by
  unfold SceneGraph.addFilter
  split
  · refine editSourceFilters (filterArrayAdd_error _ _) ?_
    intro source filters found added
    obtain ⟨fresh, rfl⟩ := fresh_of_filterArrayAdd added
    exact .addFilter found fresh
  · exact inval

theorem addSceneFilter (sceneId : Option CStr) (params : Option FilterCreateParams) :
    Outcome graph (.addSceneFilter sceneId params)
      (graph.addSceneFilter sceneId params) := by
  unfold SceneGraph.addSceneFilter
  split
  · refine editSceneFilters (filterArrayAdd_error _ _) ?_
    intro scene filters found added
    obtain ⟨fresh, rfl⟩ := fresh_of_filterArrayAdd added
    exact .addSceneFilter found fresh
  · exact inval

theorem updateFilter
    (sourceId filterId : Option CStr)
    (params : Option FilterUpdateParams) :
    Outcome graph (.updateFilter sourceId filterId params)
      (graph.updateFilter sourceId filterId params) := by
  unfold SceneGraph.updateFilter
  split
  · refine editSourceFilters (filterArrayUpdate_error _ _) ?_
    intro source filters found edited
    rw [eq_of_filterArrayUpdate edited]
    exact .updateFilter found
  · exact inval

theorem updateSceneFilter
    (sceneId filterId : Option CStr)
    (params : Option FilterUpdateParams) :
    Outcome graph (.updateSceneFilter sceneId filterId params)
      (graph.updateSceneFilter sceneId filterId params) := by
  unfold SceneGraph.updateSceneFilter
  split
  · refine editSceneFilters (filterArrayUpdate_error _ _) ?_
    intro scene filters found edited
    rw [eq_of_filterArrayUpdate edited]
    exact .updateSceneFilter found
  · exact inval

theorem removeFilter (sourceId filterId : Option CStr) :
    Outcome graph (.removeFilter sourceId filterId)
      (graph.removeFilter sourceId filterId) := by
  unfold SceneGraph.removeFilter
  split
  · refine editSourceFilters (filterArrayRemove_error _) ?_
    intro source filters found edited
    rw [eq_of_filterArrayRemove edited]
    exact .removeFilter found
  · exact inval

theorem removeSceneFilter (sceneId filterId : Option CStr) :
    Outcome graph (.removeSceneFilter sceneId filterId)
      (graph.removeSceneFilter sceneId filterId) := by
  unfold SceneGraph.removeSceneFilter
  split
  · refine editSceneFilters (filterArrayRemove_error _) ?_
    intro scene filters found edited
    rw [eq_of_filterArrayRemove edited]
    exact .removeSceneFilter found
  · exact inval

theorem createOutput (params : Option OutputCreateParams) :
    Outcome graph (.createOutput params) (graph.createOutput params) := by
  unfold SceneGraph.createOutput
  split
  · exact inval
  · split
    · exact inval
    · next named =>
        split
        · exact inval
        · next valid =>
            split
            · exact inval
            · next missing =>
                exact .changed (.createOutput named (by simpa using valid)
                  (absent_of_contains missing))

theorem removeOutput (id : Option CStr) :
    Outcome graph (.removeOutput id) (graph.removeOutput id) := by
  unfold SceneGraph.removeOutput
  split
  · exact inval
  · split
    · exact notFound
    · next present =>
        obtain ⟨output, found⟩ := present_of_contains present
        exact .changed (.removeOutput found)

theorem createTransition (params : Option TransitionCreateParams) :
    Outcome graph (.createTransition params) (graph.createTransition params) := by
  unfold SceneGraph.createTransition
  split
  · exact inval
  · split
    · exact inval
    · next named =>
        split
        · exact inval
        · next valid =>
            split
            · exact inval
            · next missing =>
                exact .changed (.createTransition named (by simpa using valid)
                  (absent_of_contains missing))

theorem updateTransition (transitionId : Option CStr) (durationMs : UInt32) :
    Outcome graph (.updateTransition transitionId durationMs)
      (graph.updateTransition transitionId durationMs) := by
  unfold SceneGraph.updateTransition
  split
  · exact inval
  · split
    · exact notFound
    · next found => exact .changed (.updateTransition found)

theorem setDefaultTransition (transitionId : Option CStr) :
    Outcome graph (.setDefaultTransition transitionId)
      (graph.setDefaultTransition transitionId) := by
  unfold SceneGraph.setDefaultTransition
  split
  · exact inval
  · split
    · exact notFound
    · next found => exact .changed (.setDefaultTransition found)

/-- Activation under either of the two calls that reach it. -/
private theorem activation
    {op : Op}
    (sceneId transitionId : Option CStr)
    (now : Int64)
    (calls : ∀ id, sceneId = some id →
      op = .setActiveScene (some id) transitionId now ∨
        op = .transitionToPreview transitionId now) :
    Outcome graph op (graph.setActiveScene sceneId transitionId now) := by
  unfold SceneGraph.setActiveScene
  split
  · exact inval
  · next id =>
      split
      · exact notFound
      · next found =>
          dsimp only
          split
          · exact notFound
          · next resolved =>
              refine .changed (.setActiveScene (calls id rfl) found ?_)
              intro id resolves
              simp only [resolves, Option.isSome_some, Option.bind_some, Bool.true_and,
                Option.isNone_iff_eq_none] at resolved
              exact Option.ne_none_iff_exists'.mp resolved

theorem setActiveScene (sceneId transitionId : Option CStr) (now : Int64) :
    Outcome graph (.setActiveScene sceneId transitionId now)
      (graph.setActiveScene sceneId transitionId now) :=
  activation sceneId transitionId now fun _ named => Or.inl (named ▸ rfl)

theorem setPreviewScene (sceneId : Option CStr) :
    Outcome graph (.setPreviewScene sceneId) (graph.setPreviewScene sceneId) := by
  unfold SceneGraph.setPreviewScene
  split
  · exact notFound
  · next resolved =>
      refine .changed (.setPreviewScene ?_)
      intro id named
      simp only [named, Option.isSome_some, Option.bind_some, Bool.true_and,
        Option.isNone_iff_eq_none] at resolved
      exact Option.ne_none_iff_exists'.mp resolved

theorem transitionToPreview (transitionId : Option CStr) (now : Int64) :
    Outcome graph (.transitionToPreview transitionId now)
      (graph.transitionToPreview transitionId now) := by
  unfold SceneGraph.transitionToPreview
  split
  · exact inval
  · exact activation _ transitionId now fun _ _ => Or.inr rfl

end Outcome

/-- Every call of a mutating function ends in one of the described ways. -/
theorem apply_outcome (graph : SceneGraph) (op : Op) :
    Outcome graph op (graph.apply op) := by
  cases op with
  | createSource params => exact .createSource params
  | updateSource id params => exact .updateSource id params
  | removeSource id => exact .removeSource id
  | createScene params => exact .createScene params
  | updateSceneName id name => exact .updateSceneName id name
  | removeScene id => exact .removeScene id
  | addItem sceneId params => exact .addItem sceneId params
  | updateItem sceneId itemId params => exact .updateItem sceneId itemId params
  | updateItemAudio sceneId itemId audio => exact .updateItemAudio sceneId itemId audio
  | removeItem sceneId itemId => exact .removeItem sceneId itemId
  | reorderItems sceneId itemIds => exact .reorderItems sceneId itemIds
  | addFilter sourceId params => exact .addFilter sourceId params
  | addSceneFilter sceneId params => exact .addSceneFilter sceneId params
  | updateFilter sourceId filterId params => exact .updateFilter sourceId filterId params
  | updateSceneFilter sceneId filterId params =>
      exact .updateSceneFilter sceneId filterId params
  | removeFilter sourceId filterId => exact .removeFilter sourceId filterId
  | removeSceneFilter sceneId filterId => exact .removeSceneFilter sceneId filterId
  | createOutput params => exact .createOutput params
  | removeOutput id => exact .removeOutput id
  | createTransition params => exact .createTransition params
  | updateTransition transitionId durationMs =>
      exact .updateTransition transitionId durationMs
  | setDefaultTransition transitionId => exact .setDefaultTransition transitionId
  | setActiveScene sceneId transitionId now =>
      exact .setActiveScene sceneId transitionId now
  | setPreviewScene sceneId => exact .setPreviewScene sceneId
  | transitionToPreview transitionId now => exact .transitionToPreview transitionId now

end SceneGraph
end SbsServer
