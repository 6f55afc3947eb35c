import SbsServer.Api.Canvas
import SbsServer.Config.LoadedCanvas
import SbsServer.Config.RoundTrip

/-!
# Saved canvas settings and graph edits

`canvas.update` writes the running graph with a new canvas to `state.json`, the
save timer writes the running graph alone, `config.import` writes what it has loaded,
and `canvas.apply` reads the file back over the running graph.  A run of these keeps
both the settings and the edits as long as nothing is written over settings that are
not applied, and nothing is applied that is older than the graph.
-/

namespace SbsServer
namespace Api

open CLib SceneGraph Config

/-- What the API sets in a graph. -/
structure Settings where
  content : Persistent
  keepAlive : CStr → Option Bool
  activeSceneId : Option CStr
  previewSceneId : Option CStr
  defaultTransitionId : Option CStr
  /-- The transition of the last scene change. -/
  transitionId : Option CStr

/-- The part of a graph that the API sets. -/
def settingsOf (graph : SceneGraph) : Settings where
  content := persistent graph
  keepAlive := fun id => (graph.sources.lookup id).map (·.keepAlive)
  activeSceneId := graph.activeSceneId
  previewSceneId := graph.previewSceneId
  defaultTransitionId := graph.defaultTransitionId
  transitionId := graph.transitionRuntime.transitionId

/-- No value of a graph is changed by being saved and loaded: a capture source is always kept
alive, and the transition of the last scene change becomes the default one. -/
structure Restorable (graph : SceneGraph) : Prop where
  audio : graph.sources.All fun _ source => normalisedAudio source = source.audio
  keepAlive : graph.sources.All fun _ source =>
    source.kind = .v4l2src ∨ source.kind = .vfmcap → source.keepAlive = true
  items : graph.scenes.All fun _ scene =>
    ∀ item ∈ scene.items, graph.sources.contains item.sourceId = true
  durations : graph.transitions.All fun id transition =>
    normalisedDuration id transition = transition.durationMs
  transition : graph.transitionRuntime.transitionId = graph.defaultTransitionId

instance (graph : SceneGraph) : Decidable (Restorable graph) :=
  decidable_of_iff
    ((graph.sources.All fun _ source => normalisedAudio source = source.audio) ∧
      (graph.sources.All fun _ source =>
        source.kind = .v4l2src ∨ source.kind = .vfmcap → source.keepAlive = true) ∧
      (graph.scenes.All fun _ scene =>
        ∀ item ∈ scene.items, graph.sources.contains item.sourceId = true) ∧
      (graph.transitions.All fun id transition =>
        normalisedDuration id transition = transition.durationMs) ∧
      graph.transitionRuntime.transitionId = graph.defaultTransitionId)
    ⟨fun ⟨audio, keepAlive, items, durations, transition⟩ =>
        ⟨audio, keepAlive, items, durations, transition⟩,
      fun ⟨audio, keepAlive, items, durations, transition⟩ =>
        ⟨audio, keepAlive, items, durations, transition⟩⟩

/-- Contents of a table that agree for every entry. -/
theorem map_lookup_congr
    {table : HashTable CStr Value}
    {property : CStr → Value → Prop}
    {first second : CStr → Value → Content}
    (all : table.All property)
    (agree : ∀ id value, property id value → first id value = second id value) :
    (fun id => (table.lookup id).map (first id)) =
      fun id => (table.lookup id).map (second id) := by
  funext id
  cases found : table.lookup id with
  | none => rfl
  | some value => exact congrArg some (agree id value (all id value found))

theorem Restorable.normalised_eq
    {graph : SceneGraph}
    (restorable : Restorable graph) :
    normalised graph = persistent graph := by
  unfold normalised persistent
  dsimp only
  congr 1
  · apply map_lookup_congr restorable.audio
    intro id source same
    rw [same]
    rfl
  · apply map_lookup_congr restorable.items
    intro id scene present
    have all : shown graph.sources scene.items = scene.items :=
      List.filter_eq_self.mpr present
    rw [all]
    rfl
  · apply map_lookup_congr restorable.durations
    intro id transition same
    rw [same]
    rfl

/-- Of its `canvas` member a state object gives the loader only the canvas. -/
theorem applySceneGraphBundle_canvas
    (graph : SceneGraph)
    {canvas other : CJson}
    (same : loadCanvas (some canvas) = loadCanvas (some other))
    (sources scenes outputs transitions selection : CJson) :
    applySceneGraphBundle graph (.object [("canvas", canvas), ("sources", sources),
        ("scenes", scenes), ("output_groups", outputs), ("transitions", transitions),
        ("state", selection)]) =
      applySceneGraphBundle graph (.object [("canvas", other), ("sources", sources),
        ("scenes", scenes), ("output_groups", outputs), ("transitions", transitions),
        ("state", selection)]) := by
  apply applySceneGraphBundle_congr
  · rfl
  · exact same
  · rfl
  · intro loaded
    rfl

/-- A file with its own canvas is loaded like the graph with that canvas. -/
theorem applySceneGraphBundle_withCanvas
    (gstElementAvailable : CStr → Bool)
    (graph kept : SceneGraph)
    (settings : CanvasSettings) :
    ∃ state,
      CJson.getObjectItem
          (some (withCanvas settings (buildBundle gstElementAvailable kept))) "state" =
        some state ∧
      applySceneGraphBundle graph state =
        applySceneGraphBundle graph
          (serializeFullState gstElementAvailable { kept with canvas := settings.canvas }) := by
  refine ⟨_, rfl, ?_⟩
  apply applySceneGraphBundle_canvas
  have fields : setCanvasFields settings (serializeCanvas kept.canvas) = settings.json :=
    setCanvasFields_serializeCanvas settings kept.canvas
  rw [loadCanvas_serialize]
  exact (congrArg (fun canvas => loadCanvas (some canvas)) fields).trans settings.loadCanvas_json

theorem bundleCanvas_withCanvas
    (gstElementAvailable : CStr → Bool)
    (kept : SceneGraph)
    (settings : CanvasSettings) :
    bundleCanvas (withCanvas settings (buildBundle gstElementAvailable kept)) =
      some settings.json := by
  rfl

theorem withCanvas_runningSettings
    (gstElementAvailable : CStr → Bool)
    (graph : SceneGraph) :
    withCanvas (runningSettings graph.canvas) (buildBundle gstElementAvailable graph) =
      buildBundle gstElementAvailable graph := by
  have same : setCanvasFields (runningSettings graph.canvas) (serializeCanvas graph.canvas) =
      serializeCanvas graph.canvas := by
    rw [setCanvasFields_serializeCanvas, json_runningSettings]
  have changed : withCanvas (runningSettings graph.canvas)
      (buildBundle gstElementAvailable graph) =
        bundleOf (.object [
          ("canvas", setCanvasFields (runningSettings graph.canvas)
            (serializeCanvas graph.canvas)),
          ("sources", serializeTable (serializeSource gstElementAvailable) graph.sources),
          ("scenes", serializeTable serializeScene graph.scenes),
          ("output_groups", serializeTable serializeOutput graph.outputs),
          ("transitions", serializeTable serializeTransition graph.transitions),
          ("state", serializeSelection graph)]) := by
    rfl
  rw [changed, same]
  rfl

variable {state : CJson}

/-- Graphs in the life of a server are restored from a file with its own canvas. -/
theorem settings_of_withCanvas
    {gstElementAvailable : CStr → Bool}
    {target kept graph : SceneGraph}
    {settings : CanvasSettings}
    (alive : lifetime.Reachable kept)
    (tidy : Tidy kept)
    (restorable : Restorable kept)
    (isState : CJson.getObjectItem
      (some (withCanvas settings (buildBundle gstElementAvailable kept))) "state" = some state)
    (applied : applySceneGraphBundle target state = (.ok, graph)) :
    settingsOf graph = { settingsOf kept with
      content := { persistent kept with canvas := settings.canvas }
      transitionId := none } := by
  obtain ⟨written, isWritten, loads⟩ :=
    applySceneGraphBundle_withCanvas gstElementAvailable target kept settings
  rw [isState] at isWritten
  cases isWritten
  have changed : lifetime.Reachable { kept with canvas := settings.canvas } :=
    @System.ReachableWhen.step _ _ lifetime _ _ _ (.writeCanvas settings.canvas) alive trivial rfl
  have tidyChanged : Tidy { kept with canvas := settings.canvas } := ⟨tidy.sources, tidy.scenes⟩
  have restorableChanged : Restorable { kept with canvas := settings.canvas } :=
    ⟨restorable.audio, restorable.keepAlive, restorable.items, restorable.durations,
      restorable.transition⟩
  obtain ⟨restored, restores, content⟩ :=
    restores_normalised gstElementAvailable changed tidyChanged target
  obtain ⟨version, equation⟩ := applySceneGraphBundle_serialize gstElementAvailable
    (storable_of_reachable changed) tidyChanged target
  rw [applied, restores] at loads
  rw [restores] at equation
  cases loads
  have keepAlive : (fun id => (graph.sources.lookup id).map (·.keepAlive)) =
      fun id => (kept.sources.lookup id).map (·.keepAlive) := by
    have sources : graph.sources = restoredTable restoredSource kept.sources :=
      congrArg (fun result => result.2.sources) equation
    rw [sources]
    simp only [lookup_restoredTable, Option.map_map]
    apply map_lookup_congr restorable.keepAlive
    intro id source captured
    by_cases capture : source.kind = .v4l2src ∨ source.kind = .vfmcap
    · simp [restoredSource, capture, captured capture]
    · simp [restoredSource, capture]
  have transition : graph.defaultTransitionId = kept.defaultTransitionId :=
    (congrArg (fun result => result.2.defaultTransitionId) equation).trans restorable.transition
  unfold settingsOf
  rw [keepAlive, transition, content, restorableChanged.normalised_eq]
  cases equation
  rfl

theorem isObject_of_applied
    {target graph : SceneGraph}
    (applied : applySceneGraphBundle target state = (.ok, graph)) :
    CJson.isObject (some state) = true := by
  by_contra notObject
  unfold applySceneGraphBundle at applied
  rw [Bool.eq_false_iff.mpr notObject] at applied
  cases applied

/-- A bundle that is loaded again gives the same settings, whatever it is loaded over. -/
theorem settings_of_applied
    {target other graph again : SceneGraph}
    (applied : applySceneGraphBundle target state = (.ok, graph))
    (appliedAgain : applySceneGraphBundle other state = (.ok, again)) :
    settingsOf again = settingsOf graph ∧ graph.transitionRuntime.transitionId = none := by
  have alike := (applySceneGraphBundle_alike target other (isObject_of_applied applied)).graph
  rw [applied, appliedAgain] at alike
  obtain ⟨canvas, runtime, version, same⟩ := alike
  dsimp only at canvas runtime same
  have noTransition : graph.transitionRuntime.transitionId = none :=
    congrArg TransitionRuntime.transitionId runtime
  refine ⟨?_, noTransition⟩
  rw [same]
  unfold settingsOf persistent
  dsimp only
  rw [noTransition, canvas]
  rfl

/-- How the graph goes with `state.json`. -/
inductive FileState
  /-- The graph may have changed since the file was written. -/
  | stale
  /-- The file was written from the graph. -/
  | written
  /-- The graph was loaded from the file. -/
  | loaded
  deriving DecidableEq

/-- A server between its calls. -/
structure CanvasRun where
  server : ConfigServer
  /-- The values of the last `canvas.update`, until `canvas.apply` or a reset. -/
  saved : Option CanvasSettings
  file : FileState

/-- A call, or the timer. -/
inductive CanvasEvent
  /-- A call that changes the graph and succeeds. -/
  | edit (change : GraphEvent)
  /-- `canvas.update` -/
  | update (params : Option CJson) (saves : Bool)
  /-- `canvas.apply` -/
  | apply (answers : ApplyAnswers)
  /-- `config.import` -/
  | importBundle (bundle : CJson) (answers : ApplyAnswers)
  /-- `save_timeout_cb` -/
  | saveTimeout (saves : Bool)
  /-- `config.reset` -/
  | reset (answers : ApplyAnswers)

/-- A change that calls of the API make. -/
def succeeds (graph : SceneGraph) : GraphEvent → Bool
  | .call op => (graph.apply op).1 = .ok
  | .steal _ | .writeSource _ _ | .writeOutput _ _ => true
  | .updateTransitionRuntime _ | .writeCanvas _ | .applyBundle _ | .reset => false

namespace CanvasRun

variable {gstElementAvailable : CStr → Bool} {run after : CanvasRun}

/-- The run after an event, where it can happen. -/
def next
    (gstElementAvailable : CStr → Bool)
    (run : CanvasRun) : CanvasEvent → Option CanvasRun
  | .edit change =>
      if succeeds run.server.graph change then
        some { run with
          server := { run.server with graph := graphAfter run.server.graph change }.markDirty
          file := .stale }
      else none
  | .update params saves =>
      match run.server.canvasUpdate gstElementAvailable params saves with
      | (⟨.ok, _, _⟩, server) =>
          some { server := server, saved := server.pendingCanvas, file := .written }
      | (_, server) => some { run with server := server }
  | .apply answers =>
      match run.server.canvasApply answers with
      | (⟨.ok, _, _⟩, server) => some { server := server, saved := none, file := .loaded }
      | (_, server) => some { run with server := server, file := .stale }
  | .importBundle bundle answers =>
      match run.server.applyBundle bundle answers with
      | (.ok, server) => some { run with server := server, file := .loaded }
      | (_, server) => some { run with server := server, file := .stale }
  | .saveTimeout saves =>
      if run.server.saveTimeout then
        some { run with
          server := run.server.saveTimeoutCb gstElementAvailable saves
          file := if saves then .written else run.file }
      else none
  | .reset answers =>
      some {
        server := (run.server.reset gstElementAvailable answers).2
        saved := none
        file := if answers.saves then .written else .stale }

/-- `state.json` has the canvas of the last `canvas.update`. -/
def CanvasSaved (run : CanvasRun) : Prop :=
  ∀ settings ∈ run.saved, run.server.stateJson.bind bundleCanvas = some settings.json

/-- The canvas of the last `canvas.update`, or the running one. -/
def wantedCanvas (run : CanvasRun) : CanvasState :=
  (run.saved.map CanvasSettings.canvas).getD run.server.graph.canvas

/-- A `canvas.apply` that succeeds leaves a graph with every edit and with the canvas of the
last `canvas.update`.  No transition goes on. -/
def AppliesEverything
    (run : CanvasRun)
    (answers : ApplyAnswers) : Prop :=
  (run.server.canvasApply answers).1.code = .ok →
    settingsOf (run.server.canvasApply answers).2.graph =
      { settingsOf run.server.graph with
        content := { persistent run.server.graph with canvas := run.wantedCanvas }
        transitionId := none }

/-- Nothing is written over settings that differ from the canvas that is written, and only a
file that the graph was loaded from, or that holds the whole graph, is applied. -/
def NothingOverwritten (run : CanvasRun) : CanvasEvent → Prop
  | .saveTimeout saves =>
      saves = true → ∀ settings ∈ run.saved, settings = runningSettings run.server.graph.canvas
  | .importBundle bundle answers =>
      migrateBundle bundle = .ok → validateBundle bundle = .ok → answers.saves = true →
        ∀ settings ∈ run.saved, bundleCanvas bundle = some settings.json
  | .apply _ =>
      match run.file with
      | .stale => False
      | .written => Tidy run.server.graph ∧ Restorable run.server.graph
      | .loaded => True
  | _ => True

/-- A server that starts without a file. -/
def StartsFresh (run : CanvasRun) : Prop :=
  run.server.pendingCanvas = none ∧ run.server.saveTimeout = false ∧ run.saved = none ∧
    run.server.stateJson = none ∧ run.file = .stale ∧
    ∃ canvas, run.server.graph = { newDefault with canvas := canvas }

/-- A server that has loaded its file. -/
def StartsLoaded (run : CanvasRun) : Prop :=
  run.server.pendingCanvas = none ∧ run.server.saveTimeout = false ∧ run.saved = none ∧
    run.file = .loaded ∧
    ∃ canvas state, CJson.getObjectItem run.server.stateJson "state" = some state ∧
      applySceneGraphBundle { newDefault with canvas := canvas } state =
        (.ok, run.server.graph)

/-- The runs of a server. -/
def canvasSystem (gstElementAvailable : CStr → Bool) : System CanvasRun CanvasEvent :=
  .ofNext (fun run => run.StartsFresh ∨ run.StartsLoaded) (next gstElementAvailable)

/-- What the file holds. -/
inductive Holds
    (gstElementAvailable : CStr → Bool)
    (run : CanvasRun) : FileState → Prop
  | stale : Holds gstElementAvailable run .stale
  | written
      (settings : CanvasSettings)
      (file : run.server.stateJson =
        some (withCanvas settings (buildBundle gstElementAvailable run.server.graph)))
      (canvas : settings.canvas = run.wantedCanvas) : Holds gstElementAvailable run .written
  | loaded
      (before : SceneGraph)
      (state : CJson)
      (isState : CJson.getObjectItem run.server.stateJson "state" = some state)
      (applied : applySceneGraphBundle before state = (.ok, run.server.graph))
      (canvas : run.server.graph.canvas = run.wantedCanvas) :
      Holds gstElementAvailable run .loaded

/-- The invariant of the runs in which nothing is overwritten. -/
structure Kept
    (gstElementAvailable : CStr → Bool)
    (run : CanvasRun) : Prop where
  alive : lifetime.Reachable run.server.graph
  canvasSaved : run.CanvasSaved
  holds : run.Holds gstElementAvailable run.file

/-! ## A step keeps the invariant -/

theorem lifetime_applied
    {graph : SceneGraph}
    (alive : lifetime.Reachable graph)
    (state : CJson) :
    lifetime.Reachable (applySceneGraphBundle graph state).2 :=
  @System.ReachableWhen.step _ _ lifetime _ _ _ (.applyBundle state) alive trivial rfl

/-- The graph that an apply leaves, whether it has succeeded. -/
theorem lifetime_reached
    {graph reached : SceneGraph}
    (alive : lifetime.Reachable graph)
    (reaches : reached = graph ∨ ∃ state, reached = (applySceneGraphBundle graph state).2) :
    lifetime.Reachable reached := by
  obtain rfl | ⟨state, rfl⟩ := reaches
  · exact alive
  · exact lifetime_applied alive state

/-- An edit. -/
theorem Kept.edit
    (kept : run.Kept gstElementAvailable)
    {change : GraphEvent}
    (stepped : run.next gstElementAvailable (.edit change) = some after) :
    after.Kept gstElementAvailable := by
  simp only [next] at stepped
  split at stepped
  next =>
    cases stepped
    exact {
      alive := .step kept.alive trivial rfl
      canvasSaved := kept.canvasSaved
      holds := .stale }
  next => cases stepped

/-- `canvas.update` -/
theorem Kept.update
    (kept : run.Kept gstElementAvailable)
    {params : Option CJson}
    {saves : Bool}
    (stepped : run.next gstElementAvailable (.update params saves) = some after) :
    after.Kept gstElementAvailable := by
  obtain ⟨canvas, result, -, -, updated⟩ | ⟨code, number, message, notOk, refused⟩ :=
    run.server.canvasUpdate_cases gstElementAvailable params saves
  · simp only [next, updated] at stepped
    cases stepped
    exact {
      alive := kept.alive
      canvasSaved := by
        intro settings isSaved
        cases isSaved
        exact bundleCanvas_withCanvas gstElementAvailable run.server.graph _
      holds := .written _ rfl rfl }
  · simp only [next, refused, ConfigServer.failed] at stepped
    cases code with
    | ok => exact absurd rfl notOk
    | _ =>
        cases stepped
        exact kept

variable {answers : ApplyAnswers}

section

variable (kept : run.Kept gstElementAvailable)
include kept

/-- `canvas.apply` -/
theorem Kept.apply
    (stepped : run.next gstElementAvailable (.apply answers) = some after) :
    after.Kept gstElementAvailable := by
  simp only [next] at stepped
  obtain ⟨bundle, state, graph, stored, isState, applied, isOk, left⟩ |
    ⟨graph, pending, reached, notOk, left⟩ := run.server.canvasApply_cases answers
  · split at stepped
    next result error server handled =>
      rw [handled] at left
      obtain rfl : server = _ := left
      cases stepped
      have loaded := lifetime_applied kept.alive state
      rw [applied] at loaded
      exact {
        alive := loaded
        canvasSaved := nofun
        holds := .loaded run.server.graph state (stored ▸ isState) applied rfl }
    next reply server notOk handled =>
      rw [handled] at isOk
      obtain ⟨code, result, error⟩ := reply
      obtain rfl : code = .ok := isOk
      exact (notOk _ _ rfl).elim
  · split at stepped
    next result error server handled =>
      rw [handled] at notOk
      exact absurd rfl notOk
    next reply server _ handled =>
      rw [handled] at left
      obtain rfl : server = _ := left
      cases stepped
      exact {
        alive := lifetime_reached kept.alive reached
        canvasSaved := kept.canvasSaved
        holds := .stale }

/-- `config.import` -/
theorem Kept.importBundle
    {bundle : CJson}
    (meets : run.NothingOverwritten (.importBundle bundle answers))
    (stepped : run.next gstElementAvailable (.importBundle bundle answers) = some after) :
    after.Kept gstElementAvailable := by
  simp only [next] at stepped
  obtain ⟨state, graph, isState, applied, result⟩ | ⟨code, graph, notOk, reached, result⟩ :=
    run.server.applyBundle_cases bundle answers
  · obtain ⟨migrates, valid, saves⟩ := ConfigServer.applyBundle_ok (congrArg Prod.fst result)
    have canvas := meets migrates valid saves
    rw [result] at stepped
    cases stepped
    have loaded := lifetime_applied kept.alive state
    have loadedCanvas := canvas_applySceneGraphBundle run.server.graph
      (isObject_of_applied applied)
    rw [applied] at loaded loadedCanvas
    exact {
      alive := loaded
      canvasSaved := canvas
      holds := .loaded run.server.graph state isState applied (by
        unfold wantedCanvas
        cases isSaved : run.saved with
        | none => rfl
        | some settings =>
            have sameCanvas := canvas settings isSaved
            unfold bundleCanvas at sameCanvas
            rw [isState] at sameCanvas
            rw [sameCanvas, settings.loadCanvas_json] at loadedCanvas
            exact loadedCanvas) }
  · rw [result] at stepped
    cases code with
    | ok => exact absurd rfl notOk
    | _ =>
        cases stepped
        exact {
          alive := lifetime_reached kept.alive reached
          canvasSaved := kept.canvasSaved
          holds := .stale }

/-- `save_timeout_cb` -/
theorem Kept.saveTimeout
    {saves : Bool}
    (meets : run.NothingOverwritten (.saveTimeout saves))
    (stepped : run.next gstElementAvailable (.saveTimeout saves) = some after) :
    after.Kept gstElementAvailable := by
  simp only [next] at stepped
  split at stepped
  next =>
    cases stepped
    cases saves with
    | false =>
        exact {
          alive := kept.alive
          canvasSaved := kept.canvasSaved
          holds := by
            obtain ⟨_, _, file⟩ := run
            cases kept.holds with
            | stale => exact .stale
            | written settings file canvas => exact .written settings file canvas
            | loaded before state isState applied canvas =>
                exact .loaded before state isState applied canvas }
    | true =>
        have written : some (buildBundle gstElementAvailable run.server.graph) =
            some (withCanvas (runningSettings run.server.graph.canvas)
              (buildBundle gstElementAvailable run.server.graph)) :=
          congrArg some (withCanvas_runningSettings gstElementAvailable run.server.graph).symm
        exact {
          alive := kept.alive
          canvasSaved := by
            intro settings isSaved
            have running := meets rfl settings isSaved
            rw [running]
            change (some (buildBundle gstElementAvailable run.server.graph)).bind bundleCanvas = _
            rw [written]
            exact bundleCanvas_withCanvas gstElementAvailable run.server.graph _
          holds := .written (runningSettings run.server.graph.canvas) written (by
            rw [CanvasSettings.canvas_runningSettings]
            unfold wantedCanvas
            cases isSaved : run.saved with
            | none => rfl
            | some settings =>
                rw [meets rfl settings isSaved]
                exact (CanvasSettings.canvas_runningSettings run.server.graph.canvas).symm) }
  next => cases stepped

/-- `config.reset` -/
theorem Kept.reset
    (stepped : run.next gstElementAvailable (.reset answers) = some after) :
    after.Kept gstElementAvailable := by
  cases stepped
  obtain ⟨graph, file⟩ := run.server.reset_leaves gstElementAvailable answers
  exact {
    alive := by
      rw [graph]
      exact @System.ReachableWhen.step _ _ lifetime _ _ _ .reset kept.alive trivial rfl
    canvasSaved := nofun
    holds := by
      cases saves : answers.saves with
      | false => exact .stale
      | true =>
          refine .written
            (runningSettings (run.server.reset gstElementAvailable answers).2.graph.canvas) ?_
            (CanvasSettings.canvas_runningSettings _)
          rw [withCanvas_runningSettings]
          exact file saves }

/-- A step that overwrites nothing. -/
theorem Kept.next
    {event : CanvasEvent}
    (meets : run.NothingOverwritten event)
    (stepped : run.next gstElementAvailable event = some after) :
    after.Kept gstElementAvailable := by
  cases event with
  | edit change => exact kept.edit stepped
  | update params saves => exact kept.update stepped
  | apply answers => exact kept.apply stepped
  | importBundle bundle answers => exact kept.importBundle meets stepped
  | saveTimeout saves => exact kept.saveTimeout meets stepped
  | reset answers => exact kept.reset stepped

end

theorem lifetime_withCanvas
    (canvas : CanvasState) :
    lifetime.Reachable { newDefault with canvas := canvas } :=
  @System.ReachableWhen.step _ _ lifetime _ newDefault _ (.writeCanvas canvas) (.initial rfl)
    trivial rfl

theorem StartsFresh.kept
    (starts : run.StartsFresh) :
    run.Kept gstElementAvailable := by
  obtain ⟨-, -, noneSaved, -, stale, canvas, graph⟩ := starts
  exact {
    alive := by
      rw [graph]
      exact lifetime_withCanvas canvas
    canvasSaved := by
      intro settings isSaved
      rw [noneSaved] at isSaved
      cases isSaved
    holds := by
      rw [stale]
      exact .stale }

theorem StartsLoaded.kept
    (starts : run.StartsLoaded) :
    run.Kept gstElementAvailable := by
  obtain ⟨-, -, noneSaved, loaded, canvas, state, isState, applied⟩ := starts
  exact {
    alive := by
      have reached := lifetime_applied (lifetime_withCanvas canvas) state
      rw [applied] at reached
      exact reached
    canvasSaved := by
      intro settings isSaved
      rw [noneSaved] at isSaved
      cases isSaved
    holds := by
      rw [loaded]
      refine .loaded _ state isState applied ?_
      unfold wantedCanvas
      rw [noneSaved]
      rfl }

/-- Every run in which nothing is overwritten. -/
theorem kept_of_reachable
    (reachable :
      (canvasSystem gstElementAvailable).ReachableWhen NothingOverwritten run) :
    run.Kept gstElementAvailable := by
  apply reachable.invariant
  · intro start starts
    exact starts.elim StartsFresh.kept StartsLoaded.kept
  · intro before event after kept meets stepped
    exact kept.next meets stepped

/-- What an apply leaves of the graph and the saved values. -/
theorem Kept.appliesEverything
    (kept : run.Kept gstElementAvailable)
    (meets : run.NothingOverwritten (.apply answers)) :
    run.AppliesEverything answers := by
  intro isOk
  obtain ⟨bundle, state, graph, stored, isState, applied, -, left⟩ |
    ⟨graph, pending, -, notOk, -⟩ := run.server.canvasApply_cases answers
  · rw [left]
    have holds := kept.holds
    unfold NothingOverwritten at meets
    generalize run.file = file at holds meets
    cases holds with
    | stale => exact meets.elim
    | written settings file canvas =>
        rw [stored] at file
        cases file
        rw [← canvas]
        exact settings_of_withCanvas kept.alive meets.1 meets.2 isState applied
    | loaded before loadedState isLoaded loads canvas =>
        rw [stored, isState] at isLoaded
        cases isLoaded
        obtain ⟨same, noTransition⟩ := settings_of_applied loads applied
        rw [← canvas, ← noTransition]
        exact same
  · exact absurd isOk notOk

/-- Neither the saved settings nor the edits are lost while nothing is overwritten. -/
theorem nothing_lost
    (reachable :
      (canvasSystem gstElementAvailable).ReachableWhen NothingOverwritten run) :
    run.CanvasSaved ∧
      ∀ answers, run.NothingOverwritten (.apply answers) → run.AppliesEverything answers := by
  have kept := kept_of_reachable reachable
  exact ⟨kept.canvasSaved, fun answers meets => kept.appliesEverything meets⟩

/-- A server that has started without a file. -/
def freshRun : CanvasRun where
  server := {
    graph := newDefault
    pendingCanvas := none
    stateJson := none
    saveTimeout := false
    compositor := none }
  saved := none
  file := .stale

theorem startsFresh_freshRun : freshRun.StartsFresh :=
  ⟨rfl, rfl, rfl, rfl, rfl, newDefault.canvas, rfl⟩

/-- A call that adds a camera. -/
def cameraAdded (keepAlive : Bool) : CanvasEvent :=
  .edit (.call (.createSource (some {
    id := some "camera"
    name := some "Camera"
    kind := .v4l2src
    enabled := true
    keepAlive := keepAlive
    config := none })))

/-- A call that adds a scene. -/
def sceneAdded : CanvasEvent :=
  .edit (.call (.createScene (some { id := some "scene-b", name := some "B" })))

/-- A call that shows the scene by the default transition. -/
def sceneShown : CanvasEvent :=
  .edit (.call (.setActiveScene (some "scene-b") none 0))

/-- A request for another width and height. -/
def resized : CanvasEvent :=
  .update (some (.object [("canvas", .object [
    ("width", .ofInt 1280),
    ("height", .ofInt 720)])])) true

/-- Nothing fails. -/
def allSucceed : ApplyAnswers where
  encoder := .ok
  saves := true

/-- The timer finds no settings that wait to be applied, and nothing is loaded. -/
def OnlyWrites (run : CanvasRun) : CanvasEvent → Prop
  | .saveTimeout _ => run.saved = none
  | .importBundle _ _ | .apply _ => False
  | _ => True

instance (run : CanvasRun) (event : CanvasEvent) : Decidable (run.OnlyWrites event) :=
  match event with
  | .saveTimeout _ => inferInstanceAs (Decidable (run.saved = none))
  | .importBundle _ _ | .apply _ => inferInstanceAs (Decidable False)
  | .edit _ | .update _ _ | .reset _ => inferInstanceAs (Decidable True)

theorem OnlyWrites.nothingOverwritten
    {event : CanvasEvent}
    (writes : run.OnlyWrites event) :
    run.NothingOverwritten event := by
  cases event with
  | saveTimeout saves =>
      intro _ settings isSaved
      rw [show run.saved = none from writes] at isSaved
      cases isSaved
  | importBundle bundle answers => exact writes.elim
  | apply answers => exact writes.elim
  | _ => trivial

theorem nothing_lost_resized :
    ∃ run : CanvasRun,
      System.run (System.guarded OnlyWrites (next fun _ => true)) freshRun
          [cameraAdded true, sceneAdded, sceneShown, .saveTimeout true, resized] = some run ∧
        run.saved.isSome ∧ (run.server.canvasApply allSucceed).1.code = .ok ∧
        run.CanvasSaved ∧ run.AppliesEverything allSucceed := by
  have computed :
      (System.run (System.guarded OnlyWrites (next fun _ => true)) freshRun
          [cameraAdded true, sceneAdded, sceneShown, .saveTimeout true, resized]).map
          (fun run => decide (run.saved.isSome ∧
            (run.server.canvasApply allSucceed).1.code = .ok ∧ run.file = .written ∧
            Tidy run.server.graph ∧ Restorable run.server.graph)) =
        some true := by
    decide +kernel
  obtain ⟨run, runs, fields⟩ := Option.map_eq_some_iff.mp computed
  obtain ⟨isSaved, isOk, written, whole⟩ := of_decide_eq_true fields
  have reachable := System.ReachableWhen.mono (fun _ _ => OnlyWrites.nothingOverwritten)
    (@System.reachableWhen_of_run _ _ OnlyWrites _
      (fun run => run.StartsFresh ∨ run.StartsLoaded) _ _ _ _
      (.initial (.inl startsFresh_freshRun)) runs)
  have meets : run.NothingOverwritten (.apply allSucceed) := by
    unfold NothingOverwritten
    rw [written]
    exact whole
  have lost := @nothing_lost (fun _ => true) run reachable
  exact ⟨run, runs, isSaved, isOk, lost.1, lost.2 allSucceed meets⟩

/-- The timer writes the running canvas over the settings that were saved, an apply reads a file
that is older than the graph, and it keeps a camera alive that should not be. -/
theorem saved_settings_overwritten :
    (∃ run, (canvasSystem fun _ => true).Reachable run ∧ ¬ run.CanvasSaved) ∧
      (∃ run, (canvasSystem fun _ => true).Reachable run ∧
        ¬ run.AppliesEverything allSucceed) ∧
      ∃ run, (canvasSystem fun _ => true).Reachable run ∧ run.file = .written ∧
        ¬ run.AppliesEverything allSucceed := by
  have overwritten :
      (System.run (next fun _ => true) freshRun [resized, sceneAdded, .saveTimeout true]).map
          (fun run => decide (run.saved.map (·.width) = some 1280 ∧
            (CJson.num (run.server.stateJson.bind bundleCanvas) "width" (.ofInt 0)).toUInt32 =
              1920)) =
        some true := by
    decide +kernel
  have older :
      (System.run (next fun _ => true) freshRun [resized, sceneAdded]).map
          (fun run => decide ((run.server.canvasApply allSucceed).1.code = .ok ∧
            (run.server.graph.scenes.lookup "scene-b").isSome ∧
            (run.server.canvasApply allSucceed).2.graph.scenes.lookup "scene-b" = none)) =
        some true := by
    decide +kernel
  have captured :
      (System.run (next fun _ => true) freshRun
          [cameraAdded false, sceneAdded, sceneShown, resized]).map
          (fun run => decide (run.file = .written ∧
            (run.server.canvasApply allSucceed).1.code = .ok ∧
            (settingsOf run.server.graph).keepAlive "camera" = some false ∧
            (settingsOf (run.server.canvasApply allSucceed).2.graph).keepAlive "camera" =
              some true)) =
        some true := by
    decide +kernel
  refine ⟨?_, ?_, ?_⟩
  · obtain ⟨run, runs, fields⟩ := Option.map_eq_some_iff.mp overwritten
    obtain ⟨wanted, written⟩ := of_decide_eq_true fields
    refine ⟨run, System.reachable_of_run (.initial (.inl startsFresh_freshRun)) runs, ?_⟩
    intro canvasSaved
    obtain ⟨settings, isSaved, width⟩ := Option.map_eq_some_iff.mp wanted
    rw [canvasSaved settings isSaved] at written
    have same : (CJson.num (some settings.json) "width" (.ofInt 0)).toUInt32 = settings.width :=
      Double.toUInt32_ofInt settings.width
    rw [same, width] at written
    exact absurd written (by decide)
  · obtain ⟨run, runs, fields⟩ := Option.map_eq_some_iff.mp older
    obtain ⟨isOk, edited, loaded⟩ := of_decide_eq_true fields
    refine ⟨run, System.reachable_of_run (.initial (.inl startsFresh_freshRun)) runs, ?_⟩
    intro applies
    have scenes := congrArg (fun settings => settings.content.scenes "scene-b") (applies isOk)
    simp only [settingsOf, persistent, loaded] at scenes
    cases found : run.server.graph.scenes.lookup "scene-b" with
    | none => simp [found] at edited
    | some scene => simp [found] at scenes
  · obtain ⟨run, runs, fields⟩ := Option.map_eq_some_iff.mp captured
    obtain ⟨written, isOk, before, later⟩ := of_decide_eq_true fields
    refine ⟨run, System.reachable_of_run (.initial (.inl startsFresh_freshRun)) runs, written, ?_⟩
    intro applies
    have keepAlive := congrArg (fun settings => settings.keepAlive "camera") (applies isOk)
    dsimp only at keepAlive
    rw [before, later] at keepAlive
    cases keepAlive

end CanvasRun
end Api
end SbsServer
