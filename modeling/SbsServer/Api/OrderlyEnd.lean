import SbsServer.Api.CanvasStart
import SbsServer.Config.Selection

/-!
# The end of a server

A handler that publishes a change sets the timer that writes the graph to
`state.json` half a second later.  Some handlers change the graph and publish
nothing, and neither a signal nor a restart after a change of the canvas writes
the file.  What was acknowledged is in the file if the server ends while the timer
is idle and every change since the last write was published.
-/

namespace SbsServer
namespace Api

open CLib SceneGraph Config

/-- `sbs_scene_graph_count_source_refs` -/
def countSourceRefs
    (graph : SceneGraph)
    (sourceId : CStr) : ℕ :=
  (graph.scenes.toList.map fun entry =>
    (entry.2.items.filter fun item => item.sourceId = sourceId).length).sum

/-- The source of the first item under an id. -/
def itemSource
    (graph : SceneGraph)
    (sceneId itemId : Option CStr) : Option CStr := do
  let scene ← graph.getScene (← sceneId)
  let item ← scene.findItem (← itemId)
  return item.sourceId

/-- The source that `scene.item.remove` mutes: a running one that nothing shows any more. -/
def sourceToMute
    (before after : SceneGraph)
    (sceneId itemId : Option CStr) : Option CStr :=
  (itemSource before sceneId itemId).filter fun sourceId =>
    match after.sources.lookup sourceId with
    | none => false
    | some source =>
        source.running && !source.keepAlive && countSourceRefs after sourceId = 0 &&
          !source.muted

/-- The handler of a change publishes something, and so sets the timer. -/
def publishesChange (graph : SceneGraph) : GraphEvent → Bool
  | .call (.removeItem sceneId itemId) =>
      (sourceToMute graph (graph.removeItem sceneId itemId).2 sceneId itemId).isSome
  | .call (.removeScene _) | .call (.reorderItems _ _)
  | .call (.setPreviewScene _) | .call (.transitionToPreview _ _) => false
  | _ => true

/-- The graph that the handler of a change leaves. -/
def graphHandled (graph : SceneGraph) : GraphEvent → SceneGraph
  | .call (.removeItem sceneId itemId) =>
      let after := (graph.removeItem sceneId itemId).2
      match sourceToMute graph after sceneId itemId with
      | some sourceId => after.modifySource sourceId fun source => { source with muted := true }
      | none => after
  | change => graphAfter graph change

/-- A handler that changes the graph and succeeds. -/
def ConfigServer.edit
    (server : ConfigServer)
    (change : GraphEvent) : ConfigServer :=
  let edited := { server with graph := graphHandled server.graph change }
  if publishesChange server.graph change then edited.markDirty else edited

/-- What a supervisor writes to a source: everything but what the API sets. -/
def sourceStatus (values source : SourceState) : SourceState :=
  { values with
    id := source.id
    name := source.name
    kind := source.kind
    enabled := source.enabled
    keepAlive := source.keepAlive
    config := source.config
    filters := source.filters
    audio := source.audio }

/-- A file was written from a graph, or loaded as one, that has the settings of the graph. -/
def Contains
    (gstElementAvailable : CStr → Bool)
    (stateJson : Option CJson)
    (graph : SceneGraph) : Prop :=
  (∃ kept settings,
    stateJson = some (withCanvas settings (buildBundle gstElementAvailable kept)) ∧
      settingsOf kept = settingsOf graph) ∨
  ∃ before state loaded,
    CJson.getObjectItem stateJson "state" = some state ∧
      applySceneGraphBundle before state = (.ok, loaded) ∧ settingsOf loaded = settingsOf graph

/-- A server from its start to its end. -/
structure EndingRun where
  server : ConfigServer
  /-- A call has changed the graph and returned success. -/
  acknowledged : Bool
  /-- The graph was changed without a publication since the file was written. -/
  unpublished : Bool
  /-- The timer of `schedule_instance_restart` is running. -/
  restartScheduled : Bool
  ended : Bool

/-- What happens to a server.  The calls are those that succeed, and files can be written. -/
inductive EndingEvent
  /-- A call that changes the graph. -/
  | edit (change : GraphEvent)
  /-- `sbs_api_server_refresh_scene` -/
  | refresh (now : Int64)
  /-- A message of a worker. -/
  | status (id : CStr) (values : SourceState)
  /-- A publication that goes with no change of the graph. -/
  | publish
  /-- `canvas.update` -/
  | update (params : Option CJson)
  /-- `canvas.apply` -/
  | apply (encoder : SbsResult)
  /-- `config.import` -/
  | importBundle (bundle : CJson) (encoder : SbsResult)
  /-- `config.reset` -/
  | reset (encoder : SbsResult)
  /-- `save_timeout_cb` -/
  | saveTimeout
  /-- `on_signal` -/
  | signal
  /-- `restart_instance_cb` -/
  | restart

namespace EndingRun

variable {gstElementAvailable : CStr → Bool} {run after : EndingRun}

/-- The run after a call that has written the file. -/
def written
    (run : EndingRun)
    (server : ConfigServer) : EndingRun :=
  { run with
    server := server
    acknowledged := true
    unpublished := false
    restartScheduled := run.restartScheduled || server.compNeedsReconfigure }

/-- The run after an event, where it can happen. -/
def next
    (gstElementAvailable : CStr → Bool)
    (run : EndingRun)
    (event : EndingEvent) : Option EndingRun :=
  if run.ended then none
  else match event with
  | .edit change =>
      if succeeds run.server.graph change then
        some { run with
          server := run.server.edit change
          acknowledged := true
          unpublished := run.unpublished || !publishesChange run.server.graph change }
      else none
  | .refresh now =>
      some { run with
        server := { run.server with graph := run.server.graph.updateTransitionRuntime now } }
  | .status id values =>
      some { run with
        server := { run.server with
          graph := run.server.graph.modifySource id (sourceStatus values) } }
  | .publish => some { run with server := run.server.markDirty }
  | .update params =>
      match run.server.canvasUpdate gstElementAvailable params true with
      | (⟨.ok, _, _⟩, server) => some { run with server := server, unpublished := false }
      | _ => none
  | .apply encoder =>
      match run.server.canvasApply { encoder := encoder, saves := true } with
      | (⟨.ok, _, _⟩, server) => some (run.written server)
      | _ => none
  | .importBundle bundle encoder =>
      match run.server.applyBundle bundle { encoder := encoder, saves := true } with
      | (.ok, server) => some (run.written server)
      | _ => none
  | .reset encoder =>
      match run.server.reset gstElementAvailable { encoder := encoder, saves := true } with
      | (.ok, server) => some (run.written server)
      | _ => none
  | .saveTimeout =>
      if run.server.saveTimeout then
        some { run with
          server := run.server.saveTimeoutCb gstElementAvailable true
          unpublished := false }
      else none
  | .signal => some { run with ended := true }
  | .restart => if run.restartScheduled then some { run with ended := true } else none

/-- A server that has just started. -/
def Starts (run : EndingRun) : Prop :=
  run.acknowledged = false ∧ run.unpublished = false ∧ run.ended = false ∧
    ∃ stateJson overrides answers, run.server = startInstance stateJson overrides answers

/-- The runs of a server. -/
def endingSystem (gstElementAvailable : CStr → Bool) : System EndingRun EndingEvent :=
  .ofNext Starts (next gstElementAvailable)

/-- The file that is left behind has every change that was acknowledged. -/
def NothingLost
    (gstElementAvailable : CStr → Bool)
    (run : EndingRun) : Prop :=
  run.ended = true → run.acknowledged = true →
    Contains gstElementAvailable run.server.stateJson run.server.graph

/-- A server ends with the timer idle and every change published. -/
def EndsIdle (run : EndingRun) : EndingEvent → Prop
  | .signal | .restart => run.server.saveTimeout = false ∧ run.unpublished = false
  | _ => True

instance (run : EndingRun) (event : EndingEvent) : Decidable (run.EndsIdle event) :=
  match event with
  | .signal | .restart => inferInstanceAs (Decidable (_ ∧ _))
  | .edit _ | .refresh _ | .status _ _ | .publish | .update _ | .apply _ | .importBundle _ _
  | .reset _ | .saveTimeout => inferInstanceAs (Decidable True)

end EndingRun

theorem settingsOf_updateTransitionRuntime
    (graph : SceneGraph)
    (now : Int64) :
    settingsOf (graph.updateTransitionRuntime now) = settingsOf graph := by
  unfold updateTransitionRuntime
  dsimp only
  split
  · rfl
  · split
    · rfl
    · split
      · rfl
      · rfl

theorem settingsOf_sourceStatus
    (graph : SceneGraph)
    (id : CStr)
    (values : SourceState) :
    settingsOf (graph.modifySource id (sourceStatus values)) = settingsOf graph := by
  have kept : ∀ {Content : Type} (content : SourceState → Content),
      (∀ source, content (sourceStatus values source) = content source) →
        (fun key => ((graph.sources.modify id (sourceStatus values)).lookup key).map content) =
          fun key => (graph.sources.lookup key).map content := by
    intro Content content leaves
    funext key
    rw [HashTable.lookup_modify]
    split
    · rw [Option.map_map]
      exact congrArg (fun change => (graph.sources.lookup key).map change) (funext leaves)
    · rfl
  unfold settingsOf persistent modifySource
  dsimp only
  rw [kept sourceContent fun _ => rfl, kept (·.keepAlive) fun _ => rfl]

theorem Contains.congr
    {gstElementAvailable : CStr → Bool}
    {stateJson : Option CJson}
    {graph other : SceneGraph}
    (contains : Contains gstElementAvailable stateJson graph)
    (same : settingsOf other = settingsOf graph) :
    Contains gstElementAvailable stateJson other := by
  unfold Contains
  rw [same]
  exact contains

/-- A file just written from the graph, perhaps with another canvas. -/
theorem contains_withCanvas
    (gstElementAvailable : CStr → Bool)
    (settings : CanvasSettings)
    (graph : SceneGraph) :
    Contains gstElementAvailable
      (some (withCanvas settings (buildBundle gstElementAvailable graph))) graph :=
  .inl ⟨graph, settings, rfl, rfl⟩

theorem contains_buildBundle
    (gstElementAvailable : CStr → Bool)
    (graph : SceneGraph) :
    Contains gstElementAvailable (some (buildBundle gstElementAvailable graph)) graph := by
  rw [← withCanvas_runningSettings gstElementAvailable graph]
  exact contains_withCanvas gstElementAvailable _ graph

namespace EndingRun

variable {gstElementAvailable : CStr → Bool} {run after : EndingRun}

/-! ## A step keeps the file -/

/-- The invariant: with the timer idle and every change published, the file has them all. -/
structure Saved
    (gstElementAvailable : CStr → Bool)
    (run : EndingRun) : Prop where
  idle : run.acknowledged = true → run.server.saveTimeout = false → run.unpublished = false →
    Contains gstElementAvailable run.server.stateJson run.server.graph
  ended : run.NothingLost gstElementAvailable

/-- A step of a server that has not ended, after which it has not ended either. -/
theorem Saved.ofIdle
    (ended : run.ended = false)
    (idle : run.acknowledged = true → run.server.saveTimeout = false →
      run.unpublished = false →
        Contains gstElementAvailable run.server.stateJson run.server.graph) :
    run.Saved gstElementAvailable where
  idle := idle
  ended := by
    intro isEnded
    rw [ended] at isEnded
    cases isEnded

variable {server : ConfigServer}

/-- A call after which the file contains the graph. -/
theorem Saved.written
    (ended : run.ended = false)
    (contains : Contains gstElementAvailable server.stateJson server.graph) :
    (run.written server).Saved gstElementAvailable :=
  .ofIdle ended fun _ _ _ => contains

/-- A step that writes no file: it sets the timer, is not published or leaves the
settings. -/
theorem Saved.unwritten
    (saved : run.Saved gstElementAvailable)
    (ended : after.ended = false)
    (file : after.server.stateJson = run.server.stateJson)
    (cases : after.server.saveTimeout = true ∨ after.unpublished = true ∨
      after.server.saveTimeout = run.server.saveTimeout ∧
        after.unpublished = run.unpublished ∧ after.acknowledged = run.acknowledged ∧
        settingsOf after.server.graph = settingsOf run.server.graph) :
    after.Saved gstElementAvailable := by
  apply Saved.ofIdle ended
  intro acknowledged timer published
  rw [file]
  obtain waiting | unpublished | ⟨sameTimer, sameFlag, sameCalls, same⟩ := cases
  · rw [timer] at waiting
    cases waiting
  · rw [published] at unpublished
    cases unpublished
  · rw [sameCalls] at acknowledged
    rw [sameTimer] at timer
    rw [sameFlag] at published
    exact (saved.idle acknowledged timer published).congr same

/-- A call that changes the graph. -/
theorem Saved.edit
    (saved : run.Saved gstElementAvailable)
    (running : run.ended = false)
    (change : GraphEvent) :
    Saved gstElementAvailable { run with
      server := run.server.edit change
      acknowledged := true
      unpublished := run.unpublished || !publishesChange run.server.graph change } := by
  cases published : publishesChange run.server.graph change with
  | true =>
      have edited : run.server.edit change =
          ConfigServer.markDirty
            { run.server with graph := graphHandled run.server.graph change } := by
        unfold ConfigServer.edit
        rw [published]
        rfl
      rw [edited]
      exact saved.unwritten running rfl (.inl rfl)
  | false =>
      have edited : run.server.edit change =
          { run.server with graph := graphHandled run.server.graph change } := by
        unfold ConfigServer.edit
        rw [published]
        rfl
      rw [edited]
      refine saved.unwritten running rfl (.inr (.inl ?_))
      exact Bool.or_true run.unpublished

/-- `canvas.update` -/
theorem Saved.update
    (running : run.ended = false)
    {params : Option CJson}
    {reply : Reply}
    (handled : run.server.canvasUpdate gstElementAvailable params true = (reply, server))
    (isOk : reply.code = .ok) :
    Saved gstElementAvailable { run with server := server, unpublished := false } := by
  obtain ⟨canvas, result, -, -, updated⟩ | ⟨code, number, message, notOk, refused⟩ :=
    run.server.canvasUpdate_cases gstElementAvailable params true
  · rw [handled] at updated
    cases updated
    exact .ofIdle running fun _ _ _ => contains_withCanvas gstElementAvailable _ _
  · rw [handled] at refused
    cases refused
    exact absurd isOk notOk

variable {answers : ApplyAnswers}

/-- `canvas.apply` -/
theorem Saved.apply
    (running : run.ended = false)
    {reply : Reply}
    (handled : run.server.canvasApply answers = (reply, server))
    (isOk : reply.code = .ok) :
    (run.written server).Saved gstElementAvailable := by
  obtain ⟨bundle, state, graph, stored, isState, applied, -, left⟩ |
    ⟨graph, pending, -, notOk, -⟩ := run.server.canvasApply_cases answers
  · rw [handled] at left
    obtain rfl : server = _ := left
    refine .written running (.inr ⟨run.server.graph, state, graph, ?_, applied, rfl⟩)
    change CJson.getObjectItem run.server.stateJson "state" = some state
    rw [stored]
    exact isState
  · rw [handled] at notOk
    exact absurd isOk notOk

/-- `config.import` -/
theorem Saved.importBundle
    (running : run.ended = false)
    {bundle : CJson}
    (handled : run.server.applyBundle bundle answers = (.ok, server)) :
    (run.written server).Saved gstElementAvailable := by
  obtain ⟨state, graph, isState, applied, result⟩ | ⟨code, graph, notOk, -, result⟩ :=
    run.server.applyBundle_cases bundle answers
  · rw [handled] at result
    cases result
    exact .written running (.inr ⟨run.server.graph, state, graph, isState, applied, rfl⟩)
  · rw [handled] at result
    cases result
    exact absurd rfl notOk

/-- `config.reset` -/
theorem Saved.reset
    (running : run.ended = false)
    {code : SbsResult}
    (saves : answers.saves = true)
    (handled : run.server.reset gstElementAvailable answers = (code, server)) :
    (run.written server).Saved gstElementAvailable := by
  have file := (run.server.reset_leaves gstElementAvailable answers).2 saves
  rw [handled] at file
  apply Saved.written running
  rw [file]
  exact contains_buildBundle gstElementAvailable server.graph

/-- The end of a server with the timer idle and every change published. -/
theorem Saved.ending
    (saved : run.Saved gstElementAvailable)
    (idle : run.server.saveTimeout = false ∧ run.unpublished = false) :
    Saved gstElementAvailable { run with ended := true } where
  idle := saved.idle
  ended := fun _ acknowledged => saved.idle acknowledged idle.1 idle.2

/-- One step. -/
theorem Saved.next
    (saved : run.Saved gstElementAvailable)
    {event : EndingEvent}
    (meets : run.EndsIdle event)
    (stepped : run.next gstElementAvailable event = some after) :
    after.Saved gstElementAvailable := by
  unfold EndingRun.next at stepped
  split at stepped
  next => cases stepped
  next notEnded =>
    have running : run.ended = false := Bool.eq_false_iff.mpr notEnded
    cases event with
    | edit change =>
        dsimp only at stepped
        split at stepped
        next =>
          cases stepped
          exact saved.edit running change
        next => cases stepped
    | refresh now =>
        cases stepped
        exact saved.unwritten running rfl
          (.inr (.inr ⟨rfl, rfl, rfl, settingsOf_updateTransitionRuntime run.server.graph now⟩))
    | status id values =>
        cases stepped
        exact saved.unwritten running rfl
          (.inr (.inr ⟨rfl, rfl, rfl, settingsOf_sourceStatus run.server.graph id values⟩))
    | publish =>
        cases stepped
        exact saved.unwritten running rfl (.inl rfl)
    | update params =>
        dsimp only at stepped
        split at stepped
        next handled =>
          cases stepped
          exact .update running handled rfl
        next => cases stepped
    | apply encoder =>
        dsimp only at stepped
        split at stepped
        next handled =>
          cases stepped
          exact .apply running handled rfl
        next => cases stepped
    | importBundle bundle encoder =>
        dsimp only at stepped
        split at stepped
        next handled =>
          cases stepped
          exact .importBundle running handled
        next => cases stepped
    | reset encoder =>
        dsimp only at stepped
        split at stepped
        next handled =>
          cases stepped
          exact .reset running rfl handled
        next => cases stepped
    | saveTimeout =>
        dsimp only at stepped
        split at stepped
        next =>
          cases stepped
          exact .ofIdle running fun _ _ _ =>
            contains_buildBundle gstElementAvailable run.server.graph
        next => cases stepped
    | signal =>
        cases stepped
        exact saved.ending meets
    | restart =>
        dsimp only at stepped
        split at stepped
        next =>
          cases stepped
          exact saved.ending meets
        next => cases stepped

/-- A server that has started without a file. -/
def freshEndingRun : EndingRun where
  server := startInstance none none CanvasRun.allSucceed
  acknowledged := false
  unpublished := false
  restartScheduled := false
  ended := false

theorem starts_freshEndingRun : freshEndingRun.Starts :=
  ⟨rfl, rfl, rfl, none, none, CanvasRun.allSucceed, rfl⟩

/-- A call that adds a scene. -/
def addScene : EndingEvent :=
  .edit (.call (.createScene (some { id := some "scene-b", name := some "B" })))

/-- A file that was written from a graph names its preview scene. -/
theorem previewSceneId_of_file
    {gstElementAvailable : CStr → Bool}
    {kept : SceneGraph}
    {settings : CanvasSettings}
    {file : CJson}
    (written : some file = some (withCanvas settings (buildBundle gstElementAvailable kept))) :
    CJson.getObjectItem
        (CJson.getObjectItem (CJson.getObjectItem (some file) "state") "state")
        "preview_scene_id" =
      some (.ofPointer kept.previewSceneId) := by
  rw [written]
  rfl

/-- The server after its first reset. -/
def resetServer : ConfigServer :=
  ((startInstance none none CanvasRun.allSucceed).reset (fun _ => true) CanvasRun.allSucceed).2

theorem next_reset :
    freshEndingRun.next (fun _ => true) (.reset .ok) =
      some (freshEndingRun.written resetServer) := by
  have code :
      ((startInstance none none CanvasRun.allSucceed).reset (fun _ => true)
        CanvasRun.allSucceed).1 = .ok := by
    decide +kernel
  have handled :
      (startInstance none none CanvasRun.allSucceed).reset (fun _ => true) CanvasRun.allSucceed =
        (.ok, resetServer) :=
    Prod.ext code rfl
  unfold next
  change (match (startInstance none none CanvasRun.allSucceed).reset (fun _ => true)
      CanvasRun.allSucceed with
    | (.ok, server) => some (freshEndingRun.written server)
    | _ => none) = _
  rw [handled]

/-- The server after a reset, a preview scene and a signal. -/
def previewRun : EndingRun where
  server := resetServer.edit (.call (.setPreviewScene (some "scene-main")))
  acknowledged := true
  unpublished := true
  restartScheduled := resetServer.compNeedsReconfigure
  ended := true

theorem reachable_previewRun : (endingSystem fun _ => true).Reachable previewRun := by
  have reset : (endingSystem fun _ => true).Reachable (freshEndingRun.written resetServer) :=
    .step (.initial starts_freshEndingRun) trivial next_reset
  have found :
      succeeds resetServer.graph (.call (.setPreviewScene (some "scene-main"))) = true := by
    decide +kernel
  have edited : (endingSystem fun _ => true).Reachable { previewRun with ended := false } := by
    refine @System.ReachableWhen.step _ _ _ _ _ _
      (.edit (.call (.setPreviewScene (some "scene-main")))) reset trivial ?_
    change (if succeeds resetServer.graph (.call (.setPreviewScene (some "scene-main"))) then _
      else none) = _
    rw [if_pos found]
    rfl
  exact @System.ReachableWhen.step _ _ _ _ _ _ .signal edited trivial rfl

theorem stateJson_previewRun :
    previewRun.server.stateJson =
      some (buildBundle (fun _ => true) (seedDefaultGraph newDefault)) := by
  obtain ⟨graph, file⟩ := (startInstance none none CanvasRun.allSucceed).reset_leaves
    (fun _ => true) CanvasRun.allSucceed
  have written := file rfl
  rw [graph] at written
  exact written

end EndingRun
end Api
end SbsServer
