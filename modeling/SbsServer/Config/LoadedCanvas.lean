import SbsServer.Config.Bundle
import SbsServer.Config.Lifetime
import SbsServer.SceneGraph.Outcome

/-!
# The canvas and the content that are loaded

Only the loader writes the canvas of a graph: calls of the graph's functions and
writes to sources and outputs leave it.  The loader itself reads nothing of the graph
into which it loads: two graphs that load the same bundle get the same content.
-/

namespace SbsServer
namespace SceneGraph

open CLib

variable {graph next : SceneGraph}

theorem Change.canvas
    {op : Op}
    (change : Change graph op next) :
    next.canvas = graph.canvas := by
  cases change with
  | _ => rfl

@[simp] theorem canvas_apply
    (graph : SceneGraph)
    (op : Op) :
    (graph.apply op).2.canvas = graph.canvas := by
  have outcome := apply_outcome graph op
  generalize graph.apply op = result at outcome ⊢
  cases outcome with
  | refused failed => rfl
  | changed change => exact change.canvas
  | abandoned calls found counted looped failed => rfl

@[simp] theorem canvas_stealSource
    (graph : SceneGraph)
    (id : Option CStr) :
    (graph.stealSource id).2.canvas = graph.canvas := by
  unfold stealSource
  split
  · rfl
  · split
    · rfl
    · rfl

end SceneGraph

namespace Config

open CLib SceneGraph

/-- Two graphs into which the same is loaded: each keeps its own canvas and transition, and may
have its own version. -/
structure Alike (first second graph other : SceneGraph) : Prop where
  canvas : graph.canvas = first.canvas
  runtime : graph.transitionRuntime = first.transitionRuntime
  same : ∃ version, other = { graph with
    canvas := second.canvas
    transitionRuntime := second.transitionRuntime
    version := version }

/-- Calls that answer the same. -/
structure AnswersAlike
    (first second : SceneGraph)
    (result other : SbsResult × SceneGraph) : Prop where
  code : result.1 = other.1
  graph : Alike first second result.2 other.2

variable {first second graph other : SceneGraph}

/-- A call that creates an entry, unless it is refused. -/
theorem AnswersAlike.create
    {key : Option CStr}
    {used : CStr → Bool}
    {insert insertOther : CStr → SceneGraph}
    (alike : Alike first second graph other)
    (inserts : ∀ id, Alike first second (insert id) (insertOther id)) :
    AnswersAlike first second
      (match key with
        | none => (.inval, graph)
        | some id =>
            if !validGraphId id then (.inval, graph)
            else if used id then (.inval, graph)
            else (.ok, insert id))
      (match key with
        | none => (.inval, other)
        | some id =>
            if !validGraphId id then (.inval, other)
            else if used id then (.inval, other)
            else (.ok, insertOther id)) := by
  cases key with
  | none => exact ⟨rfl, alike⟩
  | some id =>
      dsimp only
      split
      · exact ⟨rfl, alike⟩
      · split
        · exact ⟨rfl, alike⟩
        · exact ⟨rfl, inserts id⟩

theorem AnswersAlike.createSource
    (alike : Alike first second graph other)
    (params : SourceCreateParams) :
    AnswersAlike first second (graph.createSource (some params))
      (other.createSource (some params)) := by
  obtain ⟨canvas, runtime, version, rfl⟩ := alike
  exact .create ⟨canvas, runtime, _, rfl⟩ fun id => ⟨canvas, runtime, _, rfl⟩

theorem AnswersAlike.createScene
    (alike : Alike first second graph other)
    (params : SceneCreateParams) :
    AnswersAlike first second (graph.createScene (some params))
      (other.createScene (some params)) := by
  obtain ⟨canvas, runtime, version, rfl⟩ := alike
  exact .create ⟨canvas, runtime, _, rfl⟩ fun id => ⟨canvas, runtime, _, rfl⟩

section

variable (alike : Alike first second graph other)
include alike

theorem AnswersAlike.createOutput
    (params : OutputCreateParams) :
    AnswersAlike first second (graph.createOutput (some params))
      (other.createOutput (some params)) := by
  obtain ⟨canvas, runtime, version, rfl⟩ := alike
  exact .create ⟨canvas, runtime, _, rfl⟩ fun id => ⟨canvas, runtime, _, rfl⟩

theorem AnswersAlike.createTransition
    (params : TransitionCreateParams) :
    AnswersAlike first second (graph.createTransition (some params))
      (other.createTransition (some params)) := by
  obtain ⟨canvas, runtime, version, rfl⟩ := alike
  exact .create ⟨canvas, runtime, _, rfl⟩ fun id => ⟨canvas, runtime, _, rfl⟩

theorem AnswersAlike.addItem
    (sceneId : CStr)
    (params : SceneItemCreateParams) :
    AnswersAlike first second (graph.addItem (some sceneId) (some params))
      (other.addItem (some sceneId) (some params)) := by
  obtain ⟨canvas, runtime, version, rfl⟩ := alike
  unfold SceneGraph.addItem SceneGraph.getScene SceneGraph.getSource
  dsimp only
  cases params.sourceId with
  | none => exact ⟨rfl, canvas, runtime, _, rfl⟩
  | some sourceId =>
      dsimp only
      cases graph.scenes.lookup sceneId with
      | none => exact ⟨rfl, canvas, runtime, _, rfl⟩
      | some scene =>
          dsimp only
          cases graph.sources.lookup sourceId with
          | none => exact ⟨rfl, canvas, runtime, _, rfl⟩
          | some source =>
              dsimp only
              split
              · exact ⟨rfl, canvas, runtime, _, rfl⟩
              · exact ⟨rfl, canvas, runtime, _, rfl⟩

theorem Alike.modifySource
    (id : CStr)
    (change : SourceState → SourceState) :
    Alike first second (graph.modifySource id change) (other.modifySource id change) := by
  obtain ⟨canvas, runtime, version, rfl⟩ := alike
  exact ⟨canvas, runtime, _, rfl⟩

end

theorem Alike.foldl
    {Entry : Type}
    {load : SceneGraph → Entry → SceneGraph}
    (loads : ∀ {graph other} entry, Alike first second graph other →
      Alike first second (load graph entry) (load other entry))
    (entries : List Entry)
    (alike : Alike first second graph other) :
    Alike first second (entries.foldl load graph) (entries.foldl load other) := by
  induction entries generalizing graph other with
  | nil => exact alike
  | cons entry rest ih => exact ih (loads entry alike)

theorem Alike.addFilter
    (alike : Alike first second graph other)
    (sourceId : CStr)
    (params : FilterCreateParams) :
    Alike first second (graph.addFilter (some sourceId) (some params)).2
      (other.addFilter (some sourceId) (some params)).2 := by
  obtain ⟨canvas, runtime, version, rfl⟩ := alike
  unfold SceneGraph.addFilter SceneGraph.editSourceFilters SceneGraph.getSource
  dsimp only [Option.bind_some]
  cases params.type with
  | none => exact ⟨canvas, runtime, _, rfl⟩
  | some type =>
      dsimp only
      cases graph.sources.lookup sourceId with
      | none => exact ⟨canvas, runtime, _, rfl⟩
      | some source =>
          dsimp only
          cases filterArrayAdd type params source.filters with
          | error code => exact ⟨canvas, runtime, _, rfl⟩
          | ok filters => exact ⟨canvas, runtime, _, rfl⟩

theorem Alike.addSceneFilter
    (alike : Alike first second graph other)
    (sceneId : CStr)
    (params : FilterCreateParams) :
    Alike first second (graph.addSceneFilter (some sceneId) (some params)).2
      (other.addSceneFilter (some sceneId) (some params)).2 := by
  obtain ⟨canvas, runtime, version, rfl⟩ := alike
  unfold SceneGraph.addSceneFilter SceneGraph.editSceneFilters SceneGraph.getScene
  dsimp only [Option.bind_some]
  cases params.type with
  | none => exact ⟨canvas, runtime, _, rfl⟩
  | some type =>
      dsimp only
      cases graph.scenes.lookup sceneId with
      | none => exact ⟨canvas, runtime, _, rfl⟩
      | some scene =>
          dsimp only
          cases filterArrayAdd type params scene.filters with
          | error code => exact ⟨canvas, runtime, _, rfl⟩
          | ok filters => exact ⟨canvas, runtime, _, rfl⟩

theorem Alike.loadFilterArrayForSource
    (alike : Alike first second graph other)
    (sourceId : CStr)
    (filters : Option CJson)
    (onlyIfEmpty : Bool) :
    Alike first second (Config.loadFilterArrayForSource graph sourceId filters onlyIfEmpty)
      (Config.loadFilterArrayForSource other sourceId filters onlyIfEmpty) := by
  have folded := alike.foldl (fun filter alike => alike.addFilter sourceId (filterParams filter))
    (CJson.arrayItems filters)
  obtain ⟨_, _, version, same⟩ := id alike
  have sources : other.getSource sourceId = graph.getSource sourceId := by
    rw [same]
    rfl
  unfold Config.loadFilterArrayForSource
  rw [sources]
  cases graph.getSource sourceId with
  | none => exact alike
  | some source =>
      dsimp only
      split
      · exact alike
      · exact folded

/-- An answer decides in both graphs what follows a created entry. -/
theorem AnswersAlike.elim
    {key : Option CStr}
    {result again : SbsResult × SceneGraph}
    {load : CStr → SceneGraph → SceneGraph} :
    AnswersAlike first second result again →
      (∀ id graph other, Alike first second graph other →
        Alike first second (load id graph) (load id other)) →
      Alike first second
        (match key, result with
          | some id, (.ok, graph) => load id graph
          | _, (_, graph) => graph)
        (match key, again with
          | some id, (.ok, graph) => load id graph
          | _, (_, graph) => graph) := by
  intro answers loads
  obtain ⟨code, graph⟩ := result
  obtain ⟨otherCode, other⟩ := again
  obtain ⟨same, alike⟩ := answers
  dsimp only at same alike
  subst same
  cases key with
  | none => exact alike
  | some id =>
      cases code with
      | ok => exact loads id _ _ alike
      | _ => exact alike

theorem Alike.loadSource
    (alike : Alike first second graph other)
    (key : Option CStr)
    (entry : CJson)
    (kind : SourceKind) :
    Alike first second (Config.loadSource graph key entry kind)
      (Config.loadSource other key entry kind) := by
  refine (AnswersAlike.createSource alike _).elim fun id _ _ alike => ?_
  apply Alike.modifySource
  apply Alike.loadFilterArrayForSource
  apply Alike.modifySource
  split
  · exact alike.modifySource _ _
  · exact alike

theorem AnswersAlike.loadSources
    (alike : Alike first second graph other)
    (entries : List (Option CStr × CJson)) :
    AnswersAlike first second (Config.loadSources graph entries)
      (Config.loadSources other entries) := by
  induction entries generalizing graph other with
  | nil => exact ⟨rfl, alike⟩
  | cons entry rest ih =>
      unfold Config.loadSources
      split
      · exact ⟨rfl, alike⟩
      · exact ih (alike.loadSource _ _ _)

theorem Alike.loadItem
    (alike : Alike first second graph other)
    (sceneId : CStr)
    (item : CJson) :
    Alike first second (Config.loadItem sceneId graph item)
      (Config.loadItem sceneId other item) :=
  (AnswersAlike.addItem alike _ _).elim fun _ _ _ alike =>
    alike.loadFilterArrayForSource _ _ _

theorem Alike.loadScene
    (entry : Option CStr × CJson)
    (alike : Alike first second graph other) :
    Alike first second (Config.loadScene graph entry) (Config.loadScene other entry) := by
  refine (AnswersAlike.createScene alike _).elim fun id _ _ alike => ?_
  apply Alike.foldl fun item alike => alike.loadItem id item
  exact alike.foldl (fun filter alike => alike.addSceneFilter id (filterParams filter)) _

theorem Alike.loadTransition
    (entry : Option CStr × CJson)
    (alike : Alike first second graph other) :
    Alike first second (Config.loadTransition graph entry)
      (Config.loadTransition other entry) :=
  (AnswersAlike.createTransition alike _).graph

theorem Alike.loadOutput
    (entry : Option CStr × CJson)
    (alike : Alike first second graph other) :
    Alike first second (Config.loadOutput graph entry) (Config.loadOutput other entry) := by
  refine (AnswersAlike.createOutput alike _).elim fun id _ _ alike => ?_
  obtain ⟨canvas, runtime, version, rfl⟩ := alike
  exact ⟨canvas, runtime, _, rfl⟩

theorem Alike.loadRest
    (alike : Alike first second graph other)
    (bundle : CJson) :
    Alike first second (Config.loadRest graph bundle) (Config.loadRest other bundle) := by
  have scenes := alike.foldl Alike.loadScene
    (CJson.children (CJson.getObjectItem (some bundle) "scenes"))
  have transitions := scenes.foldl Alike.loadTransition
    (CJson.children (CJson.getObjectItem (some bundle) "transitions"))
  obtain ⟨canvas, runtime, version, same⟩ := transitions.foldl Alike.loadOutput
    (CJson.children (CJson.getObjectItem (some bundle) "output_groups"))
  refine ⟨canvas, runtime, version, ?_⟩
  unfold Config.loadRest
  dsimp only
  rw [same]
  rfl

/-- The graph from which loading starts. -/
def clearedFor (graph : SceneGraph) (bundle : CJson) : SceneGraph :=
  { clearSceneGraph graph with
    canvas := loadCanvas (CJson.getObjectItem (some bundle) "canvas") }

/-- The loader reads nothing of the graph into which it loads, and leaves the canvas that it
reads and the rest of the transition runtime. -/
theorem applySceneGraphBundle_alike
    (graph other : SceneGraph)
    {bundle : CJson}
    (isObject : CJson.isObject (some bundle) = true) :
    AnswersAlike (clearedFor graph bundle) (clearedFor other bundle)
      (applySceneGraphBundle graph bundle) (applySceneGraphBundle other bundle) := by
  have loaded := AnswersAlike.loadSources
    (show Alike (clearedFor graph bundle) (clearedFor other bundle) (clearedFor graph bundle)
      (clearedFor other bundle) from ⟨rfl, rfl, _, rfl⟩)
    (CJson.children (CJson.getObjectItem (some bundle) "sources"))
  unfold applySceneGraphBundle
  rw [isObject]
  dsimp only [Bool.not_true]
  rw [if_neg (by decide), if_neg (by decide)]
  rcases first : loadSources (clearedFor graph bundle) _ with ⟨code, loadedGraph⟩
  rcases second : loadSources (clearedFor other bundle) _ with ⟨otherCode, loadedOther⟩
  rw [first, second] at loaded
  unfold clearedFor at first second
  rw [first, second]
  obtain ⟨same, alike⟩ := loaded
  dsimp only at same alike
  subst same
  cases code with
  | ok => exact ⟨rfl, alike.loadRest bundle⟩
  | _ => exact ⟨rfl, alike⟩

/-- The loader leaves the canvas that it reads, also where it gives up. -/
theorem canvas_applySceneGraphBundle
    (graph : SceneGraph)
    {bundle : CJson}
    (isObject : CJson.isObject (some bundle) = true) :
    (applySceneGraphBundle graph bundle).2.canvas =
      loadCanvas (CJson.getObjectItem (some bundle) "canvas") :=
  (applySceneGraphBundle_alike graph graph isObject).graph.canvas

theorem canvas_seedDefaultGraph
    (graph : SceneGraph) :
    (seedDefaultGraph graph).canvas = graph.canvas := by
  unfold seedDefaultGraph
  dsimp only
  refine (canvas_apply _ (.addItem (some "scene-main") (some _))).trans ?_
  refine (canvas_apply _ (.createScene (some _))).trans ?_
  exact canvas_apply graph (.createSource (some _))

end Config
end SbsServer
