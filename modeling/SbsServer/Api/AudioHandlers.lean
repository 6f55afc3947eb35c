import SbsServer.CLib.System
import SbsServer.Common.CJson
import SbsServer.Config.Lifetime
import SbsServer.Engine.AudioMixer

/-!
# The mixer under its handlers

`audio.setSource` changes the binding of a source and its branch, `audio.setSceneItem`
the binding of an item and then every branch.  A branch of a source that the active
scene shows follows the last visible item; `audio.setSource` lets it follow the source
until the next scene change.
-/

namespace SbsServer
namespace Api

open CLib SceneGraph Engine AudioMixer

/-- `apply_audio_params` -/
def applyAudioParams
    (audio : AudioBinding)
    (params : Option CJson)
    (defaultEnabled : Bool) : AudioBinding where
  enabled := CJson.boolean params "enabled" defaultEnabled
  device := (CJson.str params "device").or audio.device
  volume := CJson.num params "volume" (audioBindingVolume audio)
  leftGain := CJson.num params "left_gain" (MasterAudio.gainOrOne audio.leftGain)
  rightGain := CJson.num params "right_gain" (MasterAudio.gainOrOne audio.rightGain)
  delayMs :=
    match CJson.getObjectItem params "delay_ms" with
    | some (.number delay) => delay.toInt32
    | _ => audio.delayMs
  eqBands := Vector.ofFn fun index =>
    match (CJson.arrayItems (CJson.getObjectItem params "eq_bands"))[index.val]? with
    | some (.number band) => band
    | _ => getElem audio.eqBands index.val (AudioBinding.band_lt index)
  mute := CJson.boolean params "mute" audio.mute
  monitor := CJson.boolean params "monitor" audio.monitor

/-- A graph with the mixer that plays it. -/
structure AudioServer where
  graph : SceneGraph
  mixer : AudioMixer

namespace AudioServer

/-- The source that a request names, with its id. -/
def requestedSource
    (server : AudioServer)
    (params : Option CJson) : Option (CStr × SourceState) := do
  let id ← CJson.str params "source_id"
  let source ← server.graph.getSource id
  return (id, source)

/-- The binding that `audio.setSource` gives a source. -/
def sourceBinding
    (source : SourceState)
    (params : Option CJson) : AudioBinding :=
  let audio := applyAudioParams source.audio params true
  if audio.enabled then { audio with device := some (audio.device.getD "hw:0,2") } else audio

/-- `sbs_api_handle_audio_set_source` -/
def setSource
    (server : AudioServer)
    (freed : FreedSceneId)
    (params : Option CJson) : SbsResult × AudioServer :=
  match server.requestedSource params with
  | none => (.notFound, server)
  | some (id, source) =>
      let binding := sourceBinding source params
      let graph := server.graph.modifySource id fun source => { source with audio := binding }
      (.ok, { graph := graph, mixer := server.mixer.setSourceState graph freed id binding })

/-- The item that a request names, with the ids of its scene and its own. -/
def requestedItem
    (server : AudioServer)
    (params : Option CJson) : Option (CStr × CStr × SceneItemState) := do
  let sceneId ← CJson.str params "scene_id"
  let itemId ← CJson.str params "item_id"
  let scene ← server.graph.getScene sceneId
  let item ← scene.findItem itemId
  return (sceneId, itemId, item)

/-- The binding that `audio.setSceneItem` gives an item. -/
def itemBinding
    (item : SceneItemState)
    (params : Option CJson) : AudioBinding :=
  let audio := applyAudioParams { item.audio with device := none } params item.audio.enabled
  { audio with device := audio.device.or (some (item.audio.device.getD "hw:0,2")) }

/-- `sbs_api_server_refresh_scene` -/
def refreshScene
    (server : AudioServer)
    (now : Int64) : AudioServer :=
  let graph := server.graph.updateTransitionRuntime now
  { graph := graph, mixer := server.mixer.onSceneChange graph graph.activeSceneId }

/-- `sbs_api_handle_audio_set_scene_item` -/
def setSceneItem
    (server : AudioServer)
    (params : Option CJson)
    (now : Int64) : SbsResult × AudioServer :=
  match server.requestedItem params with
  | none => (.notFound, server)
  | some (sceneId, itemId, item) =>
      let binding := itemBinding item params
      match server.graph.updateItemAudio (some sceneId) (some itemId) (some binding) with
      | (.ok, graph) =>
          let item := { item with audio := audioBindingCopy (some binding) }
          match server.mixer.setSceneItemState graph sceneId item with
          | (.ok, mixer) => (.ok, refreshScene { graph := graph, mixer := mixer } now)
          | (code, mixer) => (code, { graph := graph, mixer := mixer })
      | (code, graph) => (code, { server with graph := graph })

end AudioServer

/-- A call that reaches the mixer. -/
inductive AudioEvent
  /-- `sbs_audio_mixer_on_scene_change` for the active scene of a graph, however it was
  changed. -/
  | sceneChange (graph : SceneGraph)
  /-- `audio.setSource` -/
  | setSource (freed : FreedSceneId) (params : Option CJson)
  /-- `audio.setSceneItem` -/
  | setSceneItem (params : Option CJson) (now : Int64)

namespace AudioServer

variable {server : AudioServer}

/-- A scene change for the active scene. -/
def recomputed (server : AudioServer) : AudioServer :=
  { server with mixer := server.mixer.onSceneChange server.graph server.graph.activeSceneId }

/-- The server after an event. -/
def next (server : AudioServer) : AudioEvent → AudioServer
  | .sceneChange graph => recomputed { server with graph := graph }
  | .setSource freed params => (server.setSource freed params).2
  | .setSceneItem params now => (server.setSceneItem params now).2

/-- The runs of a mixer, which start with a scene change. -/
def audioSystem : System AudioServer AudioEvent where
  initial server := ∃ start : AudioServer, server = start.recomputed
  step server event after := after = server.next event

/-- The items of the active scene. -/
def items (server : AudioServer) : List SceneItemState :=
  activeItems server.graph server.graph.activeSceneId

/-- A scene change for the active scene changes no branch. -/
def Settled (server : AudioServer) : Prop :=
  ∀ id, server.recomputed.mixer.branches.lookup id = server.mixer.branches.lookup id

/-- The branch of a source is heard. -/
def Audible
    (server : AudioServer)
    (id : CStr) : Prop :=
  ∃ branch ∈ server.mixer.branches.lookup id, branch.effectiveMute = false

/-- A visible item of the active scene uses a source with audio that is enabled and not
muted. -/
def Heard
    (server : AudioServer)
    (id : CStr) : Prop :=
  ∃ item ∈ server.items, shows id item = true ∧ item.audio.enabled = true ∧
    item.audio.mute = false

/-- A source that should be heard has a branch, and the last visible item agrees. -/
def LastItemAgrees
    (server : AudioServer)
    (id : CStr) : Prop :=
  server.Heard id →
    server.mixer.branches.contains id = true ∧
      ∃ shown ∈ neededBinding server.items id, shown.enabled = true ∧ shown.mute = false

/-- A new binding of a source agrees with the branch, which an enabled source has: of a source
that is shown, with the last visible item, and of another one, with what a scene change would
take from it. -/
def BindingAgrees
    (server : AudioServer)
    (id : CStr)
    (old new : AudioBinding) : Prop :=
  (new.enabled = true → server.mixer.branches.contains id = true) ∧
  (∀ shown ∈ neededBinding server.items id,
    if new.enabled then
      new.monitor = shown.monitor ∧ new.mute = shown.mute ∧
        audioBindingVolume new = audioBindingVolume shown
    else server.mixer.branches.contains id = true → shown.mute = true) ∧
  (neededBinding server.items id = none →
    new.enabled = false → server.mixer.branches.contains id = true →
      new.mute = true ∧ new.monitor = old.monitor ∧
        audioBindingVolume new = audioBindingVolume old)

instance
    (server : AudioServer)
    (id : CStr)
    (old new : AudioBinding) : Decidable (server.BindingAgrees id old new) :=
  inferInstanceAs (Decidable
    ((_ → _) ∧ (∀ shown ∈ neededBinding server.items id, ite _ _ _) ∧ (_ → _ → _ → _)))

/-- A request agrees with the items of the active scene, and names an item whose source
exists. -/
def RequestAgrees (server : AudioServer) : AudioEvent → Prop
  | .sceneChange _ => True
  | .setSource _ params =>
      ∀ requested ∈ server.requestedSource params,
        server.BindingAgrees requested.1 requested.2.audio (sourceBinding requested.2 params)
  | .setSceneItem params _ =>
      ∀ requested ∈ server.requestedItem params,
        (server.graph.getSource requested.2.2.sourceId).isSome = true

/-- A branch as a scene change computes it. -/
def computedBranch
    (server : AudioServer)
    (id : CStr) : AudioBranch :=
  sceneBranch server.graph (neededBinding server.items id) id

theorem settled_iff :
    server.Settled ↔
      ∀ id,
        (server.items.any (addsBranch server.graph id) = true →
          server.mixer.branches.contains id = true) ∧
        ∀ branch, server.mixer.branches.lookup id = some branch →
          branch = server.computedBranch id := by
  unfold Settled
  apply forall_congr'
  intro id
  have recomputes : server.recomputed.mixer.branches.lookup id =
      if (server.mixer.branches.contains id || server.items.any (addsBranch server.graph id)) =
          true then some (server.computedBranch id) else none :=
    lookup_onSceneChange server.mixer server.graph server.graph.activeSceneId id
  rw [recomputes]
  cases found : server.mixer.branches.lookup id with
  | none =>
      rw [HashTable.contains_eq_false.mpr found, Bool.false_or]
      simp
  | some branch =>
      rw [HashTable.contains_eq_true.mpr ⟨branch, found⟩, Bool.true_or, if_pos rfl]
      constructor
      · intro same
        refine ⟨fun _ => rfl, ?_⟩
        rintro _ ⟨⟩
        exact (Option.some.inj same).symm
      · rintro ⟨-, computed⟩
        rw [← computed branch rfl]

/-- After a scene change another one changes nothing. -/
theorem settled_recomputed
    (server : AudioServer) :
    server.recomputed.Settled := by
  rw [settled_iff]
  intro id
  have recomputes : server.recomputed.mixer.branches.lookup id =
      if (server.mixer.branches.contains id || server.items.any (addsBranch server.graph id)) =
          true then some (server.computedBranch id) else none :=
    lookup_onSceneChange server.mixer server.graph server.graph.activeSceneId id
  constructor
  · intro adds
    have present : (server.mixer.branches.contains id ||
        server.items.any (addsBranch server.graph id)) = true := by
      rw [show server.items.any (addsBranch server.graph id) = true from adds, Bool.or_true]
    rw [if_pos present] at recomputes
    exact HashTable.contains_eq_true.mpr ⟨_, recomputes⟩
  · intro branch found
    rw [recomputes] at found
    split at found
    · exact (Option.some.inj found).symm
    · cases found

/-- An item of an existing source is accepted. -/
theorem setSceneItemState_ok
    (mixer : AudioMixer)
    (sceneId : CStr)
    (item : SceneItemState)
    {graph : SceneGraph}
    {source : SourceState}
    (found : graph.getSource item.sourceId = some source) :
    ∃ updated, mixer.setSceneItemState graph sceneId item = (.ok, updated) := by
  unfold setSceneItemState
  rw [found]
  dsimp only
  split
  · exact ⟨_, rfl⟩
  · exact ⟨_, rfl⟩

/-! ## `audio.setSource` -/

section SetSource

variable {id : CStr} {source : SourceState}

/-- The graph with another binding of a source. -/
def withSourceAudio
    (graph : SceneGraph)
    (id : CStr)
    (binding : AudioBinding) : SceneGraph :=
  graph.modifySource id fun source => { source with audio := binding }

theorem getSource_withSourceAudio
    (graph : SceneGraph)
    (id other : CStr)
    (binding : AudioBinding) :
    (withSourceAudio graph id binding).getSource other =
      if other = id then (graph.getSource other).map fun source => { source with audio := binding }
      else graph.getSource other :=
  HashTable.lookup_modify _ _ _ _

/-- A new binding adds no branch for an item. -/
theorem addsBranch_withSourceAudio
    (graph : SceneGraph)
    (id : CStr)
    (binding : AudioBinding) :
    addsBranch (withSourceAudio graph id binding) = addsBranch graph := by
  funext other item
  have same : ((withSourceAudio graph id binding).getSource other).isSome =
      (graph.getSource other).isSome := by
    rw [getSource_withSourceAudio]
    split
    · exact Option.isSome_map
    · rfl
  unfold addsBranch
  rw [same]

/-- Branches of other sources, and of sources that are shown, do not follow the binding. -/
theorem sceneBranch_withSourceAudio
    (graph : SceneGraph)
    (id other : CStr)
    (binding : AudioBinding)
    (shown : Option AudioBinding)
    (leaves : other ≠ id ∨ shown.isSome = true) :
    sceneBranch (withSourceAudio graph id binding) shown other =
      sceneBranch graph shown other := by
  cases shown with
  | some shown => rfl
  | none =>
      obtain different | isSome := leaves
      · unfold sceneBranch
        rw [getSource_withSourceAudio, if_neg different]
      · cases isSome

/-- The branch of a source that is not shown follows its binding. -/
theorem sceneBranch_withSourceAudio_self
    {graph : SceneGraph}
    (found : graph.getSource id = some source)
    (binding : AudioBinding) :
    sceneBranch (withSourceAudio graph id binding) none id = {
      monitor := binding.monitor
      activeInScene := false
      effectiveMute := true
      muted := binding.mute
      volume := audioBindingVolume binding } := by
  unfold sceneBranch
  rw [getSource_withSourceAudio, if_pos rfl, found]
  rfl

/-- A server whose branches other than one are computed, and that one as well. -/
theorem settled_of_branches
    {graph : SceneGraph}
    {mixer : AudioMixer}
    (settled : server.Settled)
    (sameItems : activeItems graph graph.activeSceneId = server.items)
    (adds : addsBranch graph = addsBranch server.graph)
    (present : ∀ other, server.mixer.branches.contains other = true →
      mixer.branches.contains other = true)
    (computed : ∀ other branch, mixer.branches.lookup other = some branch →
      branch = sceneBranch graph (neededBinding server.items other) other) :
    Settled { graph := graph, mixer := mixer } := by
  rw [settled_iff] at settled ⊢
  intro other
  unfold items computedBranch items at *
  dsimp only at *
  rw [sameItems, adds]
  exact ⟨fun added => present other ((settled other).1 added), computed other⟩

theorem activeInScene_sceneBranch
    (graph : SceneGraph)
    (shown : Option AudioBinding)
    (id : CStr) :
    (sceneBranch graph shown id).activeInScene = (shown.map (·.enabled)).getD false := by
  cases shown with
  | none => rfl
  | some shown => rfl

variable {binding : AudioBinding}

/-- A branch that follows an enabled binding is as a scene change computes it. -/
theorem followSource_eq
    {branch : AudioBranch}
    (found : server.graph.getSource id = some source)
    (enabled : binding.enabled = true)
    (agrees : server.BindingAgrees id source.audio binding)
    (active : branch.activeInScene =
      ((neededBinding server.items id).map (·.enabled)).getD false) :
    followSource binding branch =
      sceneBranch (withSourceAudio server.graph id binding) (neededBinding server.items id) id := by
  unfold followSource
  rw [active]
  cases isShown : neededBinding server.items id with
  | none =>
      rw [sceneBranch_withSourceAudio_self found]
      simp
  | some shown =>
      have agreesShown := agrees.2.1 shown isShown
      rw [if_pos enabled] at agreesShown
      obtain ⟨monitor, mute, volume⟩ := agreesShown
      unfold sceneBranch
      simp only [Option.map_some, Option.getD_some, monitor, mute, volume, Bool.or_comm]

/-- A branch that a disabled binding mutes is as a scene change computes it. -/
theorem muted_eq
    {branch : AudioBranch}
    (found : server.graph.getSource id = some source)
    (disabled : binding.enabled = false)
    (agrees : server.BindingAgrees id source.audio binding)
    (present : server.mixer.branches.contains id = true)
    (computed : branch = server.computedBranch id) :
    { branch with muted := true, effectiveMute := true } =
      sceneBranch (withSourceAudio server.graph id binding) (neededBinding server.items id) id := by
  unfold computedBranch at computed
  rw [computed]
  cases isShown : neededBinding server.items id with
  | none =>
      obtain ⟨mute, monitor, volume⟩ := agrees.2.2 isShown disabled present
      rw [sceneBranch_withSourceAudio_self found, mute, monitor, volume]
      unfold sceneBranch
      rw [found]
      rfl
  | some shown =>
      have agreesShown := agrees.2.1 shown isShown
      rw [disabled, if_neg Bool.false_ne_true] at agreesShown
      unfold sceneBranch
      dsimp only
      rw [agreesShown present, Bool.or_true]

/-- A source has a new binding, and its branch is as a scene change computes it. -/
theorem settled_modify
    (settled : server.Settled)
    {change : AudioBranch → AudioBranch}
    (computed : ∀ branch, server.mixer.branches.lookup id = some branch →
      branch = server.computedBranch id → change branch =
        sceneBranch (withSourceAudio server.graph id binding)
          (neededBinding server.items id) id) :
    Settled {
      graph := withSourceAudio server.graph id binding
      mixer := { server.mixer with branches := server.mixer.branches.modify id change } } := by
  have branches := settled_iff.mp settled
  refine settled_of_branches settled rfl (addsBranch_withSourceAudio _ _ _) ?_ ?_
  · intro other present
    exact (HashTable.contains_modify _ _ _ _).trans present
  · intro other branch isBranch
    rw [HashTable.lookup_modify] at isBranch
    split at isBranch
    next same =>
      subst same
      obtain ⟨old, isOld, rfl⟩ := Option.map_eq_some_iff.mp isBranch
      exact computed old isOld ((branches other).2 old isOld)
    next different =>
      rw [(branches other).2 branch isBranch]
      exact (sceneBranch_withSourceAudio _ _ _ _ _ (.inl different)).symm

end SetSource

/-- The invariant: a scene change changes nothing, and the mixer knows the active scene. -/
structure Follows (server : AudioServer) : Prop where
  settled : server.Settled
  synced : server.mixer.activeSceneId = server.graph.activeSceneId

theorem follows_recomputed
    (server : AudioServer) :
    server.recomputed.Follows :=
  ⟨settled_recomputed server, rfl⟩

/-- `audio.setSource` -/
theorem Follows.setSource
    (follows : server.Follows)
    {freed : FreedSceneId}
    {params : Option CJson}
    (agrees : server.RequestAgrees (.setSource freed params)) :
    (server.setSource freed params).2.Follows := by
  unfold AudioServer.setSource
  split
  next => exact follows
  next id source requested =>
    have found : server.graph.getSource id = some source := by
      unfold requestedSource at requested
      simp only [Option.bind_eq_bind, Option.bind_eq_some_iff, pure, Option.some.injEq,
        Prod.mk.injEq] at requested
      obtain ⟨_, _, _, found, rfl, rfl⟩ := requested
      exact found
    have bindingAgrees := agrees _ requested
    dsimp only at bindingAgrees ⊢
    generalize sourceBinding source params = binding at bindingAgrees ⊢
    unfold setSourceState
    cases enabled : binding.enabled with
    | false =>
        refine ⟨settled_modify follows.settled ?_, follows.synced⟩
        intro branch isBranch computed
        exact muted_eq found enabled bindingAgrees
          (HashTable.contains_eq_true.mpr ⟨branch, isBranch⟩) computed
    | true =>
        unfold ensureBranch
        rw [bindingAgrees.1 enabled, if_pos rfl]
        refine ⟨settled_modify follows.settled ?_, follows.synced⟩
        intro branch isBranch computed
        apply followSource_eq found enabled bindingAgrees
        rw [computed]
        exact activeInScene_sceneBranch _ _ _

/-- `audio.setSceneItem` -/
theorem Follows.setSceneItem
    (follows : server.Follows)
    {params : Option CJson}
    {now : Int64}
    (agrees : server.RequestAgrees (.setSceneItem params now)) :
    (server.setSceneItem params now).2.Follows := by
  unfold AudioServer.setSceneItem
  split
  next => exact follows
  next sceneId itemId item requested =>
    have hasSource := agrees _ requested
    dsimp only at hasSource ⊢
    generalize itemBinding item params = binding
    unfold updateItemAudio
    dsimp only
    cases (server.graph.getScene sceneId).bind (·.findItem itemId) with
    | none => exact follows
    | some _ =>
        dsimp only
        obtain ⟨source, found⟩ := Option.isSome_iff_exists.mp hasSource
        have kept : ((server.graph.modifyScene sceneId fun scene =>
            scene.modifyItem itemId
              ({ · with audio := audioBindingCopy (some binding) })).bumpVersion).getSource
                item.sourceId = some source :=
          found
        obtain ⟨mixer, updated⟩ := setSceneItemState_ok server.mixer sceneId
          { item with audio := audioBindingCopy (some binding) } kept
        rw [updated]
        exact follows_recomputed {
          graph := updateTransitionRuntime _ now
          mixer := mixer }

/-- A branch is heard after a scene change if the last visible item lets it be heard. -/
theorem Settled.audible_iff
    (settled : server.Settled)
    (id : CStr) :
    server.recomputed.Audible id ↔
      server.mixer.branches.contains id = true ∧
        ∃ shown ∈ neededBinding server.items id, shown.enabled = true ∧ shown.mute = false := by
  have computed : ∀ branch, server.mixer.branches.lookup id = some branch →
      branch = server.computedBranch id :=
    (settled_iff.mp settled id).2
  have mute : (server.computedBranch id).effectiveMute = false ↔
      ∃ shown ∈ neededBinding server.items id, shown.enabled = true ∧ shown.mute = false := by
    unfold computedBranch sceneBranch
    cases neededBinding server.items id with
    | none => simp
    | some shown => simp
  unfold Audible
  rw [settled id, ← mute]
  constructor
  · rintro ⟨branch, found, heard⟩
    rw [computed branch found] at heard
    exact ⟨HashTable.contains_eq_true.mpr ⟨branch, found⟩, heard⟩
  · rintro ⟨present, heard⟩
    obtain ⟨branch, found⟩ := HashTable.contains_eq_true.mp present
    rw [← computed branch found] at heard
    exact ⟨branch, found, heard⟩

/-- The last visible item is an item. -/
theorem heard_of_shown
    {id : CStr}
    (lets : ∃ shown ∈ neededBinding server.items id,
      shown.enabled = true ∧ shown.mute = false) :
    server.Heard id := by
  obtain ⟨shown, isShown, enabled, mute⟩ := lets
  obtain ⟨item, isLast, rfl⟩ := Option.map_eq_some_iff.mp isShown
  obtain ⟨member, shows⟩ := List.mem_filter.mp (List.mem_of_getLast? isLast)
  exact ⟨item, member, shows, enabled, mute⟩

/-- The incremental updates agree with a scene change, and what is heard is decided by the last
visible item of each source. -/
theorem updates_agree
    (reachable : audioSystem.ReachableWhen RequestAgrees server) :
    server.Settled ∧
      ∀ id, (server.recomputed.Audible id ↔ server.Heard id) ↔ server.LastItemAgrees id := by
  have follows : server.Follows := by
    refine @System.ReachableWhen.invariant _ _ _ _ Follows ?_ ?_ _ reachable
    · rintro _ ⟨start, rfl⟩
      exact follows_recomputed start
    · rintro before event _ follows agrees rfl
      cases event with
      | sceneChange graph => exact follows_recomputed _
      | setSource freed params => exact follows.setSource agrees
      | setSceneItem params now => exact follows.setSceneItem agrees
  refine ⟨follows.settled, fun id => ?_⟩
  have audible := follows.settled.audible_iff id
  constructor
  · intro agrees heard
    exact audible.mp (agrees.mpr heard)
  · intro agrees
    exact ⟨fun isAudible => heard_of_shown (audible.mp isAudible).2,
      fun heard => audible.mpr (agrees heard)⟩

instance (server : AudioServer) (id : CStr) : Decidable (server.Audible id) :=
  inferInstanceAs (Decidable (∃ branch ∈ server.mixer.branches.lookup id, _ = _))

instance (server : AudioServer) (id : CStr) : Decidable (server.Heard id) :=
  inferInstanceAs (Decidable (∃ item ∈ server.items, _ ∧ _ ∧ _))

/-- The mixer that has started with the default graph. -/
def startedMixer : AudioServer :=
  recomputed { graph := Config.seedDefaultGraph newDefault, mixer := .new }

/-- A request about the default source. -/
def muteSource (mute : Bool) : Option CJson :=
  some (.object [("source_id", .string "default-src"), ("mute", .bool mute)])

/-- A request about the default item. -/
def muteItem (mute : Bool) : Option CJson :=
  some (.object [("scene_id", .string "scene-main"), ("item_id", .string "item-default"),
    ("mute", .bool mute)])

theorem reachable_startedMixer
    {condition : AudioServer → AudioEvent → Prop} :
    audioSystem.ReachableWhen condition startedMixer :=
  .initial ⟨_, rfl⟩

/-- A freed id that nothing has overwritten. -/
def keptSceneId : FreedSceneId where
  copied := "scene-main"
  searched := "scene-main"

theorem updates_agree_muted :
    let server := (startedMixer.next (.setSource keptSceneId (muteSource false))).next
      (.setSceneItem (muteItem true) 0)
    server.Settled ∧
      ∀ id, (server.recomputed.Audible id ↔ server.Heard id) ↔ server.LastItemAgrees id := by
  apply updates_agree
  have agrees : startedMixer.RequestAgrees (.setSource keptSceneId (muteSource false)) := by
    intro requested isRequested
    have computed : (startedMixer.requestedSource (muteSource false)).all (fun requested =>
        decide (startedMixer.BindingAgrees requested.1 requested.2.audio
          (sourceBinding requested.2 (muteSource false)))) = true := by
      decide +kernel
    rw [isRequested] at computed
    exact of_decide_eq_true computed
  let unmuted := startedMixer.next (.setSource keptSceneId (muteSource false))
  have hasSource : unmuted.RequestAgrees (.setSceneItem (muteItem true) 0) := by
    intro requested isRequested
    have computed : (unmuted.requestedItem (muteItem true)).all (fun requested =>
        (unmuted.graph.getSource requested.2.2.sourceId).isSome) = true := by
      decide +kernel
    rw [isRequested] at computed
    exact computed
  exact .step (.step reachable_startedMixer agrees rfl) hasSource rfl

/-- A graph in which a second item of the source is muted. -/
def twoItemGraph : SceneGraph :=
  ((Config.seedDefaultGraph newDefault).addItem (some "scene-main") (some {
    id := some "item-muted"
    sourceId := some "default-src"
    visible := true
    locked := false
    zOrder := 1
    transform := {
      positionX := 0
      positionY := 0
      width := 640
      height := 360
      cropTop := 0
      cropBottom := 0
      cropLeft := 0
      cropRight := 0
      rotationDeg := .finite 0
      flipHorizontal := false
      flipVertical := false
      boundsType := none
      alignment := none
      opacity := .finite 1 }
    audio := some { AudioBinding.zero with enabled := true, mute := true } })).2

/-- A graph with a second source, which no item shows. -/
def twoSourceGraph : SceneGraph :=
  ((Config.seedDefaultGraph newDefault).createSource (some {
    id := some "microphone"
    name := some "Microphone"
    kind := .videotestsrc
    enabled := true
    keepAlive := false
    config := none })).2

/-- A freed id that was overwritten. -/
def lostSceneId : FreedSceneId where
  copied := ""
  searched := ""

/-- A request that enables the second source. -/
def enableMicrophone : Option CJson :=
  some (.object [("source_id", .string "microphone"), ("enabled", .bool true)])

/-- A source whose item is muted is heard again after `audio.setSource`, a source with two
items is not heard although one of them lets it, and a source that is enabled without a branch
can make the mixer forget the active scene. -/
theorem updates_disagree :
    (∃ server, audioSystem.Reachable server ∧ server.Audible "default-src" ∧
      ¬ server.Heard "default-src" ∧ ¬ server.Settled) ∧
    (∃ server, audioSystem.Reachable server ∧
      server.Heard "default-src" ∧ ¬ server.recomputed.Audible "default-src") ∧
    ∃ server, audioSystem.Reachable server ∧ server.Heard "default-src" ∧
      ¬ server.Audible "default-src" ∧ server.recomputed.Audible "default-src" := by
  refine ⟨?_, ?_, ?_⟩
  · refine ⟨(startedMixer.next (.setSceneItem (muteItem true) 0)).next
      (.setSource keptSceneId (muteSource false)),
      .step (.step reachable_startedMixer trivial rfl) trivial rfl, ?_⟩
    generalize isServer : (startedMixer.next (.setSceneItem (muteItem true) 0)).next
      (.setSource keptSceneId (muteSource false)) = server
    have computed : server.Audible "default-src" ∧ ¬ server.Heard "default-src" ∧
        ¬ server.recomputed.Audible "default-src" := by
      rw [← isServer]
      decide +kernel
    obtain ⟨audible, notHeard, silent⟩ := computed
    refine ⟨audible, notHeard, ?_⟩
    intro settled
    unfold Audible at audible silent
    rw [settled] at silent
    exact silent audible
  · refine ⟨startedMixer.next (.sceneChange twoItemGraph),
      .step reachable_startedMixer trivial rfl, ?_⟩
    decide +kernel
  · refine ⟨(startedMixer.next (.sceneChange twoSourceGraph)).next
      (.setSource lostSceneId enableMicrophone),
      .step (.step reachable_startedMixer trivial rfl) trivial rfl, ?_⟩
    decide +kernel

end AudioServer
end Api
end SbsServer
