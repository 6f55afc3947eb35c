import SbsServer.SceneGraph.Operations

/-!
# The audio mixer

A branch of the mixer plays one source.  `sbs_audio_mixer_on_scene_change` computes
every branch from the active scene; two setters change one branch.  A source that is
enabled without a branch makes the mixer read its scene id after it was freed: what it
reads is arbitrary.  The mixer is running and a branch can always be added; delays,
panorama and equalisers of the branches are not modelled.
-/

namespace SbsServer
namespace Engine

open CLib SceneGraph

/-- The master settings of a mixer. -/
structure MasterAudio where
  volume : Double
  mute : Bool
  leftGain : Double
  rightGain : Double
  eqBands : Vector Double 10
  deriving DecidableEq

namespace MasterAudio

/-- The settings of `sbs_audio_mixer_new`. -/
def new : MasterAudio where
  volume := .finite 1
  mute := false
  leftGain := .finite 1
  rightGain := .finite 1
  eqBands := Vector.replicate 10 (.finite 0)

/-- A gain, or one instead of a negative number. -/
def gainOrOne (gain : Double) : Double :=
  if gain.nonneg then gain else .finite 1

/-- What `sbs_audio_mixer_set_master` stores; without bands it leaves them. -/
def set
    (master : MasterAudio)
    (volume : Double)
    (mute : Bool)
    (leftGain rightGain : Double)
    (eqBands : Option (Vector Double 10)) : MasterAudio where
  volume := volume
  mute := mute
  leftGain := gainOrOne leftGain
  rightGain := gainOrOne rightGain
  eqBands := eqBands.getD master.eqBands

end MasterAudio

/-- `sbs_audio_branch_t`, with the `volume` of its volume element, whose `mute` is
`effective_mute`. -/
structure AudioBranch where
  monitor : Bool
  activeInScene : Bool
  effectiveMute : Bool
  muted : Bool
  volume : Double
  deriving DecidableEq

/-- `audio_binding_volume` -/
def audioBindingVolume (binding : AudioBinding) : Double :=
  if binding.volume.nonneg then binding.volume else .finite 1

/-- The branch of `add_branch_for_binding`. -/
def newBranch (binding : AudioBinding) : AudioBranch where
  monitor := binding.monitor
  activeInScene := true
  effectiveMute := binding.mute || !binding.enabled
  muted := binding.mute
  volume := audioBindingVolume binding

/-- A running mixer. -/
structure AudioMixer where
  master : MasterAudio
  activeSceneId : Option CStr
  branches : HashTable CStr AudioBranch

/-- What is read through `active_scene_id` after it was freed. -/
structure FreedSceneId where
  /-- `g_strdup (active_scene_id)` -/
  copied : CStr
  /-- The id that `sbs_scene_graph_get_scene` looks up. -/
  searched : CStr

namespace AudioMixer

/-- `sbs_audio_mixer_new` -/
def new : AudioMixer where
  master := .new
  activeSceneId := none
  branches := .empty

/-- The loop body for one item of the active scene.  A source has its id as its key. -/
def sceneChangeItem
    (graph : SceneGraph)
    (state : HashTable CStr AudioBinding × HashTable CStr AudioBranch)
    (item : SceneItemState) : HashTable CStr AudioBinding × HashTable CStr AudioBranch :=
  if !item.visible then state
  else
    let branches :=
      if (graph.getSource item.sourceId).isSome && item.audio.enabled &&
          item.audio.device.isSome && !state.2.contains item.sourceId then
        state.2.insert item.sourceId (newBranch item.audio)
      else state.2
    (state.1.insert item.sourceId item.audio, branches)

/-- The loop body for one branch, with the bindings that the scene needs. -/
def sceneBranch
    (graph : SceneGraph)
    (binding : Option AudioBinding)
    (sourceId : CStr) : AudioBranch :=
  match binding with
  | some binding => {
      monitor := binding.monitor
      activeInScene := binding.enabled
      effectiveMute := !binding.enabled || binding.mute
      muted := binding.mute
      volume := audioBindingVolume binding }
  | none =>
      let source := graph.getSource sourceId
      { monitor := (source.map (·.audio.monitor)).getD false
        activeInScene := false
        effectiveMute := true
        muted := (source.map (·.audio.mute)).getD true
        volume := (source.map fun source => audioBindingVolume source.audio).getD (.finite 1) }

/-- The items of the active scene. -/
def activeItems
    (graph : SceneGraph)
    (activeSceneId : Option CStr) : List SceneItemState :=
  ((activeSceneId.bind graph.getScene).map (·.items)).getD []

/-- `sbs_audio_mixer_on_scene_change` -/
def onSceneChange
    (mixer : AudioMixer)
    (graph : SceneGraph)
    (activeSceneId : Option CStr) : AudioMixer :=
  let (needed, branches) :=
    (activeItems graph activeSceneId).foldl (sceneChangeItem graph) (.empty, mixer.branches)
  { mixer with
    activeSceneId := activeSceneId
    branches := branches.mapValues fun sourceId _ =>
      sceneBranch graph (needed.lookup sourceId) sourceId }

/-- The part of `sbs_audio_mixer_set_source_state` that finds or adds the branch.  A scene
change for `audio->active_scene_id` itself frees the id before it reads it. -/
def ensureBranch
    (mixer : AudioMixer)
    (graph : SceneGraph)
    (freed : FreedSceneId)
    (sourceId : CStr)
    (binding : AudioBinding) : AudioMixer :=
  if mixer.branches.contains sourceId then mixer
  else
    let added := { mixer with
      branches := mixer.branches.insert sourceId (newBranch binding) }
    match mixer.activeSceneId with
    | some _ =>
        { added.onSceneChange graph (some freed.searched) with
          activeSceneId := some freed.copied }
    | none => added

/-- A branch that follows the binding of its source. -/
def followSource
    (binding : AudioBinding)
    (branch : AudioBranch) : AudioBranch :=
  { branch with
    monitor := binding.monitor
    muted := binding.mute
    effectiveMute := binding.mute || !branch.activeInScene
    volume := audioBindingVolume binding }

/-- `sbs_audio_mixer_set_source_state`, for a source with a device if it is enabled. -/
def setSourceState
    (mixer : AudioMixer)
    (graph : SceneGraph)
    (freed : FreedSceneId)
    (sourceId : CStr)
    (binding : AudioBinding) : AudioMixer :=
  if !binding.enabled then
    { mixer with
      branches := mixer.branches.modify sourceId fun branch =>
        { branch with muted := true, effectiveMute := true } }
  else
    let ensured := mixer.ensureBranch graph freed sourceId binding
    { ensured with
      branches := ensured.branches.modify sourceId (followSource binding) }

/-- `sbs_audio_mixer_set_scene_item_state`, for an item of a scene. -/
def setSceneItemState
    (mixer : AudioMixer)
    (graph : SceneGraph)
    (sceneId : CStr)
    (item : SceneItemState) : SbsResult × AudioMixer :=
  match graph.getSource item.sourceId with
  | none => (.notFound, mixer)
  | some _ =>
      let branches :=
        if !mixer.branches.contains item.sourceId && item.audio.enabled &&
            item.audio.device.isSome then
          mixer.branches.insert item.sourceId (newBranch item.audio)
        else mixer.branches
      if mixer.activeSceneId = some sceneId then
        (.ok, { mixer with
          branches := branches.modify item.sourceId fun _ =>
            sceneBranch graph (some item.audio) item.sourceId })
      else (.ok, { mixer with branches := branches })

/-- A visible item of a source. -/
def shows
    (sourceId : CStr)
    (item : SceneItemState) : Bool :=
  item.visible && item.sourceId = sourceId

/-- The binding of the last visible item of a source, which `needed` keeps. -/
def neededBinding
    (items : List SceneItemState)
    (sourceId : CStr) : Option AudioBinding :=
  ((items.filter (shows sourceId)).getLast?).map (·.audio)

/-- An item for which a branch of a source is added. -/
def addsBranch
    (graph : SceneGraph)
    (sourceId : CStr)
    (item : SceneItemState) : Bool :=
  shows sourceId item && (graph.getSource sourceId).isSome && item.audio.enabled &&
    item.audio.device.isSome

theorem shows_iff
    {sourceId : CStr}
    {item : SceneItemState} :
    shows sourceId item = true ↔ item.visible = true ∧ item.sourceId = sourceId := by
  unfold shows
  rw [Bool.and_eq_true, decide_eq_true_iff]

theorem lookup_needed
    (graph : SceneGraph)
    (items : List SceneItemState)
    (state : HashTable CStr AudioBinding × HashTable CStr AudioBranch)
    (sourceId : CStr) :
    (items.foldl (sceneChangeItem graph) state).1.lookup sourceId =
      (neededBinding items sourceId).or (state.1.lookup sourceId) := by
  induction items generalizing state with
  | nil => rfl
  | cons item rest ih =>
      rw [List.foldl_cons, ih]
      unfold neededBinding
      by_cases shown : shows sourceId item = true
      · obtain ⟨visible, same⟩ := shows_iff.mp shown
        have replaced : (sceneChangeItem graph state item).1.lookup sourceId =
            some item.audio := by
          unfold sceneChangeItem
          rw [visible, ← same]
          exact (HashTable.lookup_insert _ _ _ _).trans (if_pos rfl)
        rw [replaced, List.filter_cons_of_pos shown, List.getLast?_cons]
        cases (rest.filter (shows sourceId)).getLast? with
        | none => rfl
        | some last => rfl
      · have kept : (sceneChangeItem graph state item).1.lookup sourceId =
            state.1.lookup sourceId := by
          unfold sceneChangeItem
          split
          next => rfl
          next visible =>
            have different : item.sourceId ≠ sourceId := by
              intro same
              exact shown (shows_iff.mpr ⟨by simpa using visible, same⟩)
            exact (HashTable.lookup_insert _ _ _ _).trans (if_neg different.symm)
        rw [kept, List.filter_cons_of_neg shown]

/-- A branch that is added if none is there. -/
theorem contains_added
    (branches : HashTable CStr AudioBranch)
    (added : Bool)
    (key sourceId : CStr)
    (branch : AudioBranch) :
    (if (added && !branches.contains key) = true then branches.insert key branch
      else branches).contains sourceId =
      (branches.contains sourceId || key = sourceId && added) := by
  have inserted : (branches.insert key branch).contains sourceId =
      (branches.contains sourceId || decide (key = sourceId)) := by
    unfold HashTable.contains
    rw [HashTable.lookup_insert]
    by_cases same : sourceId = key
    · simp [same]
    · simp [same, Ne.symm same]
  by_cases same : key = sourceId
  · rw [same] at inserted ⊢
    cases added with
    | false => simp
    | true =>
        cases present : branches.contains sourceId with
        | true => simp [present]
        | false => simpa [present] using inserted
  · split
    next => rw [inserted, decide_eq_false same, Bool.false_and]
    next => rw [decide_eq_false same, Bool.false_and, Bool.or_false]

theorem contains_sceneChangeItem
    (graph : SceneGraph)
    (state : HashTable CStr AudioBinding × HashTable CStr AudioBranch)
    (item : SceneItemState)
    (sourceId : CStr) :
    (sceneChangeItem graph state item).2.contains sourceId =
      (state.2.contains sourceId || addsBranch graph sourceId item) := by
  unfold sceneChangeItem addsBranch shows
  cases item.visible with
  | false => simp
  | true =>
      rw [Bool.not_true, if_neg Bool.false_ne_true, Bool.true_and]
      dsimp only
      rw [contains_added]
      by_cases same : item.sourceId = sourceId
      · simp only [same, decide_true, Bool.true_and]
      · simp only [decide_eq_false same, Bool.false_and]

theorem contains_foldl_sceneChangeItem
    (graph : SceneGraph)
    (items : List SceneItemState)
    (state : HashTable CStr AudioBinding × HashTable CStr AudioBranch)
    (sourceId : CStr) :
    (items.foldl (sceneChangeItem graph) state).2.contains sourceId =
      (state.2.contains sourceId || items.any (addsBranch graph sourceId)) := by
  induction items generalizing state with
  | nil => simp
  | cons item rest ih =>
      rw [List.foldl_cons, ih, contains_sceneChangeItem, List.any_cons,
        Bool.or_assoc]

/-- A scene change computes every branch anew from the graph. -/
theorem lookup_onSceneChange
    (mixer : AudioMixer)
    (graph : SceneGraph)
    (activeSceneId : Option CStr)
    (sourceId : CStr) :
    (mixer.onSceneChange graph activeSceneId).branches.lookup sourceId =
      if mixer.branches.contains sourceId ||
          (activeItems graph activeSceneId).any (addsBranch graph sourceId) then
        some (sceneBranch graph (neededBinding (activeItems graph activeSceneId) sourceId)
          sourceId)
      else none := by
  have present := contains_foldl_sceneChangeItem graph (activeItems graph activeSceneId)
    (.empty, mixer.branches) sourceId
  have needed := lookup_needed graph (activeItems graph activeSceneId)
    (.empty, mixer.branches) sourceId
  unfold onSceneChange
  generalize (activeItems graph activeSceneId).foldl (sceneChangeItem graph)
    (.empty, mixer.branches) = state at present needed ⊢
  dsimp only at present needed ⊢
  rw [HashTable.lookup_mapValues, needed, ← present, HashTable.lookup_empty, Option.or_none]
  cases found : state.2.lookup sourceId with
  | none =>
      rw [if_neg (by rw [HashTable.contains_eq_false.mpr found]; decide)]
      rfl
  | some branch =>
      rw [if_pos (HashTable.contains_eq_true.mpr ⟨branch, found⟩)]
      rfl

end AudioMixer
end Engine
end SbsServer
