import SbsServer.CLib.Double
import SbsServer.CLib.HashTable
import SbsServer.CLib.PtrArray

/-!
# The scene graph

The state of `sbs_scene_graph_t`: sources, scenes with their items and
filters, outputs, transitions, and the pointers that select the active scene,
the preview scene and the default transition.  Strings are owned copies, so
they are values here; a pointer that may be NULL is an option.
-/

namespace SbsServer

open CLib

/-- Result codes shared by the server's functions. -/
inductive SbsResult
  | ok
  | generic
  | nomem
  | inval
  | io
  | wouldBlock
  | pipe
  | eof
  | timeout
  | notFound
  deriving DecidableEq

namespace SceneGraph

/-- A `GHashTable` from strings to strings. -/
abbrev StrMap := HashTable CStr CStr

/-- `sbs_scene_color_mode_t`. -/
inductive ColorMode
  | sdr
  | hdr10
  deriving DecidableEq

/-- `sbs_source_kind_t`. -/
inductive SourceKind
  | v4l2src
  | uridecodebin
  | videotestsrc
  | image
  | text
  | vfmcap
  | alsaAudio
  deriving DecidableEq

/-- `sbs_transition_kind_t`. -/
inductive TransitionKind
  | cut
  | fade
  | slide
  deriving DecidableEq

/-- `sbs_canvas_state_t`. -/
structure CanvasState where
  width : UInt32
  height : UInt32
  fpsNum : UInt32
  fpsDen : UInt32
  colorMode : ColorMode
  backgroundColor : CharArray 16
  deriving DecidableEq

theorem CanvasState.colorRoom : 0 < 16 := by decide

/-- `sbs_audio_binding_t`. -/
structure AudioBinding where
  enabled : Bool
  device : Option CStr
  volume : Double
  leftGain : Double
  rightGain : Double
  delayMs : Int32
  eqBands : Vector Double 10
  mute : Bool
  monitor : Bool
  deriving DecidableEq

theorem AudioBinding.band_lt (band : Fin 10) : band.val < 10 :=
  band.isLt

/-- The zeroed binding of `memset` and `g_new0`. -/
def AudioBinding.zero : AudioBinding where
  enabled := false
  device := none
  volume := .finite 0
  leftGain := .finite 0
  rightGain := .finite 0
  delayMs := 0
  eqBands := Vector.replicate 10 (.finite 0)
  mute := false
  monitor := false

/-- `sbs_filter_state_t`. -/
structure FilterState where
  id : CStr
  type : CStr
  enabled : Bool
  params : StrMap

/-- The counters of a frame slot that a source reports. -/
structure FrameSlotStats where
  produced : UInt64
  dropped : UInt64
  consumed : UInt64
  held : UInt32
  deriving DecidableEq

/-- `sbs_source_state_t`. -/
structure SourceState where
  id : CStr
  name : CStr
  kind : SourceKind
  enabled : Bool
  keepAlive : Bool
  config : StrMap
  filters : List FilterState
  audio : AudioBinding
  frameStats : FrameSlotStats
  frameWidth : UInt32
  frameHeight : UInt32
  running : Bool
  muted : Bool
  runtimeState : Option CStr
  v4l2EffectiveDecodeMode : Option CStr
  errorMessage : Option CStr

/-- `sbs_scene_item_transform_t`. -/
structure SceneItemTransform where
  positionX : Int32
  positionY : Int32
  width : Int32
  height : Int32
  cropTop : Int32
  cropBottom : Int32
  cropLeft : Int32
  cropRight : Int32
  rotationDeg : Double
  flipHorizontal : Bool
  flipVertical : Bool
  boundsType : Option CStr
  alignment : Option CStr
  opacity : Double
  deriving DecidableEq

/-- `sbs_scene_item_state_t`. -/
structure SceneItemState where
  id : CStr
  sourceId : CStr
  visible : Bool
  locked : Bool
  zOrder : Int32
  transform : SceneItemTransform
  audio : AudioBinding
  filters : List FilterState

/-- `sbs_scene_state_t`. -/
structure SceneState where
  id : CStr
  name : CStr
  items : List SceneItemState
  filters : List FilterState

/-- `sbs_sink_state_t`. -/
structure SinkState where
  id : CStr
  type : CStr
  enabled : Bool
  config : StrMap

/-- `sbs_output_state_t`. -/
structure OutputState where
  id : CStr
  name : CStr
  enabled : Bool
  autostart : Bool
  encoder : StrMap
  sinks : List SinkState
  running : Bool
  runtimeState : Option CStr

/-- `sbs_transition_state_t`. -/
structure TransitionState where
  id : CStr
  kind : TransitionKind
  durationMs : UInt32
  params : StrMap

/-- `sbs_transition_runtime_t`. -/
structure TransitionRuntime where
  active : Bool
  fromSceneId : Option CStr
  toSceneId : Option CStr
  transitionId : Option CStr
  kind : TransitionKind
  durationMs : UInt32
  progress : Double
  startTimeUs : Int64
  deriving DecidableEq

/-- The zeroed runtime of a new graph. -/
def TransitionRuntime.zero : TransitionRuntime where
  active := false
  fromSceneId := none
  toSceneId := none
  transitionId := none
  kind := .cut
  durationMs := 0
  progress := .finite 0
  startTimeUs := 0

end SceneGraph

/-- `sbs_scene_graph_t`. -/
structure SceneGraph where
  canvas : SceneGraph.CanvasState
  sources : HashTable CStr SceneGraph.SourceState
  scenes : HashTable CStr SceneGraph.SceneState
  outputs : HashTable CStr SceneGraph.OutputState
  transitions : HashTable CStr SceneGraph.TransitionState
  activeSceneId : Option CStr
  previewSceneId : Option CStr
  defaultTransitionId : Option CStr
  version : UInt64
  transitionRuntime : SceneGraph.TransitionRuntime

namespace SceneGraph

/-- `valid_graph_id` for a string that is not NULL. -/
def validGraphId (id : CStr) : Bool :=
  id.bytes ≠ [] && id.length ≤ 96 && id.bytes.all fun byte =>
    (48 ≤ byte && byte ≤ 57) || (65 ≤ byte && byte ≤ 90) ||
      (97 ≤ byte && byte ≤ 122) || byte == 45 || byte == 95 || byte == 46

/-- `sbs_scene_graph_source_kind_name`. -/
def sourceKindName : SourceKind → CStr
  | .v4l2src => "v4l2src"
  | .uridecodebin => "uridecodebin"
  | .videotestsrc => "videotestsrc"
  | .image => "image"
  | .text => "text"
  | .vfmcap => "vfmcap"
  | .alsaAudio => "alsa_audio"

/-- `sbs_scene_graph_parse_source_kind`, with its NULL case. -/
def parseSourceKind : Option CStr → Option SourceKind
  | none => some .videotestsrc
  | some type =>
      if type = "videotestsrc" then some .videotestsrc
      else if type = "v4l2src" then some .v4l2src
      else if type = "uridecodebin" then some .uridecodebin
      else if type = "image" then some .image
      else if type = "text" then some .text
      else if type = "vfmcap" then some .vfmcap
      else if type = "alsa_audio" ∨ type = "audio" then some .alsaAudio
      else none

/-- `sbs_scene_graph_transition_kind_name`. -/
def transitionKindName : TransitionKind → CStr
  | .cut => "cut"
  | .fade => "fade"
  | .slide => "slide"

/-- Every kind is parsed back from its name. -/
@[simp] theorem parseSourceKind_sourceKindName (kind : SourceKind) :
    parseSourceKind (some (sourceKindName kind)) = some kind := by
  cases kind <;> decide

/-- `snap_quarter_rotation`: the quarter turn nearest to an angle. -/
def snapQuarterRotation (degrees : Double) : Double :=
  let quarter := (Int32.ofInt (degrees.divRat 90).lround).toInt
  let quarter := (quarter.tmod 4 + 4).tmod 4
  .ofInt (quarter * 90)

/-- `audio_binding_copy`. -/
def audioBindingCopy : Option AudioBinding → AudioBinding
  | none => { AudioBinding.zero with volume := .finite 1 }
  | some source => { source with
      volume := if source.volume.nonneg then source.volume else .finite 1
      leftGain := if source.leftGain.nonneg then source.leftGain else .finite 1
      rightGain := if source.rightGain.nonneg then source.rightGain else .finite 1 }

/-- `scene_item_transform_copy`. -/
def sceneItemTransformCopy (source : SceneItemTransform) : SceneItemTransform :=
  { source with
    rotationDeg := snapQuarterRotation source.rotationDeg
    boundsType := some (source.boundsType.getD "stretch")
    alignment := some (source.alignment.getD "center")
    opacity := if source.opacity.positive then source.opacity else .finite 1 }

/-- `filter_params_copy`: the parameters of a rotation are snapped. -/
def filterParamsCopy (type : CStr) (source : Option StrMap) : StrMap :=
  let copy := source.getD .empty
  if type = "rotation" then
    let degrees := match copy.lookup "degrees" with
      | some value => Double.strtod value
      | none => .finite 90
    copy.insert "degrees" ((snapQuarterRotation degrees).formatFixed 0)
  else copy

/-- `sbs_scene_graph_get_source`. -/
def getSource (graph : SceneGraph) (id : CStr) : Option SourceState :=
  graph.sources.lookup id

/-- `sbs_scene_graph_get_scene`. -/
def getScene (graph : SceneGraph) (id : CStr) : Option SceneState :=
  graph.scenes.lookup id

/-- `sbs_scene_graph_get_transition`. -/
def getTransition (graph : SceneGraph) (id : CStr) : Option TransitionState :=
  graph.transitions.lookup id

/-- `scene_find_item`. -/
def SceneState.findItem (scene : SceneState) (itemId : CStr) : Option SceneItemState :=
  scene.items.find? fun item => item.id = itemId

/-- `filter_array_find`. -/
def filterArrayFind (filters : List FilterState) (filterId : CStr) : Option FilterState :=
  filters.find? fun filter => filter.id = filterId

/-- `item_compare_z_order` yields a value of at most zero. -/
def ItemBelow (lower upper : SceneItemState) : Prop :=
  lower.zOrder < upper.zOrder ∨
    (lower.zOrder = upper.zOrder ∧ lower.id ≤ upper.id)

instance : DecidableRel ItemBelow := fun _ _ =>
  inferInstanceAs (Decidable (_ ∨ _))

instance : Std.Total ItemBelow where
  total lower upper := by
    unfold ItemBelow
    rw [Int32.lt_iff_toInt_lt, Int32.lt_iff_toInt_lt]
    rcases Int.lt_trichotomy lower.zOrder.toInt upper.zOrder.toInt with
      less | equal | more
    · exact Or.inl (Or.inl less)
    · have equal := Int32.toInt_inj.mp equal
      exact (CStr.le_total lower.id upper.id).imp
        (fun below => Or.inr ⟨equal, below⟩)
        (fun below => Or.inr ⟨equal.symm, below⟩)
    · exact Or.inr (Or.inl more)

instance : IsTrans SceneItemState ItemBelow where
  trans first second third := by
    unfold ItemBelow
    simp only [Int32.lt_iff_toInt_lt, ← Int32.toInt_inj]
    rintro (less | ⟨equal, below⟩) (less' | ⟨equal', below'⟩)
    · exact Or.inl (by omega)
    · exact Or.inl (by omega)
    · exact Or.inl (by omega)
    · exact Or.inr ⟨by omega, CStr.le_trans below below'⟩

/-- `scene_sort_items`. -/
def SceneState.sortItems (scene : SceneState) : SceneState :=
  { scene with items := PtrArray.sort ItemBelow scene.items }

end SceneGraph
end SbsServer
