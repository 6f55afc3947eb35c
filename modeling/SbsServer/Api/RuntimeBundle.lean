import SbsServer.Api.CanvasStart
import SbsServer.Config.Selection
import SbsServer.Engine.AudioMixer
import SbsServer.Engine.Preview

/-!
# What a bundle restores beside the graph

A bundle has the master settings of the mixer and the configuration of the preview
encoder next to the state of the graph.  The loader looks for the master settings
inside the state, after the mixer has been freed, and a new mixer is made from
defaults afterwards.
-/

namespace SbsServer
namespace Api

open CLib SceneGraph Config Engine

/-- A server with its mixer and its preview engine. -/
structure RuntimeServer where
  config : ConfigServer
  /-- The master settings of the mixer, if there is one. -/
  audio : Option MasterAudio
  /-- The mixer has its `master_volume` element. -/
  audioStarted : Bool
  preview : PreviewEngine

/-- `sbs_audio_mixer_serialize_state`, without what it tells of the machine and the meters. -/
def serializeMaster (master : MasterAudio) : CJson :=
  .object [
    ("device", .string "hw:0,2"),
    ("preferred_backend", .string "hifi"),
    ("master_volume", .number master.volume),
    ("master_left_gain", .number master.leftGain),
    ("master_right_gain", .number master.rightGain),
    ("master_eq_bands", .array (master.eqBands.toList.map .number)),
    ("master_mute", .bool master.mute)]

/-- Ten bands read from an array; what is no number is zero. -/
def readBands (bands : Option CJson) : Option (Vector Double 10) :=
  if CJson.isArray bands then
    some (Vector.ofFn fun index =>
      match (CJson.arrayItems bands)[index.val]? with
      | some (.number band) => band
      | _ => .finite 0)
  else none

namespace RuntimeServer

/-- `sbs_audio_mixer_set_master` -/
def setMaster
    (server : RuntimeServer)
    (volume : Double)
    (mute : Bool)
    (leftGain rightGain : Double)
    (eqBands : Option (Vector Double 10)) : SbsResult × RuntimeServer :=
  match server.audio with
  | some master =>
      if server.audioStarted then
        (.ok, { server with audio := some (master.set volume mute leftGain rightGain eqBands) })
      else (.inval, server)
  | none => (.inval, server)

/-- `sbs_api_handle_audio_set_master` -/
def audioSetMaster
    (server : RuntimeServer)
    (params : Option CJson) : SbsResult × RuntimeServer :=
  server.setMaster
    (CJson.num params "volume" (.finite 1))
    (CJson.boolean params "mute" false)
    (CJson.num params "left_gain" (.finite 1))
    (CJson.num params "right_gain" (.finite 1))
    (readBands (CJson.getObjectItem params "eq_bands"))

/-- A number of a request, as it is cast. -/
def requestedNumber
    (params : Option CJson)
    (key : CStr) : UInt32 :=
  (CJson.num params key (.finite 0)).toUInt32

/-- `sbs_api_handle_preview_update_encoder_config`, for the encoded profile. -/
def previewUpdateEncoderConfig
    (server : RuntimeServer)
    (params : Option CJson) : SbsResult × RuntimeServer :=
  if (CJson.getObjectItem params "width").isSome ∨
      (CJson.getObjectItem params "height").isSome then (.inval, server)
  else
    let auto :=
      match CJson.getObjectItem params "auto_downscale" with
      | some (.bool auto) => some auto
      | _ => if CJson.isNumber (CJson.getObjectItem params "downscale_factor") then some false
          else none
    match server.preview.updateProfileConfig auto (requestedNumber params "downscale_factor")
        (requestedNumber params "framerate") (requestedNumber params "bitrate_kbps") with
    | (.ok, preview) =>
        (.ok, { server with preview := preview, config := server.config.markDirty })
    | (code, _) => (code, server)

/-- `sbs_config_manager_build_bundle` -/
def buildBundle
    (gstElementAvailable : CStr → Bool)
    (server : RuntimeServer) : CJson :=
  let audio : List (CStr × CJson) :=
    match server.audio with
    | some master => [("audio", serializeMaster master)]
    | none => []
  .object (
    ("schema_version", .ofInt 1) ::
    ("kind", .string "sbs-config") ::
    ("state", serializeFullState gstElementAvailable server.config.graph) ::
    ("preview", .object [("encoder", server.preview.serializeEncoderConfig)]) ::
    audio)

/-- The part of `apply_scene_graph_bundle` that sets the master. -/
def loadMaster
    (server : RuntimeServer)
    (state : CJson) : RuntimeServer :=
  match CJson.getObjectItem (some state) "audio" with
  | none => server
  | some audio =>
      (server.setMaster
        (CJson.num (some audio) "master_volume" (.finite 1))
        (CJson.boolean (some audio) "master_mute" false)
        (CJson.num (some audio) "master_left_gain" (.finite 1))
        (CJson.num (some audio) "master_right_gain" (.finite 1))
        (readBands (CJson.getObjectItem (some audio) "master_eq_bands"))).2

/-- `stop_runtime`, which frees the mixer. -/
def stopRuntime (server : RuntimeServer) : RuntimeServer :=
  { server with audio := none, audioStarted := false }

/-- `restart_runtime_from_graph`; `starts` tells whether the mixer gets its elements. -/
def restartRuntimeFromGraph
    (server : RuntimeServer)
    (starts : Bool) : RuntimeServer :=
  let canvas := server.config.graph.canvas
  { server with
    preview := server.preview.setSourceFormat canvas.width canvas.height canvas.fpsNum
    audio := some .new
    audioStarted := starts }

/-- `apply_preview_bundle` -/
def applyPreviewBundle
    (server : RuntimeServer)
    (bundle : CJson) : RuntimeServer :=
  let preview := CJson.getObjectItem (some bundle) "preview"
  match CJson.getObjectItem preview "encoder" with
  | some encoder =>
      if CJson.isObject (some encoder) then
        { server with preview := (server.preview.applyEncoderConfig encoder).2 }
      else server
  | none => server

/-- `sbs_config_manager_save_bundle` -/
def saveBundle
    (server : RuntimeServer)
    (bundle : CJson)
    (saves : Bool) : SbsResult × RuntimeServer :=
  let (code, config) := server.config.saveBundle bundle saves
  (code, { server with config := config })

/-- The server with another graph. -/
def withGraph
    (server : RuntimeServer)
    (graph : SceneGraph) : RuntimeServer :=
  { server with config := { server.config with graph := graph } }

/-- `sbs_config_manager_apply_bundle` -/
def applyBundle
    (server : RuntimeServer)
    (bundle : CJson)
    (answers : ApplyAnswers)
    (starts : Bool) : SbsResult × RuntimeServer :=
  match CJson.getObjectItem (some bundle) "state" with
  | none => (.inval, server)
  | some state =>
      if !CJson.isObject (some state) then (.inval, server)
      else if migrateBundle bundle ≠ .ok ∨ validateBundle bundle ≠ .ok then (.inval, server)
      else
        match applySceneGraphBundle server.config.graph state with
        | (.ok, graph) =>
            let loaded := (server.stopRuntime.withGraph graph).loadMaster state
            match loaded.config.reconfigureCanvasRuntime answers.encoder with
            | .wouldBlock => loaded.saveBundle bundle answers.saves
            | .ok =>
                ((loaded.restartRuntimeFromGraph starts).applyPreviewBundle bundle).saveBundle
                  bundle answers.saves
            | _ => (.inval, loaded)
        | (_, graph) => (.inval, server.stopRuntime.withGraph graph)

/-- `sbs_config_manager_reset` -/
def reset
    (gstElementAvailable : CStr → Bool)
    (server : RuntimeServer)
    (answers : ApplyAnswers)
    (starts : Bool) : SbsResult × RuntimeServer :=
  let seeded := server.stopRuntime.withGraph (seedDefaultGraph newDefault)
  let fresh := { seeded with config := { seeded.config with stateJson := none } }
  let saved := (fresh.saveBundle (fresh.buildBundle gstElementAvailable) answers.saves).2
  match saved.config.reconfigureCanvasRuntime answers.encoder with
  | .wouldBlock => (.ok, saved)
  | .ok => (.ok, saved.restartRuntimeFromGraph starts)
  | _ => (.inval, saved)

/-- `sbs_api_handle_canvas_apply`, without its reply. -/
def canvasApply
    (server : RuntimeServer)
    (answers : ApplyAnswers)
    (starts : Bool) : SbsResult × RuntimeServer :=
  match server.config.loadBundle with
  | none => (.notFound, server)
  | some bundle =>
      let pending := (server.config.savedCanvasRequiresRestart (bundleCanvas bundle)).or
        server.config.pendingCanvas
      let noted := { server with config := { server.config with pendingCanvas := pending } }
      match noted.applyBundle bundle answers starts with
      | (.ok, applied) =>
          (.ok, { applied with config := { applied.config with pendingCanvas := none } })
      | (_, applied) => (.io, applied)

/-- A process before it loads its file. -/
def freshServer
    (stateJson : Option CJson)
    (overrides : Option CanvasOverrides) : RuntimeServer :=
  let canvas := preloadCanvas stateJson (applySystemOverrides overrides newDefault.canvas)
  { config := {
      graph := { newDefault with canvas := canvas }
      pendingCanvas := none
      stateJson := stateJson
      saveTimeout := false
      compositor := some {
        width := canvas.width
        height := canvas.height
        fps := canvas.fpsNum
        colorMode := canvas.colorMode } }
    audio := none
    audioStarted := false
    preview := PreviewEngine.new.setSourceFormat canvas.width canvas.height canvas.fpsNum }

/-- The start of a server process. -/
def startServer
    (stateJson : Option CJson)
    (overrides : Option CanvasOverrides)
    (answers : ApplyAnswers)
    (starts : Bool) : RuntimeServer :=
  let fresh := freshServer stateJson overrides
  match fresh.config.loadBundle with
  | some bundle =>
      match fresh.applyBundle bundle answers starts with
      | (.ok, applied) => applied
      | (_, failed) => failed.restartRuntimeFromGraph starts
  | none => fresh.restartRuntimeFromGraph starts

end RuntimeServer

/-- What happens to a server. -/
inductive RuntimeEvent
  /-- A change of the graph. -/
  | edit (change : GraphEvent)
  /-- `audio.setMaster` -/
  | setMaster (params : Option CJson)
  /-- `preview.updateEncoderConfig` -/
  | updatePreview (params : Option CJson)
  /-- `canvas.update` -/
  | update (params : Option CJson) (saves : Bool)
  /-- `canvas.apply` -/
  | apply (answers : ApplyAnswers) (starts : Bool)
  /-- `config.import` -/
  | importBundle (bundle : CJson) (answers : ApplyAnswers) (starts : Bool)
  /-- `config.reset` -/
  | reset (answers : ApplyAnswers) (starts : Bool)
  /-- `save_timeout_cb` -/
  | saveTimeout (saves : Bool)

namespace RuntimeServer

variable {gstElementAvailable : CStr → Bool} {server : RuntimeServer}

/-- The server after an event. -/
def next
    (gstElementAvailable : CStr → Bool)
    (server : RuntimeServer) : RuntimeEvent → RuntimeServer
  | .edit change => server.withGraph (graphAfter server.config.graph change)
  | .setMaster params => (server.audioSetMaster params).2
  | .updatePreview params => (server.previewUpdateEncoderConfig params).2
  | .update params saves =>
      match server.config.canvasUpdate gstElementAvailable params saves with
      | (⟨.ok, _, _⟩, config) =>
          { server with config := { config with
            stateJson := config.pendingCanvas.map fun settings =>
              withCanvas settings (server.buildBundle gstElementAvailable) } }
      | (_, config) => { server with config := config }
  | .apply answers starts => (server.canvasApply answers starts).2
  | .importBundle bundle answers starts => (server.applyBundle bundle answers starts).2
  | .reset answers starts => (server.reset gstElementAvailable answers starts).2
  | .saveTimeout saves =>
      let saved := (server.saveBundle (server.buildBundle gstElementAvailable) saves).2
      { saved with config := { saved.config with saveTimeout := false } }

/-- The runs of a server. -/
def runtimeSystem (gstElementAvailable : CStr → Bool) : System RuntimeServer RuntimeEvent where
  initial server := ∃ stateJson overrides answers starts,
    server = startServer stateJson overrides answers starts
  step server event after := after = server.next gstElementAvailable event

/-- The master settings and the preview encoder are those of the old server. -/
structure Restores (old new : RuntimeServer) : Prop where
  audio : ∀ master ∈ old.audio, new.audio = some master
  preview : new.preview.encoder = old.preview.encoder

/-! ## What the calls leave -/

/-- A mixer is freed before the loader looks for one. -/
theorem loadMaster_stopRuntime
    (server : RuntimeServer)
    (graph : SceneGraph)
    (state : CJson) :
    (server.stopRuntime.withGraph graph).loadMaster state =
      server.stopRuntime.withGraph graph := by
  unfold loadMaster
  split
  · rfl
  · rfl

section

variable (configured : server.preview.Configured)
include configured

/-- The preview engine of a server stays configured. -/
theorem configured_restartRuntimeFromGraph
    (starts : Bool) :
    (server.restartRuntimeFromGraph starts).preview.Configured :=
  configured.setSourceFormat _ _ _

theorem configured_applyPreviewBundle
    (bundle : CJson) :
    (server.applyPreviewBundle bundle).preview.Configured := by
  unfold applyPreviewBundle
  dsimp only
  split
  · split
    · exact configured.applyEncoderConfig _
    · exact configured
  · exact configured

theorem configured_applyBundle
    (bundle : CJson)
    (answers : ApplyAnswers)
    (starts : Bool) :
    (server.applyBundle bundle answers starts).2.preview.Configured := by
  unfold applyBundle
  split
  next => exact configured
  next =>
    split
    next => exact configured
    next =>
      split
      next => exact configured
      next =>
        split
        next graph loaded =>
          rw [loadMaster_stopRuntime]
          dsimp only
          split
          · exact configured
          · have restarted := @configured_restartRuntimeFromGraph
              (server.stopRuntime.withGraph graph) configured starts
            exact configured_applyPreviewBundle restarted bundle
          · exact configured
        next => exact configured

theorem configured_reset
    (answers : ApplyAnswers)
    (starts : Bool) :
    (server.reset gstElementAvailable answers starts).2.preview.Configured := by
  unfold reset
  dsimp only
  split
  · exact configured
  · exact configured.setSourceFormat _ _ _
  · exact configured

theorem configured_canvasApply
    (answers : ApplyAnswers)
    (starts : Bool) :
    (server.canvasApply answers starts).2.preview.Configured := by
  unfold canvasApply
  split
  · exact configured
  · next bundle loaded =>
      dsimp only
      generalize (server.config.savedCanvasRequiresRestart (bundleCanvas bundle)).or
        server.config.pendingCanvas = pending
      have applied := @configured_applyBundle
        { server with config := { server.config with pendingCanvas := pending } } configured
        bundle answers starts
      generalize applyBundle _ bundle answers starts = result at applied ⊢
      obtain ⟨code, after⟩ := result
      cases code with
      | _ => exact applied

end

theorem configured_startServer
    (stateJson : Option CJson)
    (overrides : Option CanvasOverrides)
    (answers : ApplyAnswers)
    (starts : Bool) :
    (startServer stateJson overrides answers starts).preview.Configured := by
  have fresh : (freshServer stateJson overrides).preview.Configured :=
    PreviewEngine.configured_new _ _ _
  unfold startServer
  dsimp only
  split
  · next bundle loaded =>
      have applied := configured_applyBundle fresh bundle answers starts
      generalize (freshServer stateJson overrides).applyBundle bundle answers starts = result
        at applied ⊢
      obtain ⟨code, after⟩ := result
      cases code with
      | ok => exact applied
      | _ => exact configured_restartRuntimeFromGraph applied starts
  · exact configured_restartRuntimeFromGraph fresh starts

/-- One step. -/
theorem configured_next
    (configured : server.preview.Configured)
    (event : RuntimeEvent) :
    (server.next gstElementAvailable event).preview.Configured := by
  cases event with
  | edit change => exact configured
  | setMaster params =>
      simp only [next, audioSetMaster, setMaster]
      split
      · split
        · exact configured
        · exact configured
      · exact configured
  | updatePreview params =>
      simp only [next, previewUpdateEncoderConfig]
      split
      · exact configured
      · split
        next preview updated =>
          have kept := congrArg (fun result => result.2) updated
          dsimp only at kept ⊢
          rw [← kept]
          exact configured.updateProfileConfig _ _ _ _
        next => exact configured
  | update params saves =>
      simp only [next]
      split
      · exact configured
      · exact configured
  | apply answers starts => exact configured_canvasApply configured answers starts
  | importBundle bundle answers starts =>
      exact configured_applyBundle configured bundle answers starts
  | reset answers starts => exact configured_reset configured answers starts
  | saveTimeout saves => exact configured

theorem configured_of_reachable
    (reachable : (runtimeSystem gstElementAvailable).Reachable server) :
    server.preview.Configured := by
  refine @System.ReachableWhen.invariant _ _ _ _ (fun server => server.preview.Configured)
    ?_ ?_ _ reachable
  · rintro _ ⟨stateJson, overrides, answers, starts, rfl⟩
    exact configured_startServer stateJson overrides answers starts
  · rintro before event _ configured _ rfl
    exact configured_next configured event

/-- The state of a graph is loaded with its canvas. -/
theorem applySceneGraphBundle_serializeFullState
    (gstElementAvailable : CStr → Bool)
    (graph target : SceneGraph) :
    ∃ loaded,
      applySceneGraphBundle target (serializeFullState gstElementAvailable graph) =
        (.ok, loaded) ∧
      loaded.canvas = graph.canvas := by
  have canvas := @canvas_applySceneGraphBundle target
    (serializeFullState gstElementAvailable graph) rfl
  have read : CJson.getObjectItem (some (serializeFullState gstElementAvailable graph)) "canvas" =
      some (serializeCanvas graph.canvas) := by
    rfl
  rw [read, loadCanvas_serialize] at canvas
  obtain ⟨sources, version, loadedSources⟩ := exists_loadSources_serialize gstElementAvailable
    graph.sources { clearSceneGraph target with canvas := graph.canvas }
  have opened := applySceneGraphBundle_of_loadSources_serialize loadedSources
  rw [opened] at canvas
  exact ⟨_, opened, canvas⟩

/-- The compositor thread of a start has the canvas of the bundle. -/
theorem compositor_freshServer
    (gstElementAvailable : CStr → Bool)
    (old : RuntimeServer)
    (overrides : Option CanvasOverrides) :
    (freshServer (some (old.buildBundle gstElementAvailable)) overrides).config.compositor =
      some {
        width := old.config.graph.canvas.width
        height := old.config.graph.canvas.height
        fps := old.config.graph.canvas.fpsNum
        colorMode := old.config.graph.canvas.colorMode } := by
  have saved : (some (old.buildBundle gstElementAvailable)).bind savedCanvas =
      some (serializeCanvas old.config.graph.canvas) := by
    rfl
  have isObject : CJson.isObject (some (serializeCanvas old.config.graph.canvas)) = true := rfl
  have number : ∀ {key : CStr} {value fallback : UInt32},
      CJson.getObjectItem (some (serializeCanvas old.config.graph.canvas)) key =
        some (.ofInt value.toNat) →
      (CJson.num (some (serializeCanvas old.config.graph.canvas)) key
        (.ofInt fallback.toNat)).toUInt32 = value := by
    intro key value fallback found
    unfold CJson.num
    rw [found]
    exact Double.toUInt32_ofInt value
  unfold freshServer preloadCanvas
  dsimp only
  rw [saved, if_pos isObject]
  dsimp only
  rw [@number "width" old.config.graph.canvas.width _ rfl,
    @number "height" old.config.graph.canvas.height _ rfl,
    @number "fps_num" old.config.graph.canvas.fpsNum _ rfl]
  have mode : CJson.str (some (serializeCanvas old.config.graph.canvas)) "color_mode" =
      some (if old.config.graph.canvas.colorMode = .hdr10 then CStr.lit "hdr10"
        else CStr.lit "sdr") := by
    rfl
  rw [mode]
  cases old.config.graph.canvas.colorMode with
  | sdr => rfl
  | hdr10 => rfl

/-- What a start from a built bundle leaves of the mixer and the preview engine. -/
theorem startServer_buildBundle
    (gstElementAvailable : CStr → Bool)
    (old : RuntimeServer)
    (accepted : validateBundle (old.buildBundle gstElementAvailable) = .ok)
    (overrides : Option CanvasOverrides)
    (starts : Bool) :
    ∃ engine : PreviewEngine,
      engine.srcWidth = old.config.graph.canvas.width ∧
      engine.srcHeight = old.config.graph.canvas.height ∧
      (startServer (some (old.buildBundle gstElementAvailable)) overrides
        { encoder := .ok, saves := true } starts).audio = some .new ∧
      (startServer (some (old.buildBundle gstElementAvailable)) overrides
        { encoder := .ok, saves := true } starts).preview =
          (engine.applyEncoderConfig old.preview.serializeEncoderConfig).2 := by
  have migrated : migrateBundle (old.buildBundle gstElementAvailable) = .ok := by
    have version : CJson.getObjectItem (some (old.buildBundle gstElementAvailable))
        "schema_version" = some (.number (.ofInt 1)) := rfl
    unfold migrateBundle
    rw [version]
    decide +kernel
  have compositor := compositor_freshServer gstElementAvailable old overrides
  have stored :
      (freshServer (some (old.buildBundle gstElementAvailable)) overrides).config.stateJson =
        some (old.buildBundle gstElementAvailable) := rfl
  unfold startServer
  dsimp only
  generalize freshServer (some (old.buildBundle gstElementAvailable)) overrides = fresh
    at compositor stored ⊢
  have loads : fresh.config.loadBundle = some (old.buildBundle gstElementAvailable) := by
    unfold ConfigServer.loadBundle
    rw [stored]
    exact Option.filter_eq_some_iff.mpr ⟨rfl, decide_eq_true ⟨migrated, accepted⟩⟩
  rw [loads]
  dsimp only
  obtain ⟨graph, loaded, canvas⟩ :=
    applySceneGraphBundle_serializeFullState gstElementAvailable old.config.graph
      fresh.config.graph
  have isState : CJson.getObjectItem (some (old.buildBundle gstElementAvailable)) "state" =
      some (serializeFullState gstElementAvailable old.config.graph) := rfl
  have isEncoder : CJson.getObjectItem (CJson.getObjectItem
      (some (old.buildBundle gstElementAvailable)) "preview") "encoder" =
      some old.preview.serializeEncoderConfig := rfl
  have same : (fresh.stopRuntime.withGraph graph).config.reconfigureCanvasRuntime .ok = .ok := by
    have noChange : (fresh.stopRuntime.withGraph graph).config.compNeedsReconfigure = false := by
      unfold ConfigServer.compNeedsReconfigure
      have kept : (fresh.stopRuntime.withGraph graph).config.compositor =
          fresh.config.compositor := rfl
      have drawn : (fresh.stopRuntime.withGraph graph).config.graph = graph := rfl
      rw [kept, compositor, drawn, canvas]
      simp
    unfold ConfigServer.reconfigureCanvasRuntime
    rw [noChange]
    rfl
  have applied : fresh.applyBundle (old.buildBundle gstElementAvailable)
      { encoder := .ok, saves := true } starts =
        (((fresh.stopRuntime.withGraph graph).restartRuntimeFromGraph starts).applyPreviewBundle
          (old.buildBundle gstElementAvailable)).saveBundle
            (old.buildBundle gstElementAvailable) true := by
    have isObject : ¬ (!CJson.isObject
        (some (serializeFullState gstElementAvailable old.config.graph))) = true :=
      Bool.false_ne_true
    have sound : ¬ (migrateBundle (old.buildBundle gstElementAvailable) ≠ .ok ∨
        validateBundle (old.buildBundle gstElementAvailable) ≠ .ok) :=
      not_or.mpr ⟨not_not.mpr migrated, not_not.mpr accepted⟩
    unfold applyBundle
    rw [isState]
    dsimp only
    rw [if_neg isObject, if_neg sound, loaded]
    dsimp only
    rw [loadMaster_stopRuntime, same]
  have restarted : ((fresh.stopRuntime.withGraph graph).restartRuntimeFromGraph
      starts).applyPreviewBundle (old.buildBundle gstElementAvailable) =
        { (fresh.stopRuntime.withGraph graph).restartRuntimeFromGraph starts with
          preview := (((fresh.stopRuntime.withGraph graph).restartRuntimeFromGraph
            starts).preview.applyEncoderConfig old.preview.serializeEncoderConfig).2 } := by
    unfold applyPreviewBundle
    dsimp only
    rw [isEncoder]
    rfl
  rw [applied, restarted]
  refine ⟨((fresh.stopRuntime.withGraph graph).restartRuntimeFromGraph starts).preview,
    congrArg CanvasState.width canvas, congrArg CanvasState.height canvas, rfl, rfl⟩

/-- The server that loads a bundle has the old master settings and preview encoder exactly when
the master has its defaults and an automatic factor is that of the canvas. -/
theorem restores_iff
    (reachable : (runtimeSystem gstElementAvailable).Reachable server)
    (accepted : validateBundle (server.buildBundle gstElementAvailable) = .ok)
    (overrides : Option CanvasOverrides)
    (starts : Bool) :
    Restores server (startServer (some (server.buildBundle gstElementAvailable)) overrides
        { encoder := .ok, saves := true } starts) ↔
      (∀ master ∈ server.audio, master = .new) ∧
      (server.preview.encoder.autoDownscale = true →
        previewAutoDownscaleFactor server.config.graph.canvas.width
            server.config.graph.canvas.height =
          previewAutoDownscaleFactor server.preview.srcWidth server.preview.srcHeight) := by
  have configured := configured_of_reachable reachable
  obtain ⟨engine, width, height, audio, preview⟩ :=
    startServer_buildBundle gstElementAvailable server accepted overrides starts
  have encoder := PreviewEngine.encoder_applyEncoderConfig_serialize configured engine
  rw [← preview, width, height] at encoder
  constructor
  · intro restores
    constructor
    · intro master isMaster
      have same := restores.audio master isMaster
      rw [audio] at same
      exact (Option.some.inj same).symm
    · intro auto
      have factor := congrArg PreviewEncoderConfig.downscaleFactor
        (encoder.symm.trans restores.preview)
      dsimp only at factor
      rw [if_pos auto] at factor
      exact factor.trans (configured.auto auto)
  · rintro ⟨defaults, sameFactor⟩
    constructor
    · intro master isMaster
      rw [audio, defaults master isMaster]
    · rw [encoder]
      cases auto : server.preview.encoder.autoDownscale with
      | false =>
          rw [if_neg Bool.false_ne_true]
      | true =>
          rw [if_pos rfl, sameFactor auto, ← configured.auto auto]

/-- A server that has started without a file. -/
def firstServer : RuntimeServer :=
  startServer none none CanvasRun.allSucceed true

theorem reachable_firstServer :
    (runtimeSystem gstElementAvailable).Reachable firstServer :=
  .initial ⟨none, none, CanvasRun.allSucceed, true, rfl⟩

/-- Edits of the graph, a preview of its own and a master volume that is set back. -/
def tuningEvents : List RuntimeEvent := [
  .edit (.call (.createSource (some {
    id := some "desk"
    name := none
    kind := .v4l2src
    enabled := true
    keepAlive := false
    config := none }))),
  .edit (.call (.createScene (some { id := some "desk-only", name := none }))),
  .setMaster (some (.object [("volume", .number (.finite (1 / 2)))])),
  .updatePreview (some (.object [
    ("downscale_factor", .number (.finite 3)),
    ("framerate", .number (.finite 15)),
    ("bitrate_kbps", .number (.finite 1200))])),
  .setMaster none]

/-- A server after a run of events. -/
def tunedServer : RuntimeServer :=
  tuningEvents.foldl (RuntimeServer.next fun _ => true) firstServer

/-- The preview of the tuned server comes back. -/
theorem restores_tunedServer :
    let after := startServer (some (tunedServer.buildBundle fun _ => true)) none
      { encoder := .ok, saves := true } true
    Restores tunedServer after ∧
      tunedServer.config.graph.sources.contains "desk" = true ∧
      after.preview.encoder =
        { downscaleFactor := 3, autoDownscale := false, framerate := 15, bitrateKbps := 1200 } := by
  have reachable := System.reachable_foldl (fun _ _ => rfl)
    (@reachable_firstServer fun _ => true) tuningEvents
  have restores := (@restores_iff (fun _ => true) tunedServer reachable (by decide +kernel) none
    true).mpr ⟨by decide +kernel, fun auto => absurd auto (by decide +kernel)⟩
  refine ⟨restores, by decide +kernel, ?_⟩
  rw [restores.preview]
  decide +kernel

/-- A server whose master volume was halved. -/
def quietServer : RuntimeServer :=
  firstServer.next (fun _ => true)
    (.setMaster (some (.object [("volume", .number (.finite (1 / 2)))])))

/-- The master volume is lost. -/
theorem master_volume_lost :
    (runtimeSystem fun _ => true).Reachable quietServer ∧
      quietServer.audio.map (·.volume) = some (.finite (1 / 2)) ∧
      ¬ Restores quietServer (startServer (some (quietServer.buildBundle fun _ => true)) none
        { encoder := .ok, saves := true } true) := by
  have reachable : (runtimeSystem fun _ => true).Reachable quietServer :=
    .step reachable_firstServer trivial rfl
  have volume : quietServer.audio.map (·.volume) = some (.finite (1 / 2)) := by
    decide +kernel
  refine ⟨reachable, volume, ?_⟩
  intro restores
  have accepted : validateBundle (quietServer.buildBundle fun _ => true) = .ok := by
    decide +kernel
  obtain ⟨-, -, -, audio, -⟩ :=
    startServer_buildBundle (fun _ => true) quietServer accepted none true
  obtain ⟨master, isMaster, halved⟩ := Option.map_eq_some_iff.mp volume
  have same := restores.audio master isMaster
  rw [audio] at same
  cases same
  exact absurd halved (by decide +kernel)

end RuntimeServer
end Api
end SbsServer
