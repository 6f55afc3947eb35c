import SbsServer.Api.Dispatch
import SbsServer.CLib.PtrArray
import SbsServer.Config.Lifetime
import SbsServer.Config.Validation
import SbsServer.SceneGraph.Serialize

/-!
# The canvas of a server

The handlers `canvas.update` and `canvas.apply`, and what they use of the
configuration manager: `state.json`, the timer that saves the graph, and
`sbs_config_manager_apply_bundle`.  The file is the tree that `cJSON_Print`
writes and `cJSON_Parse` reads back.  A bundle also has members for the preview
and the mixer, which have no part in the graph.
-/

namespace SbsServer
namespace Api

open CLib SceneGraph Config

/-- The canvas values that `canvas.update` saves. -/
structure CanvasSettings where
  width : UInt32
  height : UInt32
  fpsNum : UInt32
  fpsDen : UInt32
  colorMode : CStr
  backgroundColor : CStr
  deriving DecidableEq

/-- The text of a colour mode. -/
def colorModeName : ColorMode → CStr
  | .sdr => "sdr"
  | .hdr10 => "hdr10"

/-- The values of the running canvas. -/
def runningSettings (canvas : CanvasState) : CanvasSettings where
  width := canvas.width
  height := canvas.height
  fpsNum := canvas.fpsNum
  fpsDen := canvas.fpsDen
  colorMode := colorModeName canvas.colorMode
  backgroundColor := canvas.backgroundColor.text

namespace CanvasSettings

/-- The canvas that these values give a graph. -/
def canvas (settings : CanvasSettings) : CanvasState where
  width := settings.width
  height := settings.height
  fpsNum := settings.fpsNum
  fpsDen := settings.fpsDen
  colorMode := if settings.colorMode = CStr.lit "hdr10" then .hdr10 else .sdr
  backgroundColor := CharArray.strlcpy 16 settings.backgroundColor CanvasState.colorRoom

/-- `add_canvas_json` -/
def json (settings : CanvasSettings) : CJson :=
  .object [
    ("width", .ofInt settings.width.toNat),
    ("height", .ofInt settings.height.toNat),
    ("fps_num", .ofInt settings.fpsNum.toNat),
    ("fps_den", .ofInt settings.fpsDen.toNat),
    ("color_mode", .string settings.colorMode),
    ("background_color", .string settings.backgroundColor)]

theorem canvas_runningSettings
    (canvas : CanvasState) :
    (runningSettings canvas).canvas = canvas := by
  obtain ⟨width, height, fpsNum, fpsDen, colorMode, backgroundColor⟩ := canvas
  have sameColor : (runningSettings
      ⟨width, height, fpsNum, fpsDen, colorMode, backgroundColor⟩).canvas.colorMode =
        colorMode := by
    cases colorMode with
    | sdr => rfl
    | hdr10 => rfl
  have sameBackground : (runningSettings
      ⟨width, height, fpsNum, fpsDen, colorMode, backgroundColor⟩).canvas.backgroundColor =
        backgroundColor :=
    CharArray.strlcpy_text backgroundColor (by decide)
  exact congrArg₂ (CanvasState.mk width height fpsNum fpsDen) sameColor sameBackground

theorem loadCanvas_json
    (settings : CanvasSettings) :
    loadCanvas (some settings.json) = settings.canvas := by
  have opened : loadCanvas (some settings.json) = {
      width := (Double.ofInt settings.width.toNat).toUInt32
      height := (Double.ofInt settings.height.toNat).toUInt32
      fpsNum := (Double.ofInt settings.fpsNum.toNat).toUInt32
      fpsDen := (Double.ofInt settings.fpsDen.toNat).toUInt32
      colorMode :=
        if some settings.colorMode = some (CStr.lit "hdr10") then .hdr10 else .sdr
      backgroundColor := CharArray.strlcpy 16 settings.backgroundColor } := by
    rfl
  rw [opened]
  simp only [Double.toUInt32_ofInt, Option.some.injEq, CanvasSettings.canvas]

end CanvasSettings

theorem json_runningSettings
    (canvas : CanvasState) :
    (runningSettings canvas).json = serializeCanvas canvas := by
  cases isHdr : canvas.colorMode with
  | sdr => simp [runningSettings, CanvasSettings.json, serializeCanvas, colorModeName, isHdr]
  | hdr10 => simp [runningSettings, CanvasSettings.json, serializeCanvas, colorModeName, isHdr]

/-- What `sbs_compositor_thread_get_canvas_config` tells. -/
structure CompositorCanvas where
  width : UInt32
  height : UInt32
  fps : UInt32
  colorMode : ColorMode
  deriving DecidableEq

/-- What the API server and the configuration manager know of the canvas. -/
structure ConfigServer where
  graph : SceneGraph
  /-- `pending_canvas_valid` and the values with it. -/
  pendingCanvas : Option CanvasSettings
  /-- The tree in `state.json`, if the file exists. -/
  stateJson : Option CJson
  /-- `save_timeout_id` is a running timer. -/
  saveTimeout : Bool
  /-- The canvas of `comp_thread`. -/
  compositor : Option CompositorCanvas

/-- A change of the first member under a key. -/
def modifyMember
    (key : CStr)
    (change : CJson → CJson) : CJson → CJson
  | .object members =>
      .object (PtrArray.modifyFirst (fun entry => entry.1 = key)
        (fun entry => (entry.1, change entry.2)) members)
  | item => item

/-- `set_canvas_number_field` -/
def setCanvasNumberField
    (key : CStr)
    (value : UInt32)
    (canvas : CJson) : CJson :=
  if CJson.isNumber (CJson.getObjectItem (some canvas) key) then
    modifyMember key (fun _ => .ofInt value.toNat) canvas
  else canvas

/-- `set_canvas_string_field` -/
def setCanvasStringField
    (key : CStr)
    (value : CStr)
    (canvas : CJson) : CJson :=
  if CJson.isString (CJson.getObjectItem (some canvas) key) then
    modifyMember key (fun _ => .string value) canvas
  else canvas

/-- The fields that `canvas.update` sets in the `canvas` object of a bundle. -/
def setCanvasFields
    (settings : CanvasSettings)
    (canvas : CJson) : CJson :=
  setCanvasStringField "background_color" settings.backgroundColor <|
  setCanvasStringField "color_mode" settings.colorMode <|
  setCanvasNumberField "fps_den" settings.fpsDen <|
  setCanvasNumberField "fps_num" settings.fpsNum <|
  setCanvasNumberField "height" settings.height <|
  setCanvasNumberField "width" settings.width canvas

theorem setCanvasFields_serializeCanvas
    (settings : CanvasSettings)
    (canvas : CanvasState) :
    setCanvasFields settings (serializeCanvas canvas) = settings.json := by
  rfl

/-- The values from which `canvas.update` starts. -/
def ConfigServer.baseSettings (server : ConfigServer) : CanvasSettings :=
  server.pendingCanvas.getD (runningSettings server.graph.canvas)

/-- The values that a request asks for. -/
def requestedSettings
    (base : CanvasSettings)
    (canvas : Option CJson) : CanvasSettings :=
  let number := fun key (fallback : UInt32) =>
    (CJson.num canvas key (.ofInt fallback.toNat)).toUInt32
  let fpsDen := number "fps_den" base.fpsDen
  { width := number "width" base.width
    height := number "height" base.height
    fpsNum := number "fps_num" base.fpsNum
    fpsDen := if fpsDen = 0 then 1 else fpsDen
    colorMode := (CJson.str canvas "color_mode").getD base.colorMode
    backgroundColor := (CJson.str canvas "background_color").getD base.backgroundColor }

/-- A request that changes the resolution to one with a zero or odd side. -/
def badResolution
    (canvas : Option CJson)
    (settings : CanvasSettings) : Bool :=
  (CJson.isNumber (CJson.getObjectItem canvas "width") ||
      CJson.isNumber (CJson.getObjectItem canvas "height")) &&
    (settings.width = 0 || settings.height = 0 ||
      settings.width % 2 ≠ 0 || settings.height % 2 ≠ 0)

/-- `sbs_config_manager_build_bundle` -/
def buildBundle
    (gstElementAvailable : CStr → Bool)
    (graph : SceneGraph) : CJson :=
  bundleOf (serializeFullState gstElementAvailable graph)

/-- A bundle whose canvas object is changed. -/
def withCanvas
    (settings : CanvasSettings)
    (bundle : CJson) : CJson :=
  modifyMember "state" (modifyMember "canvas" (setCanvasFields settings)) bundle

/-- The canvas object of a bundle. -/
def bundleCanvas (bundle : CJson) : Option CJson :=
  CJson.getObjectItem (CJson.getObjectItem (some bundle) "state") "canvas"

/-- What a handler leaves: its reply and the server. -/
abbrev Handled := Reply × ConfigServer

/-- A handler that fails. -/
def ConfigServer.failed
    (server : ConfigServer)
    (code : SbsResult)
    (number : ℤ)
    (message : CStr) : Handled :=
  (⟨code, none, some (rpcError number message)⟩, server)

/-- `sbs_api_handle_canvas_update`; `saves` tells whether the file can be written. -/
def ConfigServer.canvasUpdate
    (gstElementAvailable : CStr → Bool)
    (server : ConfigServer)
    (params : Option CJson)
    (saves : Bool) : Handled :=
  match CJson.getObjectItem params "canvas" with
  | none => server.failed .inval (-32001) "canvas object is required"
  | some canvas =>
      let settings := requestedSettings server.baseSettings (some canvas)
      if badResolution (some canvas) settings then
        server.failed .inval (-32602) "Canvas width and height must be positive even numbers"
      else
        let bundle := buildBundle gstElementAvailable server.graph
        if !CJson.isObject (bundleCanvas bundle) then
          server.failed .io (-32002) "Config bundle missing canvas state"
        else if !saves then
          server.failed .io (-32002) "Failed to save canvas settings"
        else
          let result : CJson := .object [
            ("canvas", (runningSettings server.graph.canvas).json),
            ("pending_canvas", settings.json),
            ("restart_required", .bool true),
            ("saved", .bool true)]
          (⟨.ok, some result, none⟩, { server with
            stateJson := some (withCanvas settings bundle)
            pendingCanvas := some settings })

/-! ## `canvas.apply` -/

/-- The canvas that `saved_canvas_requires_restart` finds in the file, if the
compositor thread runs with another one. -/
def ConfigServer.savedCanvasRequiresRestart
    (server : ConfigServer)
    (canvas : Option CJson) : Option CanvasSettings :=
  if !CJson.isObject canvas then none
  else
    let running := runningSettings server.graph.canvas
    let desired := requestedSettings running canvas
    let desiredColor := if desired.colorMode = CStr.lit "hdr10" then ColorMode.hdr10 else .sdr
    match server.compositor with
    | none => none
    | some compositor =>
        if desired.width ≠ compositor.width ∨ desired.height ≠ compositor.height ∨
            desired.fpsNum ≠ compositor.fps ∨ desired.fpsDen ≠ 1 ∨
            desiredColor ≠ compositor.colorMode then
          some desired
        else none

/-- The canvas of the graph differs from that of the compositor thread. -/
def ConfigServer.compNeedsReconfigure (server : ConfigServer) : Bool :=
  match server.compositor with
  | none => false
  | some compositor =>
      compositor.width ≠ server.graph.canvas.width ||
        compositor.height ≠ server.graph.canvas.height ||
        compositor.fps ≠ server.graph.canvas.fpsNum ||
        compositor.colorMode ≠ server.graph.canvas.colorMode

/-- What the rest of the server answers to `sbs_config_manager_apply_bundle`. -/
structure ApplyAnswers where
  /-- The result of `sbs_encoder_manager_reconfigure_video`, if there is a manager. -/
  encoder : SbsResult
  /-- The file can be written. -/
  saves : Bool
  deriving DecidableEq

/-- `reconfigure_canvas_runtime_from_graph` -/
def ConfigServer.reconfigureCanvasRuntime
    (server : ConfigServer)
    (encoder : SbsResult) : SbsResult :=
  if server.compNeedsReconfigure then .wouldBlock else encoder

/-- `sbs_config_manager_save_bundle` -/
def ConfigServer.saveBundle
    (server : ConfigServer)
    (bundle : CJson)
    (saves : Bool) : SbsResult × ConfigServer :=
  if saves then (.ok, { server with stateJson := some bundle }) else (.io, server)

/-- `sbs_config_manager_apply_bundle`.  Where the compositor thread has another canvas, the
instance is restarted a little later. -/
def ConfigServer.applyBundle
    (server : ConfigServer)
    (bundle : CJson)
    (answers : ApplyAnswers) : SbsResult × ConfigServer :=
  match CJson.getObjectItem (some bundle) "state" with
  | none => (.inval, server)
  | some state =>
      if !CJson.isObject (some state) then (.inval, server)
      else if migrateBundle bundle ≠ .ok ∨ validateBundle bundle ≠ .ok then (.inval, server)
      else
        match applySceneGraphBundle server.graph state with
        | (.ok, graph) =>
            let loaded := { server with graph := graph }
            match loaded.reconfigureCanvasRuntime answers.encoder with
            | .wouldBlock | .ok => loaded.saveBundle bundle answers.saves
            | _ => (.inval, loaded)
        | (_, graph) => (.inval, { server with graph := graph })

/-- `sbs_config_manager_load_bundle` -/
def ConfigServer.loadBundle (server : ConfigServer) : Option CJson :=
  server.stateJson.filter fun bundle =>
    migrateBundle bundle = .ok ∧ validateBundle bundle = .ok

/-- `sbs_api_handle_canvas_apply` -/
def ConfigServer.canvasApply
    (server : ConfigServer)
    (answers : ApplyAnswers) : Handled :=
  match server.loadBundle with
  | none => server.failed .notFound (-32001) "No saved canvas settings to apply"
  | some bundle =>
      let noted := { server with
        pendingCanvas :=
          (server.savedCanvasRequiresRestart (bundleCanvas bundle)).or server.pendingCanvas }
      match noted.applyBundle bundle answers with
      | (.ok, applied) =>
          let result : CJson := .object [
            ("canvas", (runningSettings applied.graph.canvas).json),
            ("applied", .bool true),
            ("restart_required", .bool false)]
          (⟨.ok, some result, none⟩, { applied with pendingCanvas := none })
      | (_, applied) => applied.failed .io (-32002) "Failed to apply saved canvas settings"

/-- `sbs_config_manager_mark_dirty` -/
def ConfigServer.markDirty (server : ConfigServer) : ConfigServer :=
  { server with saveTimeout := true }

/-- `save_timeout_cb` -/
def ConfigServer.saveTimeoutCb
    (gstElementAvailable : CStr → Bool)
    (server : ConfigServer)
    (saves : Bool) : ConfigServer :=
  { (server.saveBundle (buildBundle gstElementAvailable server.graph) saves).2 with
    saveTimeout := false }

/-- `sbs_config_manager_reset` -/
def ConfigServer.reset
    (gstElementAvailable : CStr → Bool)
    (server : ConfigServer)
    (answers : ApplyAnswers) : SbsResult × ConfigServer :=
  let graph := seedDefaultGraph newDefault
  let fresh := { server with graph := graph, stateJson := none }
  let saved := (fresh.saveBundle (buildBundle gstElementAvailable graph) answers.saves).2
  match saved.reconfigureCanvasRuntime answers.encoder with
  | .wouldBlock | .ok => (.ok, saved)
  | _ => (.inval, saved)

namespace ConfigServer

variable {server : ConfigServer} {answers : ApplyAnswers}

/-- A bundle is written or nothing changes. -/
theorem saveBundle_cases
    (server : ConfigServer)
    (bundle : CJson)
    (saves : Bool) :
    saves = true ∧
        server.saveBundle bundle saves = (.ok, { server with stateJson := some bundle }) ∨
      saves = false ∧ server.saveBundle bundle saves = (.io, server) := by
  cases saves with
  | true => exact .inl ⟨rfl, rfl⟩
  | false => exact .inr ⟨rfl, rfl⟩

/-- What `sbs_config_manager_apply_bundle` leaves: an applied bundle is in the file, and one
that is not applied leaves the file. -/
theorem applyBundle_cases
    (server : ConfigServer)
    (bundle : CJson)
    (answers : ApplyAnswers) :
    (∃ state graph,
      CJson.getObjectItem (some bundle) "state" = some state ∧
      applySceneGraphBundle server.graph state = (.ok, graph) ∧
      server.applyBundle bundle answers =
        (.ok, { server with graph := graph, stateJson := some bundle })) ∨
    ∃ code graph,
      code ≠ .ok ∧
      (graph = server.graph ∨ ∃ state, graph = (applySceneGraphBundle server.graph state).2) ∧
      server.applyBundle bundle answers = (code, { server with graph := graph }) := by
  unfold applyBundle
  split
  next => exact .inr ⟨.inval, server.graph, by decide, .inl rfl, rfl⟩
  next state isState =>
    split
    next => exact .inr ⟨.inval, server.graph, by decide, .inl rfl, rfl⟩
    next =>
      split
      next => exact .inr ⟨.inval, server.graph, by decide, .inl rfl, rfl⟩
      next =>
        have loads : ∀ code graph, applySceneGraphBundle server.graph state = (code, graph) →
            graph = server.graph ∨
              ∃ state, graph = (applySceneGraphBundle server.graph state).2 :=
          fun code graph loaded => .inr ⟨state, by rw [loaded]⟩
        split
        next graph loaded =>
          dsimp only
          have reached := loads _ _ loaded
          obtain ⟨-, saved⟩ | ⟨-, saved⟩ := saveBundle_cases
            { server with graph := graph } bundle answers.saves
          · split
            · exact .inl ⟨state, graph, isState, loaded, saved⟩
            · exact .inl ⟨state, graph, isState, loaded, saved⟩
            · exact .inr ⟨.inval, graph, by decide, reached, rfl⟩
          · split
            · exact .inr ⟨.io, graph, by decide, reached, saved⟩
            · exact .inr ⟨.io, graph, by decide, reached, saved⟩
            · exact .inr ⟨.inval, graph, by decide, reached, rfl⟩
        next code graph notOk loaded =>
          exact .inr ⟨.inval, graph, by decide, loads _ _ loaded, rfl⟩

/-- A bundle that is applied has passed the checks and is written. -/
theorem applyBundle_ok
    {bundle : CJson}
    (isOk : (server.applyBundle bundle answers).1 = .ok) :
    migrateBundle bundle = .ok ∧ validateBundle bundle = .ok ∧ answers.saves = true := by
  unfold applyBundle at isOk
  split at isOk
  next => cases isOk
  next state isState =>
    split at isOk
    next => cases isOk
    next =>
      split at isOk
      next => cases isOk
      next passes =>
        rw [not_or, not_not, not_not] at passes
        refine ⟨passes.1, passes.2, ?_⟩
        by_contra fails
        split at isOk
        next graph loaded =>
          simp only [saveBundle, Bool.eq_false_iff.mpr fails] at isOk
          split at isOk
          · cases isOk
          · cases isOk
          · cases isOk
        next => cases isOk

theorem canvasApply_cases
    (server : ConfigServer)
    (answers : ApplyAnswers) :
    (∃ bundle state graph,
      server.stateJson = some bundle ∧
      CJson.getObjectItem (some bundle) "state" = some state ∧
      applySceneGraphBundle server.graph state = (.ok, graph) ∧
      (server.canvasApply answers).1.code = .ok ∧
      (server.canvasApply answers).2 =
        { server with graph := graph, pendingCanvas := none }) ∨
    ∃ graph pending,
      (graph = server.graph ∨ ∃ state, graph = (applySceneGraphBundle server.graph state).2) ∧
      (server.canvasApply answers).1.code ≠ .ok ∧
      (server.canvasApply answers).2 =
        { server with graph := graph, pendingCanvas := pending } := by
  unfold canvasApply
  split
  next =>
    exact .inr ⟨server.graph, server.pendingCanvas, .inl rfl, nofun, rfl⟩
  next bundle loaded =>
    have stored : server.stateJson = some bundle := (Option.filter_eq_some_iff.mp loaded).1
    dsimp only
    generalize (server.savedCanvasRequiresRestart (bundleCanvas bundle)).or
      server.pendingCanvas = pending
    obtain ⟨state, graph, isState, applies, result⟩ | ⟨code, graph, notOk, reached, result⟩ :=
      applyBundle_cases { server with pendingCanvas := pending } bundle answers
    · rw [result]
      refine .inl ⟨bundle, state, graph, stored, isState, applies, rfl, ?_⟩
      rw [← stored]
    · rw [result]
      cases code with
      | ok => exact absurd rfl notOk
      | _ => exact .inr ⟨graph, pending, reached, nofun, rfl⟩

theorem canvasUpdate_cases
    (gstElementAvailable : CStr → Bool)
    (server : ConfigServer)
    (params : Option CJson)
    (saves : Bool) :
    (∃ canvas result,
      CJson.getObjectItem params "canvas" = some canvas ∧
      badResolution (some canvas) (requestedSettings server.baseSettings (some canvas)) = false ∧
      server.canvasUpdate gstElementAvailable params saves =
        (⟨.ok, some result, none⟩, { server with
          stateJson := some (withCanvas (requestedSettings server.baseSettings (some canvas))
            (buildBundle gstElementAvailable server.graph))
          pendingCanvas := some (requestedSettings server.baseSettings (some canvas)) })) ∨
    ∃ code number message,
      code ≠ .ok ∧
      server.canvasUpdate gstElementAvailable params saves =
        server.failed code number message := by
  unfold canvasUpdate
  split
  next => exact .inr ⟨.inval, _, _, by decide, rfl⟩
  next canvas given =>
    dsimp only
    split
    next => exact .inr ⟨.inval, _, _, by decide, rfl⟩
    next good =>
      split
      next => exact .inr ⟨.io, _, _, by decide, rfl⟩
      next =>
        split
        next => exact .inr ⟨.io, _, _, by decide, rfl⟩
        next => exact .inl ⟨canvas, _, given, by simpa using good, rfl⟩

/-- What a reset leaves: the seeded graph, and a file of it if one can be written. -/
theorem reset_leaves
    (gstElementAvailable : CStr → Bool)
    (server : ConfigServer)
    (answers : ApplyAnswers) :
    (server.reset gstElementAvailable answers).2.graph = seedDefaultGraph newDefault ∧
      (answers.saves = true →
        (server.reset gstElementAvailable answers).2.stateJson =
          some (buildBundle gstElementAvailable
            (server.reset gstElementAvailable answers).2.graph)) := by
  unfold reset
  dsimp only
  obtain ⟨saves, saved⟩ | ⟨saves, saved⟩ := saveBundle_cases
    { server with graph := seedDefaultGraph newDefault, stateJson := none }
    (buildBundle gstElementAvailable (seedDefaultGraph newDefault)) answers.saves
  · rw [saved]
    split
    · exact ⟨rfl, fun _ => rfl⟩
    · exact ⟨rfl, fun _ => rfl⟩
    · exact ⟨rfl, fun _ => rfl⟩
  · rw [saved, saves]
    split
    · exact ⟨rfl, nofun⟩
    · exact ⟨rfl, nofun⟩
    · exact ⟨rfl, nofun⟩

end ConfigServer
end Api
end SbsServer
