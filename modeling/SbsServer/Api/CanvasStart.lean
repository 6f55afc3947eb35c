import Mathlib.Data.Fintype.Defs
import Mathlib.Data.Finset.Insert
import SbsServer.Api.CanvasSaving
import SbsServer.Config.LoadedCanvas

/-!
# The canvas that a server starts with

The numbers of a canvas come from `canvas.update`, from bundles, from a file that
is put in place and from the override file.  A start reads the override file and
`state.json` and gives the result to the compositor thread, which divides by it
and checks it against the device.  Numbers that the device accepts are never
turned into a canvas that it does not accept.
-/

namespace SbsServer
namespace Api

open CLib SceneGraph Config

/-- The planes of a native canvas. -/
inductive YuvPlane
  | sdrY
  | sdrUv
  | hdrY
  | hdrUv
  deriving DecidableEq

instance : Fintype YuvPlane where
  elems := {.sdrY, .sdrUv, .hdrY, .hdrUv}
  complete plane := by
    cases plane with
    | _ => decide

/-- What the device answers about the format of a plane. -/
structure PlaneFormat where
  /-- The linear modifier with its features, and the import of DMA buffers. -/
  usable : Bool
  maxWidth : UInt32
  maxHeight : UInt32
  deriving DecidableEq

/-- A device, by the formats of the planes. -/
abbrev Device := YuvPlane → PlaneFormat

/-- `check_native_yuv_plane_format` -/
def checkNativeYuvPlaneFormat
    (format : PlaneFormat)
    (width height : UInt32) : Bool :=
  format.usable && !(format.maxWidth < width || format.maxHeight < height)

/-- `check_native_yuv_capabilities` -/
def checkNativeYuvCapabilities
    (device : Device)
    (width height : UInt32) : Bool :=
  if width % 2 ≠ 0 ∨ height % 2 ≠ 0 then false
  else [YuvPlane.sdrY, .sdrUv, .hdrY, .hdrUv].all fun plane =>
    checkNativeYuvPlaneFormat (device plane) width height

/-- A canvas with which nothing that is computed from it goes wrong.  The largest size that
is computed in 32 bits is three times the number of pixels. -/
structure Sound
    (device : Device)
    (width height fpsNum fpsDen : UInt32) : Prop where
  positive : width ≠ 0 ∧ height ≠ 0
  even : width % 2 = 0 ∧ height % 2 = 0
  accepted : checkNativeYuvCapabilities device width height = true
  rate : fpsNum ≠ 0 ∧ fpsDen ≠ 0
  sizes : width.toNat * height.toNat * 3 < 2 ^ 32

/-- The group `canvas` of the override file, with the keys that it has. -/
structure CanvasOverrides where
  width : Option Int32
  height : Option Int32
  fpsNum : Option Int32
  fpsDen : Option Int32
  /-- A string, or NULL where GLib cannot read it. -/
  backgroundColor : Option (Option CStr)
  deriving DecidableEq

/-- `sbs_config_manager_apply_system_overrides` on a graph without sources. -/
def applySystemOverrides
    (overrides : Option CanvasOverrides)
    (canvas : CanvasState) : CanvasState :=
  match overrides with
  | none => canvas
  | some overrides =>
      { canvas with
        width := (overrides.width.map Int32.toUInt32).getD canvas.width
        height := (overrides.height.map Int32.toUInt32).getD canvas.height
        fpsNum := (overrides.fpsNum.map Int32.toUInt32).getD canvas.fpsNum
        fpsDen := (overrides.fpsDen.map Int32.toUInt32).getD canvas.fpsDen
        backgroundColor :=
          (overrides.backgroundColor.map fun color =>
            CharArray.strlcpy 16 (color.getD "#000000") CanvasState.colorRoom).getD
              canvas.backgroundColor }

/-- The canvas object that `sbs_config_manager_preload_canvas` finds in a file. -/
def savedCanvas (root : CJson) : Option CJson :=
  CJson.getObjectItem ((CJson.getObjectItem (some root) "state").or (some root)) "canvas"

/-- `sbs_config_manager_preload_canvas` -/
def preloadCanvas
    (stateJson : Option CJson)
    (canvas : CanvasState) : CanvasState :=
  let saved := stateJson.bind savedCanvas
  if CJson.isObject saved then
    let number := fun key (fallback : UInt32) =>
      (CJson.num saved key (.ofInt fallback.toNat)).toUInt32
    { canvas with
      width := number "width" canvas.width
      height := number "height" canvas.height
      fpsNum := number "fps_num" canvas.fpsNum
      fpsDen := number "fps_den" canvas.fpsDen
      colorMode := match CJson.str saved "color_mode" with
        | some mode => if mode = "hdr10" then .hdr10 else .sdr
        | none => canvas.colorMode }
  else canvas

/-- The start of a server process: the compositor thread gets the preloaded canvas, then the
file is loaded. -/
def startInstance
    (stateJson : Option CJson)
    (overrides : Option CanvasOverrides)
    (answers : ApplyAnswers) : ConfigServer :=
  let canvas := preloadCanvas stateJson (applySystemOverrides overrides newDefault.canvas)
  let started : ConfigServer := {
    graph := { newDefault with canvas := canvas }
    pendingCanvas := none
    stateJson := stateJson
    saveTimeout := false
    compositor := some {
      width := canvas.width
      height := canvas.height
      fps := canvas.fpsNum
      colorMode := canvas.colorMode } }
  match started.loadBundle with
  | some bundle => (started.applyBundle bundle answers).2
  | none => started

/-- What happens to a server and its file. -/
inductive StartEvent
  /-- The process starts, at first or after it has ended. -/
  | start (overrides : Option CanvasOverrides) (answers : ApplyAnswers)
  /-- A file is put in place of `state.json`. -/
  | install (file : Option CJson)
  /-- A call, or the timer. -/
  | call (event : CanvasEvent)

namespace CanvasRun

variable {gstElementAvailable : CStr → Bool} {device : Device} {run after : CanvasRun}

/-- The run after an event, where it can happen. -/
def nextStart
    (gstElementAvailable : CStr → Bool)
    (run : CanvasRun) : StartEvent → Option CanvasRun
  | .start overrides answers =>
      some {
        server := startInstance run.server.stateJson overrides answers
        saved := none
        file := .stale }
  | .install file =>
      some { run with
        server := { run.server with stateJson := file }
        file := .stale }
  | .call event =>
      if run.server.compositor.isSome then run.next gstElementAvailable event else none

/-- The runs of a server that has not started yet. -/
def startSystem (gstElementAvailable : CStr → Bool) : System CanvasRun StartEvent :=
  .ofNext (· = freshRun) (nextStart gstElementAvailable)

end CanvasRun

/-- A number of a canvas object, as the code converts it. -/
def canvasNumber
    (canvas : Option CJson)
    (key : CStr) : Option UInt32 :=
  match CJson.getObjectItem canvas key with
  | some (.number value) => some value.toUInt32
  | _ => none

/-- A width that the device accepts. -/
def FitsWidth
    (device : Device)
    (width : UInt32) : Prop :=
  width ≠ 0 ∧ width % 2 = 0 ∧ ∀ plane, width ≤ (device plane).maxWidth

/-- A height that the device accepts. -/
def FitsHeight
    (device : Device)
    (height : UInt32) : Prop :=
  height ≠ 0 ∧ height % 2 = 0 ∧ ∀ plane, height ≤ (device plane).maxHeight

/-- A device that has the formats, accepts the defaults of the code and has no sides whose
product is too large. -/
structure Roomy (device : Device) : Prop where
  usable : ∀ plane, (device plane).usable = true
  width : ∀ plane, 3840 ≤ (device plane).maxWidth
  height : ∀ plane, 2160 ≤ (device plane).maxHeight
  sizes : ∀ width height, FitsWidth device width → FitsHeight device height →
    width.toNat * height.toNat * 3 < 2 ^ 32

/-- Values of a canvas that fit. -/
structure Fits
    (device : Device)
    (width height fpsNum fpsDen : UInt32) : Prop where
  width : FitsWidth device width
  height : FitsHeight device height
  fpsNum : fpsNum ≠ 0
  fpsDen : fpsDen ≠ 0

/-- Every number that a canvas object gives fits. -/
structure NumbersFit
    (device : Device)
    (canvas : Option CJson) : Prop where
  width : ∀ value ∈ canvasNumber canvas "width", FitsWidth device value
  height : ∀ value ∈ canvasNumber canvas "height", FitsHeight device value
  fpsNum : ∀ value ∈ canvasNumber canvas "fps_num", value ≠ 0
  fpsDen : ∀ value ∈ canvasNumber canvas "fps_den", value ≠ 0

/-- Every number of the override file that the saved canvas does not replace fits. -/
structure OverridesFit
    (device : Device)
    (saved : Option CJson)
    (overrides : CanvasOverrides) : Prop where
  width : ∀ value ∈ overrides.width,
    canvasNumber saved "width" = none → FitsWidth device value.toUInt32
  height : ∀ value ∈ overrides.height,
    canvasNumber saved "height" = none → FitsHeight device value.toUInt32
  fpsNum : ∀ value ∈ overrides.fpsNum,
    canvasNumber saved "fps_num" = none → value.toUInt32 ≠ 0
  fpsDen : ∀ value ∈ overrides.fpsDen,
    canvasNumber saved "fps_den" = none → value.toUInt32 ≠ 0

/-- Numbers of a request that its check lets pass are small enough, with a frame rate.  That
the sides are positive and even is checked, and no denominator is zero. -/
structure RequestFits
    (device : Device)
    (canvas : Option CJson) : Prop where
  width : ∀ value ∈ canvasNumber canvas "width", ∀ plane, value ≤ (device plane).maxWidth
  height : ∀ value ∈ canvasNumber canvas "height", ∀ plane, value ≤ (device plane).maxHeight
  fpsNum : ∀ value ∈ canvasNumber canvas "fps_num", value ≠ 0

section

variable (device : Device) (width height : UInt32) (canvas : Option CJson)

instance : Decidable (FitsWidth device width) :=
  inferInstanceAs (Decidable (_ ∧ _ ∧ _))

instance : Decidable (FitsHeight device height) :=
  inferInstanceAs (Decidable (_ ∧ _ ∧ _))

/-- A decision about the number that is given, not about all numbers. -/
abbrev decidableGiven
    {Number : Type}
    (number : Option Number)
    (fits : Number → Prop)
    [DecidablePred fits] :
    Decidable (∀ value ∈ number, fits value) :=
  Option.decidableForallMem number

instance : Decidable (NumbersFit device canvas) :=
  letI := @decidableGiven
  decidable_of_iff
    ((∀ value ∈ canvasNumber canvas "width", FitsWidth device value) ∧
      (∀ value ∈ canvasNumber canvas "height", FitsHeight device value) ∧
      (∀ value ∈ canvasNumber canvas "fps_num", value ≠ 0) ∧
      ∀ value ∈ canvasNumber canvas "fps_den", value ≠ 0)
    ⟨fun ⟨width, height, fpsNum, fpsDen⟩ => ⟨width, height, fpsNum, fpsDen⟩,
      fun fits => ⟨fits.width, fits.height, fits.fpsNum, fits.fpsDen⟩⟩

instance (overrides : CanvasOverrides) : Decidable (OverridesFit device canvas overrides) :=
  letI := @decidableGiven
  decidable_of_iff
    ((∀ value ∈ overrides.width,
        canvasNumber canvas "width" = none → FitsWidth device value.toUInt32) ∧
      (∀ value ∈ overrides.height,
        canvasNumber canvas "height" = none → FitsHeight device value.toUInt32) ∧
      (∀ value ∈ overrides.fpsNum, canvasNumber canvas "fps_num" = none → value.toUInt32 ≠ 0) ∧
      ∀ value ∈ overrides.fpsDen, canvasNumber canvas "fps_den" = none → value.toUInt32 ≠ 0)
    ⟨fun ⟨width, height, fpsNum, fpsDen⟩ => ⟨width, height, fpsNum, fpsDen⟩,
      fun fits => ⟨fits.width, fits.height, fits.fpsNum, fits.fpsDen⟩⟩

instance : Decidable (RequestFits device canvas) :=
  letI := @decidableGiven
  decidable_of_iff
    ((∀ value ∈ canvasNumber canvas "width", ∀ plane, value ≤ (device plane).maxWidth) ∧
      (∀ value ∈ canvasNumber canvas "height", ∀ plane, value ≤ (device plane).maxHeight) ∧
      ∀ value ∈ canvasNumber canvas "fps_num", value ≠ 0)
    ⟨fun ⟨width, height, fpsNum⟩ => ⟨width, height, fpsNum⟩,
      fun fits => ⟨fits.width, fits.height, fits.fpsNum⟩⟩

end

/-- What enters in an event fits, or is refused by a check. -/
def CanvasRun.EntersFitting
    (device : Device)
    (run : CanvasRun) : StartEvent → Prop
  | .start overrides _ =>
      ∀ given ∈ overrides, OverridesFit device (run.server.stateJson.bind savedCanvas) given
  | .install file => ∀ root ∈ file, NumbersFit device (savedCanvas root)
  | .call (.importBundle bundle _) =>
      migrateBundle bundle = .ok → validateBundle bundle = .ok →
        NumbersFit device (bundleCanvas bundle)
  | .call (.update params _) =>
      ∀ canvas ∈ CJson.getObjectItem params "canvas",
        badResolution (some canvas)
            (requestedSettings run.server.baseSettings (some canvas)) = false →
          RequestFits device (some canvas)
  | .call _ => True

instance (device : Device) (run : CanvasRun) (event : StartEvent) :
    Decidable (run.EntersFitting device event) :=
  match event with
  | .start overrides _ => inferInstanceAs (Decidable (∀ given ∈ overrides, _))
  | .install file => inferInstanceAs (Decidable (∀ root ∈ file, _))
  | .call (.importBundle _ _) => inferInstanceAs (Decidable (_ → _ → _))
  | .call (.update params _) =>
      inferInstanceAs (Decidable (∀ canvas ∈ CJson.getObjectItem params "canvas", _ → _))
  | .call (.edit _) | .call (.apply _) | .call (.saveTimeout _) | .call (.reset _) =>
      inferInstanceAs (Decidable True)

/-! ## Fitting values -/

theorem getD_of_forall
    {Value : Type}
    {property : Value → Prop}
    {given : Option Value}
    {fallback : Value}
    (all : ∀ value ∈ given, property value)
    (default : given = none → property fallback) :
    property (given.getD fallback) := by
  cases given with
  | none => exact default rfl
  | some value => exact all value rfl

theorem overridden_of_forall
    {property : UInt32 → Prop}
    {given : Option Int32}
    {fallback : UInt32}
    (all : ∀ value ∈ given, property value.toUInt32)
    (default : property fallback) :
    property ((given.map Int32.toUInt32).getD fallback) := by
  cases given with
  | none => exact default
  | some value => exact all value rfl

theorem toUInt32_num
    (canvas : Option CJson)
    (key : CStr)
    (fallback : Double) :
    (CJson.num canvas key fallback).toUInt32 =
      (canvasNumber canvas key).getD fallback.toUInt32 := by
  unfold CJson.num canvasNumber
  cases CJson.getObjectItem canvas key with
  | none => rfl
  | some item =>
      cases item with
      | _ => rfl

theorem isNumber_iff
    {canvas : Option CJson}
    {key : CStr} :
    CJson.isNumber (CJson.getObjectItem canvas key) = (canvasNumber canvas key).isSome := by
  unfold canvasNumber
  cases CJson.getObjectItem canvas key with
  | none => rfl
  | some item =>
      cases item with
      | _ => rfl

/-- The numbers that a start preloads: those of the file, else those before. -/
theorem preloadCanvas_numbers
    (stateJson : Option CJson)
    (canvas : CanvasState) :
    let saved := stateJson.bind savedCanvas
    (preloadCanvas stateJson canvas).width =
        (canvasNumber saved "width").getD canvas.width ∧
      (preloadCanvas stateJson canvas).height =
        (canvasNumber saved "height").getD canvas.height ∧
      (preloadCanvas stateJson canvas).fpsNum =
        (canvasNumber saved "fps_num").getD canvas.fpsNum ∧
      (preloadCanvas stateJson canvas).fpsDen =
        (canvasNumber saved "fps_den").getD canvas.fpsDen := by
  unfold preloadCanvas
  dsimp only
  generalize stateJson.bind savedCanvas = saved
  split
  next => simp only [toUInt32_num, Double.toUInt32_ofInt, and_self]
  next notObject =>
    have missing : ∀ key, canvasNumber saved key = none := by
      intro key
      cases saved with
      | none => rfl
      | some item =>
          cases item with
          | object members => exact absurd rfl notObject
          | _ => rfl
    simp only [missing, Option.getD_none, and_self]

section

variable {device : Device}

theorem FitsWidth.of_le
    {width : UInt32}
    (roomy : Roomy device)
    (positive : width ≠ 0)
    (even : width % 2 = 0)
    (small : width ≤ 3840) :
    FitsWidth device width :=
  ⟨positive, even, fun plane => UInt32.le_trans small (roomy.width plane)⟩

theorem FitsHeight.of_le
    {height : UInt32}
    (roomy : Roomy device)
    (positive : height ≠ 0)
    (even : height % 2 = 0)
    (small : height ≤ 2160) :
    FitsHeight device height :=
  ⟨positive, even, fun plane => UInt32.le_trans small (roomy.height plane)⟩

/-- Values that fit make a sound canvas. -/
theorem Fits.sound
    {width height fpsNum fpsDen : UInt32}
    (fits : Fits device width height fpsNum fpsDen)
    (roomy : Roomy device) :
    Sound device width height fpsNum fpsDen where
  positive := ⟨fits.width.1, fits.height.1⟩
  even := ⟨fits.width.2.1, fits.height.2.1⟩
  accepted := by
    unfold checkNativeYuvCapabilities
    rw [if_neg (by simp [fits.width.2.1, fits.height.2.1])]
    apply List.all_eq_true.mpr
    intro plane _
    have width := fits.width.2.2 plane
    have height := fits.height.2.2 plane
    simp only [checkNativeYuvPlaneFormat, roomy.usable plane, Bool.true_and, Bool.not_eq_true',
      Bool.or_eq_false_iff, decide_eq_false_iff_not, UInt32.not_lt]
    exact ⟨width, height⟩
  rate := ⟨fits.fpsNum, fits.fpsDen⟩
  sizes := roomy.sizes width height fits.width fits.height

/-- The canvas of a new graph. -/
theorem fits_newDefault
    (roomy : Roomy device) :
    Fits device newDefault.canvas.width newDefault.canvas.height newDefault.canvas.fpsNum
      newDefault.canvas.fpsDen where
  width := .of_le roomy (by decide) (by decide) (by decide)
  height := .of_le roomy (by decide) (by decide) (by decide)
  fpsNum := by decide
  fpsDen := by decide

variable {canvas : Option CJson}

theorem NumbersFit.loadCanvas
    (numbers : NumbersFit device canvas)
    (roomy : Roomy device) :
    Fits device (loadCanvas canvas).width (loadCanvas canvas).height (loadCanvas canvas).fpsNum
      (loadCanvas canvas).fpsDen := by
  unfold Config.loadCanvas
  simp only [toUInt32_num]
  exact {
    width := getD_of_forall numbers.width fun _ =>
      .of_le roomy (by decide +kernel) (by decide +kernel) (by decide +kernel)
    height := getD_of_forall numbers.height fun _ =>
      .of_le roomy (by decide +kernel) (by decide +kernel) (by decide +kernel)
    fpsNum := getD_of_forall numbers.fpsNum fun _ => by decide +kernel
    fpsDen := getD_of_forall numbers.fpsDen fun _ => by decide +kernel }

theorem fits_preloadCanvas
    {stateJson : Option CJson}
    {overrides : Option CanvasOverrides}
    (roomy : Roomy device)
    (numbers : NumbersFit device (stateJson.bind savedCanvas))
    (overriding : ∀ given ∈ overrides,
      OverridesFit device (stateJson.bind savedCanvas) given) :
    let canvas := preloadCanvas stateJson (applySystemOverrides overrides newDefault.canvas)
    Fits device canvas.width canvas.height canvas.fpsNum canvas.fpsDen := by
  have default := fits_newDefault roomy
  dsimp only
  obtain ⟨width, height, fpsNum, fpsDen⟩ := preloadCanvas_numbers stateJson
    (applySystemOverrides overrides newDefault.canvas)
  rw [width, height, fpsNum, fpsDen]
  cases overrides with
  | none =>
      exact {
        width := getD_of_forall numbers.width fun _ => default.width
        height := getD_of_forall numbers.height fun _ => default.height
        fpsNum := getD_of_forall numbers.fpsNum fun _ => default.fpsNum
        fpsDen := getD_of_forall numbers.fpsDen fun _ => default.fpsDen }
  | some given =>
      have fits := overriding given rfl
      exact {
        width := getD_of_forall numbers.width fun missing =>
          overridden_of_forall (fun value isValue => fits.width value isValue missing)
            default.width
        height := getD_of_forall numbers.height fun missing =>
          overridden_of_forall (fun value isValue => fits.height value isValue missing)
            default.height
        fpsNum := getD_of_forall numbers.fpsNum fun missing =>
          @overridden_of_forall (· ≠ 0) _ _
            (fun value isValue => fits.fpsNum value isValue missing) default.fpsNum
        fpsDen := getD_of_forall numbers.fpsDen fun missing =>
          @overridden_of_forall (· ≠ 0) _ _
            (fun value isValue => fits.fpsDen value isValue missing) default.fpsDen }

/-- A request without numbers that do not fit. -/
theorem Fits.requested
    {base : CanvasSettings}
    (fits : Fits device base.width base.height base.fpsNum base.fpsDen)
    (width : ∀ value ∈ canvasNumber canvas "width", FitsWidth device value)
    (height : ∀ value ∈ canvasNumber canvas "height", FitsHeight device value)
    (fpsNum : ∀ value ∈ canvasNumber canvas "fps_num", value ≠ 0) :
    Fits device (requestedSettings base canvas).width (requestedSettings base canvas).height
      (requestedSettings base canvas).fpsNum (requestedSettings base canvas).fpsDen := by
  unfold requestedSettings
  simp only [toUInt32_num, Double.toUInt32_ofInt]
  exact {
    width := getD_of_forall width fun _ => fits.width
    height := getD_of_forall height fun _ => fits.height
    fpsNum := getD_of_forall fpsNum fun _ => fits.fpsNum
    fpsDen := by
      split
      · decide
      · assumption }

/-- A request that the check lets pass. -/
theorem RequestFits.settings
    {base : CanvasSettings}
    (request : RequestFits device canvas)
    (fits : Fits device base.width base.height base.fpsNum base.fpsDen)
    (good : badResolution canvas (requestedSettings base canvas) = false) :
    Fits device (requestedSettings base canvas).width (requestedSettings base canvas).height
      (requestedSettings base canvas).fpsNum (requestedSettings base canvas).fpsDen := by
  have checked : (canvasNumber canvas "width").isSome ∨ (canvasNumber canvas "height").isSome →
      (requestedSettings base canvas).width ≠ 0 ∧ (requestedSettings base canvas).height ≠ 0 ∧
        (requestedSettings base canvas).width % 2 = 0 ∧
        (requestedSettings base canvas).height % 2 = 0 := by
    intro given
    simp only [badResolution, isNumber_iff, Bool.and_eq_false_iff, Bool.or_eq_false_iff,
      decide_eq_false_iff_not, decide_not, Bool.not_eq_false', decide_eq_true_eq] at good
    obtain ⟨noWidth, noHeight⟩ | ⟨⟨⟨width, height⟩, evenWidth⟩, evenHeight⟩ := good
    · rw [noWidth, noHeight] at given
      exact absurd given (by decide)
    · exact ⟨width, height, evenWidth, evenHeight⟩
  have settings : (requestedSettings base canvas).width =
        (canvasNumber canvas "width").getD base.width ∧
      (requestedSettings base canvas).height =
        (canvasNumber canvas "height").getD base.height := by
    unfold requestedSettings
    simp only [toUInt32_num, Double.toUInt32_ofInt, and_self]
  apply fits.requested
  · intro value isValue
    obtain ⟨positive, -, even, -⟩ := checked (.inl (Option.isSome_of_mem isValue))
    rw [settings.1, isValue] at positive even
    exact ⟨positive, even, request.width value isValue⟩
  · intro value isValue
    obtain ⟨-, positive, -, even⟩ := checked (.inr (Option.isSome_of_mem isValue))
    rw [settings.2, isValue] at positive even
    exact ⟨positive, even, request.height value isValue⟩
  · exact request.fpsNum

/-- The numbers of a canvas object that the code writes. -/
theorem Fits.numbers
    {settings : CanvasSettings}
    (fits : Fits device settings.width settings.height settings.fpsNum settings.fpsDen) :
    NumbersFit device (some settings.json) := by
  have written : ∀ {key : CStr} {side : UInt32},
      CJson.getObjectItem (some settings.json) key = some (.ofInt side.toNat) →
        canvasNumber (some settings.json) key = some side := by
    intro key side isItem
    unfold canvasNumber
    rw [isItem]
    exact congrArg some (Double.toUInt32_ofInt side)
  exact {
    width := by
      rw [written rfl]
      rintro _ ⟨⟩
      exact fits.width
    height := by
      rw [written rfl]
      rintro _ ⟨⟩
      exact fits.height
    fpsNum := by
      rw [written rfl]
      rintro _ ⟨⟩
      exact fits.fpsNum
    fpsDen := by
      rw [written rfl]
      rintro _ ⟨⟩
      exact fits.fpsDen }

end

namespace ConfigServer

/-- What an applied bundle leaves: its canvas in the graph, and the old file or the bundle. -/
theorem applyBundle_reads
    (server : ConfigServer)
    (bundle : CJson)
    (answers : ApplyAnswers) :
    (server.applyBundle bundle answers).2 = server ∨
      migrateBundle bundle = .ok ∧ validateBundle bundle = .ok ∧
        (∃ state, CJson.getObjectItem (some bundle) "state" = some state) ∧
        ∃ graph file,
          graph.canvas = loadCanvas (bundleCanvas bundle) ∧
          (file = server.stateJson ∨ file = some bundle) ∧
          (server.applyBundle bundle answers).2 =
            { server with graph := graph, stateJson := file } := by
  unfold applyBundle
  split
  next => exact .inl rfl
  next state isState =>
    split
    next => exact .inl rfl
    next isObject =>
      split
      next => exact .inl rfl
      next sound =>
        obtain ⟨migrated, valid⟩ := not_or.mp sound
        have canvas := canvas_applySceneGraphBundle server.graph
          (show CJson.isObject (some state) = true by simpa using isObject)
        have read : CJson.getObjectItem (some state) "canvas" = bundleCanvas bundle := by
          rw [bundleCanvas, isState]
        rw [read] at canvas
        refine .inr ⟨not_not.mp migrated, not_not.mp valid, ⟨state, isState⟩, ?_⟩
        split
        next graph loaded =>
          rw [loaded] at canvas
          dsimp only
          obtain ⟨-, saved⟩ | ⟨-, saved⟩ := saveBundle_cases
            { server with graph := graph } bundle answers.saves
          · split
            · exact ⟨graph, some bundle, canvas, .inr rfl, congrArg Prod.snd saved⟩
            · exact ⟨graph, some bundle, canvas, .inr rfl, congrArg Prod.snd saved⟩
            · exact ⟨graph, server.stateJson, canvas, .inl rfl, rfl⟩
          · split
            · exact ⟨graph, server.stateJson, canvas, .inl rfl, congrArg Prod.snd saved⟩
            · exact ⟨graph, server.stateJson, canvas, .inl rfl, congrArg Prod.snd saved⟩
            · exact ⟨graph, server.stateJson, canvas, .inl rfl, rfl⟩
        next code graph _ loaded =>
          rw [loaded] at canvas
          exact ⟨graph, server.stateJson, canvas, .inl rfl, rfl⟩

theorem savedCanvasRequiresRestart_eq
    {server : ConfigServer}
    {canvas : Option CJson}
    {desired : CanvasSettings}
    (requires : server.savedCanvasRequiresRestart canvas = some desired) :
    desired = requestedSettings (runningSettings server.graph.canvas) canvas := by
  unfold savedCanvasRequiresRestart at requires
  dsimp only at requires
  split at requires
  next => cases requires
  next =>
    split at requires
    next => cases requires
    next =>
      obtain ⟨-, same⟩ := Option.ite_none_right_eq_some.mp requires
      cases same
      rfl

/-- What `canvas.apply` leaves: the canvas of the file in the graph, and what was noted. -/
theorem canvasApply_reads
    (server : ConfigServer)
    (answers : ApplyAnswers) :
    (server.canvasApply answers).2 = server ∨
      ∃ bundle pending,
        server.stateJson = some bundle ∧
        pending = (server.savedCanvasRequiresRestart (bundleCanvas bundle)).or
          server.pendingCanvas ∧
        ∃ left,
          (left = { server with pendingCanvas := pending } ∨
            ∃ state graph,
              CJson.getObjectItem (some bundle) "state" = some state ∧
              graph.canvas = loadCanvas (bundleCanvas bundle) ∧
              left = { server with graph := graph, pendingCanvas := pending }) ∧
          ((server.canvasApply answers).2 = left ∨
            (server.canvasApply answers).2 = { left with pendingCanvas := none }) := by
  unfold canvasApply
  split
  next => exact .inl rfl
  next bundle loaded =>
    have stored : server.stateJson = some bundle := (Option.filter_eq_some_iff.mp loaded).1
    dsimp only
    generalize isPending : (server.savedCanvasRequiresRestart (bundleCanvas bundle)).or
      server.pendingCanvas = pending
    have reads := applyBundle_reads { server with pendingCanvas := pending } bundle answers
    generalize applyBundle { server with pendingCanvas := pending } bundle answers = result
      at reads ⊢
    obtain ⟨code, left⟩ := result
    refine .inr ⟨bundle, pending, stored, isPending.symm, left, ?_, ?_⟩
    · obtain same | ⟨-, -, ⟨state, isState⟩, graph, file, canvas, kept, same⟩ := reads
      · exact .inl same
      · refine .inr ⟨state, graph, isState, canvas, ?_⟩
        obtain rfl | rfl := kept
        · exact same
        · rw [← stored] at same
          exact same
    · cases code with
      | ok => exact .inr rfl
      | _ => exact .inl rfl

end ConfigServer

/-! ## What every event keeps -/

theorem savedCanvas_of_state
    {root state : CJson}
    (isState : CJson.getObjectItem (some root) "state" = some state) :
    savedCanvas root = bundleCanvas root := by
  unfold savedCanvas bundleCanvas
  rw [isState]
  rfl

/-- What the loader reads of a file whose numbers fit. -/
theorem NumbersFit.bundleCanvas
    {device : Device}
    {root : CJson}
    (numbers : NumbersFit device (savedCanvas root)) :
    NumbersFit device (bundleCanvas root) := by
  cases isState : CJson.getObjectItem (some root) "state" with
  | some state =>
      rw [← savedCanvas_of_state isState]
      exact numbers
  | none =>
      unfold Api.bundleCanvas
      rw [isState]
      exact ⟨nofun, nofun, nofun, nofun⟩

/-- Values that fit, wherever the server keeps some. -/
structure FitsServer
    (device : Device)
    (server : ConfigServer) : Prop where
  graph : Fits device server.graph.canvas.width server.graph.canvas.height
    server.graph.canvas.fpsNum server.graph.canvas.fpsDen
  pending : ∀ settings ∈ server.pendingCanvas,
    Fits device settings.width settings.height settings.fpsNum settings.fpsDen
  file : ∀ root ∈ server.stateJson, NumbersFit device (savedCanvas root)
  compositor : ∀ canvas ∈ server.compositor,
    Fits device canvas.width canvas.height canvas.fps 1

namespace FitsServer

variable {gstElementAvailable : CStr → Bool} {device : Device} {server : ConfigServer}

section

variable (fits : FitsServer device server)
include fits

/-- The values from which a request starts. -/
theorem base :
    Fits device server.baseSettings.width server.baseSettings.height
      server.baseSettings.fpsNum server.baseSettings.fpsDen := by
  unfold ConfigServer.baseSettings
  cases isPending : server.pendingCanvas with
  | none => exact fits.graph
  | some settings => exact fits.pending settings isPending

/-- A file with the canvas of values that fit. -/
theorem withFile
    {settings : CanvasSettings}
    {graph : SceneGraph}
    (fitting : Fits device settings.width settings.height settings.fpsNum settings.fpsDen) :
    FitsServer device { server with
      stateJson := some (withCanvas settings (buildBundle gstElementAvailable graph)) } where
  graph := fits.graph
  pending := fits.pending
  file := by
    rintro _ ⟨⟩
    exact fitting.numbers
  compositor := fits.compositor

/-- A file of the running graph. -/
theorem withBundle :
    FitsServer device { server with
      stateJson := some (buildBundle gstElementAvailable server.graph) } := by
  rw [← withCanvas_runningSettings]
  exact @withFile gstElementAvailable device server fits
    (runningSettings server.graph.canvas) server.graph fits.graph

/-- Another graph, with a canvas that fits. -/
theorem withGraph
    {graph : SceneGraph}
    (fitting : Fits device graph.canvas.width graph.canvas.height graph.canvas.fpsNum
      graph.canvas.fpsDen) :
    FitsServer device { server with graph := graph } :=
  ⟨fitting, fits.pending, fits.file, fits.compositor⟩

/-- `canvas.update` -/
theorem canvasUpdate
    {params : Option CJson}
    {saves : Bool}
    (entering : ∀ canvas ∈ CJson.getObjectItem params "canvas",
      badResolution (some canvas) (requestedSettings server.baseSettings (some canvas)) = false →
        RequestFits device (some canvas)) :
    FitsServer device (server.canvasUpdate gstElementAvailable params saves).2 := by
  obtain ⟨canvas, result, given, good, updated⟩ | ⟨code, number, message, -, refused⟩ :=
    server.canvasUpdate_cases gstElementAvailable params saves
  · rw [updated]
    have settings := (entering canvas given good).settings fits.base good
    have written := @withFile gstElementAvailable device server fits _ server.graph settings
    exact {
      graph := fits.graph
      pending := by
        rintro _ ⟨⟩
        exact settings
      file := written.file
      compositor := fits.compositor }
  · rw [refused]
    exact fits

/-- `sbs_config_manager_apply_bundle` -/
theorem applyBundle
    (roomy : Roomy device)
    {bundle : CJson}
    {answers : ApplyAnswers}
    (entering : migrateBundle bundle = .ok → validateBundle bundle = .ok →
      NumbersFit device (bundleCanvas bundle)) :
    FitsServer device (server.applyBundle bundle answers).2 := by
  obtain same | ⟨migrated, valid, ⟨state, isState⟩, graph, file, canvas, kept, same⟩ :=
    server.applyBundle_reads bundle answers
  · rw [same]
    exact fits
  · rw [same]
    have numbers := entering migrated valid
    exact {
      graph := by
        rw [canvas]
        exact numbers.loadCanvas roomy
      pending := fits.pending
      file := by
        obtain rfl | rfl := kept
        · exact fits.file
        · rintro _ ⟨⟩
          rw [savedCanvas_of_state isState]
          exact numbers
      compositor := fits.compositor }

/-- `canvas.apply` -/
theorem canvasApply
    (roomy : Roomy device)
    {answers : ApplyAnswers} :
    FitsServer device (server.canvasApply answers).2 := by
  obtain same | ⟨bundle, pending, stored, isPending, left, reads, same⟩ :=
    server.canvasApply_reads answers
  · rw [same]
    exact fits
  · have numbers := (fits.file bundle stored).bundleCanvas
    have noted : FitsServer device { server with pendingCanvas := pending } := {
      graph := fits.graph
      pending := by
        intro settings isSettings
        rw [isPending] at isSettings
        obtain requires | ⟨-, earlier⟩ := Option.or_eq_some_iff.mp isSettings
        · rw [ConfigServer.savedCanvasRequiresRestart_eq requires]
          have running : Fits device (runningSettings server.graph.canvas).width
              (runningSettings server.graph.canvas).height
              (runningSettings server.graph.canvas).fpsNum
              (runningSettings server.graph.canvas).fpsDen := fits.graph
          exact running.requested numbers.width numbers.height numbers.fpsNum
        · exact fits.pending settings earlier
      file := fits.file
      compositor := fits.compositor }
    have applied : FitsServer device left := by
      obtain rfl | ⟨state, graph, -, canvas, rfl⟩ := reads
      · exact noted
      · apply noted.withGraph
        rw [canvas]
        exact numbers.loadCanvas roomy
    obtain same | same := same
    · rw [same]
      exact applied
    · rw [same]
      exact ⟨applied.graph, nofun, applied.file, applied.compositor⟩

/-- The timer. -/
theorem saveTimeoutCb
    (saves : Bool) :
    FitsServer device (server.saveTimeoutCb gstElementAvailable saves) := by
  unfold ConfigServer.saveTimeoutCb
  obtain ⟨-, saved⟩ | ⟨-, saved⟩ := server.saveBundle_cases
    (buildBundle gstElementAvailable server.graph) saves
  · rw [saved]
    have written := @withBundle gstElementAvailable device server fits
    exact ⟨fits.graph, fits.pending, written.file, fits.compositor⟩
  · rw [saved]
    exact ⟨fits.graph, fits.pending, fits.file, fits.compositor⟩

/-- A reset. -/
theorem reset
    (roomy : Roomy device)
    (answers : ApplyAnswers) :
    FitsServer device (server.reset gstElementAvailable answers).2 := by
  have seeded : FitsServer device { server with
      graph := seedDefaultGraph newDefault
      stateJson := none } := {
    graph := by
      rw [canvas_seedDefaultGraph]
      exact fits_newDefault roomy
    pending := fits.pending
    file := nofun
    compositor := fits.compositor }
  have saved : FitsServer device (ConfigServer.saveBundle { server with
      graph := seedDefaultGraph newDefault
      stateJson := none }
      (buildBundle gstElementAvailable (seedDefaultGraph newDefault)) answers.saves).2 := by
    obtain ⟨-, saved⟩ | ⟨-, saved⟩ := ConfigServer.saveBundle_cases { server with
      graph := seedDefaultGraph newDefault
      stateJson := none }
      (buildBundle gstElementAvailable (seedDefaultGraph newDefault)) answers.saves
    · rw [saved]
      exact seeded.withBundle
    · rw [saved]
      exact seeded
  unfold ConfigServer.reset
  dsimp only
  split
  · exact saved
  · exact saved
  · exact saved

/-- A start. -/
theorem startInstance
    (roomy : Roomy device)
    {overrides : Option CanvasOverrides}
    {answers : ApplyAnswers}
    (overriding : ∀ given ∈ overrides,
      OverridesFit device (server.stateJson.bind savedCanvas) given) :
    FitsServer device (startInstance server.stateJson overrides answers) := by
  have numbers : NumbersFit device (server.stateJson.bind savedCanvas) := by
    cases isFile : server.stateJson with
    | none => exact ⟨nofun, nofun, nofun, nofun⟩
    | some root => exact fits.file root isFile
  have preloaded := fits_preloadCanvas roomy numbers overriding
  dsimp only at preloaded
  unfold Api.startInstance
  dsimp only
  generalize preloadCanvas server.stateJson
    (applySystemOverrides overrides newDefault.canvas) = canvas at preloaded ⊢
  have started : FitsServer device {
      graph := { newDefault with canvas := canvas }
      pendingCanvas := none
      stateJson := server.stateJson
      saveTimeout := false
      compositor := some {
        width := canvas.width
        height := canvas.height
        fps := canvas.fpsNum
        colorMode := canvas.colorMode } } := {
    graph := preloaded
    pending := nofun
    file := fits.file
    compositor := by
      rintro _ ⟨⟩
      exact ⟨preloaded.width, preloaded.height, preloaded.fpsNum, by decide⟩ }
  split
  next bundle loaded =>
    have stored : server.stateJson = some bundle := (Option.filter_eq_some_iff.mp loaded).1
    exact started.applyBundle roomy fun _ _ => (fits.file bundle stored).bundleCanvas
  next => exact started

end

end FitsServer

theorem canvas_of_succeeds
    {graph : SceneGraph}
    {change : GraphEvent}
    (succeeded : succeeds graph change = true) :
    (graphAfter graph change).canvas = graph.canvas := by
  cases change with
  | call op => exact canvas_apply graph op
  | steal id => exact canvas_stealSource graph id
  | writeSource id values => rfl
  | writeOutput id values => rfl
  | updateTransitionRuntime now => cases succeeded
  | writeCanvas canvas => cases succeeded
  | applyBundle bundle => cases succeeded
  | reset => cases succeeded

namespace CanvasRun

variable {gstElementAvailable : CStr → Bool} {device : Device} {run after : CanvasRun}

/-- A call, or the timer. -/
theorem fits_next
    (fits : FitsServer device run.server)
    (roomy : Roomy device)
    {event : CanvasEvent}
    (entering : run.EntersFitting device (.call event))
    (stepped : run.next gstElementAvailable event = some after) :
    FitsServer device after.server := by
  cases event with
  | edit change =>
      simp only [next] at stepped
      split at stepped
      next succeeded =>
        cases stepped
        have edited : FitsServer device { run.server with
            graph := graphAfter run.server.graph change } := by
          apply fits.withGraph
          rw [canvas_of_succeeds succeeded]
          exact fits.graph
        exact ⟨edited.graph, edited.pending, edited.file, edited.compositor⟩
      next => cases stepped
  | update params saves =>
      have updated := @FitsServer.canvasUpdate gstElementAvailable device run.server fits params
        saves entering
      simp only [next] at stepped
      generalize run.server.canvasUpdate gstElementAvailable params saves = handled
        at stepped updated
      split at stepped
      · cases stepped
        exact updated
      · cases stepped
        exact updated
  | apply answers =>
      have applied := @FitsServer.canvasApply device run.server fits roomy answers
      simp only [next] at stepped
      generalize run.server.canvasApply answers = handled at stepped applied
      split at stepped
      · cases stepped
        exact applied
      · cases stepped
        exact applied
  | importBundle bundle answers =>
      have imported := @FitsServer.applyBundle device run.server fits roomy bundle answers entering
      simp only [next] at stepped
      generalize run.server.applyBundle bundle answers = handled at stepped imported
      split at stepped
      · cases stepped
        exact imported
      · cases stepped
        exact imported
  | saveTimeout saves =>
      simp only [next] at stepped
      split at stepped
      next =>
        cases stepped
        exact fits.saveTimeoutCb saves
      next => cases stepped
  | reset answers =>
      cases stepped
      exact fits.reset roomy answers

/-- Every event. -/
theorem fits_nextStart
    (fits : FitsServer device run.server)
    (roomy : Roomy device)
    {event : StartEvent}
    (entering : run.EntersFitting device event)
    (stepped : run.nextStart gstElementAvailable event = some after) :
    FitsServer device after.server := by
  cases event with
  | start overrides answers =>
      cases stepped
      exact fits.startInstance roomy entering
  | install file =>
      cases stepped
      exact ⟨fits.graph, fits.pending, entering, fits.compositor⟩
  | call event =>
      simp only [nextStart] at stepped
      split at stepped
      next => exact fits_next fits roomy entering stepped
      next => cases stepped

/-- A device whose images may have sides of 8192. -/
def largeDevice : Device :=
  fun _ => { usable := true, maxWidth := 8192, maxHeight := 8192 }

theorem roomy_largeDevice : Roomy largeDevice where
  usable _ := rfl
  width := by decide
  height := by decide
  sizes width height fitsWidth fitsHeight := by
    have wide : width.toNat ≤ 8192 := fitsWidth.2.2 .sdrY
    have tall : height.toNat ≤ 8192 := fitsHeight.2.2 .sdrY
    have product := Nat.mul_le_mul wide tall
    omega

/-- A request for a canvas with another frame rate. -/
def rateRequested
    (fpsNum : ℤ) : StartEvent :=
  .call (.update (some (.object [("canvas", .object [
    ("width", .ofInt 1280),
    ("height", .ofInt 720),
    ("fps_num", .ofInt fpsNum)])])) true)

end CanvasRun
end Api
end SbsServer
