import SbsServer.CLib.System
import SbsServer.Engine.Preview

/-!
# Sessions of the preview engine

`preview.c`: the profiles of the preview engine with their runtimes, as clients
start and stop them and as the configuration changes under them.  A runtime is
the pipeline of one WebRTC session; whether one can be started is up to the
encoder and the pipeline, so the outcome comes with the call.
-/

namespace SbsServer
namespace Engine

open CLib

/-- `sbs_preview_color_mode_t` -/
inductive PreviewColorMode
  | sdr
  | hdr10
  deriving DecidableEq

/-- `sbs_preview_profile_t`, without the texts that describe it. -/
structure PreviewProfile where
  width : UInt32
  height : UInt32
  downscaleFactor : UInt32
  autoDownscale : Bool
  framerate : UInt32
  bitrateKbps : UInt32
  requiresAdditionalEncode : Bool
  available : Bool
  requestable : Bool
  active : Bool
  referenceColor : Bool
  activeColorMode : PreviewColorMode
  inputColorMode : PreviewColorMode
  viewerCount : UInt32
  deriving DecidableEq

/-- `preview_runtime_t`: the memory that it is in, and what its encoder was started with. -/
structure PreviewRuntime where
  address : Nat
  width : UInt32
  height : UInt32
  framerate : UInt32
  bitrateKbps : UInt32
  inputColorMode : PreviewColorMode
  outputColorMode : PreviewColorMode
  referenceColor : Bool
  deriving DecidableEq

/-- `struct sbs_preview_engine` -/
structure PreviewSessions where
  profiles : HashTable CStr PreviewProfile
  runtimes : HashTable CStr PreviewRuntime
  srcWidth : UInt32
  srcHeight : UInt32
  srcFps : UInt32
  srcColorMode : PreviewColorMode
  webrtcRequestable : Bool
  /-- A history: how many runtimes were started. -/
  started : Nat

/-- The profile that passes the program on. -/
def programHevcSrt : CStr := "program-hevc-srt"

/-- The profile that is encoded on its own. -/
def previewH264Webrtc : CStr := "preview-h264-webrtc"

/-- `profile_new`, and the values that `sbs_preview_engine_new` adds. -/
def PreviewProfile.new
    (width height framerate : UInt32)
    (requiresAdditionalEncode available requestable : Bool) : PreviewProfile where
  width := width
  height := height
  downscaleFactor := 1
  autoDownscale := false
  framerate := framerate
  bitrateKbps := 0
  requiresAdditionalEncode := requiresAdditionalEncode
  available := available
  requestable := requestable
  active := available && !requiresAdditionalEncode
  referenceColor := false
  activeColorMode := .sdr
  inputColorMode := .sdr
  viewerCount := 0

/-- The profile is no longer active. -/
def PreviewProfile.stopped (profile : PreviewProfile) : PreviewProfile :=
  { profile with
    active := false
    available := false
    viewerCount := 0 }

namespace PreviewSessions

/-- `sbs_preview_engine_new` -/
def new (webrtcRequestable : Bool) : PreviewSessions where
  profiles :=
    (HashTable.empty.insert programHevcSrt
      (PreviewProfile.new 3840 2160 60 false true false)).insert previewH264Webrtc
      { PreviewProfile.new 480 270 30 true false webrtcRequestable with
        autoDownscale := true
        downscaleFactor := 6
        bitrateKbps := 2500 }
  runtimes := HashTable.empty
  srcWidth := 0
  srcHeight := 0
  srcFps := 0
  srcColorMode := .sdr
  webrtcRequestable := webrtcRequestable
  started := 0

/-- `preview_engine_get_profile_unlocked`, with the name of the profile. -/
def getProfile
    (engine : PreviewSessions)
    (profileId : Option CStr) : Option (CStr × PreviewProfile) :=
  profileId.bind fun id => (engine.profiles.lookup id).map fun profile => (id, profile)

/-- A profile is changed in place. -/
def store
    (engine : PreviewSessions)
    (id : CStr)
    (profile : PreviewProfile) : PreviewSessions :=
  { engine with profiles := engine.profiles.insert id profile }

/-- `g_hash_table_remove` of a runtime. -/
def removeRuntime
    (engine : PreviewSessions)
    (id : CStr) : PreviewSessions :=
  { engine with runtimes := engine.runtimes.remove id }

/-- The changed profile, which is stopped if it was active with other values. -/
def storeAndStop
    (engine : PreviewSessions)
    (id : CStr)
    (profile : PreviewProfile)
    (changed : Bool) : PreviewSessions :=
  if changed && profile.active && profile.requiresAdditionalEncode then
    (engine.removeRuntime id).store id profile.stopped
  else engine.store id profile

/-- `start_webrtc_runtime`, when it succeeds. -/
def startWebrtcRuntime
    (engine : PreviewSessions)
    (profile : PreviewProfile) : PreviewRuntime where
  address := engine.started
  width :=
    if profile.width ≠ 0 then profile.width
    else if engine.srcWidth ≠ 0 then engine.srcWidth else 1920
  height :=
    if profile.height ≠ 0 then profile.height
    else if engine.srcHeight ≠ 0 then engine.srcHeight else 1080
  framerate :=
    if profile.framerate ≠ 0 then profile.framerate
    else if engine.srcFps ≠ 0 then engine.srcFps else 60
  bitrateKbps := if profile.bitrateKbps ≠ 0 then profile.bitrateKbps else 2500
  inputColorMode := profile.inputColorMode
  outputColorMode := profile.activeColorMode
  referenceColor := profile.referenceColor

/-- `sbs_preview_engine_ensure_profile` -/
def ensureProfile
    (engine : PreviewSessions)
    (profileId : Option CStr)
    (starts : Bool) : SbsResult × PreviewSessions :=
  match engine.getProfile profileId with
  | none => (.notFound, engine)
  | some (id, profile) =>
      let ensured : PreviewProfile := { profile with
        available := true
        active := true
        viewerCount := 1 }
      if !profile.available && !profile.requestable then (.inval, engine)
      else if profile.requiresAdditionalEncode then
        if starts then
          let runtime := engine.startWebrtcRuntime profile
          (.ok, { engine.store id ensured with
            runtimes := (engine.runtimes.remove id).insert id runtime
            started := engine.started + 1 })
        else (.io, engine.removeRuntime id)
      else (.ok, engine.store id ensured)

/-- `sbs_preview_engine_release_profile` -/
def releaseProfile
    (engine : PreviewSessions)
    (profileId : Option CStr) : SbsResult × PreviewSessions :=
  match engine.getProfile profileId with
  | none => (.notFound, engine)
  | some (id, profile) =>
      let viewerCount :=
        if 0 < profile.viewerCount then profile.viewerCount - 1 else profile.viewerCount
      if profile.requiresAdditionalEncode && viewerCount == 0 then
        (.ok, (engine.removeRuntime id).store id { profile with
          viewerCount := viewerCount
          active := false
          available := false
          referenceColor := false
          activeColorMode := .sdr
          inputColorMode := .sdr })
      else (.ok, engine.store id { profile with viewerCount := viewerCount })

/-- The program profile in `sbs_preview_engine_set_source_format`. -/
def formatProgram
    (engine : PreviewSessions)
    (width height fps : UInt32) : PreviewSessions :=
  match engine.profiles.lookup programHevcSrt with
  | none => engine
  | some profile =>
      engine.store programHevcSrt { profile with
        width := if 0 < width then width else profile.width
        height := if 0 < height then height else profile.height
        framerate := if 0 < fps then fps else profile.framerate }

/-- The encoded profile in `sbs_preview_engine_set_source_format`. -/
def formatPreview
    (engine : PreviewSessions)
    (oldDefaultFps newDefaultFps : UInt32) : PreviewSessions :=
  match engine.profiles.lookup previewH264Webrtc with
  | none => engine
  | some profile =>
      let defaultFps := profile.framerate == 0 || profile.framerate == oldDefaultFps
      let factor :=
        if profile.autoDownscale then
          previewAutoDownscaleFactor engine.srcWidth engine.srcHeight
        else previewDownscaleFactorOrDefault profile.downscaleFactor
      let size := computePreviewSize engine.srcWidth engine.srcHeight factor
      let framerate := if defaultFps then newDefaultFps else profile.framerate
      let changed := profile.width != size.1 || profile.height != size.2 ||
        (defaultFps && profile.framerate != newDefaultFps)
      engine.storeAndStop previewH264Webrtc { profile with
        downscaleFactor := factor
        requestable := engine.webrtcRequestable
        width := size.1
        height := size.2
        framerate := framerate } changed

/-- `sbs_preview_engine_set_source_format` -/
def setSourceFormat
    (engine : PreviewSessions)
    (width height fps : UInt32)
    (colorMode : PreviewColorMode) : PreviewSessions :=
  let oldDefaultFps := if engine.srcFps ≠ 0 then engine.srcFps else 30
  let newDefaultFps := if fps ≠ 0 then fps else 30
  let formatted := { engine with
    srcWidth := width
    srcHeight := height
    srcFps := fps
    srcColorMode := colorMode }
  (formatted.formatProgram width height fps).formatPreview oldDefaultFps newDefaultFps

/-- The size in `sbs_preview_engine_update_profile_config`, and whether it changed. -/
def resize
    (engine : PreviewSessions)
    (profile : PreviewProfile)
    (autoDownscale : Int)
    (downscaleFactor : UInt32) : PreviewProfile × Bool :=
  if profile.requiresAdditionalEncode && (0 ≤ autoDownscale || 0 < downscaleFactor) then
    let newAuto := if 0 ≤ autoDownscale then autoDownscale != 0 else false
    let wanted :=
      if newAuto then previewAutoDownscaleFactor engine.srcWidth engine.srcHeight
      else downscaleFactor
    let effective := previewDownscaleFactorOrDefault
      (if wanted = 0 then profile.downscaleFactor else wanted)
    let size := computePreviewSize engine.srcWidth engine.srcHeight effective
    ({ profile with
      autoDownscale := newAuto
      downscaleFactor := effective
      width := size.1
      height := size.2 },
      profile.autoDownscale != newAuto || profile.downscaleFactor != effective ||
        profile.width != size.1 || profile.height != size.2)
  else (profile, false)

/-- `sbs_preview_engine_update_profile_config` -/
def updateProfileConfig
    (engine : PreviewSessions)
    (profileId : Option CStr)
    (autoDownscale : Int)
    (downscaleFactor framerate bitrateKbps : UInt32) : SbsResult × PreviewSessions :=
  if profileId.isNone then (.inval, engine)
  else if autoDownscale < -1 || 1 < autoDownscale then (.inval, engine)
  else if 0 < downscaleFactor && !previewDownscaleFactorAllowed downscaleFactor then
    (.inval, engine)
  else
    match engine.getProfile profileId with
    | none => (.notFound, engine)
    | some (id, profile) =>
        let (resized, sizeChanged) := engine.resize profile autoDownscale downscaleFactor
        let changed := sizeChanged ||
          (0 < framerate && profile.framerate != framerate) ||
          (0 < bitrateKbps && profile.bitrateKbps != bitrateKbps)
        (.ok, engine.storeAndStop id { resized with
          framerate := if 0 < framerate then framerate else resized.framerate
          bitrateKbps := if 0 < bitrateKbps then bitrateKbps else resized.bitrateKbps } changed)

/-! ## The configuration of the encoder -/

/-- What the configuration keeps of an engine with the encoded profile. -/
def encoderOf
    (engine : PreviewSessions)
    (profile : PreviewProfile) : PreviewEngine where
  srcWidth := engine.srcWidth
  srcHeight := engine.srcHeight
  srcFps := engine.srcFps
  encoder := {
    downscaleFactor := profile.downscaleFactor
    autoDownscale := profile.autoDownscale
    framerate := profile.framerate
    bitrateKbps := profile.bitrateKbps }
  width := profile.width
  height := profile.height

/-- The encoded profile without its sessions. -/
def encoderView (engine : PreviewSessions) : Option PreviewEngine :=
  (engine.profiles.lookup previewH264Webrtc).map engine.encoderOf

/-- `auto_downscale` of a client. -/
def autoDownscaleOf : Option Bool → Int
  | none => -1
  | some auto => if auto then 1 else 0

variable (engine : PreviewSessions)

theorem lookup_storeAndStop
    (id other : CStr)
    (profile : PreviewProfile)
    (changed : Bool) :
    (engine.storeAndStop id profile changed).profiles.lookup other =
      if other = id then
        some (if changed && profile.active && profile.requiresAdditionalEncode then
          profile.stopped else profile)
      else engine.profiles.lookup other := by
  unfold storeAndStop
  split
  next => exact HashTable.lookup_insert _ _ _ _
  next => exact HashTable.lookup_insert _ _ _ _

/-- The configuration of a profile does not depend on its sessions. -/
theorem encoderView_storeAndStop
    (profile : PreviewProfile)
    (changed : Bool) :
    (engine.storeAndStop previewH264Webrtc profile changed).encoderView =
      some (engine.encoderOf profile) := by
  unfold encoderView
  rw [lookup_storeAndStop, if_pos rfl]
  unfold storeAndStop
  split
  next => rfl
  next => rfl

/-- The program profile apart, a source format only changes the encoded one. -/
theorem formatProgram_others
    (width height fps : UInt32) :
    ∃ profiles, engine.formatProgram width height fps = { engine with profiles := profiles } ∧
      profiles.lookup previewH264Webrtc = engine.profiles.lookup previewH264Webrtc := by
  unfold formatProgram
  split
  next => exact ⟨engine.profiles, rfl, rfl⟩
  next profile _ =>
    refine ⟨_, rfl, ?_⟩
    rw [HashTable.lookup_insert, if_neg (by decide)]

/-- A source format changes the configuration as in `PreviewEngine.setSourceFormat`. -/
theorem encoderView_setSourceFormat
    (width height fps : UInt32)
    (colorMode : PreviewColorMode) :
    (engine.setSourceFormat width height fps colorMode).encoderView =
      engine.encoderView.map fun encoder => encoder.setSourceFormat width height fps := by
  unfold setSourceFormat
  dsimp only
  obtain ⟨profiles, formatted, same⟩ := formatProgram_others
    { engine with srcWidth := width, srcHeight := height, srcFps := fps, srcColorMode := colorMode }
    width height fps
  rw [formatted]
  unfold formatPreview
  dsimp only at same ⊢
  rw [same]
  cases found : engine.profiles.lookup previewH264Webrtc with
  | none =>
      unfold encoderView
      dsimp only
      rw [same, found]
      rfl
  | some profile =>
      dsimp only
      rw [encoderView_storeAndStop]
      unfold encoderView
      rw [found]
      simp only [Option.map_some, encoderOf, PreviewEngine.setSourceFormat, Bool.or_eq_true,
        beq_iff_eq, ite_not]

/-- A client changes the size as in `PreviewEngine.updateDownscale`. -/
theorem encoderOf_resize
    {profile : PreviewProfile}
    (required : profile.requiresAdditionalEncode = true)
    (autoDownscale : Option Bool)
    (downscaleFactor : UInt32) :
    engine.encoderOf (engine.resize profile (autoDownscaleOf autoDownscale) downscaleFactor).1 =
      (engine.encoderOf profile).updateDownscale autoDownscale downscaleFactor := by
  unfold resize PreviewEngine.updateDownscale
  rw [required, Bool.true_and]
  rcases autoDownscale with _ | auto
  · by_cases positive : 0 < downscaleFactor
    · simp [autoDownscaleOf, encoderOf, positive]
    · simp [autoDownscaleOf, encoderOf, positive]
  · cases auto with
    | false => simp [autoDownscaleOf, encoderOf]
    | true => simp [autoDownscaleOf, encoderOf]

/-- A client changes the configuration as in `PreviewEngine.updateProfileConfig`. -/
theorem encoderView_updateProfileConfig
    {engine : PreviewSessions}
    {profile : PreviewProfile}
    (found : engine.profiles.lookup previewH264Webrtc = some profile)
    (required : profile.requiresAdditionalEncode = true)
    (autoDownscale : Option Bool)
    (downscaleFactor framerate bitrateKbps : UInt32) :
    (engine.updateProfileConfig (some previewH264Webrtc) (autoDownscaleOf autoDownscale)
        downscaleFactor framerate bitrateKbps).2.encoderView =
      some ((engine.encoderOf profile).updateProfileConfig autoDownscale downscaleFactor framerate
        bitrateKbps).2 := by
  have inRange : (decide (autoDownscaleOf autoDownscale < -1) ||
      decide (1 < autoDownscaleOf autoDownscale)) = false := by
    rcases autoDownscale with _ | auto
    · rfl
    · cases auto with
      | false => rfl
      | true => rfl
  have get : engine.getProfile (some previewH264Webrtc) = some (previewH264Webrtc, profile) := by
    unfold getProfile
    rw [Option.bind_some, found, Option.map_some]
  unfold updateProfileConfig PreviewEngine.updateProfileConfig
  rw [Option.isNone_some, if_neg Bool.false_ne_true, inRange, if_neg Bool.false_ne_true, get]
  by_cases refused : 0 < downscaleFactor ∧ (!previewDownscaleFactorAllowed downscaleFactor) = true
  · rw [if_pos refused, if_pos (by rw [decide_eq_true refused.1, refused.2]; rfl)]
    unfold encoderView
    rw [found, Option.map_some]
  · rw [if_neg refused, if_neg (by rwa [Bool.and_eq_true, decide_eq_true_iff])]
    rw [encoderView_storeAndStop, ← engine.encoderOf_resize required]
    rfl

/-- A call of one of the operations. -/
inductive PreviewOperation
  | ensure (profileId : Option CStr) (starts : Bool)
  | release (profileId : Option CStr)
  | update
      (profileId : Option CStr)
      (autoDownscale : Int)
      (downscaleFactor framerate bitrateKbps : UInt32)
  | setSourceFormat (width height fps : UInt32) (colorMode : PreviewColorMode)
  deriving DecidableEq

/-- The engine after a call. -/
def apply (engine : PreviewSessions) : PreviewOperation → PreviewSessions
  | .ensure profileId starts => (engine.ensureProfile profileId starts).2
  | .release profileId => (engine.releaseProfile profileId).2
  | .update profileId autoDownscale downscaleFactor framerate bitrateKbps =>
      (engine.updateProfileConfig profileId autoDownscale downscaleFactor framerate
        bitrateKbps).2
  | .setSourceFormat width height fps colorMode =>
      engine.setSourceFormat width height fps colorMode

/-- The operations, one after the other. -/
def system : System PreviewSessions PreviewOperation :=
  .ofNext (fun engine => ∃ webrtcRequestable, engine = new webrtcRequestable)
    fun engine operation => some (engine.apply operation)

/-- The flags, the viewers and the runtime of a profile agree, and the runtime encodes what the
profile reports. -/
structure Consistent
    (profile : PreviewProfile)
    (runtime : Option PreviewRuntime) : Prop where
  active : profile.active = runtime.isSome
  available : profile.available = runtime.isSome
  viewers : 0 < profile.viewerCount ↔ runtime.isSome = true
  width : ∀ started, runtime = some started → started.width = profile.width
  height : ∀ started, runtime = some started → started.height = profile.height
  framerate : ∀ started, runtime = some started → started.framerate = profile.framerate
  bitrate : ∀ started, runtime = some started → started.bitrateKbps = profile.bitrateKbps

/-- Every profile that is encoded on its own agrees with its runtime. -/
def AllConsistent (engine : PreviewSessions) : Prop :=
  ∀ id profile, engine.profiles.lookup id = some profile →
    profile.requiresAdditionalEncode = true → Consistent profile (engine.runtimes.lookup id)

/-- A runtime that is to be started anew starts, and only at a size that is not zero. -/
def StartsAnew (engine : PreviewSessions) : PreviewOperation → Prop
  | .ensure profileId starts => ∀ found ∈ engine.getProfile profileId,
      found.2.requiresAdditionalEncode = true →
      (found.2.available = true ∨ found.2.requestable = true) →
        if starts = true then found.2.width ≠ 0 ∧ found.2.height ≠ 0
        else engine.runtimes.lookup found.1 = none
  | _ => True

instance (engine : PreviewSessions) (operation : PreviewOperation) :
    Decidable (engine.StartsAnew operation) := by
  cases operation with
  | ensure profileId starts =>
      exact inferInstanceAs (Decidable (∀ found ∈ engine.getProfile profileId, _ → _ → _))
  | _ => exact isTrue trivial

end PreviewSessions
end Engine
end SbsServer
