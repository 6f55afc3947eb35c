import SbsServer.Common.CJson
import SbsServer.SceneGraph.State

/-!
# The configuration of the preview encoder

The profile `preview-h264-webrtc` of the preview engine, which is the one that is
encoded on its own.  Its size follows the canvas through a factor, which is chosen
automatically or set by a client.  Viewers and running pipelines have no part in
the configuration.
-/

namespace SbsServer
namespace Engine

open CLib

/-- `preview_downscale_factor_allowed` -/
def previewDownscaleFactorAllowed (factor : UInt32) : Bool :=
  factor = 1 || factor = 2 || factor = 3 || factor = 4 || factor = 5 || factor = 6 || factor = 8

/-- `preview_downscale_factor_or_default` -/
def previewDownscaleFactorOrDefault (factor : UInt32) : UInt32 :=
  if previewDownscaleFactorAllowed factor then factor else 6

/-- A side divided by the one that the preview aims at; the quotient is finite. -/
def sideFactor (side target : UInt32) : ℚ :=
  match (Double.ofInt side.toNat).divRat target.toNat with
  | .finite quotient => quotient
  | _ => 0

/-- The distance of a factor from the target, rounded like a difference of doubles. -/
def factorDelta
    (target : ℚ)
    (factor : UInt32) : ℚ :=
  match Double.roundToDouble |factor.toNat - target| with
  | .finite delta => delta
  | _ => 0

/-- The loop body of `preview_auto_downscale_factor`. -/
def betterFactor
    (target : ℚ)
    (best factor : UInt32) : UInt32 :=
  if factorDelta target factor < factorDelta target best ∨
      factorDelta target factor = factorDelta target best ∧ best < factor then factor
  else best

/-- `preview_auto_downscale_factor` -/
def previewAutoDownscaleFactor (width height : UInt32) : UInt32 :=
  let target := max (max 1 (sideFactor width 1280)) (sideFactor height 720)
  [2, 3, 4, 5, 6, 8].foldl (betterFactor target) 1

/-- `align_up_u32` to a multiple of 16. -/
def alignUpSixteen (value : UInt32) : UInt32 :=
  (value + 15) &&& ~~~15

/-- One side in `compute_preview_size`. -/
def previewSide (side factor : UInt32) : UInt32 :=
  let even := (side / factor) &&& ~~~1
  alignUpSixteen (if even = 0 then 2 else even)

/-- `compute_preview_size` -/
def computePreviewSize (srcWidth srcHeight downscaleFactor : UInt32) : UInt32 × UInt32 :=
  let factor := previewDownscaleFactorOrDefault downscaleFactor
  (previewSide (if 0 < srcWidth then srcWidth else 1920) factor,
    previewSide (if 0 < srcHeight then srcHeight else 1080) factor)

theorem previewDownscaleFactorAllowed_orDefault
    (factor : UInt32) :
    previewDownscaleFactorAllowed (previewDownscaleFactorOrDefault factor) = true := by
  unfold previewDownscaleFactorOrDefault
  split
  next allowed => exact allowed
  next => rfl

theorem previewDownscaleFactorOrDefault_of_allowed
    {factor : UInt32}
    (allowed : previewDownscaleFactorAllowed factor = true) :
    previewDownscaleFactorOrDefault factor = factor :=
  if_pos allowed

/-- The loop picks one of the factors that it is offered. -/
theorem foldl_betterFactor_allowed
    (target : ℚ)
    (factors : List UInt32)
    (allowed : ∀ factor ∈ factors, previewDownscaleFactorAllowed factor = true)
    {best : UInt32}
    (bestAllowed : previewDownscaleFactorAllowed best = true) :
    previewDownscaleFactorAllowed (factors.foldl (betterFactor target) best) = true := by
  induction factors generalizing best with
  | nil => exact bestAllowed
  | cons factor rest ih =>
      have restAllowed := fun other member => allowed other (List.mem_cons_of_mem factor member)
      apply ih restAllowed
      unfold betterFactor
      split
      · exact allowed factor List.mem_cons_self
      · exact bestAllowed

theorem previewAutoDownscaleFactor_allowed
    (width height : UInt32) :
    previewDownscaleFactorAllowed (previewAutoDownscaleFactor width height) = true := by
  have all : [2, 3, 4, 5, 6, 8].all previewDownscaleFactorAllowed = true := rfl
  exact foldl_betterFactor_allowed _ _ (List.all_eq_true.mp all) rfl

theorem ne_zero_of_allowed
    {factor : UInt32}
    (allowed : previewDownscaleFactorAllowed factor = true) :
    factor ≠ 0 := by
  rintro rfl
  cases allowed

/-- What the bundle keeps of the profile. -/
structure PreviewEncoderConfig where
  downscaleFactor : UInt32
  autoDownscale : Bool
  framerate : UInt32
  bitrateKbps : UInt32
  deriving DecidableEq

/-- The preview engine with the profile `preview-h264-webrtc`. -/
structure PreviewEngine where
  srcWidth : UInt32
  srcHeight : UInt32
  srcFps : UInt32
  encoder : PreviewEncoderConfig
  width : UInt32
  height : UInt32
  deriving DecidableEq

namespace PreviewEngine

/-- `sbs_preview_engine_new` -/
def new : PreviewEngine where
  srcWidth := 0
  srcHeight := 0
  srcFps := 0
  encoder := {
    downscaleFactor := 6
    autoDownscale := true
    framerate := 30
    bitrateKbps := 2500 }
  width := 480
  height := 270

/-- `sbs_preview_engine_set_source_format` -/
def setSourceFormat
    (engine : PreviewEngine)
    (width height fps : UInt32) : PreviewEngine :=
  let oldDefaultFps := if engine.srcFps = 0 then 30 else engine.srcFps
  let newDefaultFps := if fps = 0 then 30 else fps
  let encoder := engine.encoder
  let defaultFps := encoder.framerate = 0 ∨ encoder.framerate = oldDefaultFps
  let factor :=
    if encoder.autoDownscale then previewAutoDownscaleFactor width height
    else previewDownscaleFactorOrDefault encoder.downscaleFactor
  let size := computePreviewSize width height factor
  { srcWidth := width
    srcHeight := height
    srcFps := fps
    encoder := { encoder with
      downscaleFactor := factor
      framerate := if defaultFps then newDefaultFps else encoder.framerate }
    width := size.1
    height := size.2 }

/-- The part of `sbs_preview_engine_update_profile_config` that sets the factor. -/
def updateDownscale
    (engine : PreviewEngine)
    (autoDownscale : Option Bool)
    (downscaleFactor : UInt32) : PreviewEngine :=
  if autoDownscale.isSome ∨ 0 < downscaleFactor then
    let auto := autoDownscale.getD false
    let wanted :=
      if auto then previewAutoDownscaleFactor engine.srcWidth engine.srcHeight
      else downscaleFactor
    let factor := previewDownscaleFactorOrDefault
      (if wanted = 0 then engine.encoder.downscaleFactor else wanted)
    let size := computePreviewSize engine.srcWidth engine.srcHeight factor
    { engine with
      encoder := { engine.encoder with autoDownscale := auto, downscaleFactor := factor }
      width := size.1
      height := size.2 }
  else engine

/-- `sbs_preview_engine_update_profile_config`; `auto_downscale` is -1, 0 or 1. -/
def updateProfileConfig
    (engine : PreviewEngine)
    (autoDownscale : Option Bool)
    (downscaleFactor framerate bitrateKbps : UInt32) : SbsResult × PreviewEngine :=
  if 0 < downscaleFactor ∧ !previewDownscaleFactorAllowed downscaleFactor then (.inval, engine)
  else
    let scaled := engine.updateDownscale autoDownscale downscaleFactor
    (.ok, { scaled with
      encoder := { scaled.encoder with
        framerate := if 0 < framerate then framerate else scaled.encoder.framerate
        bitrateKbps := if 0 < bitrateKbps then bitrateKbps else scaled.encoder.bitrateKbps } })

/-- `json_u32_or_zero` -/
def jsonU32OrZero
    (object : CJson)
    (key : CStr) : UInt32 :=
  match CJson.getObjectItem (some object) key with
  | some (.number value) => if value.positive then value.toUInt32 else 0
  | _ => 0

/-- `json_bool_or_minus_one` -/
def jsonBoolOrMinusOne
    (object : CJson)
    (key : CStr) : Option Bool :=
  match CJson.getObjectItem (some object) key with
  | some (.bool value) => some value
  | _ => none

/-- `sbs_preview_engine_serialize_encoder_config` -/
def serializeEncoderConfig (engine : PreviewEngine) : CJson :=
  .object [
    ("profile_id", .string "preview-h264-webrtc"),
    ("downscale_factor", .ofInt engine.encoder.downscaleFactor.toNat),
    ("auto_downscale", .bool engine.encoder.autoDownscale),
    ("framerate", .ofInt engine.encoder.framerate.toNat),
    ("bitrate_kbps", .ofInt engine.encoder.bitrateKbps.toNat)]

/-- `sbs_preview_engine_apply_encoder_config` -/
def applyEncoderConfig
    (engine : PreviewEngine)
    (config : CJson) : SbsResult × PreviewEngine :=
  let factor := jsonU32OrZero config "downscale_factor"
  if !CJson.isObject (some config) then (.inval, engine)
  else match jsonBoolOrMinusOne config "auto_downscale" with
  | some auto =>
      engine.updateProfileConfig (some auto) factor (jsonU32OrZero config "framerate")
        (jsonU32OrZero config "bitrate_kbps")
  | none => engine.updateProfileConfig (some true) factor 30 2500

/-- A profile after its first source format. -/
structure Configured (engine : PreviewEngine) : Prop where
  allowed : previewDownscaleFactorAllowed engine.encoder.downscaleFactor = true
  auto : engine.encoder.autoDownscale = true →
    engine.encoder.downscaleFactor =
      previewAutoDownscaleFactor engine.srcWidth engine.srcHeight
  framerate : engine.encoder.framerate ≠ 0
  bitrate : engine.encoder.bitrateKbps ≠ 0

variable {engine : PreviewEngine}

/-- The first source format of an engine, and any later one. -/
theorem configured_setSourceFormat
    (framerate : engine.encoder.framerate ≠ 0)
    (bitrate : engine.encoder.bitrateKbps ≠ 0)
    (width height fps : UInt32) :
    (engine.setSourceFormat width height fps).Configured where
  allowed := by
    unfold setSourceFormat
    dsimp only
    split
    · exact previewAutoDownscaleFactor_allowed width height
    · exact previewDownscaleFactorAllowed_orDefault _
  auto := fun isAuto => if_pos isAuto
  framerate := by
    have newDefault : (if fps = 0 then 30 else fps) ≠ 0 := by
      split
      next => exact (by decide : (30 : UInt32) ≠ 0)
      next nonzero => exact nonzero
    unfold setSourceFormat
    dsimp only
    generalize (if engine.srcFps = 0 then 30 else engine.srcFps) = oldDefaultFps
    split
    · exact newDefault
    · exact framerate
  bitrate := bitrate

theorem configured_new
    (width height fps : UInt32) :
    (new.setSourceFormat width height fps).Configured :=
  configured_setSourceFormat (by decide) (by decide) width height fps

theorem Configured.setSourceFormat
    (configured : engine.Configured)
    (width height fps : UInt32) :
    (engine.setSourceFormat width height fps).Configured :=
  configured_setSourceFormat configured.framerate configured.bitrate width height fps

theorem Configured.updateDownscale
    (configured : engine.Configured)
    (autoDownscale : Option Bool)
    (downscaleFactor : UInt32) :
    (engine.updateDownscale autoDownscale downscaleFactor).Configured := by
  unfold PreviewEngine.updateDownscale
  split
  next =>
    refine ⟨previewDownscaleFactorAllowed_orDefault _, ?_, configured.framerate,
      configured.bitrate⟩
    intro isAuto
    have allowed := previewAutoDownscaleFactor_allowed engine.srcWidth engine.srcHeight
    dsimp only at isAuto ⊢
    rw [if_pos isAuto, if_neg (ne_zero_of_allowed allowed)]
    exact previewDownscaleFactorOrDefault_of_allowed allowed
  next => exact configured

theorem Configured.updateProfileConfig
    (configured : engine.Configured)
    (autoDownscale : Option Bool)
    (downscaleFactor framerate bitrateKbps : UInt32) :
    (engine.updateProfileConfig autoDownscale downscaleFactor framerate bitrateKbps).2.Configured
      := by
  unfold PreviewEngine.updateProfileConfig
  split
  · exact configured
  · have scaled := configured.updateDownscale autoDownscale downscaleFactor
    refine ⟨scaled.allowed, scaled.auto, ?_, ?_⟩
    · dsimp only
      split
      next positive => exact UInt32.pos_iff_ne_zero.mp positive
      next => exact scaled.framerate
    · dsimp only
      split
      next positive => exact UInt32.pos_iff_ne_zero.mp positive
      next => exact scaled.bitrate

theorem Configured.applyEncoderConfig
    (configured : engine.Configured)
    (config : CJson) :
    (engine.applyEncoderConfig config).2.Configured := by
  unfold PreviewEngine.applyEncoderConfig
  dsimp only
  split
  · exact configured
  · split
    · exact configured.updateProfileConfig _ _ _ _
    · exact configured.updateProfileConfig _ _ _ _

theorem jsonU32OrZero_ofInt
    {object : CJson}
    {key : CStr}
    {value : UInt32}
    (found : CJson.getObjectItem (some object) key = some (.ofInt value.toNat)) :
    jsonU32OrZero object key = value := by
  unfold jsonU32OrZero
  rw [found]
  dsimp only [CJson.ofInt]
  rw [Double.toUInt32_ofInt]
  split
  next => rfl
  next notPositive =>
    have isZero : ¬ (0 : ℚ) < ((value.toNat : ℤ) : ℚ) := by
      simpa [Double.ofInt, Double.positive] using notPositive
    apply UInt32.toNat.inj
    have : value.toNat = 0 := by
      by_contra nonzero
      exact isZero (by exact_mod_cast Nat.pos_of_ne_zero nonzero)
    rw [this]
    rfl

/-- A saved configuration is applied as it was, but an automatic factor is chosen again. -/
theorem encoder_applyEncoderConfig_serialize
    {saved : PreviewEngine}
    (configured : saved.Configured)
    (engine : PreviewEngine) :
    (engine.applyEncoderConfig saved.serializeEncoderConfig).2.encoder =
      { saved.encoder with
        downscaleFactor :=
          if saved.encoder.autoDownscale then
            previewAutoDownscaleFactor engine.srcWidth engine.srcHeight
          else saved.encoder.downscaleFactor } := by
  have factor : jsonU32OrZero saved.serializeEncoderConfig "downscale_factor" =
      saved.encoder.downscaleFactor :=
    jsonU32OrZero_ofInt rfl
  have framerate : jsonU32OrZero saved.serializeEncoderConfig "framerate" =
      saved.encoder.framerate :=
    jsonU32OrZero_ofInt rfl
  have bitrate : jsonU32OrZero saved.serializeEncoderConfig "bitrate_kbps" =
      saved.encoder.bitrateKbps :=
    jsonU32OrZero_ofInt rfl
  have auto : jsonBoolOrMinusOne saved.serializeEncoderConfig "auto_downscale" =
      some saved.encoder.autoDownscale := by
    rfl
  have isObject : CJson.isObject (some saved.serializeEncoderConfig) = true := rfl
  have positive : ∀ {value : UInt32}, value ≠ 0 → 0 < value := UInt32.pos_iff_ne_zero.mpr
  unfold applyEncoderConfig updateProfileConfig updateDownscale
  rw [factor, framerate, bitrate, auto, isObject]
  simp only [Bool.not_true, Bool.false_eq_true, if_false, configured.allowed, and_false,
    Option.isSome_some, true_or, if_true, Option.getD_some,
    positive configured.framerate, positive configured.bitrate]
  cases saved.encoder.autoDownscale with
  | true =>
      have allowed := previewAutoDownscaleFactor_allowed engine.srcWidth engine.srcHeight
      simp only [if_true, ne_zero_of_allowed allowed, if_false,
        previewDownscaleFactorOrDefault_of_allowed allowed]
  | false =>
      simp only [Bool.false_eq_true, if_false, ne_zero_of_allowed configured.allowed,
        previewDownscaleFactorOrDefault_of_allowed configured.allowed]

end PreviewEngine
end Engine
end SbsServer
