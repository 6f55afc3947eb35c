import SbsServer.Api.OutputHandlers
import SbsServer.Engine.EncoderKeyframe
import SbsServer.Engine.EncoderReconfigure

/-!
# Handlers of the encoder configuration

`encoder.getConfig` shows the GOP size under two names and the GOP pattern under three;
`encoder.updateConfig` reads all names in a fixed order, and a later one overrides an
earlier one.
-/

namespace SbsServer
namespace Api

open CLib SceneGraph Engine

/-- The C string of a text of the encoder manager. -/
def textOf (text : String) : CStr :=
  .ofBytes (text.toList.map fun char => UInt8.ofNat char.toNat)

@[simp] theorem textOf_managerText (text : CStr) :
    textOf (managerText text) = text := by
  unfold textOf managerText
  have bytes : (text.bytes.map fun byte => Char.ofNat byte.toNat).map
      (fun char => UInt8.ofNat char.toNat) = text.bytes := by
    rw [List.map_map]
    refine List.map_id'' ?_ text.bytes
    intro byte
    have below := byte.toNat_lt
    have isChar : (Char.ofNat byte.toNat).toNat = byte.toNat := by
      unfold Char.ofNat
      rw [dif_pos (.inl (by omega))]
      rfl
    dsimp only [Function.comp_apply]
    rw [isChar, UInt8.ofNat_toNat]
  rw [String.toList_ofList, bytes]
  apply CStr.ext
  exact CStr.bytes_ofBytes text.nulFree

/-- The settings of a manager are values of their C types, and it has a bitrate. -/
structure ConfigValues (manager : EncoderManager) : Prop where
  codec : managerText (textOf manager.codec) = manager.codec
  bitrateKbps : 0 < manager.bitrateKbps
  gopPattern : (Int32.ofInt manager.gopPattern).toInt = manager.gopPattern
  rcMode : (Int32.ofInt manager.rcMode).toInt = manager.rcMode

/-- A manager with its settings. -/
structure ConfiguredManager where
  manager : EncoderManager
  values : ConfigValues manager

/-- `gop_preset_from_pattern` -/
def gopPresetFromPattern (gopPattern : Int) : CStr :=
  if gopPattern = 0 then "low_delay"
  else if gopPattern = 1 ∨ gopPattern = 2 then "b_frames"
  else "custom"

/-- `gop_pattern_from_preset` -/
def gopPatternFromPreset (preset : CStr) : Option Int :=
  if preset = "low_delay" ∨ preset = "no_b_frames" ∨ preset = "ip" then some 0
  else if preset = "b_frames" ∨ preset = "ibp" ∨ preset = "balanced" then some 2
  else none

/-- The object that `encoder.getConfig` returns. -/
def encoderConfigJson (manager : EncoderManager) : CJson :=
  let config := manager.getConfig
  let settings : List (CStr × CJson) :=
    [("codec", .string (textOf config.newCodec)),
      ("bitrate_kbps", .ofInt config.bitrateKbps.toNat),
      ("gop_size", .ofInt config.gopSize.toNat),
      ("keyframe_interval", .ofInt config.gopSize.toNat),
      ("gop_pattern", .ofInt config.gopPattern),
      ("gop_preset", .string (gopPresetFromPattern config.gopPattern)),
      ("enable_b_frames", .bool (config.gopPattern ≠ 0)),
      ("rc_mode", .ofInt config.rcMode)]
  let encoder : List (CStr × CJson) :=
    (config.encoder.map fun encoder => (CStr.lit "encoder", .string (textOf encoder))).toList
  let format : List (CStr × CJson) :=
    [("width", .ofInt manager.width.toNat),
      ("height", .ofInt manager.height.toNat),
      ("fps_num", .ofInt manager.fpsNum.toNat),
      ("fps_den", .ofInt manager.fpsDen.toNat)]
  let metrics : List (CStr × CJson) :=
    [("active", .bool manager.pipelineActive),
      ("active_branches", .ofInt manager.branches.entries.length),
      ("frames_pushed", .number (.roundToDouble manager.framesPushed.toNat))]
  .object (settings ++ encoder ++ format ++ metrics)

/-- What the handlers of the encoder use of a server. -/
structure EncoderServer where
  encoderMgr : Option ConfiguredManager

/-- `sbs_api_handle_encoder_get_config` -/
def EncoderServer.getConfig (server : EncoderServer) : Reply :=
  match server.encoderMgr with
  | none =>
      { code := .generic
        result := none
        error := some (rpcError (-32010) "Encoder manager not available") }
  | some configured =>
      { code := .ok
        result := some (encoderConfigJson configured.manager)
        error := none }

/-- A number of a request that overrides a `uint32_t`. -/
def uintField
    (params : Option CJson)
    (key : CStr)
    (current : UInt32) : UInt32 :=
  match CJson.getObjectItem params key with
  | some (.number value) => value.toUInt32
  | _ => current

/-- A number of a request that overrides an `int32_t`. -/
def intField
    (params : Option CJson)
    (key : CStr)
    (current : Int) : Int :=
  match CJson.getObjectItem params key with
  | some (.number value) => value.toInt32.toInt
  | _ => current

/-- The GOP pattern that a request asks for: `gop_pattern`, overridden by `gop_preset`, overridden
by `enable_b_frames`. -/
def requestedPattern
    (params : Option CJson)
    (current : Int) : Int :=
  let gopPattern := intField params "gop_pattern" current
  let gopPattern :=
    match CJson.str params "gop_preset" with
    | some preset => (gopPatternFromPreset preset).getD gopPattern
    | none => gopPattern
  match CJson.getObjectItem params "enable_b_frames" with
  | some (.bool enabled) => if enabled then 2 else 0
  | _ => gopPattern

/-- The configuration that a request asks for. -/
def requestedConfig
    (config : EncoderConfig)
    (params : Option CJson) : EncoderConfig :=
  { config with
    codec := ((CJson.str params "codec").map managerText).or config.codec
    bitrateKbps := uintField params "bitrate_kbps" config.bitrateKbps
    gopSize := uintField params "keyframe_interval" (uintField params "gop_size" config.gopSize)
    gopPattern := requestedPattern params config.gopPattern
    rcMode := intField params "rc_mode" config.rcMode }

section

variable {manager : EncoderManager} {answers : BuildAnswers}

/-- The configuration of a manager with its video format. -/
def shownSettings (manager : EncoderManager) :
    EncoderConfig × UInt32 × UInt32 × UInt32 × UInt32 :=
  (manager.getConfig, manager.getFormat)

@[simp] theorem shownSettings_ensurePipeline
    (manager : EncoderManager)
    (answers : BuildAnswers) :
    shownSettings (manager.ensurePipeline answers).2 = shownSettings manager := by
  unfold EncoderManager.ensurePipeline
  split
  · rfl
  · split
    · rfl
    · rfl

@[simp] theorem shownSettings_addSink
    (manager : EncoderManager)
    (answers : BuildAnswers)
    (config : SinkBranchConfig) :
    shownSettings (manager.addSink answers config).2 = shownSettings manager := by
  unfold EncoderManager.addSink
  split
  next => rfl
  next =>
    dsimp only
    split
    next => exact shownSettings_ensurePipeline manager answers
    next =>
      split
      next => exact shownSettings_ensurePipeline manager answers
      next => exact shownSettings_ensurePipeline manager answers

@[simp] theorem shownSettings_readdBranches
    (manager : EncoderManager)
    (answers : BuildAnswers)
    (saved : List SinkBranchConfig) :
    shownSettings (manager.readdBranches answers saved) = shownSettings manager := by
  unfold EncoderManager.readdBranches
  induction saved generalizing manager with
  | nil => rfl
  | cons config rest ih =>
      rw [List.foldl_cons, ih, shownSettings_addSink]

@[simp] theorem shownSettings_stopForUpdate
    (manager : EncoderManager)
    (config : EncoderConfig) :
    shownSettings (manager.stopForUpdate config) = (config.resolved, manager.getFormat) := by
  unfold EncoderManager.stopForUpdate EncoderManager.teardownPipeline
  split
  · rfl
  · rfl

/-- Whether an update succeeds or not, the manager has its configuration. -/
theorem shownSettings_updateConfig
    {config : EncoderConfig}
    (encoder : config.encoder = manager.encoderOverride) :
    shownSettings (manager.updateConfig answers config).2 =
      (config.resolved, manager.getFormat) := by
  unfold EncoderManager.updateConfig
  split
  next unchanged =>
    have has := (EncoderManager.hasConfig_of_unchanged unchanged).mpr encoder.symm
    exact congrArg (·, manager.getFormat) has
  next =>
    dsimp only
    split
    next => rw [shownSettings_ensurePipeline, shownSettings_stopForUpdate]
    next =>
      rw [shownSettings_readdBranches, shownSettings_ensurePipeline,
        shownSettings_stopForUpdate]

/-- A configuration that is already there is not stored again. -/
theorem updateConfig_getConfig
    (values : ConfigValues manager) :
    manager.updateConfig answers manager.getConfig = (.ok, manager) := by
  have bitrate : manager.getConfig.newBitrate = manager.bitrateKbps := if_pos values.bitrateKbps
  have unchanged : manager.unchangedBy manager.getConfig = true := by
    unfold EncoderManager.unchangedBy
    rw [bitrate]
    simp [EncoderManager.getConfig, EncoderConfig.newCodec]
  unfold EncoderManager.updateConfig
  rw [if_pos unchanged]

end

section

variable {params : Option CJson}

/-- An `int32_t` of a request is one. -/
theorem intField_value
    {key : CStr}
    {current : Int}
    (value : (Int32.ofInt current).toInt = current) :
    (Int32.ofInt (intField params key current)).toInt = intField params key current := by
  unfold intField
  split
  · rw [Int32.ofInt_toInt]
  · exact value

/-- The pattern that a request asks for is an `int32_t`. -/
theorem requestedPattern_value
    {current : Int}
    (value : (Int32.ofInt current).toInt = current) :
    (Int32.ofInt (requestedPattern params current)).toInt = requestedPattern params current := by
  have number := @intField_value params "gop_pattern" current value
  have preset : ∀ preset, (Int32.ofInt ((gopPatternFromPreset preset).getD
      (intField params "gop_pattern" current))).toInt =
        (gopPatternFromPreset preset).getD (intField params "gop_pattern" current) := by
    intro preset
    unfold gopPatternFromPreset
    split
    · rfl
    · split
      · rfl
      · exact number
  unfold requestedPattern
  dsimp only
  split
  next enabled _ => cases enabled <;> rfl
  next =>
    split
    · exact preset _
    · exact number

end

/-- The configuration of a manager is one with its defaults. -/
theorem fields_of_getConfig
    {manager : EncoderManager}
    {config : EncoderConfig}
    (same : manager.getConfig = config.resolved) :
    manager.codec = config.newCodec ∧ manager.bitrateKbps = config.newBitrate ∧
      manager.gopSize = config.gopSize ∧ manager.gopPattern = config.gopPattern ∧
      manager.rcMode = config.rcMode ∧ manager.encoderOverride = config.encoder := by
  refine ⟨?_, ?_, ?_, ?_, ?_, ?_⟩
  · exact Option.some.inj (congrArg EncoderConfig.codec same)
  · exact congrArg EncoderConfig.bitrateKbps same
  · exact congrArg EncoderConfig.gopSize same
  · exact congrArg EncoderConfig.gopPattern same
  · exact congrArg EncoderConfig.rcMode same
  · exact congrArg EncoderConfig.encoder same

/-- The codec that a request leaves or sets. -/
theorem newCodec_requestedConfig
    (manager : EncoderManager)
    (params : Option CJson) :
    (requestedConfig manager.getConfig params).newCodec =
      ((CJson.str params "codec").map managerText).getD manager.codec := by
  unfold requestedConfig EncoderConfig.newCodec
  cases CJson.str params "codec" with
  | none => rfl
  | some codec => rfl

/-- The settings stay values of their types. -/
theorem ConfigValues.update
    {manager : EncoderManager}
    (values : ConfigValues manager)
    (answers : BuildAnswers)
    (params : Option CJson) :
    ConfigValues (manager.updateConfig answers (requestedConfig manager.getConfig params)).2 := by
  have stored := @shownSettings_updateConfig manager answers
    (requestedConfig manager.getConfig params) rfl
  obtain ⟨codec, bitrateKbps, -, gopPattern, rcMode, -⟩ :=
    fields_of_getConfig (congrArg Prod.fst stored)
  constructor
  · rw [codec, newCodec_requestedConfig]
    cases CJson.str params "codec" with
    | none => exact values.codec
    | some codec => exact congrArg managerText (textOf_managerText codec)
  · rw [bitrateKbps]
    unfold EncoderConfig.newBitrate
    split
    next positive => exact positive
    next => decide
  · rw [gopPattern]
    exact requestedPattern_value values.gopPattern
  · rw [rcMode]
    exact intField_value values.rcMode

namespace EncoderServer

/-- `sbs_api_handle_encoder_update_config` -/
def updateConfig
    (answers : BuildAnswers)
    (params : Option CJson)
    (server : EncoderServer) : Reply × EncoderServer :=
  match server.encoderMgr with
  | none => (server.getConfig, server)
  | some ⟨manager, values⟩ =>
      let config := requestedConfig manager.getConfig params
      let code := (manager.updateConfig answers config).1
      let server : EncoderServer :=
        { encoderMgr := some ⟨(manager.updateConfig answers config).2, values.update _ _⟩ }
      if code ≠ .ok then
        ({ code := managerResult code
           result := none
           error := some (rpcError (-32011) "Failed to update encoder config") }, server)
      else (server.getConfig, server)

end EncoderServer

/-! ## Names of settings -/

/-- The names of each setting in a request. -/
def settingNames : List (List CStr) :=
  [["codec"], ["bitrate_kbps"], ["gop_size", "keyframe_interval"],
    ["gop_pattern", "gop_preset", "enable_b_frames"], ["rc_mode"]]

/-- The names of the settings that no request addresses. -/
def fixedNames : List CStr :=
  ["encoder", "width", "height", "fps_num", "fps_den"]

/-- A request in which the values have the types of their settings. -/
structure Canonical (params : Option CJson) : Prop where
  codec : ∀ item ∈ CJson.getObjectItem params "codec", ∃ text, item = .string text
  unsigned : ∀ name ∈ (["bitrate_kbps", "gop_size", "keyframe_interval"] : List CStr),
    ∀ item ∈ CJson.getObjectItem params name, ∃ value : UInt32, item = .ofInt value.toNat
  signed : ∀ name ∈ (["gop_pattern", "rc_mode"] : List CStr),
    ∀ item ∈ CJson.getObjectItem params name, ∃ value : Int32, item = .ofInt value.toInt
  preset : ∀ item ∈ CJson.getObjectItem params "gop_preset", ∃ preset,
    item = .string preset ∧ preset ∈ (["low_delay", "b_frames", "custom"] : List CStr)
  enabled : ∀ item ∈ CJson.getObjectItem params "enable_b_frames", ∃ enabled, item = .bool enabled
  /-- No setting is named twice. -/
  once : ∀ names ∈ settingNames, names.Pairwise fun name other =>
    CJson.getObjectItem params name = none ∨ CJson.getObjectItem params other = none

/-- What is shown of a requested value: a bitrate of 0 stands for the default, and the preset
`custom` for the pattern that there is. -/
def granted
    (before : Option CJson)
    (name : CStr) : CJson → CJson
  | .number value =>
      if name = "bitrate_kbps" ∧ value.toUInt32 = 0 then .ofInt 10000 else .number value
  | .string text =>
      if name = "gop_preset" ∧ text = "custom" then
        (CJson.getObjectItem before name).getD (.string text)
      else .string text
  | value => value

theorem granted_ofInt
    {name : CStr}
    (other : name ≠ "bitrate_kbps")
    (before : Option CJson)
    (value : ℤ) :
    granted before name (.ofInt value) = .ofInt value :=
  if_neg fun both => other both.1

theorem granted_string
    {name : CStr}
    (other : name ≠ "gop_preset")
    (before : Option CJson)
    (text : CStr) :
    granted before name (.string text) = .string text :=
  if_neg fun both => other both.1

/-- Under every name that a request has, the requested value is shown; every other setting is
shown as before. -/
structure Grants (params before after : Option CJson) : Prop where
  named : ∀ names ∈ settingNames, ∀ name ∈ names, ∀ value ∈ CJson.getObjectItem params name,
    CJson.getObjectItem after name = some (granted before name value)
  unaddressed : ∀ names ∈ settingNames, (∀ name ∈ names, CJson.getObjectItem params name = none) →
    ∀ name ∈ names, CJson.getObjectItem after name = CJson.getObjectItem before name
  fixed : ∀ name ∈ fixedNames, CJson.getObjectItem after name = CJson.getObjectItem before name

section

variable {params : Option CJson} {key : CStr}

theorem uintField_of_none
    (absent : CJson.getObjectItem params key = none)
    (current : UInt32) :
    uintField params key current = current := by
  unfold uintField
  rw [absent]

theorem uintField_of_value
    {value : UInt32}
    (present : CJson.getObjectItem params key = some (.ofInt value.toNat))
    (current : UInt32) :
    uintField params key current = value := by
  unfold uintField
  rw [present]
  exact Double.toUInt32_ofInt value

theorem intField_of_none
    (absent : CJson.getObjectItem params key = none)
    (current : Int) :
    intField params key current = current := by
  unfold intField
  rw [absent]

theorem intField_of_value
    {value : Int32}
    (present : CJson.getObjectItem params key = some (.ofInt value.toInt))
    (current : Int) :
    intField params key current = value.toInt := by
  unfold intField
  rw [present]
  exact congrArg Int32.toInt (Double.toInt32_ofInt value)

/-- A request that does not address the pattern. -/
theorem requestedPattern_of_none
    (pattern : CJson.getObjectItem params "gop_pattern" = none)
    (preset : CJson.getObjectItem params "gop_preset" = none)
    (enabled : CJson.getObjectItem params "enable_b_frames" = none)
    (current : Int) :
    requestedPattern params current = current := by
  have noPreset : CJson.str params "gop_preset" = none := by
    unfold CJson.str
    rw [preset]
    rfl
  unfold requestedPattern
  dsimp only
  rw [enabled, noPreset, intField_of_none pattern]

/-- A request with a pattern. -/
theorem requestedPattern_of_pattern
    {value : Int32}
    (pattern : CJson.getObjectItem params "gop_pattern" = some (.ofInt value.toInt))
    (preset : CJson.getObjectItem params "gop_preset" = none)
    (enabled : CJson.getObjectItem params "enable_b_frames" = none)
    (current : Int) :
    requestedPattern params current = value.toInt := by
  have noPreset : CJson.str params "gop_preset" = none := by
    unfold CJson.str
    rw [preset]
    rfl
  unfold requestedPattern
  dsimp only
  rw [enabled, noPreset, intField_of_value pattern]

/-- A request with a preset. -/
theorem requestedPattern_of_preset
    {preset : CStr}
    (pattern : CJson.getObjectItem params "gop_pattern" = none)
    (isPreset : CJson.getObjectItem params "gop_preset" = some (.string preset))
    (enabled : CJson.getObjectItem params "enable_b_frames" = none)
    (current : Int) :
    requestedPattern params current = (gopPatternFromPreset preset).getD current := by
  have given : CJson.str params "gop_preset" = some preset := by
    unfold CJson.str
    rw [isPreset]
    rfl
  unfold requestedPattern
  dsimp only
  rw [enabled, given, intField_of_none pattern]

/-- A request that turns B frames on or off. -/
theorem requestedPattern_of_enabled
    {value : Bool}
    (enabled : CJson.getObjectItem params "enable_b_frames" = some (.bool value))
    (current : Int) :
    requestedPattern params current = if value then 2 else 0 := by
  unfold requestedPattern
  dsimp only
  rw [enabled]

end

/-! ## The round trip -/

section

variable {manager after : EncoderManager} {params : Option CJson}

/-- What `encoder.getConfig` shows under the names of its settings. -/
theorem getObjectItem_encoderConfigJson (manager : EncoderManager) :
    let item := CJson.getObjectItem (some (encoderConfigJson manager))
    item "codec" = some (.string (textOf manager.codec)) ∧
      item "bitrate_kbps" = some (.ofInt manager.bitrateKbps.toNat) ∧
      item "gop_size" = some (.ofInt manager.gopSize.toNat) ∧
      item "keyframe_interval" = some (.ofInt manager.gopSize.toNat) ∧
      item "gop_pattern" = some (.ofInt manager.gopPattern) ∧
      item "gop_preset" = some (.string (gopPresetFromPattern manager.gopPattern)) ∧
      item "enable_b_frames" = some (.bool (manager.gopPattern ≠ 0)) ∧
      item "rc_mode" = some (.ofInt manager.rcMode) :=
  ⟨rfl, rfl, rfl, rfl, rfl, rfl, rfl, rfl⟩

section

variable (canonical : Canonical params)
include canonical

/-- The codec is shown as requested, or as before. -/
theorem codec_granted
    (codec : after.codec = ((CJson.str params "codec").map managerText).getD manager.codec) :
    let before := some (encoderConfigJson manager)
    (∀ value ∈ CJson.getObjectItem params "codec",
      some (.string (textOf after.codec)) = some (granted before "codec" value)) ∧
    (CJson.getObjectItem params "codec" = none → after.codec = manager.codec) := by
  intro before
  constructor
  · intro value member
    obtain ⟨text, rfl⟩ := canonical.codec value member
    have given : CJson.str params "codec" = some text := by
      unfold CJson.str
      rw [member]
      rfl
    rw [codec, given, Option.map_some, Option.getD_some, textOf_managerText,
      granted_string (by decide)]
  · intro absent
    have none_ : CJson.str params "codec" = none := by
      unfold CJson.str
      rw [absent]
      rfl
    rw [codec, none_]
    rfl

/-- The bitrate is shown as requested, or as before. -/
theorem bitrate_granted
    (values : ConfigValues manager)
    (bitrate : after.bitrateKbps =
      (requestedConfig manager.getConfig params).newBitrate) :
    let before := some (encoderConfigJson manager)
    (∀ value ∈ CJson.getObjectItem params "bitrate_kbps",
      some (.ofInt after.bitrateKbps.toNat) = some (granted before "bitrate_kbps" value)) ∧
    (CJson.getObjectItem params "bitrate_kbps" = none →
      after.bitrateKbps = manager.bitrateKbps) := by
  intro before
  have stored : after.bitrateKbps =
      if 0 < uintField params "bitrate_kbps" manager.bitrateKbps then
        uintField params "bitrate_kbps" manager.bitrateKbps
      else 10000 := bitrate
  constructor
  · intro value member
    obtain ⟨number, rfl⟩ := canonical.unsigned "bitrate_kbps" (by simp) value member
    rw [uintField_of_value member] at stored
    unfold granted CJson.ofInt
    dsimp only
    rw [Double.toUInt32_ofInt]
    by_cases zero : number = 0
    · rw [if_pos ⟨rfl, zero⟩, stored, zero]
      rfl
    · have positive : 0 < number := UInt32.pos_iff_ne_zero.mpr zero
      rw [if_neg fun both => zero both.2, stored, if_pos positive]
  · intro absent
    rw [uintField_of_none absent, if_pos values.bitrateKbps] at stored
    exact stored

/-- The GOP size is shown as requested under each of its names, or as before. -/
theorem gopSize_granted
    (gopSize : after.gopSize = (requestedConfig manager.getConfig params).gopSize) :
    let before := some (encoderConfigJson manager)
    (∀ value ∈ CJson.getObjectItem params "gop_size",
      some (.ofInt after.gopSize.toNat) = some (granted before "gop_size" value)) ∧
    (∀ value ∈ CJson.getObjectItem params "keyframe_interval",
      some (.ofInt after.gopSize.toNat) = some (granted before "keyframe_interval" value)) ∧
    (CJson.getObjectItem params "gop_size" = none →
      CJson.getObjectItem params "keyframe_interval" = none →
        after.gopSize = manager.gopSize) := by
  intro before
  have stored : after.gopSize = uintField params "keyframe_interval"
      (uintField params "gop_size" manager.gopSize) := gopSize
  have once : CJson.getObjectItem params "gop_size" = none ∨
      CJson.getObjectItem params "keyframe_interval" = none := by
    have pairs := canonical.once ["gop_size", "keyframe_interval"] (by simp [settingNames])
    rwa [List.pairwise_pair] at pairs
  refine ⟨?_, ?_, ?_⟩
  · intro value member
    obtain ⟨number, rfl⟩ := canonical.unsigned "gop_size" (by simp) value member
    have absent := once.resolve_left (by rw [Option.mem_def.mp member]; nofun)
    rw [stored, uintField_of_none absent, uintField_of_value member,
      granted_ofInt (by decide)]
  · intro value member
    obtain ⟨number, rfl⟩ := canonical.unsigned "keyframe_interval" (by simp) value member
    rw [stored, uintField_of_value member, granted_ofInt (by decide)]
  · intro noSize noInterval
    rw [stored, uintField_of_none noInterval, uintField_of_none noSize]

/-- The rate control mode is shown as requested, or as before. -/
theorem rcMode_granted
    (rcMode : after.rcMode = (requestedConfig manager.getConfig params).rcMode) :
    let before := some (encoderConfigJson manager)
    (∀ value ∈ CJson.getObjectItem params "rc_mode",
      some (.ofInt after.rcMode) = some (granted before "rc_mode" value)) ∧
    (CJson.getObjectItem params "rc_mode" = none → after.rcMode = manager.rcMode) := by
  intro before
  have stored : after.rcMode = intField params "rc_mode" manager.rcMode := rcMode
  constructor
  · intro value member
    obtain ⟨number, rfl⟩ := canonical.signed "rc_mode" (by simp) value member
    rw [stored, intField_of_value member, granted_ofInt (by decide)]
  · intro absent
    rw [stored, intField_of_none absent]

/-- The GOP pattern is shown as requested under each of its names, or as before. -/
theorem gopPattern_granted
    (gopPattern : after.gopPattern = (requestedConfig manager.getConfig params).gopPattern) :
    let before := some (encoderConfigJson manager)
    (∀ value ∈ CJson.getObjectItem params "gop_pattern",
      some (.ofInt after.gopPattern) = some (granted before "gop_pattern" value)) ∧
    (∀ value ∈ CJson.getObjectItem params "gop_preset",
      some (.string (gopPresetFromPattern after.gopPattern)) =
        some (granted before "gop_preset" value)) ∧
    (∀ value ∈ CJson.getObjectItem params "enable_b_frames",
      some (.bool (after.gopPattern ≠ 0)) = some (granted before "enable_b_frames" value)) ∧
    (CJson.getObjectItem params "gop_pattern" = none →
      CJson.getObjectItem params "gop_preset" = none →
        CJson.getObjectItem params "enable_b_frames" = none →
          after.gopPattern = manager.gopPattern) := by
  intro before
  have stored : after.gopPattern = requestedPattern params manager.gopPattern := gopPattern
  have once := canonical.once ["gop_pattern", "gop_preset", "enable_b_frames"]
    (by simp [settingNames])
  simp only [List.pairwise_cons, List.mem_cons, List.not_mem_nil, or_false, forall_eq_or_imp,
    forall_eq] at once
  obtain ⟨⟨patternPreset, patternEnabled⟩, presetEnabled, -⟩ := once
  refine ⟨?_, ?_, ?_, ?_⟩
  · intro value member
    obtain ⟨number, rfl⟩ := canonical.signed "gop_pattern" (by simp) value member
    have present : CJson.getObjectItem params "gop_pattern" ≠ none := by
      rw [Option.mem_def.mp member]
      nofun
    rw [stored, requestedPattern_of_pattern member (patternPreset.resolve_left present)
      (patternEnabled.resolve_left present), granted_ofInt (by decide)]
  · intro value member
    obtain ⟨preset, rfl, known⟩ := canonical.preset value member
    have present : CJson.getObjectItem params "gop_preset" ≠ none := by
      rw [Option.mem_def.mp member]
      nofun
    rw [stored, requestedPattern_of_preset (patternPreset.resolve_right present) member
      (presetEnabled.resolve_left present)]
    simp only [List.mem_cons, List.not_mem_nil, or_false] at known
    obtain rfl | rfl | rfl := known
    · rfl
    · rfl
    · rfl
  · intro value member
    obtain ⟨enabled, rfl⟩ := canonical.enabled value member
    rw [stored, requestedPattern_of_enabled member]
    cases enabled with
    | false => rfl
    | true => rfl
  · intro noPattern noPreset notEnabled
    rw [stored, requestedPattern_of_none noPattern noPreset notEnabled]

end

/-- The settings that no request addresses are shown as before. -/
theorem fixed_granted
    (format : after.getFormat = manager.getFormat)
    (encoder : after.encoderOverride = manager.encoderOverride) :
    ∀ name ∈ fixedNames, CJson.getObjectItem (some (encoderConfigJson after)) name =
      CJson.getObjectItem (some (encoderConfigJson manager)) name := by
  simp only [EncoderManager.getFormat, Prod.mk.injEq] at format
  obtain ⟨width, height, fpsNum, fpsDen⟩ := format
  unfold encoderConfigJson EncoderManager.getConfig
  rw [width, height, fpsNum, fpsDen, encoder]
  intro name member
  simp only [fixedNames, List.mem_cons, List.not_mem_nil, or_false] at member
  cases manager.encoderOverride with
  | none => obtain rfl | rfl | rfl | rfl | rfl := member <;> rfl
  | some override => obtain rfl | rfl | rfl | rfl | rfl := member <;> rfl

/-- An update that is stored grants its request. -/
theorem grants_of_stored
    (canonical : Canonical params)
    (values : ConfigValues manager)
    (stored : shownSettings after =
      ((requestedConfig manager.getConfig params).resolved, manager.getFormat)) :
    Grants params (some (encoderConfigJson manager)) (some (encoderConfigJson after)) := by
  obtain ⟨codec, bitrate, gopSize, gopPattern, rcMode, encoder⟩ :=
    fields_of_getConfig (congrArg Prod.fst stored)
  rw [newCodec_requestedConfig] at codec
  have showsCodec := codec_granted canonical codec
  have showsBitrate := bitrate_granted canonical values bitrate
  have showsSize := gopSize_granted canonical gopSize
  have showsPattern := gopPattern_granted canonical gopPattern
  have showsMode := rcMode_granted canonical rcMode
  obtain ⟨isCodec, isBitrate, isSize, isInterval, isPattern, isPreset, isEnabled, isMode⟩ :=
    getObjectItem_encoderConfigJson after
  obtain ⟨wasCodec, wasBitrate, wasSize, wasInterval, wasPattern, wasPreset, wasEnabled, wasMode⟩ :=
    getObjectItem_encoderConfigJson manager
  constructor
  · simp only [settingNames, List.forall_mem_cons, List.not_mem_nil, false_implies, implies_true,
      and_true]
    rw [isCodec, isBitrate, isSize, isInterval, isPattern, isPreset, isEnabled, isMode]
    exact ⟨showsCodec.1, showsBitrate.1, ⟨showsSize.1, showsSize.2.1⟩,
      ⟨showsPattern.1, showsPattern.2.1, showsPattern.2.2.1⟩, showsMode.1⟩
  · simp only [settingNames, List.forall_mem_cons, List.not_mem_nil, false_implies, implies_true,
      and_true]
    rw [isCodec, isBitrate, isSize, isInterval, isPattern, isPreset, isEnabled, isMode,
      wasCodec, wasBitrate, wasSize, wasInterval, wasPattern, wasPreset, wasEnabled, wasMode]
    refine ⟨?_, ?_, ?_, ?_, ?_⟩
    · intro absent
      rw [showsCodec.2 absent]
    · intro absent
      rw [showsBitrate.2 absent]
    · intro absent
      rw [showsSize.2.2 absent.1 absent.2]
      exact ⟨rfl, rfl⟩
    · intro absent
      rw [showsPattern.2.2.2 absent.1 absent.2.1 absent.2.2]
      exact ⟨rfl, rfl, rfl⟩
    · intro absent
      rw [showsMode.2 absent]
  · have format : after.getFormat = manager.getFormat := congrArg Prod.snd stored
    exact fixed_granted format encoder

/-- What is shown asks for the configuration that is there, but for the pattern. -/
theorem requestedConfig_encoderConfigJson
    (values : ConfigValues manager) :
    requestedConfig manager.getConfig (some (encoderConfigJson manager)) =
      { manager.getConfig with gopPattern := if manager.gopPattern = 0 then 0 else 2 } := by
  obtain ⟨codec, bitrate, size, interval, pattern, preset, enabled, mode⟩ :=
    getObjectItem_encoderConfigJson manager
  rw [← values.rcMode] at mode
  have isCodec : CJson.str (some (encoderConfigJson manager)) "codec" =
      some (textOf manager.codec) := by
    unfold CJson.str
    rw [codec]
    rfl
  unfold requestedConfig
  rw [isCodec, uintField_of_value bitrate, uintField_of_value interval, intField_of_value mode,
    requestedPattern_of_enabled enabled, Option.map_some, values.codec, values.rcMode]
  unfold EncoderManager.getConfig
  by_cases zero : manager.gopPattern = 0
  · simp [zero]
  · simp [zero]

end

namespace EncoderServer

/-- An update of a manager either fails or shows what it has stored. -/
theorem updateConfig_some
    (configured : ConfiguredManager)
    (answers : BuildAnswers)
    (params : Option CJson) :
    ∃ after : ConfiguredManager,
      (EncoderServer.updateConfig answers params ⟨some configured⟩).2 = ⟨some after⟩ ∧
        after.manager = (configured.manager.updateConfig answers
          (requestedConfig configured.manager.getConfig params)).2 ∧
        ((EncoderServer.updateConfig answers params ⟨some configured⟩).1.code = .ok →
          (EncoderServer.updateConfig answers params ⟨some configured⟩).1 =
            EncoderServer.getConfig ⟨some after⟩) := by
  let update := configured.manager.updateConfig answers
    (requestedConfig configured.manager.getConfig params)
  refine ⟨⟨update.2, configured.values.update answers params⟩, ?_, rfl, ?_⟩
  · unfold EncoderServer.updateConfig
    dsimp only
    split
    · rfl
    · rfl
  · unfold EncoderServer.updateConfig
    dsimp only
    split
    next fails =>
      intro ok
      dsimp only at ok
      cases code : update.1 with
      | ok => exact absurd code fails
      | inval => rw [code] at ok; cases ok
      | io => rw [code] at ok; cases ok
      | wouldBlock => rw [code] at ok; cases ok
      | notFound => rw [code] at ok; cases ok
    next => exact fun _ => rfl

/-- Writing back what is shown changes nothing where B frames are the whole pattern. -/
theorem updateConfig_encoderConfigJson
    (configured : ConfiguredManager)
    (answers : BuildAnswers)
    (pattern : configured.manager.gopPattern = 0 ∨ configured.manager.gopPattern = 2) :
    EncoderServer.updateConfig answers (some (encoderConfigJson configured.manager))
        ⟨some configured⟩ =
      (EncoderServer.getConfig ⟨some configured⟩, ⟨some configured⟩) := by
  obtain ⟨manager, values⟩ := configured
  have keeps : (if manager.gopPattern = 0 then (0 : Int) else 2) = manager.gopPattern := by
    obtain zero | two := pattern
    · rw [if_pos zero, zero]
    · have nonzero : manager.gopPattern ≠ 0 := by
        intro zero
        rw [zero] at two
        contradiction
      rw [if_neg nonzero, two]
  have asked : requestedConfig manager.getConfig (some (encoderConfigJson manager)) =
      manager.getConfig := by
    rw [requestedConfig_encoderConfigJson values, keeps]
    rfl
  have kept : manager.updateConfig answers
      (requestedConfig manager.getConfig (some (encoderConfigJson manager))) = (.ok, manager) := by
    rw [asked, updateConfig_getConfig values]
  have code : (manager.updateConfig answers
      (requestedConfig manager.getConfig (some (encoderConfigJson manager)))).1 = .ok := by
    rw [kept]
  have same : (⟨(manager.updateConfig answers
      (requestedConfig manager.getConfig (some (encoderConfigJson manager)))).2,
        values.update answers _⟩ : ConfiguredManager) = ⟨manager, values⟩ := by
    congr 1
    rw [kept]
  unfold EncoderServer.updateConfig
  dsimp only
  rw [if_neg (not_not.mpr code), same]

/-- Writing back what is shown keeps every setting but the pattern. -/
theorem updateConfig_keeps
    (configured : ConfiguredManager)
    (answers : BuildAnswers) :
    ∃ after ∈ (EncoderServer.updateConfig answers (some (encoderConfigJson configured.manager))
        ⟨some configured⟩).2.encoderMgr,
      after.manager.codec = configured.manager.codec ∧
        after.manager.bitrateKbps = configured.manager.bitrateKbps ∧
        after.manager.gopSize = configured.manager.gopSize ∧
        after.manager.rcMode = configured.manager.rcMode := by
  obtain ⟨after, stored, isAfter, -⟩ := updateConfig_some configured answers
    (some (encoderConfigJson configured.manager))
  have settings := @shownSettings_updateConfig configured.manager answers
    (requestedConfig configured.manager.getConfig
      (some (encoderConfigJson configured.manager))) rfl
  rw [← isAfter, requestedConfig_encoderConfigJson configured.values] at settings
  obtain ⟨codec, bitrate, size, -, mode, -⟩ :=
    fields_of_getConfig (congrArg Prod.fst settings)
  refine ⟨after, congrArg EncoderServer.encoderMgr stored, codec, ?_, size, mode⟩
  exact bitrate.trans (if_pos configured.values.bitrateKbps)

/-- A canonical request that succeeds is granted. -/
theorem updateConfig_grants
    (configured : ConfiguredManager)
    (answers : BuildAnswers)
    {params : Option CJson}
    (canonical : Canonical params)
    (ok : (EncoderServer.updateConfig answers params ⟨some configured⟩).1.code = .ok) :
    (EncoderServer.updateConfig answers params ⟨some configured⟩).1.result =
        (EncoderServer.updateConfig answers params ⟨some configured⟩).2.getConfig.result ∧
      Grants params (EncoderServer.getConfig ⟨some configured⟩).result
        (EncoderServer.updateConfig answers params ⟨some configured⟩).2.getConfig.result := by
  obtain ⟨after, stored, isAfter, shows⟩ := updateConfig_some configured answers params
  rw [stored, shows ok]
  refine ⟨rfl, ?_⟩
  have settings := @shownSettings_updateConfig configured.manager answers
    (requestedConfig configured.manager.getConfig params) rfl
  rw [← isAfter] at settings
  exact grants_of_stored canonical configured.values settings

/-- The object that a server with a manager returns. -/
theorem getConfig_some (configured : ConfiguredManager) :
    (EncoderServer.getConfig ⟨some configured⟩).result =
      some (encoderConfigJson configured.manager) :=
  rfl

/-- Reading the configuration and writing it back keeps every setting but the pattern, and the
pattern too where it is one of 0 and 2. A canonical request that succeeds is granted. -/
theorem encoder_config_round_trip
    (server : EncoderServer)
    (answers : BuildAnswers) :
    (∀ configured ∈ server.encoderMgr, ∀ shown ∈ server.getConfig.result,
      let update := server.updateConfig answers (some shown)
      (∃ after ∈ update.2.encoderMgr,
        after.manager.codec = configured.manager.codec ∧
          after.manager.bitrateKbps = configured.manager.bitrateKbps ∧
          after.manager.gopSize = configured.manager.gopSize ∧
          after.manager.rcMode = configured.manager.rcMode) ∧
      (configured.manager.gopPattern = 0 ∨ configured.manager.gopPattern = 2 →
        update.1.code = .ok ∧ update.2 = server)) ∧
    ∀ params, Canonical params →
      let update := server.updateConfig answers params
      update.1.code = .ok →
        update.1.result = update.2.getConfig.result ∧
          Grants params server.getConfig.result update.2.getConfig.result := by
  obtain ⟨encoderMgr⟩ := server
  cases encoderMgr with
  | none =>
      constructor
      · intro configured isConfigured
        exact absurd isConfigured (Option.not_mem_none configured)
      · intro params _ update ok
        have code : update.1.code = .generic := rfl
        rw [code] at ok
        contradiction
  | some configured =>
      constructor
      · intro other isOther shown isShown
        rw [getConfig_some, Option.mem_some_iff] at isShown
        rw [Option.mem_some_iff] at isOther
        rw [← isShown, ← isOther]
        refine ⟨updateConfig_keeps configured answers, ?_⟩
        intro pattern
        rw [updateConfig_encoderConfigJson configured answers pattern]
        exact ⟨rfl, rfl⟩
      · intro params canonical update ok
        exact updateConfig_grants configured answers canonical ok

/-- An H.265 encoder with a pattern. -/
def h265Manager (gopPattern : Int32) : ConfiguredManager where
  manager := .new 1920 1080 60 1
    { codec := some "h265"
      bitrateKbps := 20000
      gopSize := 60
      gopPattern := gopPattern.toInt
      rcMode := 0
      encoder := none
      hdr10 := false }
  values :=
    { codec := congrArg managerText (textOf_managerText "h265")
      bitrateKbps := (by decide : (0 : UInt32) < 20000)
      gopPattern := congrArg Int32.toInt (Int32.ofInt_toInt gopPattern)
      rcMode := rfl }

/-- A server with an H.265 encoder. -/
def ofPattern (gopPattern : Int32) : EncoderServer where
  encoderMgr := some (h265Manager gopPattern)

theorem canonical_bitrate (value : UInt32) :
    Canonical (some (.object [((CStr.lit "bitrate_kbps"), .ofInt value.toNat)])) := by
  constructor
  · nofun
  · intro name member item present
    simp only [List.mem_cons, List.not_mem_nil, or_false] at member
    obtain rfl | rfl | rfl := member
    · exact ⟨value, (Option.some.inj present).symm⟩
    · cases present
    · cases present
  · intro name member item present
    simp only [List.mem_cons, List.not_mem_nil, or_false] at member
    obtain rfl | rfl := member
    · cases present
    · cases present
  · nofun
  · nofun
  · intro names member
    simp only [settingNames, List.mem_cons, List.not_mem_nil, or_false] at member
    obtain rfl | rfl | rfl | rfl | rfl := member
    · exact List.pairwise_singleton _ _
    · exact List.pairwise_singleton _ _
    · rw [List.pairwise_pair]
      exact .inl rfl
    · simp only [List.pairwise_cons, List.mem_cons, List.not_mem_nil, or_false, forall_eq_or_imp,
        forall_eq]
      exact ⟨⟨.inl rfl, .inl rfl⟩, .inl rfl, nofun, .nil⟩
    · exact List.pairwise_singleton _ _

/-- A request of 8000 kbit/s. -/
theorem encoder_config_round_trip_bitrate :
    let server := ofPattern 0
    let update := server.updateConfig KeyframeState.allBuilds
      (some (.object [((CStr.lit "bitrate_kbps"), .ofInt (8000 : UInt32).toNat)]))
    update.1.code = .ok ∧
      CJson.getObjectItem update.2.getConfig.result "bitrate_kbps" =
        some (.ofInt (8000 : UInt32).toNat) := by
  intro server update
  have ok : update.1.code = .ok := by decide +kernel
  have granted := ((encoder_config_round_trip server KeyframeState.allBuilds).2 _
    (canonical_bitrate 8000) ok).2.named ["bitrate_kbps"] (by simp [settingNames])
      "bitrate_kbps" (by simp) _ rfl
  exact ⟨ok, granted.trans rfl⟩

/-- Writing back pattern 3 stores pattern 2, and a request of the bitrate 0 shows 10000. -/
theorem pattern_not_kept :
    (¬ ∀ (server : EncoderServer) (answers : BuildAnswers),
      ∀ configured ∈ server.encoderMgr, ∀ shown ∈ server.getConfig.result,
        ∃ after ∈ (server.updateConfig answers (some shown)).2.encoderMgr,
          after.manager.gopPattern = configured.manager.gopPattern) ∧
    ¬ ∀ (server : EncoderServer) (answers : BuildAnswers) (params : Option CJson),
      Canonical params → (server.updateConfig answers params).1.code = .ok →
        ∀ names ∈ settingNames, ∀ name ∈ names, ∀ value ∈ CJson.getObjectItem params name,
          CJson.getObjectItem (server.updateConfig answers params).2.getConfig.result name =
            some value := by
  constructor
  · intro keeps
    obtain ⟨after, isAfter, kept⟩ := keeps (ofPattern 3) KeyframeState.allBuilds _ rfl _ rfl
    have isTwo : ((EncoderServer.updateConfig KeyframeState.allBuilds
        (ofPattern 3).getConfig.result (ofPattern 3)).2.encoderMgr.map
          fun after => after.manager.gopPattern) = some 2 := by
      decide +kernel
    have same := congrArg (Option.map fun after => after.manager.gopPattern) isAfter
    exact absurd (kept.symm.trans (Option.some.inj (same.symm.trans isTwo))) (by decide)
  · intro shows
    have shown := shows (ofPattern 0) KeyframeState.allBuilds _ (canonical_bitrate 0)
      (by decide +kernel) ["bitrate_kbps"] (by simp [settingNames]) "bitrate_kbps" (by simp) _ rfl
    have grants := (updateConfig_grants (h265Manager 0) KeyframeState.allBuilds
      (canonical_bitrate 0) (by decide +kernel)).2.named ["bitrate_kbps"] (by simp [settingNames])
        "bitrate_kbps" (by simp) _ rfl
    have zero := CJson.number.inj (Option.some.inj (shown.symm.trans grants))
    exact absurd (congrArg Double.toUInt32 zero) (by decide +kernel)

end EncoderServer

end Api
end SbsServer
