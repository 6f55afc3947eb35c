import SbsServer.Engine.EncoderKeyframe

/-!
# Sinks and reconfiguration

What `sbs_encoder_manager_update_config` and `sbs_encoder_manager_reconfigure_video`
do to the sink branches when they return `SBS_OK`.
-/

namespace SbsServer
namespace Engine
namespace EncoderManager

/-- A branch gets the packets of the current pipeline. -/
def Linked (manager : EncoderManager) (branch : SinkBranch) : Prop :=
  match branch.link with
  | .session => True
  | .tee pipeline => manager.pipeline = some pipeline

/-- The pipeline is active exactly if there are branches, and they are linked to it. -/
structure Serves (manager : EncoderManager) : Prop where
  active : manager.pipelineActive = true ↔ manager.branches.entries ≠ []
  linked : ∀ branch ∈ manager.branches.entries, manager.Linked branch

/-- The settings of the branches. -/
def settings (manager : EncoderManager) : List SinkSettings :=
  manager.branches.entries.map (·.settings)

/-- The branches of one manager are those of another and are served. -/
structure SinksSurvive (before after : EncoderManager) : Prop where
  settings : after.settings.Perm before.settings
  serves : after.Serves

/-- `sbs_encoder_manager_get_format` -/
def getFormat (manager : EncoderManager) : UInt32 × UInt32 × UInt32 × UInt32 :=
  (manager.width, manager.height, manager.fpsNum, manager.fpsDen)

/-- The configuration is the one requested. -/
def HasConfig (config : EncoderConfig) (manager : EncoderManager) : Prop :=
  manager.getConfig = config.resolved

/-- The video format is the one requested. -/
def HasVideo
    (width height fpsNum fpsDen : UInt32)
    (hdr10 : Bool)
    (manager : EncoderManager) : Prop :=
  manager.getFormat = (width, height, fpsNum, fpsDenominator fpsDen) ∧
    manager.getConfig.hdr10 = hdr10

variable {manager : EncoderManager} {answers : BuildAnswers}

/-- A new branch of an active pipeline. -/
theorem addSink_of_active
    (active : manager.pipelineActive = true)
    {config : SinkBranchConfig}
    (new : manager.branches.contains config.outputId = false) :
    manager.addSink answers config =
      if answers.links config.outputId ≠ .ok then (answers.links config.outputId, manager)
      else (.ok, manager.insertBranch config.settings new) := by
  have built : manager.ensurePipeline answers = (.ok, manager) := by
    rw [ensurePipeline, if_pos active]
  rw [addSink, dif_neg (by simp [new])]
  simp only [built]
  simp

/-- The branch that settings are linked as. -/
def branchOf
    (manager : EncoderManager)
    (settings : SinkSettings) : SinkBranch where
  settings := settings
  link := manager.linkOf settings

/-- What adding branches again leaves alone. -/
structure SamePipeline (before after : EncoderManager) : Prop where
  active : after.pipelineActive = before.pipelineActive
  pipeline : after.pipeline = before.pipeline
  config : after.getConfig = before.getConfig

theorem SamePipeline.trans
    {first second third : EncoderManager}
    (before : first.SamePipeline second)
    (later : second.SamePipeline third) :
    first.SamePipeline third where
  active := later.active.trans before.active
  pipeline := later.pipeline.trans before.pipeline
  config := later.config.trans before.config

theorem SamePipeline.branchOf
    {before after : EncoderManager}
    (same : before.SamePipeline after) :
    after.branchOf = before.branchOf := by
  funext settings
  simp only [EncoderManager.branchOf, linkOf, same.pipeline]

/-- The saved settings that are linked again follow the branches that are there. -/
theorem readdBranches_spec
    (active : manager.pipelineActive = true)
    {saved : List SinkSettings}
    (distinct : (saved.map (·.outputId)).Nodup)
    (new : ∀ settings ∈ saved, manager.branches.contains settings.outputId = false) :
    let after := manager.readdBranches answers (saved.map (·.saved))
    manager.SamePipeline after ∧
      after.branches.entries = manager.branches.entries ++
        (saved.filter fun settings => answers.links settings.outputId = .ok).map
          manager.branchOf := by
  induction saved generalizing manager with
  | nil => exact ⟨⟨rfl, rfl, rfl⟩, by simp [readdBranches]⟩
  | cons settings rest ih =>
      have newHere := new settings (by simp)
      have newRest : ∀ other ∈ rest,
          manager.branches.contains other.outputId = false :=
        fun other member => new other (by simp [member])
      rw [List.map_cons, List.nodup_cons] at distinct
      have added := @addSink_of_active _ answers active settings.saved newHere
      by_cases links : answers.links settings.outputId = .ok
      · have inserted : (manager.addSink answers settings.saved).2 =
            manager.insertBranch settings newHere := by
          rw [added, if_neg (by simpa [SinkSettings.saved] using links)]
          simp
        have same : manager.SamePipeline (manager.insertBranch settings newHere) :=
          ⟨rfl, rfl, rfl⟩
        have later := @ih (manager.insertBranch settings newHere)
          active distinct.2 (by
            intro other member
            have different : other.outputId ≠ settings.outputId := by
              intro equal
              exact distinct.1 (List.mem_map.mpr ⟨other, member, equal⟩)
            have before := newRest other member
            simp only [SinkTable.contains, insertBranch, SinkTable.insert] at before ⊢
            simp only [List.map_append, List.contains_append, before]
            simpa using different)
        refine ⟨?_, ?_⟩
        · rw [List.map_cons, readdBranches, List.foldl_cons, inserted]
          exact same.trans later.1
        · rw [List.map_cons, readdBranches, List.foldl_cons, inserted]
          refine later.2.trans ?_
          rw [List.filter_cons_of_pos (by simpa using links), same.branchOf]
          simp [insertBranch, SinkTable.insert, EncoderManager.branchOf]
      · have skipped : (manager.addSink answers settings.saved).2 = manager := by
          rw [added, if_pos (by simpa [SinkSettings.saved] using links)]
        have later := ih active distinct.2 newRest
        rw [List.map_cons, readdBranches, List.foldl_cons, skipped,
          List.filter_cons_of_neg (by simpa using links)]
        exact later

variable {config : EncoderConfig}

/-- The pipeline is rebuilt without branches and with the configuration. -/
theorem rebuilt_spec
    (rebuilds : ((manager.stopForUpdate config).ensurePipeline answers).1 = .ok) :
    let rebuilt := ((manager.stopForUpdate config).ensurePipeline answers).2
    rebuilt.pipelineActive = true ∧ rebuilt.branches.entries = [] ∧
      rebuilt.getConfig = config.resolved ∧ ∃ number, rebuilt.pipeline = some number := by
  have stopped : (manager.stopForUpdate config).pipelineActive = false :=
    stopForUpdate_pipelineActive config
  have noBranches : (manager.stopForUpdate config).branches = .empty := by
    unfold stopForUpdate teardownPipeline
    split
    · rfl
    · rfl
  have stored : (manager.stopForUpdate config).getConfig = config.resolved := by
    unfold stopForUpdate teardownPipeline
    split
    · rfl
    · rfl
  dsimp only
  unfold ensurePipeline at rebuilds ⊢
  rw [stopped, if_neg Bool.false_ne_true] at rebuilds ⊢
  split at rebuilds
  next => cases rebuilds
  next builds =>
    rw [if_neg builds]
    refine ⟨rfl, ?_, stored, _, rfl⟩
    show (manager.stopForUpdate config).branches.entries = []
    rw [noBranches]
    rfl

theorem map_settings_branchOf
    (manager : EncoderManager)
    (settings : List SinkSettings) :
    (settings.map manager.branchOf).map (·.settings) = settings := by
  rw [List.map_map]
  exact List.map_id' settings

/-- When an update keeps the branches: nothing that is compared has changed and the
manager serves its branches and has the encoder that is asked for, or there are branches
and all of them are linked again. -/
def UpdateKeepsSinks
    (answers : BuildAnswers)
    (config : EncoderConfig)
    (manager : EncoderManager) : Prop :=
  if manager.unchangedBy config then
    manager.Serves ∧ manager.encoderOverride = config.encoder
  else
    manager.settings ≠ [] ∧
      ∀ settings ∈ manager.settings, answers.links settings.outputId = .ok

theorem hasConfig_of_unchanged
    (unchanged : manager.unchangedBy config = true) :
    manager.HasConfig config ↔ manager.encoderOverride = config.encoder := by
  simp only [unchangedBy, Bool.and_eq_true, beq_iff_eq] at unchanged
  obtain ⟨⟨⟨⟨⟨codec, bitrate⟩, gop⟩, pattern⟩, rcMode⟩, hdr10⟩ := unchanged
  simp [HasConfig, getConfig, EncoderConfig.resolved, codec, bitrate, gop, pattern, rcMode,
    hdr10]

/-- An update that returns `SBS_OK` keeps the branches in just these cases. -/
theorem updateConfig_keeps_sinks
    (ok : (manager.updateConfig answers config).1 = .ok) :
    (manager.SinksSurvive (manager.updateConfig answers config).2 ∧
        (manager.updateConfig answers config).2.HasConfig config) ↔
      manager.UpdateKeepsSinks answers config := by
  unfold UpdateKeepsSinks
  unfold updateConfig at ok ⊢
  split
  next unchanged =>
    dsimp only
    rw [hasConfig_of_unchanged unchanged]
    constructor
    · exact fun ⟨survive, encoder⟩ => ⟨survive.serves, encoder⟩
    · exact fun ⟨serves, encoder⟩ => ⟨⟨.refl _, serves⟩, encoder⟩
  next changed =>
    rw [if_neg changed] at ok
    dsimp only at ok ⊢
    split at ok
    next fails => exact absurd ok fails
    next rebuilds =>
      rw [if_neg rebuilds]
      dsimp only
      obtain ⟨active, noBranches, configured, number, pipeline⟩ :=
        rebuilt_spec (not_not.mp rebuilds)
      have isSaved : manager.branches.entries.map (·.settings.saved) =
          manager.settings.map (·.saved) := by
        rw [settings, List.map_map]
        rfl
      have distinct : (manager.settings.map (·.outputId)).Nodup := by
        rw [settings, List.map_map]
        exact manager.branches.distinct
      obtain ⟨same, entries⟩ := @readdBranches_spec _ answers active _ distinct (by
        intro settings _
        rw [SinkTable.contains, noBranches]
        rfl)
      rw [← isSaved] at same entries
      rw [noBranches, List.nil_append] at entries
      have kept := congrArg (List.map (·.settings)) entries
      rw [map_settings_branchOf] at kept
      constructor
      · intro ⟨survive, _⟩
        have length := survive.settings.length_eq
        rw [settings, kept, List.length_filter_eq_length_iff] at length
        refine ⟨?_, fun settings member => by simpa using length settings member⟩
        intro nothing
        apply survive.serves.active.mp (same.active.trans active)
        rw [entries, nothing]
        rfl
      · intro ⟨nonempty, links⟩
        have all : manager.settings.filter
            (fun settings => answers.links settings.outputId = .ok) = manager.settings := by
          rw [List.filter_eq_self]
          exact fun settings member => by simpa using links settings member
        rw [all] at entries kept
        refine ⟨⟨?_, ?_, ?_⟩, same.config.trans configured⟩
        · rw [settings, kept]
        · constructor
          · intro _ nothing
            rw [entries, List.map_eq_nil_iff] at nothing
            exact nonempty nothing
          · exact fun _ => same.active.trans active
        · intro branch member
          rw [entries, List.mem_map] at member
          obtain ⟨settings, _, isBranch⟩ := member
          have current := same.pipeline.trans pipeline
          rw [← isBranch]
          unfold Linked branchOf linkOf
          split
          next => trivial
          next isTee =>
            split at isTee
            · cases isTee
            · cases isTee
              rw [current, pipeline]
              rfl

/-- When a new video format keeps the branches: it is the old one and the manager serves
its branches, or there are none. -/
def ReconfigureKeepsSinks
    (width height fpsNum fpsDen : UInt32)
    (hdr10 : Bool)
    (manager : EncoderManager) : Prop :=
  if manager.sameVideo width height fpsNum (fpsDenominator fpsDen) hdr10 then manager.Serves
  else manager.settings = []

/-- A pipeline that is torn down for a new format is not active. -/
theorem setVideo_spec
    (width height fpsNum fpsDen : UInt32)
    (hdr10 : Bool) :
    (manager.setVideo width height fpsNum fpsDen hdr10).pipelineActive = false ∧
      (manager.setVideo width height fpsNum fpsDen hdr10).branches = manager.branches := by
  dsimp only [setVideo]
  unfold teardownPipeline
  split
  · exact ⟨rfl, rfl⟩
  · exact ⟨rfl, rfl⟩

/-- A reconfiguration that returns `SBS_OK` keeps the branches in just these cases. -/
theorem reconfigureVideo_keeps_sinks
    {width height fpsNum fpsDen : UInt32}
    {hdr10 : Bool}
    (ok : (manager.reconfigureVideo width height fpsNum fpsDen hdr10).1 = .ok) :
    (manager.SinksSurvive (manager.reconfigureVideo width height fpsNum fpsDen hdr10).2 ∧
        (manager.reconfigureVideo width height fpsNum fpsDen hdr10).2.HasVideo
          width height fpsNum fpsDen hdr10) ↔
      manager.ReconfigureKeepsSinks width height fpsNum fpsDen hdr10 := by
  unfold ReconfigureKeepsSinks
  unfold reconfigureVideo at ok ⊢
  split at ok
  next => cases ok
  next valid =>
    rw [if_neg valid]
    split
    next same =>
      have video : manager.HasVideo width height fpsNum fpsDen hdr10 := by
        simp only [sameVideo, Bool.and_eq_true, beq_iff_eq] at same
        obtain ⟨⟨⟨⟨sameWidth, sameHeight⟩, sameNum⟩, sameDen⟩, sameHdr⟩ := same
        exact ⟨by rw [getFormat, sameWidth, sameHeight, sameNum, sameDen], sameHdr⟩
      constructor
      · exact fun ⟨survive, _⟩ => survive.serves
      · exact fun serves => ⟨⟨.refl _, serves⟩, video⟩
    next changed =>
      obtain ⟨inactive, branches⟩ := @setVideo_spec manager width height fpsNum
        (fpsDenominator fpsDen) hdr10
      dsimp only
      constructor
      · intro ⟨survive, _⟩
        by_contra nonempty
        have entries : manager.branches.entries ≠ [] := fun nothing =>
          nonempty (by rw [settings, nothing]; rfl)
        have active := survive.serves.active.mpr (branches ▸ entries)
        rw [inactive] at active
        cases active
      · intro none
        have nothing : manager.branches.entries = [] := List.map_eq_nil_iff.mp none
        refine ⟨⟨?_, ?_, ?_⟩, rfl, rfl⟩
        · rw [settings, branches]
          exact .refl _
        · constructor
          · intro active
            rw [inactive] at active
            cases active
          · exact fun nonempty => absurd (branches ▸ nothing) nonempty
        · intro branch member
          rw [branches, nothing] at member
          cases member

/-- A call that reconfigures the encoder. -/
inductive Reconfiguration
  | updateConfig (answers : BuildAnswers) (config : EncoderConfig)
  | reconfigureVideo (width height fpsNum fpsDen : UInt32) (hdr10 : Bool)

namespace Reconfiguration

/-- The call is made. -/
def call
    (manager : EncoderManager) : Reconfiguration → ReturnCode × EncoderManager
  | .updateConfig answers config => manager.updateConfig answers config
  | .reconfigureVideo width height fpsNum fpsDen hdr10 =>
      manager.reconfigureVideo width height fpsNum fpsDen hdr10

/-- The manager has what the call asks for. -/
def Granted (manager : EncoderManager) : Reconfiguration → Prop
  | .updateConfig _ config => manager.HasConfig config
  | .reconfigureVideo width height fpsNum fpsDen hdr10 =>
      manager.HasVideo width height fpsNum fpsDen hdr10

/-- When the call keeps the branches. -/
def KeepsSinks (manager : EncoderManager) : Reconfiguration → Prop
  | .updateConfig answers config => manager.UpdateKeepsSinks answers config
  | .reconfigureVideo width height fpsNum fpsDen hdr10 =>
      manager.ReconfigureKeepsSinks width height fpsNum fpsDen hdr10

/-- A call that returns `SBS_OK` keeps the branches, serves them and grants what it asks
for exactly under the condition. -/
theorem sinks_survive_iff
    {manager : EncoderManager}
    {reconfiguration : Reconfiguration}
    (ok : (reconfiguration.call manager).1 = .ok) :
    (manager.SinksSurvive (reconfiguration.call manager).2 ∧
        reconfiguration.Granted (reconfiguration.call manager).2) ↔
      reconfiguration.KeepsSinks manager := by
  cases reconfiguration with
  | updateConfig answers config => exact updateConfig_keeps_sinks ok
  | reconfigureVideo width height fpsNum fpsDen hdr10 =>
      exact reconfigureVideo_keeps_sinks ok

/-- A manager with one SRT sink. -/
def oneSink : EncoderManager :=
  (KeyframeState.newManager.manager.addSink KeyframeState.allBuilds KeyframeState.srtSink).2

/-- A new bitrate, and all is built again. -/
def newBitrate : Reconfiguration :=
  .updateConfig KeyframeState.allBuilds { oneSink.getConfig with bitrateKbps := 8000 }

theorem sinks_survive_iff_bitrate :
    (oneSink.SinksSurvive (newBitrate.call oneSink).2 ∧
        newBitrate.Granted (newBitrate.call oneSink).2) ↔
      newBitrate.KeepsSinks oneSink :=
  sinks_survive_iff (by decide)

/-- A canvas of another size is reconfigured with success and leaves the sink behind: no
pipeline is active. -/
theorem new_format_stops_sinks :
    ∃ state, keyframeSystem.Reachable state ∧
      (Reconfiguration.call state.manager (.reconfigureVideo 1280 720 60 1 false)).1 = .ok ∧
      ¬ state.manager.SinksSurvive
        (Reconfiguration.call state.manager (.reconfigureVideo 1280 720 60 1 false)).2 := by
  refine ⟨KeyframeState.newManager.next
    (.addSink KeyframeState.allBuilds KeyframeState.srtSink),
    .step (.initial KeyframeState.isInitial_newManager) trivial rfl, by decide, ?_⟩
  intro survive
  have active := survive.serves.active.mpr (by decide)
  exact absurd active (by decide)

end Reconfiguration
end EncoderManager
end Engine
end SbsServer
