import SbsServer.Engine.PreviewSession

/-!
# Flags, viewers and runtimes of the preview agree

The operations of the preview engine keep the flags and the viewers of each
encoded profile in step with its runtime, as long as a runtime that is to be
started anew starts.
-/

namespace SbsServer
namespace Engine

open CLib

namespace PreviewSessions

variable {engine after : PreviewSessions} {id : CStr} {profile old : PreviewProfile}
  {runtime : Option PreviewRuntime}

/-- A profile that agrees with its runtime and can be started again. -/
structure Settled
    (profile : PreviewProfile)
    (runtime : Option PreviewRuntime) : Prop where
  consistent : Consistent profile runtime
  viewers : profile.viewerCount ≤ 1
  framerate : profile.framerate ≠ 0
  bitrate : profile.bitrateKbps ≠ 0

/-- Every profile that is encoded on its own is settled, and the program is not encoded again. -/
structure Sound (engine : PreviewSessions) : Prop where
  settled : ∀ id profile, engine.profiles.lookup id = some profile →
    profile.requiresAdditionalEncode = true → Settled profile (engine.runtimes.lookup id)
  program : ∀ profile, engine.profiles.lookup programHevcSrt = some profile →
    profile.requiresAdditionalEncode = false

/-- One profile and its runtime were changed. -/
theorem Sound.changed
    (sound : engine.Sound)
    (found : engine.profiles.lookup id = some old)
    (profile : PreviewProfile)
    (required : profile.requiresAdditionalEncode = old.requiresAdditionalEncode)
    (profiles : after.profiles = engine.profiles.insert id profile)
    (others : ∀ other, other ≠ id →
      after.runtimes.lookup other = engine.runtimes.lookup other)
    (settled : profile.requiresAdditionalEncode = true →
      Settled profile (after.runtimes.lookup id)) :
    after.Sound where
  settled := by
    intro other stored lookup isRequired
    rw [profiles, HashTable.lookup_insert] at lookup
    by_cases same : other = id
    · rw [if_pos same] at lookup
      cases lookup
      rw [same]
      exact settled isRequired
    · rw [if_neg same] at lookup
      rw [others other same]
      exact sound.settled other stored lookup isRequired
  program := by
    intro stored lookup
    rw [profiles, HashTable.lookup_insert] at lookup
    by_cases same : programHevcSrt = id
    · rw [if_pos same] at lookup
      cases lookup
      rw [required]
      rw [← same] at found
      exact sound.program old found
    · rw [if_neg same] at lookup
      exact sound.program stored lookup

/-- A profile that is found has that name. -/
theorem lookup_of_getProfile
    {profileId : Option CStr}
    (found : engine.getProfile profileId = some (id, profile)) :
    profileId = some id ∧ engine.profiles.lookup id = some profile := by
  obtain ⟨name, rfl, found⟩ := Option.bind_eq_some_iff.mp found
  obtain ⟨same, lookup, equal⟩ := Option.map_eq_some_iff.mp found
  cases equal
  exact ⟨rfl, lookup⟩

theorem lookup_removeRuntime
    (other : CStr) :
    (engine.removeRuntime id).runtimes.lookup other =
      if other = id then none else engine.runtimes.lookup other :=
  HashTable.lookup_remove _ _ _

/-- Without a runtime nothing is reported. -/
theorem Settled.stopped
    (active : profile.active = false)
    (available : profile.available = false)
    (viewers : profile.viewerCount = 0)
    (framerate : profile.framerate ≠ 0)
    (bitrate : profile.bitrateKbps ≠ 0) :
    Settled profile none where
  consistent := {
    active := active
    available := available
    viewers := by
      rw [viewers]
      exact ⟨fun positive => absurd positive (by decide), fun isSome => (nomatch isSome)⟩
    width := fun _ started => (nomatch started)
    height := fun _ started => (nomatch started)
    framerate := fun _ started => (nomatch started)
    bitrate := fun _ started => (nomatch started) }
  viewers := by
    rw [viewers]
    decide
  framerate := framerate
  bitrate := bitrate

/-- A profile whose values change is stopped, or was not active. -/
theorem Sound.storeAndStop
    (sound : engine.Sound)
    (found : engine.profiles.lookup id = some old)
    {changed : Bool}
    (required : profile.requiresAdditionalEncode = old.requiresAdditionalEncode)
    (active : profile.active = old.active)
    (available : profile.available = old.available)
    (viewers : profile.viewerCount = old.viewerCount)
    (framerate : old.framerate ≠ 0 → profile.framerate ≠ 0)
    (bitrate : old.bitrateKbps ≠ 0 → profile.bitrateKbps ≠ 0)
    (same : old.requiresAdditionalEncode = true → changed = false →
      profile.width = old.width ∧ profile.height = old.height ∧
        profile.framerate = old.framerate ∧ profile.bitrateKbps = old.bitrateKbps) :
    (engine.storeAndStop id profile changed).Sound := by
  unfold PreviewSessions.storeAndStop
  split
  next stops =>
    refine sound.changed found profile.stopped required rfl (fun other different => ?_) ?_
    · exact (lookup_removeRuntime other).trans (if_neg different)
    · intro isRequired
      have settled := sound.settled id old found (required.symm.trans isRequired)
      have none : ((engine.removeRuntime id).store id profile.stopped).runtimes.lookup id =
          none := (lookup_removeRuntime id).trans (if_pos rfl)
      rw [none]
      exact .stopped rfl rfl rfl (framerate settled.framerate) (bitrate settled.bitrate)
  next stays =>
    refine sound.changed found profile required rfl (fun _ _ => rfl) fun isRequired => ?_
    have settled := sound.settled id old found (required.symm.trans isRequired)
    have consistent := settled.consistent
    have kept : ∀ started, engine.runtimes.lookup id = some started → changed = false := by
      intro started running
      have isActive : profile.active = true := by
        rw [active, consistent.active, running]
        rfl
      by_contra isChanged
      rw [Bool.not_eq_false] at isChanged
      exact stays (by rw [isChanged, isActive, isRequired]; rfl)
    have same := same (required.symm.trans isRequired)
    refine ⟨?_, ?_, framerate settled.framerate, bitrate settled.bitrate⟩
    · refine ⟨active.trans consistent.active, available.trans consistent.available, ?_, ?_, ?_, ?_,
        ?_⟩
      · rw [viewers]
        exact consistent.viewers
      · intro started running
        rw [(same (kept started running)).1]
        exact consistent.width started running
      · intro started running
        rw [(same (kept started running)).2.1]
        exact consistent.height started running
      · intro started running
        rw [(same (kept started running)).2.2.1]
        exact consistent.framerate started running
      · intro started running
        rw [(same (kept started running)).2.2.2]
        exact consistent.bitrate started running
    · rw [viewers]
      exact settled.viewers

/-- The program profile follows the source. -/
theorem Sound.formatProgram
    (sound : engine.Sound)
    (width height fps : UInt32) :
    (engine.formatProgram width height fps).Sound := by
  unfold PreviewSessions.formatProgram
  split
  next => exact sound
  next old found =>
    refine sound.changed found _ ?_ rfl (fun _ _ => rfl) ?_
    · rfl
    · intro isRequired
      rw [sound.program old found] at isRequired
      cases isRequired

/-- The encoded profile follows the source. -/
theorem Sound.formatPreview
    (sound : engine.Sound)
    {newDefaultFps : UInt32}
    (nonzero : newDefaultFps ≠ 0)
    (oldDefaultFps : UInt32) :
    (engine.formatPreview oldDefaultFps newDefaultFps).Sound := by
  unfold PreviewSessions.formatPreview
  split
  next => exact sound
  next old found =>
    dsimp only
    generalize (if old.autoDownscale = true then
      previewAutoDownscaleFactor engine.srcWidth engine.srcHeight
      else previewDownscaleFactorOrDefault old.downscaleFactor) = factor
    refine sound.storeAndStop found rfl rfl rfl rfl ?_ (fun kept => kept) ?_
    · intro kept
      dsimp only
      split
      next => exact nonzero
      next => exact kept
    · intro _ same
      simp only [Bool.or_eq_false_iff, bne_eq_false_iff_eq] at same
      refine ⟨same.1.1.symm, same.1.2.symm, ?_, rfl⟩
      dsimp only
      split
      next isDefault =>
        rw [isDefault, Bool.true_and, bne_eq_false_iff_eq] at same
        exact same.2.symm
      next => rfl

/-- The profiles of another source format. -/
theorem Sound.setSourceFormat
    (sound : engine.Sound)
    (width height fps : UInt32)
    (colorMode : PreviewColorMode) :
    (engine.setSourceFormat width height fps colorMode).Sound := by
  have formatted : ({ engine with
      srcWidth := width
      srcHeight := height
      srcFps := fps
      srcColorMode := colorMode } : PreviewSessions).Sound :=
    ⟨sound.settled, sound.program⟩
  refine (formatted.formatProgram width height fps).formatPreview ?_ _
  split
  next nonzero => exact nonzero
  next => decide

/-- A profile that gets another size. -/
theorem resize_cases
    (engine : PreviewSessions)
    (old : PreviewProfile)
    (autoDownscale : Int)
    (downscaleFactor : UInt32) :
    let resized := engine.resize old autoDownscale downscaleFactor
    resized.1 = { old with
      width := resized.1.width
      height := resized.1.height
      autoDownscale := resized.1.autoDownscale
      downscaleFactor := resized.1.downscaleFactor } ∧
    (resized.2 = false → resized.1.width = old.width ∧ resized.1.height = old.height) := by
  intro resized
  unfold resized PreviewSessions.resize
  split
  next =>
    refine ⟨rfl, fun same => ?_⟩
    dsimp only at same ⊢
    simp only [Bool.or_eq_false_iff, bne_eq_false_iff_eq] at same
    exact ⟨same.1.2.symm, same.2.symm⟩
  next => exact ⟨rfl, fun _ => ⟨rfl, rfl⟩⟩

/-- A value that is replaced if another one is given. -/
theorem replaced_ne_zero
    {given value : UInt32}
    (nonzero : value ≠ 0) :
    (if 0 < given then given else value) ≠ 0 := by
  split
  next positive => exact UInt32.pos_iff_ne_zero.mp positive
  next => exact nonzero

theorem replaced_eq
    {given value : UInt32}
    (same : (decide (0 < given) && value != given) = false) :
    (if 0 < given then given else value) = value := by
  split
  next positive =>
    rw [decide_eq_true positive, Bool.true_and, bne_eq_false_iff_eq] at same
    exact same.symm
  next => rfl

/-- A profile that gets another configuration. -/
theorem Sound.updateProfileConfig
    (sound : engine.Sound)
    (profileId : Option CStr)
    (autoDownscale : Int)
    (downscaleFactor framerate bitrateKbps : UInt32) :
    (engine.updateProfileConfig profileId autoDownscale downscaleFactor framerate
      bitrateKbps).2.Sound := by
  unfold PreviewSessions.updateProfileConfig
  split
  next => exact sound
  next =>
    split
    next => exact sound
    next =>
      split
      next => exact sound
      next =>
        split
        next => exact sound
        next id old found =>
          have lookup := (lookup_of_getProfile found).2
          have resized := engine.resize_cases old autoDownscale downscaleFactor
          revert resized
          generalize engine.resize old autoDownscale downscaleFactor = resized
          obtain ⟨profile, sizeChanged⟩ := resized
          rintro ⟨kept, size⟩
          dsimp only at kept size ⊢
          rw [kept]
          refine sound.storeAndStop lookup rfl rfl rfl rfl replaced_ne_zero replaced_ne_zero ?_
          intro _ same
          rw [Bool.or_eq_false_iff, Bool.or_eq_false_iff] at same
          have sides := size same.1.1
          exact ⟨sides.1, sides.2, replaced_eq same.1.2, replaced_eq same.2⟩

/-! ## Viewers -/

/-- The only viewer leaves. -/
theorem Settled.last
    (settled : Settled profile runtime) :
    (if 0 < profile.viewerCount then profile.viewerCount - 1 else profile.viewerCount) = 0 := by
  have viewers := UInt32.le_iff_toNat_le.mp settled.viewers
  split
  next positive =>
    have positive := UInt32.lt_iff_toNat_lt.mp positive
    have one : profile.viewerCount = 1 := by
      apply UInt32.toNat.inj
      rw [UInt32.toNat_zero] at positive
      rw [UInt32.toNat_one] at viewers ⊢
      omega
    rw [one]
    rfl
  next none =>
    have none := UInt32.lt_iff_toNat_lt.not.mp none
    apply UInt32.toNat.inj
    rw [UInt32.toNat_zero] at none ⊢
    omega

/-- A viewer leaves. -/
theorem Sound.releaseProfile
    (sound : engine.Sound)
    (profileId : Option CStr) :
    (engine.releaseProfile profileId).2.Sound := by
  unfold PreviewSessions.releaseProfile
  split
  next => exact sound
  next id old found =>
    have lookup := (lookup_of_getProfile found).2
    have last (required : old.requiresAdditionalEncode = true) :=
      (sound.settled id old lookup required).last
    dsimp only
    revert last
    generalize (if 0 < old.viewerCount then old.viewerCount - 1 else old.viewerCount) = viewers
    intro last
    split
    next stops =>
      refine sound.changed lookup _ ?_ rfl (fun other different => ?_) ?_
      · rfl
      · exact (lookup_removeRuntime other).trans (if_neg different)
      · intro required
        have settled := sound.settled id old lookup required
        have none : (engine.removeRuntime id).runtimes.lookup id = none :=
          (lookup_removeRuntime id).trans (if_pos rfl)
        refine (congrArg (Settled _) none).mpr ?_
        exact .stopped rfl rfl (last required) settled.framerate settled.bitrate
    next stays =>
      refine sound.changed lookup _ ?_ rfl (fun _ _ => rfl) ?_
      · rfl
      · intro required
        have isRequired : old.requiresAdditionalEncode = true := required
        rw [isRequired, last isRequired] at stays
        exact absurd rfl stays

/-- A runtime that is started for a settled profile encodes what the profile reports. -/
theorem Settled.started
    (settled : Settled profile runtime)
    (width : profile.width ≠ 0)
    (height : profile.height ≠ 0) :
    Settled { profile with
      available := true
      active := true
      viewerCount := 1 } (some (engine.startWebrtcRuntime profile)) where
  consistent := {
    active := rfl
    available := rfl
    viewers := ⟨fun _ => rfl, fun _ => (by decide : (0 : UInt32) < 1)⟩
    width := by
      rintro started ⟨⟩
      exact if_pos width
    height := by
      rintro started ⟨⟩
      exact if_pos height
    framerate := by
      rintro started ⟨⟩
      exact if_pos settled.framerate
    bitrate := by
      rintro started ⟨⟩
      exact if_pos settled.bitrate }
  viewers := UInt32.le_refl 1
  framerate := settled.framerate
  bitrate := settled.bitrate

/-- A runtime is started for a viewer. -/
theorem Sound.ensureProfile
    (sound : engine.Sound)
    {profileId : Option CStr}
    {starts : Bool}
    (meets : engine.StartsAnew (.ensure profileId starts)) :
    (engine.ensureProfile profileId starts).2.Sound := by
  unfold PreviewSessions.ensureProfile
  split
  next => exact sound
  next id old found =>
    have lookup := (lookup_of_getProfile found).2
    dsimp only
    split
    next => exact sound
    next obtainable =>
      split
      next required =>
        have settled := sound.settled id old lookup required
        have meets := meets (id, old) found required (by
          by_contra neither
          rw [not_or, Bool.not_eq_true, Bool.not_eq_true] at neither
          exact obtainable (by rw [neither.1, neither.2]; rfl))
        split
        next started =>
          rw [if_pos started] at meets
          refine sound.changed lookup _ ?_ rfl (fun other different => ?_) ?_
          · rfl
          · dsimp only [store]
            rw [HashTable.lookup_insert, if_neg different, HashTable.lookup_remove,
              if_neg different]
          · intro _
            dsimp only [store]
            rw [HashTable.lookup_insert, if_pos rfl]
            exact settled.started meets.1 meets.2
        next failed =>
          rw [if_neg failed] at meets
          refine ⟨fun other stored lookup isRequired => ?_, sound.program⟩
          rw [lookup_removeRuntime]
          split
          next same =>
            rw [same] at lookup
            rw [← meets]
            exact sound.settled id stored lookup isRequired
          next => exact sound.settled other stored lookup isRequired
      next notRequired =>
        refine sound.changed lookup _ ?_ rfl (fun _ _ => rfl) ?_
        · rfl
        · exact fun required => absurd required notRequired

/-- The profiles of a new engine. -/
theorem lookup_new
    (webrtcRequestable : Bool)
    (id : CStr) :
    (new webrtcRequestable).profiles.lookup id =
      if id = previewH264Webrtc then
        some { PreviewProfile.new 480 270 30 true false webrtcRequestable with
          autoDownscale := true
          downscaleFactor := 6
          bitrateKbps := 2500 }
      else if id = programHevcSrt then some (PreviewProfile.new 3840 2160 60 false true false)
      else none := by
  unfold new
  dsimp only
  rw [HashTable.lookup_insert, HashTable.lookup_insert, HashTable.lookup_empty]

/-- A new engine has no runtime. -/
theorem sound_new
    (webrtcRequestable : Bool) :
    (new webrtcRequestable).Sound where
  settled := by
    intro id profile lookup required
    have none : (new webrtcRequestable).runtimes.lookup id = none := HashTable.lookup_empty id
    rw [lookup_new] at lookup
    rw [none]
    split at lookup
    next =>
      cases lookup
      exact .stopped rfl rfl rfl (by decide : (30 : UInt32) ≠ 0) (by decide : (2500 : UInt32) ≠ 0)
    next =>
      split at lookup
      next =>
        cases lookup
        cases required
      next => cases lookup
  program := by
    intro profile lookup
    rw [lookup_new, if_neg (by decide), if_pos rfl] at lookup
    cases lookup
    rfl

/-- Every operation that meets the condition keeps the invariant. -/
theorem Sound.apply
    (sound : engine.Sound)
    {operation : PreviewOperation}
    (meets : engine.StartsAnew operation) :
    (engine.apply operation).Sound := by
  cases operation with
  | ensure profileId starts => exact sound.ensureProfile meets
  | release profileId => exact sound.releaseProfile profileId
  | update profileId autoDownscale downscaleFactor framerate bitrateKbps =>
      exact sound.updateProfileConfig profileId autoDownscale downscaleFactor framerate bitrateKbps
  | setSourceFormat width height fps colorMode =>
      exact sound.setSourceFormat width height fps colorMode

/-- A runtime is never started at a size of zero. -/
theorem startWebrtcRuntime_sides
    (engine : PreviewSessions)
    (profile : PreviewProfile) :
    (engine.startWebrtcRuntime profile).width ≠ 0 ∧
      (engine.startWebrtcRuntime profile).height ≠ 0 := by
  have side (reported source given : UInt32) (nonzero : given ≠ 0) :
      (if reported ≠ 0 then reported else if source ≠ 0 then source else given) ≠ 0 := by
    split
    next isReported => exact isReported
    next =>
      split
      next isSource => exact isSource
      next => exact nonzero
  exact ⟨side _ _ _ (by decide), side _ _ _ (by decide)⟩

/-- What an operation leaves when a runtime could not be started anew. -/
theorem not_allConsistent_apply
    (sound : engine.Sound)
    {operation : PreviewOperation}
    (fails : ¬engine.StartsAnew operation) :
    ¬(engine.apply operation).AllConsistent := by
  cases operation with
  | ensure profileId starts =>
      intro consistent
      apply fails
      rintro ⟨id, old⟩ found required obtainable
      have found : engine.getProfile profileId = some (id, old) := found
      have lookup := (lookup_of_getProfile found).2
      have settled := sound.settled id old lookup required
      have obtained : (!old.available && !old.requestable) = false := by
        rcases obtainable with isSo | isSo
        · rw [isSo]
          rfl
        · rw [isSo, Bool.not_true, Bool.and_false]
      unfold AllConsistent at consistent
      dsimp only [PreviewSessions.apply] at consistent
      unfold PreviewSessions.ensureProfile at consistent
      rw [found] at consistent
      dsimp only at consistent
      rw [obtained, if_neg Bool.false_ne_true, if_pos required] at consistent
      split at consistent
      next started =>
        rw [if_pos started]
        dsimp only [store] at consistent
        have agrees := consistent id _
          ((HashTable.lookup_insert _ _ _ _).trans (if_pos rfl)) required
        rw [HashTable.lookup_insert, if_pos rfl] at agrees
        have sides := engine.startWebrtcRuntime_sides old
        exact ⟨agrees.width _ rfl ▸ sides.1, agrees.height _ rfl ▸ sides.2⟩
      next failed =>
        rw [if_neg failed]
        have agrees := consistent id old lookup required
        rw [lookup_removeRuntime, if_pos rfl] at agrees
        have inactive := agrees.active
        rw [settled.consistent.active] at inactive
        exact Option.isNone_iff_eq_none.mp (Option.isSome_eq_false_iff.mp inactive)
  | release profileId => exact absurd trivial fails
  | update profileId autoDownscale downscaleFactor framerate bitrateKbps =>
      exact absurd trivial fails
  | setSourceFormat width height fps colorMode => exact absurd trivial fails

/-- Flags, viewers and runtimes agree in every run in which runtimes are started anew. -/
theorem consistent_of_reachable
    (reachable : system.ReachableWhen StartsAnew engine) :
    engine.AllConsistent := by
  have sound : engine.Sound := by
    refine @System.ReachableWhen.invariant _ _ system StartsAnew Sound ?_ ?_ engine reachable
    · rintro state ⟨webrtcRequestable, rfl⟩
      exact sound_new webrtcRequestable
    · intro state operation next sound meets stepped
      cases stepped
      exact sound.apply meets
  intro id profile lookup required
  exact (sound.settled id profile lookup required).consistent

/-- The canvas is set, and a viewer starts the preview. -/
def viewerStarts : List PreviewOperation :=
  [.setSourceFormat 1920 1080 60 .sdr, .ensure (some previewH264Webrtc) true]

/-- What the encoded profile and its runtime say. -/
def seen (engine : PreviewSessions) :
    Option (Bool × Bool × Bool × UInt32) × Option (UInt32 × UInt32) :=
  ((engine.profiles.lookup previewH264Webrtc).map fun profile =>
      (profile.requiresAdditionalEncode, profile.active, profile.available, profile.viewerCount),
    (engine.runtimes.lookup previewH264Webrtc).map fun runtime =>
      (runtime.width, runtime.bitrateKbps))

/-- A session is replaced by another one at another size. -/
theorem consistent_afterRestart :
    ∃ engine : PreviewSessions,
      system.ReachableWhen StartsAnew engine ∧ engine.AllConsistent ∧
        engine.seen = (some (true, true, true, 1), some (960, 4000)) := by
  have runs : (System.run
      (System.guarded StartsAnew fun engine operation => some (engine.apply operation))
      (new true) (viewerStarts ++ [.update (some previewH264Webrtc) 0 2 0 4000,
        .ensure (some previewH264Webrtc) false, .ensure (some previewH264Webrtc) true,
        .ensure (some previewH264Webrtc) true])).map seen =
      some (some (true, true, true, 1), some (960, 4000)) := by
    decide +kernel
  obtain ⟨engine, final, facts⟩ := Option.map_eq_some_iff.mp runs
  have reachable : system.ReachableWhen StartsAnew engine :=
    System.reachableWhen_of_run (.initial ⟨true, rfl⟩) final
  exact ⟨engine, reachable, consistent_of_reachable reachable, facts⟩

/-- A new session that cannot be started leaves the flags of the one that it replaced. -/
theorem flags_afterFailedRestart :
    ∃ engine : PreviewSessions,
      system.Reachable engine ∧ engine.seen = (some (true, true, true, 1), none) ∧
        ¬engine.AllConsistent := by
  have runs : (System.run (fun engine operation => some (PreviewSessions.apply engine operation))
      (new true) (viewerStarts ++ [.ensure (some previewH264Webrtc) false])).map seen =
      some (some (true, true, true, 1), none) := by
    decide +kernel
  obtain ⟨engine, final, facts⟩ := Option.map_eq_some_iff.mp runs
  have reachable : system.Reachable engine :=
    System.reachable_of_run (.initial ⟨true, rfl⟩) final
  refine ⟨engine, reachable, facts, fun consistent => ?_⟩
  unfold seen at facts
  rw [Prod.mk.injEq] at facts
  obtain ⟨profile, lookup, flags⟩ := Option.map_eq_some_iff.mp facts.1
  simp only [Prod.mk.injEq] at flags
  have agrees := (consistent previewH264Webrtc profile lookup flags.1).active
  rw [flags.2.1, Option.map_eq_none_iff.mp facts.2] at agrees
  cases agrees

end PreviewSessions
end Engine
end SbsServer
