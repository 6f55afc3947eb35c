import SbsServer.Api.AudioHandlers

/-!
# What requests of audio settings change

`audio.setSource`, `audio.setSceneItem` and `audio.setMaster` compute a whole record from
the settings that a request names.  The mixer may be missing or stopped, and a branch may
fail to be added; the bindings of the graph and the master settings are what is stored.
-/

namespace SbsServer
namespace Api

open CLib SceneGraph Engine

/-- A graph with a mixer that may not be running. -/
structure AudioSession extends AudioServer where
  /-- The server has a mixer. -/
  attached : Bool
  /-- `audio->pipeline` -/
  pipeline : Bool
  /-- `audio->master_volume` -/
  masterVolume : Bool

namespace AudioSession

/-- The loop body of a scene change for one item, whose branch may fail to be added. -/
def sceneChangeItem
    (adds : CStr → Bool)
    (graph : SceneGraph)
    (state : HashTable CStr AudioBinding × HashTable CStr AudioBranch)
    (item : SceneItemState) : HashTable CStr AudioBinding × HashTable CStr AudioBranch :=
  let changed := AudioMixer.sceneChangeItem graph state item
  if adds item.sourceId then changed else (changed.1, state.2)

/-- `sbs_audio_mixer_on_scene_change` -/
def onSceneChange
    (session : AudioSession)
    (adds : CStr → Bool)
    (mixer : AudioMixer)
    (graph : SceneGraph)
    (activeSceneId : Option CStr) : AudioMixer :=
  if !session.attached || !session.pipeline then mixer
  else
    let (needed, branches) :=
      (AudioMixer.activeItems graph activeSceneId).foldl (sceneChangeItem adds graph)
        (.empty, mixer.branches)
    { mixer with
      activeSceneId := activeSceneId
      branches := branches.mapValues fun sourceId _ =>
        AudioMixer.sceneBranch graph (needed.lookup sourceId) sourceId }

/-- `sbs_audio_mixer_set_source_state` -/
def setSourceState
    (session : AudioSession)
    (adds : CStr → Bool)
    (freed : FreedSceneId)
    (graph : SceneGraph)
    (sourceId : CStr)
    (binding : AudioBinding) : SbsResult × AudioMixer :=
  let mixer := session.mixer
  if !session.attached then (.inval, mixer)
  else if binding.enabled && !mixer.branches.contains sourceId then
    if !session.pipeline then (.notFound, mixer)
    else if !adds sourceId then (.io, mixer)
    else
      let added := { mixer with
        branches := mixer.branches.insert sourceId (newBranch binding) }
      let ensured :=
        match mixer.activeSceneId with
        | some _ =>
            { session.onSceneChange adds added graph (some freed.searched) with
              activeSceneId := some freed.copied }
        | none => added
      (.ok, { ensured with
        branches := ensured.branches.modify sourceId (AudioMixer.followSource binding) })
  else (.ok, mixer.setSourceState graph freed sourceId binding)

/-- `sbs_audio_mixer_set_scene_item_state` -/
def setSceneItemState
    (session : AudioSession)
    (adds : CStr → Bool)
    (graph : SceneGraph)
    (sceneId : CStr)
    (item : SceneItemState) : SbsResult × AudioMixer :=
  let mixer := session.mixer
  let needsBranch := !mixer.branches.contains item.sourceId && item.audio.enabled &&
    item.audio.device.isSome
  if !session.attached then (.inval, mixer)
  else if (graph.getSource item.sourceId).isNone then (.notFound, mixer)
  else if needsBranch && !session.pipeline then (.notFound, mixer)
  else if needsBranch && !adds item.sourceId then (.io, mixer)
  else mixer.setSceneItemState graph sceneId item

/-- `sbs_audio_mixer_set_master` -/
def setMasterState
    (session : AudioSession)
    (volume : Double)
    (mute : Bool)
    (leftGain rightGain : Double)
    (eqBands : Option (Vector Double 10)) : SbsResult × AudioMixer :=
  let mixer := session.mixer
  if !session.attached || !session.masterVolume then (.inval, mixer)
  else
    (.ok, { mixer with master := mixer.master.set volume mute leftGain rightGain eqBands })

/-- `sbs_api_handle_audio_set_source` -/
def setSource
    (session : AudioSession)
    (adds : CStr → Bool)
    (freed : FreedSceneId)
    (params : Option CJson) : SbsResult × AudioSession :=
  match session.requestedSource params with
  | none => (.notFound, session)
  | some (id, source) =>
      let binding := AudioServer.sourceBinding source params
      let graph := AudioServer.withSourceAudio session.graph id binding
      let (code, mixer) := session.setSourceState adds freed graph id binding
      (code, { session with graph := graph, mixer := mixer })

/-- `sbs_api_server_refresh_scene` -/
def refreshScene
    (session : AudioSession)
    (adds : CStr → Bool)
    (now : Int64) : AudioSession :=
  let graph := session.graph.updateTransitionRuntime now
  let mixer := session.onSceneChange adds session.mixer graph graph.activeSceneId
  { session with graph := graph, mixer := mixer }

/-- `sbs_api_handle_audio_set_scene_item` -/
def setSceneItem
    (session : AudioSession)
    (adds : CStr → Bool)
    (params : Option CJson)
    (now : Int64) : SbsResult × AudioSession :=
  match session.requestedItem params with
  | none => (.notFound, session)
  | some (sceneId, itemId, item) =>
      let binding := AudioServer.itemBinding item params
      match session.graph.updateItemAudio (some sceneId) (some itemId) (some binding) with
      | (.ok, graph) =>
          let item := { item with audio := audioBindingCopy (some binding) }
          match session.setSceneItemState adds graph sceneId item with
          | (.ok, mixer) =>
              (.ok, refreshScene { session with graph := graph, mixer := mixer } adds now)
          | (code, mixer) => (code, { session with graph := graph, mixer := mixer })
      | (code, graph) => (code, { session with graph := graph })

/-- The bands that a request gives the master: zero where it gives none. -/
def requestedBands (params : Option CJson) : Option (Vector Double 10) :=
  match CJson.getObjectItem params "eq_bands" with
  | some (.array items) =>
      some (Vector.ofFn fun index =>
        match items[index.val]? with
        | some (.number band) => band
        | _ => .finite 0)
  | _ => none

/-- `sbs_api_handle_audio_set_master` -/
def setMaster
    (session : AudioSession)
    (params : Option CJson) : SbsResult × AudioSession :=
  let (code, mixer) := session.setMasterState
    (CJson.num params "volume" (.finite 1))
    (CJson.boolean params "mute" false)
    (CJson.num params "left_gain" (.finite 1))
    (CJson.num params "right_gain" (.finite 1))
    (requestedBands params)
  (code, { session with mixer := mixer })

/-- With a running mixer to which every branch can be added, a scene change is the one of that
mixer. -/
theorem onSceneChange_of_running
    {session : AudioSession}
    (attached : session.attached = true)
    (pipeline : session.pipeline = true)
    (mixer : AudioMixer)
    (graph : SceneGraph)
    (activeSceneId : Option CStr) :
    session.onSceneChange (fun _ => true) mixer graph activeSceneId =
      mixer.onSceneChange graph activeSceneId := by
  have item : sceneChangeItem (fun _ => true) graph = AudioMixer.sceneChangeItem graph := by
    funext state item
    unfold AudioSession.sceneChangeItem
    exact if_pos rfl
  unfold onSceneChange AudioMixer.onSceneChange
  rw [attached, pipeline, item]
  rfl

/-- With a running mixer to which every branch can be added, `audio.setSource` is the one of that
mixer. -/
theorem setSource_of_running
    {session : AudioSession}
    (attached : session.attached = true)
    (pipeline : session.pipeline = true)
    (freed : FreedSceneId)
    (params : Option CJson) :
    (session.setSource (fun _ => true) freed params).1 =
        (session.toAudioServer.setSource freed params).1 ∧
      (session.setSource (fun _ => true) freed params).2.toAudioServer =
        (session.toAudioServer.setSource freed params).2 := by
  unfold setSource AudioServer.setSource
  cases session.requestedSource params with
  | none => exact ⟨rfl, rfl⟩
  | some requested =>
      obtain ⟨id, source⟩ := requested
      have state : ∀ graph binding,
          session.setSourceState (fun _ => true) freed graph id binding =
            (.ok, session.mixer.setSourceState graph freed id binding) := by
        intro graph binding
        unfold setSourceState AudioMixer.setSourceState AudioMixer.ensureBranch
        rw [attached, pipeline]
        simp only [onSceneChange_of_running attached pipeline]
        cases enabled : binding.enabled with
        | false => rfl
        | true =>
            cases session.mixer.branches.contains id with
            | true => rfl
            | false => cases session.mixer.activeSceneId <;> rfl
      dsimp only
      rw [state]
      exact ⟨rfl, rfl⟩

end AudioSession

/-- A setting of a binding or of the master. -/
inductive AudioSetting
  | enabled
  | device
  | volume
  | leftGain
  | rightGain
  | delayMs
  | eqBand (band : Fin 10)
  | mute
  | monitor
  deriving DecidableEq

namespace AudioSetting

/-- The settings that are factors of the signal. -/
def IsLevel (setting : AudioSetting) : Prop :=
  setting = .volume ∨ setting = .leftGain ∨ setting = .rightGain

instance : DecidablePred IsLevel := fun setting =>
  inferInstanceAs (Decidable (setting = .volume ∨ setting = .leftGain ∨ setting = .rightGain))

end AudioSetting

/-- A value of a setting. -/
inductive SettingValue
  | bool (value : Bool)
  | text (value : CStr)
  | number (value : Double)
  | int (value : Int32)
  deriving DecidableEq

/-- A number, or one instead of a negative number. -/
def SettingValue.gainOrOne : SettingValue → SettingValue
  | .number value => .number (MasterAudio.gainOrOne value)
  | value => value

/-- A setting of a binding; a device may be missing. -/
def AudioBinding.setting (audio : AudioBinding) : AudioSetting → Option SettingValue
  | .enabled => some (.bool audio.enabled)
  | .device => audio.device.map .text
  | .volume => some (.number audio.volume)
  | .leftGain => some (.number audio.leftGain)
  | .rightGain => some (.number audio.rightGain)
  | .delayMs => some (.int audio.delayMs)
  | .eqBand band => some (.number (getElem audio.eqBands band (AudioBinding.band_lt band)))
  | .mute => some (.bool audio.mute)
  | .monitor => some (.bool audio.monitor)

/-- A setting of the master. -/
def MasterAudio.setting (master : MasterAudio) : AudioSetting → Option SettingValue
  | .volume => some (.number master.volume)
  | .leftGain => some (.number master.leftGain)
  | .rightGain => some (.number master.rightGain)
  | .eqBand band => some (.number (getElem master.eqBands band (AudioBinding.band_lt band)))
  | .mute => some (.bool master.mute)
  | _ => none

/-- What has settings: a source, an item at an index of a scene, or the master. -/
inductive AudioOwner
  | source (id : CStr)
  | item (sceneId : CStr) (index : ℕ)
  | master
  deriving DecidableEq

/-- The settings that are stored. -/
def AudioServer.stored
    (server : AudioServer)
    (owner : AudioOwner)
    (setting : AudioSetting) : Option SettingValue :=
  match owner with
  | .source id => (server.graph.getSource id).bind fun source =>
      AudioBinding.setting source.audio setting
  | .item sceneId index => (server.graph.getScene sceneId).bind fun scene =>
      scene.items[index]?.bind fun item => AudioBinding.setting item.audio setting
  | .master => MasterAudio.setting server.mixer.master setting

/-- A flag that a request names. -/
def requestedFlag
    (params : Option CJson)
    (key : CStr) : Option SettingValue :=
  match CJson.getObjectItem params key with
  | some (.bool value) => some (.bool value)
  | _ => none

/-- A number that a request names. -/
def requestedNumber (item : Option CJson) : Option SettingValue :=
  match item with
  | some (.number value) => some (.number value)
  | _ => none

/-- The value that a request names for a setting. -/
def requestedSetting
    (params : Option CJson) : AudioSetting → Option SettingValue
  | .enabled => requestedFlag params "enabled"
  | .device => (CJson.str params "device").map .text
  | .volume => requestedNumber (CJson.getObjectItem params "volume")
  | .leftGain => requestedNumber (CJson.getObjectItem params "left_gain")
  | .rightGain => requestedNumber (CJson.getObjectItem params "right_gain")
  | .delayMs =>
      match CJson.getObjectItem params "delay_ms" with
      | some (.number value) => some (.int value.toInt32)
      | _ => none
  | .eqBand band =>
      requestedNumber (CJson.arrayItems (CJson.getObjectItem params "eq_bands"))[band.val]?
  | .mute => requestedFlag params "mute"
  | .monitor => requestedFlag params "monitor"

/-! ## Expected settings -/

/-- The device of a binding without one. -/
def defaultDevice : SettingValue :=
  .text "hw:0,2"

/-- What `audio.setSource` stores of a setting: a source is enabled unless the request disables
it. -/
def sourceSetting
    (params : Option CJson)
    (old : Option SettingValue)
    (setting : AudioSetting) : Option SettingValue :=
  let disabled := requestedSetting params .enabled = some (.bool false)
  let kept :=
    if setting = .enabled then some (.bool true)
    else if setting = .device then if disabled then old else old.or (some defaultDevice)
    else if setting.IsLevel then old.map SettingValue.gainOrOne
    else old
  (requestedSetting params setting).or kept

/-- What `audio.setSceneItem` stores of a setting. -/
def itemSetting
    (params : Option CJson)
    (old : Option SettingValue)
    (setting : AudioSetting) : Option SettingValue :=
  let new := (requestedSetting params setting).or old
  if setting = .device then new.or (some defaultDevice)
  else if setting.IsLevel then new.map SettingValue.gainOrOne
  else new

/-- Only the settings of an owner may differ. -/
def AgreeExcept
    (owner : AudioOwner)
    (before after : AudioSession) : Prop :=
  ∀ other ≠ owner, ∀ setting, after.stored other setting = before.stored other setting

section

variable {params : Option CJson} {audio : AudioBinding}

theorem flag_requested
    (params : Option CJson)
    (key : CStr)
    (fallback : Bool) :
    some (.bool (CJson.boolean params key fallback)) =
      (requestedFlag params key).or (some (.bool fallback)) := by
  unfold CJson.boolean requestedFlag
  cases CJson.getObjectItem params key with
  | none => rfl
  | some item => cases item <;> rfl

theorem number_requested
    (params : Option CJson)
    (key : CStr)
    (fallback : Double) :
    some (.number (CJson.num params key fallback)) =
      (requestedNumber (CJson.getObjectItem params key)).or (some (.number fallback)) := by
  unfold CJson.num requestedNumber
  cases CJson.getObjectItem params key with
  | none => rfl
  | some item => cases item <;> rfl

theorem setting_applyAudioParams
    (audio : AudioBinding)
    (params : Option CJson)
    (defaultEnabled : Bool)
    (setting : AudioSetting) :
    AudioBinding.setting (applyAudioParams audio params defaultEnabled) setting =
      (requestedSetting params setting).or
        (if setting = .enabled then some (.bool defaultEnabled)
          else if setting.IsLevel then
            (AudioBinding.setting audio setting).map SettingValue.gainOrOne
          else AudioBinding.setting audio setting) := by
  cases setting with
  | enabled => exact flag_requested params "enabled" defaultEnabled
  | device =>
      change (Option.or _ _).map _ = ((CJson.str params "device").map _).or (audio.device.map _)
      cases CJson.str params "device" with
      | none => rfl
      | some text => rfl
  | volume => exact number_requested params "volume" (MasterAudio.gainOrOne audio.volume)
  | leftGain => exact number_requested params "left_gain" (MasterAudio.gainOrOne audio.leftGain)
  | rightGain => exact number_requested params "right_gain" (MasterAudio.gainOrOne audio.rightGain)
  | delayMs =>
      unfold requestedSetting applyAudioParams AudioBinding.setting
      dsimp only
      cases CJson.getObjectItem params "delay_ms" with
      | none => rfl
      | some item => cases item <;> rfl
  | eqBand band =>
      unfold requestedSetting applyAudioParams AudioBinding.setting requestedNumber
      dsimp only
      rw [Fin.getElem_fin, Vector.getElem_ofFn]
      cases (CJson.arrayItems (CJson.getObjectItem params "eq_bands"))[band.val]? with
      | none => rfl
      | some item => cases item <;> rfl
  | mute => exact flag_requested params "mute" audio.mute
  | monitor => exact flag_requested params "monitor" audio.monitor

/-- A source is enabled unless the request disables it. -/
theorem enabled_applyAudioParams
    (audio : AudioBinding)
    (params : Option CJson) :
    (applyAudioParams audio params true).enabled = false ↔
      requestedSetting params .enabled = some (.bool false) := by
  have applied : some (SettingValue.bool (applyAudioParams audio params true).enabled) =
      (requestedSetting params .enabled).or (some (.bool true)) :=
    setting_applyAudioParams audio params true .enabled
  cases requested : requestedSetting params .enabled with
  | none =>
      rw [requested] at applied
      simpa using applied
  | some value =>
      rw [requested, Option.some_or] at applied
      rw [← applied]
      simp

/-- The device that `audio.setSource` stores. -/
theorem device_sourceBinding
    (source : SourceState)
    (params : Option CJson) :
    AudioBinding.setting (AudioServer.sourceBinding source params) .device =
      sourceSetting params (AudioBinding.setting source.audio .device) .device := by
  have stored : (AudioServer.sourceBinding source params).device =
      if requestedSetting params .enabled = some (.bool false) then
        (CJson.str params "device").or source.audio.device
      else some (((CJson.str params "device").or source.audio.device).getD "hw:0,2") := by
    unfold AudioServer.sourceBinding
    dsimp only
    cases enabled : (applyAudioParams source.audio params true).enabled with
    | false => rw [if_pos ((enabled_applyAudioParams source.audio params).mp enabled)]; rfl
    | true =>
        have allowed : requestedSetting params .enabled ≠ some (.bool false) := by
          rw [Ne, ← enabled_applyAudioParams source.audio params, enabled]
          decide
        rw [if_neg allowed]
        rfl
  change (AudioServer.sourceBinding source params).device.map _ =
    ((CJson.str params "device").map _).or
      (if requestedSetting params .enabled = some (.bool false) then source.audio.device.map .text
        else (source.audio.device.map .text).or (some defaultDevice))
  rw [stored]
  split
  · cases CJson.str params "device" with
    | none => rfl
    | some text => rfl
  · cases CJson.str params "device" with
    | none => cases source.audio.device with
      | none => rfl
      | some device => rfl
    | some text => rfl

/-- The binding that `audio.setSource` stores. -/
theorem setting_sourceBinding
    (source : SourceState)
    (params : Option CJson)
    (setting : AudioSetting) :
    AudioBinding.setting (AudioServer.sourceBinding source params) setting =
      sourceSetting params (AudioBinding.setting source.audio setting) setting := by
  by_cases device : setting = .device
  · rw [device]
    exact device_sourceBinding source params
  · have kept : AudioBinding.setting (AudioServer.sourceBinding source params) setting =
        AudioBinding.setting (applyAudioParams source.audio params true) setting := by
      unfold AudioServer.sourceBinding
      dsimp only
      split
      · cases setting with
        | device => exact absurd rfl device
        | _ => rfl
      · rfl
    unfold sourceSetting
    dsimp only
    rw [kept, setting_applyAudioParams, if_neg device]

theorem gainOrOne_idem (value : SettingValue) :
    value.gainOrOne.gainOrOne = value.gainOrOne := by
  cases value with
  | number gain =>
      unfold SettingValue.gainOrOne MasterAudio.gainOrOne
      dsimp only
      split
      · rfl
      · rfl
  | bool value => rfl
  | text value => rfl
  | int value => rfl

/-- The copy of a binding has no negative level. -/
theorem setting_audioBindingCopy
    (audio : AudioBinding)
    (setting : AudioSetting) :
    AudioBinding.setting (audioBindingCopy (some audio)) setting =
      if setting.IsLevel then (AudioBinding.setting audio setting).map SettingValue.gainOrOne
      else AudioBinding.setting audio setting := by
  cases setting <;> rfl

/-- The binding that `audio.setSceneItem` stores. -/
theorem setting_itemBinding
    (item : SceneItemState)
    (params : Option CJson)
    (setting : AudioSetting) :
    AudioBinding.setting (audioBindingCopy (some (AudioServer.itemBinding item params))) setting =
      itemSetting params (AudioBinding.setting item.audio setting) setting := by
  have applied := setting_applyAudioParams { item.audio with device := none } params
    item.audio.enabled setting
  rw [setting_audioBindingCopy]
  by_cases device : setting = .device
  · rw [device]
    change Option.map _ ((Option.or _ none).or (some (item.audio.device.getD _))) =
      (((CJson.str params "device").map _).or (item.audio.device.map _)).or (some defaultDevice)
    cases CJson.str params "device" with
    | none => cases item.audio.device with
      | none => rfl
      | some device => rfl
    | some text => rfl
  · have kept : AudioBinding.setting (AudioServer.itemBinding item params) setting =
        AudioBinding.setting (applyAudioParams { item.audio with device := none } params
          item.audio.enabled) setting := by
      cases setting with
      | device => exact absurd rfl device
      | _ => rfl
    have old : AudioBinding.setting { item.audio with device := none } setting =
        AudioBinding.setting item.audio setting := by
      cases setting with
      | device => exact absurd rfl device
      | _ => rfl
    unfold itemSetting
    dsimp only
    rw [kept, applied, old, if_neg device]
    by_cases level : setting.IsLevel
    · have notEnabled : setting ≠ .enabled := by
        rintro rfl
        exact absurd level (by decide)
      rw [if_pos level, if_pos level, if_neg notEnabled, if_pos level]
      cases requestedSetting params setting with
      | some value => rfl
      | none =>
          rw [Option.none_or, Option.none_or, Option.map_map]
          congr 1
          funext value
          exact gainOrOne_idem value
    · rw [if_neg level, if_neg level, if_neg level]
      by_cases enabled : setting = .enabled
      · rw [if_pos enabled, enabled]
        rfl
      · rw [if_neg enabled]

end

namespace AudioSession

/-- The source that a request names. -/
def sourceOwner
    (session : AudioSession)
    (params : Option CJson) : Option AudioOwner := do
  let id ← CJson.str params "source_id"
  let _ ← session.graph.getSource id
  return .source id

/-- The item that a request names: the first of its scene with the id. -/
def itemOwner
    (session : AudioSession)
    (params : Option CJson) : Option AudioOwner := do
  let sceneId ← CJson.str params "scene_id"
  let itemId ← CJson.str params "item_id"
  let scene ← session.graph.getScene sceneId
  let index ← scene.items.findIdx? fun item => item.id = itemId
  return .item sceneId index

variable {session : AudioSession} {params : Option CJson}

/-- The handler finds the source that is named. -/
theorem requestedSource_cases (session : AudioSession) (params : Option CJson) :
    (session.sourceOwner params = none ∧ session.requestedSource params = none) ∨
      ∃ id source, session.sourceOwner params = some (.source id) ∧
        session.requestedSource params = some (id, source) ∧
          session.graph.getSource id = some source := by
  unfold sourceOwner AudioServer.requestedSource
  cases CJson.str params "source_id" with
  | none => exact .inl ⟨rfl, rfl⟩
  | some id =>
      cases found : session.graph.getSource id with
      | none => exact .inl ⟨by simp [found], by simp [found]⟩
      | some source => exact .inr ⟨id, source, by simp [found], by simp [found], found⟩

/-- The handler finds the item that is named. -/
theorem requestedItem_cases (session : AudioSession) (params : Option CJson) :
    (session.itemOwner params = none ∧ session.requestedItem params = none) ∨
      ∃ sceneId itemId scene item,
        let index := scene.items.findIdx fun item => item.id = itemId
        session.itemOwner params = some (.item sceneId index) ∧
          session.requestedItem params = some (sceneId, itemId, item) ∧
            session.graph.getScene sceneId = some scene ∧ scene.items[index]? = some item ∧
              scene.findItem itemId = some item := by
  unfold itemOwner AudioServer.requestedItem
  cases CJson.str params "scene_id" with
  | none => exact .inl ⟨rfl, rfl⟩
  | some sceneId =>
      cases CJson.str params "item_id" with
      | none => exact .inl ⟨rfl, rfl⟩
      | some itemId =>
          cases found : session.graph.getScene sceneId with
          | none => exact .inl ⟨by simp [found], by simp [found]⟩
          | some scene =>
              cases isItem : scene.findItem itemId with
              | none =>
                  have absent : scene.items.findIdx? (fun item => item.id = itemId) = none := by
                    rw [List.findIdx?_eq_none_iff]
                    intro item member
                    simpa using List.find?_eq_none.mp isItem item member
                  exact .inl ⟨by simp [found, absent], by simp [found, isItem]⟩
              | some item =>
                  have placed : scene.items[scene.items.findIdx fun item => item.id = itemId]? =
                      some item := by
                    rw [← List.find?_eq_getElem?_findIdx]
                    exact isItem
                  have index : scene.items.findIdx? (fun item => item.id = itemId) =
                      some (scene.items.findIdx fun item => item.id = itemId) :=
                    List.findIdx?_eq_some_iff_findIdx_eq.mpr
                      ⟨(List.getElem?_eq_some_iff.mp placed).1, rfl⟩
                  exact .inr ⟨sceneId, itemId, scene, item, by simp [found, index],
                    by simp [found, isItem], found, placed, isItem⟩

/-- Nothing but the binding of one source is changed. -/
theorem stored_withSourceAudio
    {id : CStr}
    {source : SourceState}
    (found : session.graph.getSource id = some source)
    (binding : AudioBinding)
    {mixer : AudioMixer}
    (master : mixer.master = session.mixer.master)
    (owner : AudioOwner)
    (setting : AudioSetting) :
    AudioServer.stored {
        graph := AudioServer.withSourceAudio session.graph id binding
        mixer := mixer } owner setting =
      if owner = .source id then AudioBinding.setting binding setting
      else session.stored owner setting := by
  cases owner with
  | source other =>
      unfold AudioServer.stored
      dsimp only
      rw [AudioServer.getSource_withSourceAudio]
      by_cases same : other = id
      · rw [if_pos same, if_pos (congrArg AudioOwner.source same), same, found]
        rfl
      · rw [if_neg same, if_neg fun equal => same (AudioOwner.source.inj equal)]
  | item sceneId index =>
      rw [if_neg (by simp)]
      rfl
  | master =>
      rw [if_neg (by simp)]
      unfold AudioServer.stored
      dsimp only
      rw [master]

/-- Nothing but the binding of one item is changed. -/
theorem stored_modifyItem
    {graph : SceneGraph}
    {sceneId itemId : CStr}
    {scene : SceneState}
    {item : SceneItemState}
    (found : session.graph.getScene sceneId = some scene)
    (placed : scene.items[scene.items.findIdx fun item => item.id = itemId]? = some item)
    (sources : graph.sources = session.graph.sources)
    (scenes : graph.scenes = (session.graph.modifyScene sceneId fun scene =>
      scene.modifyItem itemId ({ · with audio := binding })).scenes)
    {mixer : AudioMixer}
    (master : mixer.master = session.mixer.master)
    (owner : AudioOwner)
    (setting : AudioSetting) :
    AudioServer.stored { graph := graph, mixer := mixer } owner setting =
      if owner = .item sceneId (scene.items.findIdx fun item => item.id = itemId) then
        AudioBinding.setting binding setting
      else session.stored owner setting := by
  cases owner with
  | source other =>
      rw [if_neg (by simp)]
      unfold AudioServer.stored SceneGraph.getSource
      dsimp only
      rw [sources]
  | item other index =>
      have isScene : graph.getScene other =
          if other = sceneId then (session.graph.getScene other).map fun scene =>
            scene.modifyItem itemId ({ · with audio := binding })
          else session.graph.getScene other := by
        unfold SceneGraph.getScene
        rw [scenes]
        exact HashTable.lookup_modify _ _ _ _
      unfold AudioServer.stored
      dsimp only
      rw [isScene]
      by_cases same : other = sceneId
      · rw [if_pos same, same, found]
        unfold SceneState.modifyItem
        dsimp only [Option.map_some, Option.bind_some]
        rw [PtrArray.getElem?_modifyFirst]
        by_cases first : index = scene.items.findIdx fun item => item.id = itemId
        · rw [if_pos first, if_pos (congrArg (AudioOwner.item sceneId) first), first, placed]
          rfl
        · rw [if_neg first, if_neg fun equal => first (AudioOwner.item.inj equal).2]
      · rw [if_neg same, if_neg fun equal => same (AudioOwner.item.inj equal).1]
  | master =>
      rw [if_neg (by simp)]
      unfold AudioServer.stored
      dsimp only
      rw [master]

/-- The mixer stores the master settings only. -/
@[simp] theorem master_onSceneChange
    (adds : CStr → Bool)
    (mixer : AudioMixer)
    (graph : SceneGraph)
    (activeSceneId : Option CStr) :
    (session.onSceneChange adds mixer graph activeSceneId).master = mixer.master := by
  unfold onSceneChange
  split
  · rfl
  · rfl

@[simp] theorem master_setSourceState
    (adds : CStr → Bool)
    (freed : FreedSceneId)
    (graph : SceneGraph)
    (sourceId : CStr)
    (binding : AudioBinding) :
    (session.setSourceState adds freed graph sourceId binding).2.master =
      session.mixer.master := by
  have existing : (session.mixer.setSourceState graph freed sourceId binding).master =
      session.mixer.master := by
    unfold AudioMixer.setSourceState AudioMixer.ensureBranch
    split
    · rfl
    · dsimp only
      split
      · rfl
      · cases session.mixer.activeSceneId with
        | none => rfl
        | some activeSceneId => rfl
  unfold AudioSession.setSourceState
  dsimp only
  split
  · rfl
  split
  · split
    · rfl
    split
    · rfl
    · cases session.mixer.activeSceneId with
      | none => rfl
      | some activeSceneId => exact master_onSceneChange _ _ _ _
  · exact existing

@[simp] theorem master_setSceneItemState
    (adds : CStr → Bool)
    (graph : SceneGraph)
    (sceneId : CStr)
    (item : SceneItemState) :
    (session.setSceneItemState adds graph sceneId item).2.master = session.mixer.master := by
  have existing : (session.mixer.setSceneItemState graph sceneId item).2.master =
      session.mixer.master := by
    unfold AudioMixer.setSceneItemState
    split
    · rfl
    · dsimp only
      split
      · rfl
      · rfl
  unfold AudioSession.setSceneItemState
  dsimp only
  split
  · rfl
  split
  · rfl
  split
  · rfl
  split
  · rfl
  · exact existing

/-- Refreshing the scene changes no setting. -/
@[simp] theorem stored_refreshScene
    (session : AudioSession)
    (adds : CStr → Bool)
    (now : Int64) :
    (session.refreshScene adds now).stored = session.stored := by
  have sources : (session.graph.updateTransitionRuntime now).sources = session.graph.sources ∧
      (session.graph.updateTransitionRuntime now).scenes = session.graph.scenes := by
    unfold updateTransitionRuntime
    dsimp only
    split
    · exact ⟨rfl, rfl⟩
    split
    · exact ⟨rfl, rfl⟩
    split
    · exact ⟨rfl, rfl⟩
    · exact ⟨rfl, rfl⟩
  funext owner setting
  unfold AudioSession.refreshScene AudioServer.stored SceneGraph.getSource SceneGraph.getScene
  dsimp only
  rw [sources.1, sources.2, master_onSceneChange]

/-! ## Updates -/

/-- `audio.setSource` -/
theorem setSource_updates
    (session : AudioSession)
    (adds : CStr → Bool)
    (freed : FreedSceneId)
    (params : Option CJson) :
    let update := session.setSource adds freed params
    match session.sourceOwner params with
    | none => update = (.notFound, session)
    | some owner =>
        AgreeExcept owner session update.2 ∧
          ∀ setting, update.2.stored owner setting =
            sourceSetting params (session.stored owner setting) setting := by
  obtain ⟨noOwner, notFound⟩ | ⟨id, source, owner, requested, found⟩ :=
    requestedSource_cases session params
  · unfold setSource
    dsimp only
    rw [noOwner, notFound]
  · unfold setSource
    dsimp only
    rw [owner, requested]
    have changes := stored_withSourceAudio found (AudioServer.sourceBinding source params)
      (master_setSourceState adds freed (AudioServer.withSourceAudio session.graph id
        (AudioServer.sourceBinding source params)) id (AudioServer.sourceBinding source params))
    constructor
    · intro other different setting
      exact (changes other setting).trans (if_neg different)
    · intro setting
      refine (changes _ setting).trans ?_
      rw [if_pos rfl, setting_sourceBinding]
      unfold AudioServer.stored
      dsimp only
      rw [found]
      rfl

/-- What `audio.setSceneItem` stores for the item that it finds. -/
theorem stored_setSceneItem
    {sceneId itemId : CStr}
    {scene : SceneState}
    {item : SceneItemState}
    (adds : CStr → Bool)
    (now : Int64)
    (requested : session.requestedItem params = some (sceneId, itemId, item))
    (found : session.graph.getScene sceneId = some scene)
    (placed : scene.items[scene.items.findIdx fun item => item.id = itemId]? = some item)
    (isItem : scene.findItem itemId = some item)
    (owner : AudioOwner)
    (setting : AudioSetting) :
    (session.setSceneItem adds params now).2.stored owner setting =
      if owner = .item sceneId (scene.items.findIdx fun item => item.id = itemId) then
        AudioBinding.setting (audioBindingCopy (some (AudioServer.itemBinding item params))) setting
      else session.stored owner setting := by
  let binding := AudioServer.itemBinding item params
  let graph := (session.graph.modifyScene sceneId fun scene =>
    scene.modifyItem itemId ({ · with audio := audioBindingCopy (some binding) })).bumpVersion
  have updated : session.graph.updateItemAudio (some sceneId) (some itemId) (some binding) =
      (.ok, graph) := by
    unfold updateItemAudio
    dsimp only
    rw [found, Option.bind_some, isItem]
  have master := @master_setSceneItemState session adds graph sceneId
    { item with audio := audioBindingCopy (some binding) }
  unfold setSceneItem
  dsimp only
  rw [requested]
  dsimp only
  rw [updated]
  dsimp only
  generalize session.setSceneItemState adds graph sceneId
    { item with audio := audioBindingCopy (some binding) } = answer at master
  obtain ⟨code, mixer⟩ := answer
  have changes := @stored_modifyItem session (audioBindingCopy (some binding)) graph
    sceneId itemId scene item found placed rfl rfl mixer master owner setting
  cases code with
  | ok =>
      dsimp only
      rw [stored_refreshScene]
      exact changes
  | _ => exact changes

/-- `audio.setSceneItem` -/
theorem setSceneItem_updates
    (session : AudioSession)
    (adds : CStr → Bool)
    (params : Option CJson)
    (now : Int64) :
    let update := session.setSceneItem adds params now
    match session.itemOwner params with
    | none => update = (.notFound, session)
    | some owner =>
        AgreeExcept owner session update.2 ∧
          ∀ setting, update.2.stored owner setting =
            itemSetting params (session.stored owner setting) setting := by
  obtain ⟨noOwner, notFound⟩ | ⟨sceneId, itemId, scene, item, owner, requested, found, placed,
    isItem⟩ := requestedItem_cases session params
  · unfold setSceneItem
    dsimp only
    rw [noOwner, notFound]
  · have changes := stored_setSceneItem adds now requested found placed isItem
    dsimp only
    rw [owner]
    constructor
    · intro other different setting
      rw [changes, if_neg different]
    · intro setting
      rw [changes, if_pos rfl, setting_itemBinding]
      unfold AudioServer.stored
      dsimp only
      rw [found, Option.bind_some, placed, Option.bind_some]

/-- The value that the master stores of a requested one: a negative gain is one. -/
def masterValue
    (setting : AudioSetting)
    (value : SettingValue) : SettingValue :=
  if setting = .leftGain ∨ setting = .rightGain then value.gainOrOne else value

variable {value : SettingValue}

/-- A flag that a request names is the one that the handler reads. -/
theorem boolean_of_requested
    {key : CStr}
    (requested : requestedFlag params key = some value)
    (fallback : Bool) :
    some (.bool (CJson.boolean params key fallback)) = some value := by
  rw [flag_requested, requested, Option.some_or]

/-- A number that a request names is the one that the handler reads. -/
theorem num_of_requested
    {key : CStr}
    (requested : requestedNumber (CJson.getObjectItem params key) = some value)
    (fallback : Double) :
    SettingValue.number (CJson.num params key fallback) = value := by
  have named := number_requested params key fallback
  rw [requested, Option.some_or] at named
  exact Option.some.inj named

/-- A band that a request names is stored. -/
theorem band_of_requested
    {master : MasterAudio}
    {band : Fin 10}
    (requested : requestedSetting params (.eqBand band) = some value) :
    some (SettingValue.number
        (getElem ((requestedBands params).getD master.eqBands) band
          (AudioBinding.band_lt band))) = some value := by
  unfold requestedSetting requestedNumber at requested
  unfold requestedBands
  dsimp only at requested
  cases isItem : CJson.getObjectItem params "eq_bands" with
  | none => rw [isItem] at requested; cases requested
  | some item =>
      rw [isItem] at requested
      cases item with
      | array items =>
          dsimp only [Option.getD_some, CJson.arrayItems] at requested ⊢
          rw [Fin.getElem_fin, Vector.getElem_ofFn]
          dsimp only
          split at requested
          next => exact requested
          next => cases requested
      | null => cases requested
      | bool value => cases requested
      | number value => cases requested
      | string text => cases requested
      | object members => cases requested

/-- `audio.setMaster` -/
theorem setMaster_updates
    (session : AudioSession)
    (params : Option CJson) :
    let update := session.setMaster params
    AgreeExcept .master session update.2 ∧
      (update.1 ≠ .ok → update.2 = session) ∧
      (update.1 = .ok →
        (∀ setting, (session.stored .master setting).isSome = true →
          ∀ value ∈ requestedSetting params setting,
            update.2.stored .master setting = some (masterValue setting value)) ∧
        (CJson.isArray (CJson.getObjectItem params "eq_bands") = false →
          ∀ band, update.2.stored .master (.eqBand band) =
            session.stored .master (.eqBand band))) := by
  refine ⟨?_, ?_, ?_⟩
  · intro other different setting
    cases other with
    | source id => rfl
    | item sceneId index => rfl
    | master => exact absurd rfl different
  · unfold setMaster setMasterState
    dsimp only
    split
    · intro _
      rfl
    · intro failed
      exact absurd rfl failed
  · unfold setMaster setMasterState
    dsimp only
    split
    · nofun
    · intro _
      constructor
      · intro setting isStored value requested
        cases setting with
        | volume => exact congrArg some (num_of_requested requested (.finite 1))
        | leftGain =>
            exact congrArg (fun value => some value.gainOrOne)
              (num_of_requested requested (.finite 1))
        | rightGain =>
            exact congrArg (fun value => some value.gainOrOne)
              (num_of_requested requested (.finite 1))
        | mute => exact boolean_of_requested requested false
        | eqBand band => exact band_of_requested requested
        | _ => cases isStored
      · intro notArray band
        have noBands : requestedBands params = none := by
          unfold requestedBands
          split
          next items isArray => rw [isArray] at notArray; cases notArray
          next => rfl
        rw [noBands]
        rfl

/-- Requests change the named settings of what they name, and nothing else but an unnamed
`enabled`, missing devices and negative levels. -/
theorem requests_change_named
    (session : AudioSession)
    (adds : CStr → Bool) :
    (∀ freed params, let update := session.setSource adds freed params
      match session.sourceOwner params with
      | none => update = (.notFound, session)
      | some owner =>
          AgreeExcept owner session update.2 ∧
            (update.1 = .ok → ∀ setting, update.2.stored owner setting =
              sourceSetting params (session.stored owner setting) setting)) ∧
    (∀ params now, let update := session.setSceneItem adds params now
      match session.itemOwner params with
      | none => update = (.notFound, session)
      | some owner =>
          AgreeExcept owner session update.2 ∧
            (update.1 = .ok → ∀ setting, update.2.stored owner setting =
              itemSetting params (session.stored owner setting) setting)) ∧
    ∀ params, let update := session.setMaster params
      AgreeExcept .master session update.2 ∧
        (update.1 ≠ .ok → update.2 = session) ∧
        (update.1 = .ok →
          (∀ setting, (session.stored .master setting).isSome = true →
            ∀ value ∈ requestedSetting params setting,
              update.2.stored .master setting = some (masterValue setting value)) ∧
          (CJson.isArray (CJson.getObjectItem params "eq_bands") = false →
            ∀ band, update.2.stored .master (.eqBand band) =
              session.stored .master (.eqBand band))) := by
  refine ⟨?_, ?_, setMaster_updates session⟩
  · intro freed params
    have updates := setSource_updates session adds freed params
    dsimp only at updates ⊢
    cases owner : session.sourceOwner params with
    | none => rwa [owner] at updates
    | some owner =>
        rw [owner] at updates
        exact ⟨updates.1, fun _ => updates.2⟩
  · intro params now
    have updates := setSceneItem_updates session adds params now
    dsimp only at updates ⊢
    cases owner : session.itemOwner params with
    | none => rwa [owner] at updates
    | some owner =>
        rw [owner] at updates
        exact ⟨updates.1, fun _ => updates.2⟩

/-- A running mixer with the default graph. -/
def started : AudioSession where
  toAudioServer := AudioServer.startedMixer
  attached := true
  pipeline := true
  masterVolume := true

/-- Muting the default item. -/
theorem requests_change_named_item :
    let update := started.setSceneItem (fun _ => true) (AudioServer.muteItem true) 0
    update.1 = .ok ∧
      update.2.stored (.item "scene-main" 0) .mute = some (.bool true) ∧
      update.2.stored (.item "scene-main" 0) .volume =
        (started.stored (.item "scene-main" 0) .volume).map SettingValue.gainOrOne ∧
      update.2.stored .master .volume = started.stored .master .volume := by
  have owner : started.itemOwner (AudioServer.muteItem true) = some (.item "scene-main" 0) := by
    decide +kernel
  have updates := (requests_change_named started fun _ => true).2.1 (AudioServer.muteItem true) 0
  dsimp only at updates
  rw [owner] at updates
  have ok : (started.setSceneItem (fun _ => true) (AudioServer.muteItem true) 0).1 = .ok := by
    decide +kernel
  refine ⟨ok, (updates.2 ok .mute).trans ?_, (updates.2 ok .volume).trans ?_,
    updates.1 .master (by decide) .volume⟩
  · decide +kernel
  · decide +kernel

/-- A disabled source is enabled by a request that only mutes it. -/
theorem muting_enables :
    ¬ ∀ (session : AudioSession) (adds : CStr → Bool) (freed : FreedSceneId)
      (params : Option CJson),
      (session.setSource adds freed params).1 = .ok →
        ∀ owner ∈ session.sourceOwner params, ∀ setting ≠ .device,
          (session.setSource adds freed params).2.stored owner setting =
            (requestedSetting params setting).or (session.stored owner setting) := by
  intro changes
  let disable : Option CJson :=
    some (.object [((CStr.lit "source_id"), .string "default-src"),
      ((CStr.lit "enabled"), .bool false)])
  let kept := AudioServer.keptSceneId
  have shown := changes (started.setSource (fun _ => true) kept disable).2 (fun _ => true) kept
    (AudioServer.muteSource true) (by decide +kernel) (.source "default-src")
    (by decide +kernel) .enabled (by decide)
  exact absurd shown (by decide +kernel)

end AudioSession

end Api
end SbsServer
