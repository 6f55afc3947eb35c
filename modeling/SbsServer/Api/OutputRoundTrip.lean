import SbsServer.Api.OutputUpdate

/-!
# Reading an output and writing it back

`output.get` shows the encoder table of an output with the stream key masked, and
`output.update` makes a new table of the object that it is given.  What one of them
returns of what the other one stored is followed key by key.
-/

namespace SbsServer
namespace Api

open CLib SceneGraph

/-- The text that a member of an encoder object is stored as. -/
def settingText : CJson → Option CStr
  | .string value => some value
  | .number value => some (.ofNat value.toUInt32.toNat)
  | _ => none

/-- The key that a member of an encoder object is stored under. -/
def settingKey (member : CStr × CJson) : CStr :=
  match member.2 with
  | .string _ => if member.1 = "rtmp_stream_key" then "rtmp_passcode" else member.1
  | _ => member.1

/-- The entry that a member of an encoder object becomes. -/
def settingEntry (member : CStr × CJson) : Option (CStr × CStr) :=
  (settingText member.2).map fun text => (settingKey member, text)

/-- The two names of the stream key of an RTMP sink. -/
def StreamKeyName (key : CStr) : Prop :=
  key = "rtmp_passcode" ∨ key = "rtmp_stream_key"

/-- The two names of what the public view tells of the stream key. -/
def StreamKeyFlag (key : CStr) : Prop :=
  key = "rtmp_passcode_set" ∨ key = "rtmp_stream_key_set"

instance (key : CStr) : Decidable (StreamKeyName key) :=
  inferInstanceAs (Decidable (_ ∨ _))

instance (key : CStr) : Decidable (StreamKeyFlag key) :=
  inferInstanceAs (Decidable (_ ∨ _))

theorem encoderFromJson_eq (members : List (CStr × CJson)) :
    encoderFromJson members = HashTable.insertAll .empty (members.filterMap settingEntry) := by
  unfold encoderFromJson HashTable.insertAll
  generalize (HashTable.empty : StrMap) = table
  induction members generalizing table with
  | nil => rfl
  | cons member rest ih =>
      obtain ⟨name, value⟩ := member
      rw [List.foldl_cons, List.filterMap_cons, ih]
      cases value <;> rfl

/-- The last setting under a key is the stored one. -/
theorem lookup_encoderFromJson
    (members : List (CStr × CJson))
    (key : CStr) :
    (encoderFromJson members).lookup key =
      (HashTable.valuesUnder (members.filterMap settingEntry) key).getLast? := by
  rw [encoderFromJson_eq, HashTable.lookup_insertAll_eq, HashTable.lookup_empty, Option.or_none]

variable {key : CStr}

/-- A member is stored under another key only if it has a name of the stream key. -/
theorem settingKey_eq_iff
    (ordinary : ¬StreamKeyName key)
    (member : CStr × CJson) :
    settingKey member = key ↔ member.1 = key := by
  unfold StreamKeyName at ordinary
  unfold settingKey
  split
  · split
    · grind
    · rfl
  · rfl

/-- The settings under an ordinary key are those of the members under it. -/
theorem valuesUnder_settingEntry
    (ordinary : ¬StreamKeyName key)
    (members : List (CStr × CJson)) :
    HashTable.valuesUnder (members.filterMap settingEntry) key =
      (HashTable.valuesUnder members key).filterMap settingText := by
  unfold HashTable.valuesUnder
  rw [List.filterMap_filterMap, List.filterMap_filterMap]
  congr 1
  funext member
  have same := settingKey_eq_iff ordinary member
  by_cases equal : member.1 = key
  · simp only [settingEntry, equal, if_true, Option.bind_some]
    cases settingText member.2 with
    | none => rfl
    | some text => simp [same.mpr equal]
  · simp only [settingEntry, equal, if_false, Option.bind_none]
    cases settingText member.2 with
    | none => rfl
    | some text => simp [mt same.mp equal]

/-- The stream key is stored only for a member with one of its names. -/
theorem lookup_passcode_eq_none
    {members : List (CStr × CJson)}
    (unnamed : ∀ member ∈ members, ¬StreamKeyName member.1) :
    (encoderFromJson members).lookup "rtmp_passcode" = none := by
  rw [lookup_encoderFromJson, List.getLast?_eq_none_iff, List.eq_nil_iff_forall_not_mem]
  intro text stored
  rw [HashTable.mem_valuesUnder, List.mem_filterMap] at stored
  obtain ⟨⟨name, value⟩, member, entry⟩ := stored
  have ordinary := unnamed _ member
  unfold settingEntry settingKey StreamKeyName at *
  cases value <;> simp_all [settingText]

/-- The members of the public view for one entry. -/
def publicMembers (entry : CStr × CStr) : List (CStr × CJson) :=
  let isSet := CJson.bool (entry.2 ≠ CStr.lit "")
  if entry.1 = CStr.lit "rtmp_passcode" then
    [(CStr.lit "rtmp_passcode_set", isSet), (CStr.lit "rtmp_stream_key_set", isSet)]
  else [(entry.1, .string entry.2)]

theorem outputEncoderToPublicJson_eq (encoder : StrMap) :
    outputEncoderToPublicJson encoder = .object (encoder.toList.flatMap publicMembers) := rfl

/-- A key under which the public view shows what is stored. -/
def ShownPublicly
    (encoder : StrMap)
    (key : CStr) : Prop :=
  key ≠ "rtmp_passcode" ∧ (StreamKeyFlag key → encoder.lookup "rtmp_passcode" = none)

/-- The members of the public view under a key that is shown. -/
theorem mem_publicMembers
    {encoder : StrMap}
    (shown : ShownPublicly encoder key)
    {value : CJson} :
    (key, value) ∈ encoder.toList.flatMap publicMembers ↔
      (encoder.lookup key).map .string = some value := by
  rw [List.mem_flatMap]
  constructor
  · rintro ⟨⟨name, text⟩, stored, member⟩
    have found := HashTable.lookup_of_mem_toList stored
    dsimp only at found
    unfold publicMembers at member
    split at member
    next masked =>
      obtain rfl : name = "rtmp_passcode" := masked
      have flag : StreamKeyFlag key := by
        simp only [List.mem_cons, Prod.mk.injEq, List.not_mem_nil, or_false] at member
        exact member.imp And.left And.left
      rw [shown.2 flag] at found
      cases found
    next =>
      cases List.mem_singleton.mp member
      rw [found, Option.map_some]
  · intro found
    obtain ⟨text, stored, rfl⟩ := Option.map_eq_some_iff.mp found
    refine ⟨(key, text), HashTable.mem_toList stored, ?_⟩
    unfold publicMembers
    rw [if_neg shown.1]
    exact List.mem_singleton_self _

/-- An object whose members under a key are given. -/
theorem getObjectItem_eq
    {members : List (CStr × CJson)}
    {expected : Option CJson}
    (given : ∀ value, (key, value) ∈ members ↔ expected = some value) :
    CJson.getObjectItem (some (.object members)) key = expected := by
  unfold CJson.getObjectItem
  dsimp only
  cases found : members.find? fun entry => entry.1 = key with
  | none =>
      rw [List.find?_eq_none] at found
      cases expected with
      | none => rfl
      | some value =>
          have differs := found (key, value) ((given value).mpr rfl)
          simp at differs
  | some entry =>
      obtain ⟨name, value⟩ := entry
      have isKey := List.find?_some found
      obtain rfl : name = key := by simpa using isKey
      exact ((given value).mp (List.mem_of_find?_eq_some found)).symm

/-- What the public view shows under a key. -/
theorem getObjectItem_public
    {encoder : StrMap}
    (shown : ShownPublicly encoder key) :
    CJson.getObjectItem (some (outputEncoderToPublicJson encoder)) key =
      (encoder.lookup key).map .string :=
  getObjectItem_eq fun _ => mem_publicMembers shown

/-- The stream key is not shown under its own name. -/
theorem getObjectItem_passcode (encoder : StrMap) :
    CJson.getObjectItem (some (outputEncoderToPublicJson encoder)) "rtmp_passcode" = none := by
  rw [outputEncoderToPublicJson_eq]
  apply getObjectItem_eq
  intro value
  constructor
  · intro member
    obtain ⟨entry, -, shown⟩ := List.mem_flatMap.mp member
    unfold publicMembers at shown
    split at shown
    next =>
      have names : ¬ StreamKeyFlag "rtmp_passcode" := by decide
      simp only [List.mem_cons, Prod.mk.injEq, List.not_mem_nil, or_false] at shown
      exact absurd (shown.imp And.left And.left) names
    next other =>
      have same := congrArg Prod.fst (List.mem_singleton.mp shown)
      exact absurd same.symm other
  · nofun

/-- The key whose value comes under a key when the public view is written back. -/
def formerKey (key : CStr) : Option CStr :=
  if key = "rtmp_stream_key" then none
  else if key = "rtmp_passcode" then some "rtmp_stream_key"
  else some key

/-- What one entry of a table becomes. -/
theorem valuesUnder_publicMembers
    (entry : CStr × CStr)
    (key : CStr) :
    HashTable.valuesUnder ((publicMembers entry).filterMap settingEntry) key =
      if formerKey key = some entry.1 then [entry.2] else [] := by
  obtain ⟨name, text⟩ := entry
  unfold publicMembers
  by_cases masked : name = "rtmp_passcode"
  · rw [if_pos masked, if_neg]
    · rfl
    · unfold formerKey
      grind
  · rw [if_neg masked]
    have renamed : settingKey (name, .string text) = key ↔ formerKey key = some name := by
      unfold settingKey formerKey
      grind
    simp only [← renamed]
    by_cases equal : settingKey (name, .string text) = key
    · rw [if_pos equal, ← equal]
      simp [HashTable.valuesUnder, settingEntry, settingText]
    · rw [if_neg equal]
      simp [HashTable.valuesUnder, settingEntry, settingText, equal]

/-- What is stored when the public view is written back. -/
theorem lookup_encoderFromJson_public
    (encoder : StrMap)
    (key : CStr) :
    (encoderFromJson (encoder.toList.flatMap publicMembers)).lookup key =
      (formerKey key).bind encoder.lookup := by
  have values : HashTable.valuesUnder
      ((encoder.toList.flatMap publicMembers).filterMap settingEntry) key =
        ((formerKey key).map (HashTable.valuesUnder encoder.toList)).getD [] := by
    generalize encoder.toList = entries
    induction entries with
    | nil => cases formerKey key <;> rfl
    | cons entry rest ih =>
        have entryValues := valuesUnder_publicMembers entry key
        unfold HashTable.valuesUnder at *
        rw [List.flatMap_cons, List.filterMap_append, List.filterMap_append, entryValues,
          ih]
        cases formerKey key with
        | none => rfl
        | some former =>
            by_cases equal : entry.1 = former
            · simp [List.filterMap_cons, equal]
            · simp [List.filterMap_cons, equal, Ne.symm equal]
  rw [lookup_encoderFromJson, values]
  cases formerKey key with
  | none => rfl
  | some former => exact HashTable.getLast?_valuesUnder_toList encoder former

namespace OutputServer

variable {server : OutputServer} {id : CStr} {output : OutputState} {params : Option CJson}

/-! ## The handlers -/

/-- `sbs_api_handle_output_get` -/
def outputGet
    (server : OutputServer)
    (params : Option CJson) : Reply :=
  match CJson.str params "id" with
  | none => ⟨.notFound, none, some (rpcError (-32001) "Output not found")⟩
  | some id =>
      match server.graph.outputs.lookup id with
      | none => ⟨.notFound, none, some (rpcError (-32001) "Output not found")⟩
      | some output => ⟨.ok, some (serializeOutputPublic (some output)), none⟩

/-- The encoder object that `output.get` returns for an output. -/
def encoderObject
    (server : OutputServer)
    (id : CStr) : Option CJson :=
  CJson.getObjectItem (server.outputGet (idOnly id)).result "encoder"

/-- The encoder table of an output. -/
def encoderTable
    (server : OutputServer)
    (id : CStr) : Option StrMap :=
  (server.graph.outputs.lookup id).map (·.encoder)

theorem encoderObject_eq
    {encoder : StrMap}
    (stored : server.encoderTable id = some encoder) :
    server.encoderObject id = some (outputEncoderToPublicJson encoder) := by
  obtain ⟨output, found, rfl⟩ := Option.map_eq_some_iff.mp stored
  have isId : CJson.str (idOnly id) "id" = some id := rfl
  unfold encoderObject outputGet
  rw [isId]
  dsimp only
  rw [found]
  rfl

theorem encoderTable_modifyOutput
    {change : OutputState → OutputState}
    (keeps : ∀ output, (change output).encoder = output.encoder) :
    (server.modifyOutput id change).encoderTable id = server.encoderTable id := by
  unfold encoderTable modifyOutput
  dsimp only
  rw [HashTable.lookup_modify, if_pos rfl, Option.map_map]
  congr 1
  funext output
  exact keeps output

theorem encoderTable_restarted (running : Bool) :
    (server.restarted id running).2.encoderTable id = server.encoderTable id :=
  encoderTable_modifyOutput fun _ => rfl

theorem encoderTable_restartOutput (answers : OutputAnswers) :
    (server.restartOutput id output answers).2.encoderTable id = server.encoderTable id := by
  have worker : (server.restartWorker id output answers).2.encoderTable id =
      server.encoderTable id := by
    unfold restartWorker
    dsimp only
    split
    · exact encoderTable_restarted true
    · exact encoderTable_restarted false
  unfold restartOutput
  split
  next manager _ =>
    split
    · unfold restartSink
      dsimp only
      split
      · split
        · exact encoderTable_restarted true
        · exact encoderTable_restarted false
      · exact encoderTable_modifyOutput fun _ => rfl
    · exact worker
  next => exact worker

/-- The table after an update is made of the object alone. -/
theorem encoderTable_outputUpdate
    {members : List (CStr × CJson)}
    (isId : CJson.str params "id" = some id)
    (found : server.graph.outputs.lookup id = some output)
    (given : CJson.getObjectItem params "encoder" = some (.object members))
    (answers : OutputAnswers) :
    (server.outputUpdate params answers).2.encoderTable id = some (encoderFromJson members) := by
  have changed : (server.modifyOutput id (updatedOutput params members)).encoderTable id =
      some (encoderFromJson members) := by
    unfold encoderTable modifyOutput
    dsimp only
    rw [HashTable.lookup_modify, if_pos rfl, found]
    rfl
  unfold outputUpdate
  rw [isId]
  dsimp only
  rw [found]
  dsimp only
  rw [given]
  dsimp only
  split
  · rw [encoderTable_restartOutput]
    exact changed
  · exact changed

/-- What writing the public view back keeps of an encoder table: everything but what is stored
under the names of the stream key. -/
structure KeepsSettings (before after : StrMap) : Prop where
  kept : ∀ key, ¬StreamKeyName key → after.lookup key = before.lookup key
  unchanged_iff : (∀ key, after.lookup key = before.lookup key) ↔
    ∀ key, StreamKeyName key → before.lookup key = none

/-- A 32-bit number or a string, with the text that it is returned as. -/
inductive ReturnedAs : CJson → CStr → Prop
  | string (value : CStr) : ReturnedAs (.string value) value
  | number (value : UInt32) : ReturnedAs (CJson.ofInt value.toNat) (.ofNat value.toNat)

/-- A key whose settings are returned under it: no name of the stream key, and a name of what
is told of the stream key only for an object without a stream key. -/
def Returnable
    (members : List (CStr × CJson))
    (key : CStr) : Prop :=
  ¬StreamKeyName key ∧
    (StreamKeyFlag key → ∀ member ∈ members, ¬StreamKeyName member.1)

/-- An encoder object that was written comes back in a public view. -/
structure Returns
    (members : List (CStr × CJson))
    (view : Option CJson) : Prop where
  masked : CJson.getObjectItem view "rtmp_passcode" = none
  absent : ∀ key, Returnable members key → key ∉ members.map Prod.fst →
    CJson.getObjectItem view key = none
  /-- Of several members under one key the last one counts. -/
  last : ∀ key value text, Returnable members key →
    (HashTable.valuesUnder members key).getLast? = some value → ReturnedAs value text →
    CJson.getObjectItem view key = some (.string text)

theorem keepsSettings_public (encoder : StrMap) :
    KeepsSettings encoder (encoderFromJson (encoder.toList.flatMap publicMembers)) := by
  have kept : ∀ key, ¬StreamKeyName key →
      (encoderFromJson (encoder.toList.flatMap publicMembers)).lookup key =
        encoder.lookup key := by
    intro key ordinary
    obtain ⟨notPasscode, notKey⟩ := not_or.mp ordinary
    rw [lookup_encoderFromJson_public, formerKey, if_neg notKey, if_neg notPasscode,
      Option.bind_some]
  have streamKey : (encoderFromJson (encoder.toList.flatMap publicMembers)).lookup
      "rtmp_stream_key" = none := by
    rw [lookup_encoderFromJson_public, formerKey, if_pos rfl, Option.bind_none]
  have passcode : (encoderFromJson (encoder.toList.flatMap publicMembers)).lookup
      "rtmp_passcode" = encoder.lookup "rtmp_stream_key" := by
    rw [lookup_encoderFromJson_public, formerKey, if_neg (by decide), if_pos rfl,
      Option.bind_some]
  refine ⟨kept, ?_, ?_⟩
  · intro same key named
    have noStreamKey := (same "rtmp_stream_key").symm.trans streamKey
    rcases named with rfl | rfl
    · exact (same "rtmp_passcode").symm.trans (passcode.trans noStreamKey)
    · exact noStreamKey
  · intro unnamed key
    by_cases named : StreamKeyName key
    · rw [unnamed key named]
      rcases named with rfl | rfl
      · exact passcode.trans (unnamed _ (.inr rfl))
      · exact streamKey
    · exact kept key named

theorem settingText_of_returnedAs
    {value : CJson}
    {text : CStr}
    (returned : ReturnedAs value text) :
    settingText value = some text := by
  cases returned with
  | string => rfl
  | number value =>
      unfold CJson.ofInt settingText
      dsimp only
      rw [Double.toUInt32_ofInt]

theorem returns_public (members : List (CStr × CJson)) :
    Returns members (some (outputEncoderToPublicJson (encoderFromJson members))) := by
  have shown : ∀ key, Returnable members key → ShownPublicly (encoderFromJson members) key := by
    intro key returnable
    refine ⟨?_, fun flag => lookup_passcode_eq_none (returnable.2 flag)⟩
    rintro rfl
    exact returnable.1 (.inl rfl)
  refine ⟨getObjectItem_passcode _, ?_, ?_⟩
  · intro key returnable absent
    have noValues : HashTable.valuesUnder members key = [] := by
      rw [List.eq_nil_iff_forall_not_mem]
      intro value stored
      exact absent (List.mem_map_of_mem (HashTable.mem_valuesUnder.mp stored))
    rw [getObjectItem_public (shown key returnable), lookup_encoderFromJson,
      valuesUnder_settingEntry returnable.1, noValues]
    rfl
  · intro key value text returnable isLast returned
    obtain ⟨earlier, values⟩ := List.getLast?_eq_some_iff.mp isLast
    rw [getObjectItem_public (shown key returnable), lookup_encoderFromJson,
      valuesUnder_settingEntry returnable.1, values, List.filterMap_append,
      List.filterMap_cons, settingText_of_returnedAs returned, List.filterMap_nil,
      List.getLast?_concat, Option.map_some]

/-- An encoder object that is read and written back keeps every setting but the stream key,
and one that is written and read comes back as texts. -/
theorem output_round_trip
    (isId : CJson.str params "id" = some id)
    (found : server.graph.outputs.lookup id = some output)
    (answers : OutputAnswers) :
    (CJson.getObjectItem params "encoder" = server.encoderObject id →
      ∃ encoder, (server.outputUpdate params answers).2.encoderTable id = some encoder ∧
        KeepsSettings output.encoder encoder) ∧
    ∀ members, CJson.getObjectItem params "encoder" = some (.object members) →
      Returns members ((server.outputUpdate params answers).2.encoderObject id) := by
  have stored : server.encoderTable id = some output.encoder := congrArg (Option.map _) found
  constructor
  · intro given
    rw [encoderObject_eq stored, outputEncoderToPublicJson_eq] at given
    exact ⟨_, encoderTable_outputUpdate isId found given answers,
      keepsSettings_public output.encoder⟩
  · intro members given
    rw [encoderObject_eq (encoderTable_outputUpdate isId found given answers)]
    exact returns_public members

/-- The members of the encoder object of an RTMP output. -/
def streamMembers : List (CStr × CJson) :=
  [("sink_type", .string "rtmp"), ("rtmp_stream_key", .string "secret"),
    ("bitrate_kbps", CJson.ofInt 8000)]

/-- A request for the settings of an RTMP output. -/
def streamParams : Option CJson :=
  some (.object [("id", .string "program"), ("encoder", .object streamMembers)])

/-- The settings of an RTMP output are written, and come back. -/
theorem output_round_trip_stream :
    Returns streamMembers
      (((idleServer none).outputUpdate streamParams allAnswers).2.encoderObject "program") := by
  have present : ((idleServer none).graph.outputs.lookup "program").isSome = true := by
    decide +kernel
  obtain ⟨output, found⟩ := Option.isSome_iff_exists.mp present
  exact (output_round_trip (by decide +kernel) found allAnswers).2 streamMembers rfl

/-- A server whose output has a stream key. -/
def streamServer : OutputServer :=
  ((idleServer none).outputUpdate streamParams allAnswers).2

/-- A stream key is lost when an output is read and written back. -/
theorem output_round_trip_loses_key :
    ¬∀ (server : OutputServer) (params : Option CJson) (id : CStr) (before after : StrMap)
      (answers : OutputAnswers),
      CJson.str params "id" = some id →
      server.encoderTable id = some before →
      CJson.getObjectItem params "encoder" = server.encoderObject id →
      (server.outputUpdate params answers).2.encoderTable id = some after →
      ∀ key, after.lookup key = before.lookup key := by
  intro unchanged
  let params : Option CJson :=
    some (.object [("id", .string "program"),
      ("encoder", (streamServer.encoderObject "program").getD .null)])
  have before : (streamServer.encoderTable "program").map (·.lookup "rtmp_passcode") =
      some (some (CStr.lit "secret")) := by
    decide +kernel
  have after : ((streamServer.outputUpdate params allAnswers).2.encoderTable "program").map
      (·.lookup "rtmp_passcode") = some none := by
    decide +kernel
  obtain ⟨stored, isStored, hasKey⟩ := Option.map_eq_some_iff.mp before
  obtain ⟨left, isLeft, hasNoKey⟩ := Option.map_eq_some_iff.mp after
  have given : CJson.getObjectItem params "encoder" = streamServer.encoderObject "program" := by
    rw [encoderObject_eq isStored]
    change some ((streamServer.encoderObject "program").getD .null) = _
    rw [encoderObject_eq isStored]
    rfl
  have same := unchanged streamServer params "program" stored left allAnswers
    (by decide +kernel) isStored given isLeft "rtmp_passcode"
  rw [hasKey, hasNoKey] at same
  cases same

end OutputServer
end Api
end SbsServer
