import SbsServer.CLib.System
import SbsServer.Common.CJsonCodec
import SbsServer.Instance.Manager

/-!
# Ids, names and ports of instances

Ids are handed out in order and are never taken back, also over a restart that reads
`instances.json`.  Names are checked where they are given, but not where they are made from
an id, and ports are computed from the id in sixteen bits.
-/

namespace SbsServer
namespace Instance

open CLib

/-- `instance_api_port` -/
def instanceApiPort (id : UInt32) : UInt16 :=
  (10100 + id * 2).toUInt16

/-- The preview port that `derive_paths` derives. -/
def instancePreviewPort (id : UInt32) : UInt16 :=
  instanceApiPort id + 1

/-- The ports of an id. -/
def ports (id : UInt32) : List UInt16 :=
  [instanceApiPort id, instancePreviewPort id]

/-- An instance in the document of `save_metadata`. -/
def entryJson (id : UInt32) (entry : InstanceEntry) : CJson :=
  .object [
    ("instance_id", .ofInt id.toNat),
    ("name", .string entry.name),
    ("desired_running", .bool entry.desiredRunning)]

/-- The document of `save_metadata`. -/
def metadataJson
    (entries : HashTable UInt32 InstanceEntry)
    (nextInstanceId : UInt32) : CJson :=
  .object [
    ("next_instance_id", .ofInt nextInstanceId.toNat),
    ("instances", .array (entries.toList.map fun entry => entryJson entry.1 entry.2))]

/-- The text that `save_metadata` writes. -/
def metadataText
    (entries : HashTable UInt32 InstanceEntry)
    (nextInstanceId : UInt32) : CStr :=
  (metadataJson entries nextInstanceId).printUnformatted

/-- The field `valueint` of a number as a `uint32_t`. -/
def idItem (item : Option CJson) (fallback : UInt32) : UInt32 :=
  match item with
  | some (.number value) => value.toInt32.toUInt32
  | _ => fallback

namespace Machine

/-- One round of the loop of `load_metadata`. -/
def loadEntry (machine : Machine) (obj : CJson) : Machine :=
  if CJson.isObject (some obj) then
    let id := idItem (CJson.getObjectItem (some obj) "instance_id") 0
    { machine with
      entries := machine.entries.insert id {
        name := (CJson.str (some obj) "name").getD (defaultInstanceName id)
        desiredRunning :=
          match CJson.getObjectItem (some obj) "desired_running" with
          | some (.bool desired) => desired
          | _ => false
        running := false
        pid := 0 }
      nextInstanceId :=
        if machine.nextInstanceId ≤ id then id + 1 else machine.nextInstanceId }
  else machine

/-- `load_metadata` on a file with a text. -/
def loadMetadata (machine : Machine) (text : CStr) : SbsResult × Machine :=
  match CJson.parse text with
  | some (.object members) =>
      let root := some (CJson.object members)
      let nextInstanceId := idItem (CJson.getObjectItem root "next_instance_id") 1
      let started := { machine with
        nextInstanceId := if nextInstanceId = 0 then 1 else nextInstanceId }
      (.ok, (CJson.arrayItems (CJson.getObjectItem root "instances")).foldl loadEntry started)
  | _ => (.inval, machine)

/-- `sbs_instance_manager_ensure_default` without its save. -/
def ensureDefault (machine : Machine) : Machine :=
  { machine with
    entries := machine.entries.insert 0 {
      name := defaultInstanceName 0
      desiredRunning := true
      running := false
      pid := 0 }
    nextInstanceId := if machine.nextInstanceId = 0 then 1 else machine.nextInstanceId }

/-- `sbs_instance_manager_new` -/
def new : Machine where
  entries := .empty
  nextInstanceId := 1
  processes := .empty
  spawned := 0
  idles := []

end Machine

/-- A manager and its `instances.json`.  `issued` is a history: the ids handed out. -/
structure Controller where
  machine : Machine
  file : Option CStr
  issued : List UInt32

/-- What happens to a manager while every save succeeds, with the number that is offered for a
process where one is started. -/
inductive RegistryEvent
  | create (pid : Option ℕ) (name : Option CStr)
  | update (pid : Option ℕ) (id : UInt32) (name : Option CStr) (desired : Option Bool)
  | remove (id : UInt32)
  | ensureDefault
  | save
  | load
  /-- The manager is freed and a new one loads the file. -/
  | restart

/-- Every save succeeds. -/
def saving (pid : Option ℕ) : Answers where
  pid := pid
  saves := true
  savesAgain := true

namespace Controller

/-- `save_metadata` -/
def save (controller : Controller) : Controller :=
  { controller with
    file := some (metadataText controller.machine.entries controller.machine.nextInstanceId) }

/-- A call that saves last if it succeeds. -/
def saveAfter
    (controller : Controller)
    (result : SbsResult × Machine) : Controller :=
  if result.1 = .ok then { controller with machine := result.2 }.save
  else { controller with machine := result.2 }

/-- `sbs_instance_manager_load` -/
def load (controller : Controller) : Controller :=
  match controller.file with
  | some text => { controller with machine := (controller.machine.loadMetadata text).2 }
  | none => controller

/-- The controller after an event. -/
def next (controller : Controller) : RegistryEvent → Option Controller
  | .create pid name =>
      let issued := if controller.machine.nameTaken name then controller.issued
        else controller.issued ++ [controller.machine.nextInstanceId]
      some ({ controller with issued := issued }.saveAfter
        (controller.machine.createInstance (saving pid) name))
  | .update pid id name desired =>
      some (controller.saveAfter (controller.machine.updateInstance (saving pid) id name desired))
  | .remove id => some (controller.saveAfter (controller.machine.removeInstance (saving none) id))
  | .ensureDefault =>
      some (if controller.machine.entries.contains 0 then controller
        else { controller with
          machine := controller.machine.ensureDefault
          issued := controller.issued ++ [0] }.save)
  | .save => some controller.save
  | .load => some controller.load
  | .restart => some { controller with machine := .new }.load

/-- A manager in a directory without a file. -/
def Starts (controller : Controller) : Prop :=
  controller = ⟨.new, none, []⟩

/-- The runs of a manager. -/
def registryRuns : System Controller RegistryEvent :=
  .ofNext Starts next

/-- Instances with one name are one instance. -/
def NamesDistinct (entries : HashTable UInt32 InstanceEntry) : Prop :=
  ∀ first second entry other, entries.lookup first = some entry →
    entries.lookup second = some other → entry.name = other.name → first = second

/-- The ports of an instance are those of its number, and no two instances share one. -/
def PortsDistinct (entries : HashTable UInt32 InstanceEntry) : Prop :=
  (∀ id entry, entries.lookup id = some entry →
    (instanceApiPort id).toNat = 10100 + 2 * id.toNat ∧
      (instancePreviewPort id).toNat = 10100 + 2 * id.toNat + 1) ∧
  ∀ first second entry other, entries.lookup first = some entry →
    entries.lookup second = some other → first ≠ second →
      ∀ port ∈ ports first, port ∉ ports second

/-- No instance is created beyond the ports, nor under a default name that another one has. -/
def InRange (controller : Controller) : RegistryEvent → Prop
  | .create _ name =>
      controller.machine.nameTaken name = false →
        controller.machine.nextInstanceId ≤ 27717 ∧
          (given name = none →
            controller.machine.nameInUse
              (Machine.defaultInstanceName controller.machine.nextInstanceId)
              controller.machine.nextInstanceId = false)
  | .ensureDefault =>
      controller.machine.entries.contains 0 = false →
        controller.machine.nameInUse (Machine.defaultInstanceName 0) 0 = false
  | _ => True

end Controller

/-- What a manager knows of identities: the names of the instances and the next id. -/
@[ext] structure Registry where
  names : UInt32 → Option CStr
  next : UInt32

/-- The registry of entries. -/
def registryOf
    (entries : HashTable UInt32 InstanceEntry)
    (next : UInt32) : Registry where
  names id := (entries.lookup id).map InstanceEntry.name
  next := next

/-- The registry of a manager. -/
def Machine.registry (machine : Machine) : Registry :=
  registryOf machine.entries machine.nextInstanceId

namespace Registry

/-- A registry in which an id has another name, or none. -/
def rename
    (registry : Registry)
    (id : UInt32)
    (name : Option CStr) : Registry where
  names other := if other = id then name else registry.names other
  next := registry.next

/-- A registry in which the next id was handed out under a name. -/
def issue
    (registry : Registry)
    (name : CStr) : Registry where
  names := (registry.rename registry.next (some name)).names
  next := registry.next + 1

/-- No other instance has a name. -/
def Free
    (registry : Registry)
    (id : UInt32)
    (name : CStr) : Prop :=
  ∀ other, registry.names other = some name → other = id

/-- The ids are in range and were handed out once, and no two instances share a name. -/
structure Sound (registry : Registry) (issued : List UInt32) : Prop where
  least : 1 ≤ registry.next
  most : registry.next ≤ 27718
  below : ∀ id name, registry.names id = some name → id < registry.next
  distinct : ∀ id name, registry.names id = some name → registry.Free id name
  issuedOnce : issued.Nodup
  issuedBelow : ∀ id ∈ issued, id < registry.next
  keepsDefault : 0 ∈ issued → (registry.names 0).isSome = true

variable {registry : Registry} {issued : List UInt32}

variable {name : CStr}

section

variable (sound : registry.Sound issued)
include sound

/-- A name that is free may be given under an id that was handed out. -/
theorem Sound.rename
    {id : UInt32}
    (old : id < registry.next)
    (free : registry.Free id name) :
    (registry.rename id (some name)).Sound issued where
  least := sound.least
  most := sound.most
  below other otherName named := by
    by_cases same : other = id
    · exact same ▸ old
    · exact sound.below other otherName ((if_neg same).symm.trans named)
  distinct other otherName named second secondNamed := by
    by_cases same : other = id <;> by_cases secondSame : second = id
    · rw [same, secondSame]
    · cases (if_pos same).symm.trans named
      rw [same]
      exact free second ((if_neg secondSame).symm.trans secondNamed)
    · cases (if_pos secondSame).symm.trans secondNamed
      rw [secondSame]
      exact (free other ((if_neg same).symm.trans named)).symm
    · exact sound.distinct other otherName ((if_neg same).symm.trans named) second
        ((if_neg secondSame).symm.trans secondNamed)
  issuedOnce := sound.issuedOnce
  issuedBelow := sound.issuedBelow
  keepsDefault handedOut := by
    unfold Registry.rename
    dsimp only
    split
    next => rfl
    next => exact sound.keepsDefault handedOut

/-- An instance other than the default one may be removed. -/
theorem Sound.drop
    {id : UInt32}
    (notDefault : id ≠ 0) :
    (registry.rename id none).Sound issued where
  least := sound.least
  most := sound.most
  below other name named := by
    obtain ⟨_, named⟩ := Option.ite_none_left_eq_some.mp named
    exact sound.below other name named
  distinct other name named second secondNamed := by
    obtain ⟨_, named⟩ := Option.ite_none_left_eq_some.mp named
    obtain ⟨_, secondNamed⟩ := Option.ite_none_left_eq_some.mp secondNamed
    exact sound.distinct other name named second secondNamed
  issuedOnce := sound.issuedOnce
  issuedBelow := sound.issuedBelow
  keepsDefault handedOut :=
    (congrArg Option.isSome (if_neg notDefault.symm)).trans (sound.keepsDefault handedOut)

/-- The next id may be handed out while its ports are in range. -/
theorem Sound.issue
    (inRange : registry.next ≤ 27717)
    (free : registry.Free registry.next name) :
    (registry.issue name).Sound (issued ++ [registry.next]) := by
  have least := UInt32.le_iff_toNat_le.mp sound.least
  have most := UInt32.le_iff_toNat_le.mp inRange
  have after : (registry.next + 1).toNat = registry.next.toNat + 1 := by
    rw [UInt32.toNat_add]
    simp only [UInt32.reduceToNat] at most ⊢
    omega
  have later : ∀ id, id < registry.next ∨ id = registry.next → id < registry.next + 1 := by
    rintro id (below | rfl)
    · rw [UInt32.lt_iff_toNat_lt] at below ⊢
      omega
    · rw [UInt32.lt_iff_toNat_lt]
      omega
  refine ⟨?_, ?_, fun id idName named => ?_, fun id idName named second secondNamed => ?_, ?_,
    fun id member => ?_, fun handedOut => ?_⟩
  · rw [UInt32.le_iff_toNat_le] at *
    simp only [Registry.issue, after]
    omega
  · rw [UInt32.le_iff_toNat_le] at *
    simp only [Registry.issue, after]
    simp only [UInt32.reduceToNat] at most ⊢
    omega
  · by_cases same : id = registry.next
    · exact later id (.inr same)
    · exact later id (.inl (sound.below id idName ((if_neg same).symm.trans named)))
  · by_cases same : id = registry.next <;> by_cases secondSame : second = registry.next
    · rw [same, secondSame]
    · cases (if_pos same).symm.trans named
      rw [same]
      exact free second ((if_neg secondSame).symm.trans secondNamed)
    · cases (if_pos secondSame).symm.trans secondNamed
      rw [secondSame]
      exact (free id ((if_neg same).symm.trans named)).symm
    · exact sound.distinct id idName ((if_neg same).symm.trans named) second
        ((if_neg secondSame).symm.trans secondNamed)
  · rw [List.nodup_append]
    refine ⟨sound.issuedOnce, List.nodup_singleton _, ?_⟩
    rintro id member _ (_ | ⟨_, ⟨⟩⟩) rfl
    exact absurd (sound.issuedBelow _ member) (UInt32.lt_irrefl _)
  · obtain first | last := List.mem_append.mp member
    · exact later id (.inl (sound.issuedBelow id first))
    · exact later id (.inr (List.mem_singleton.mp last))
  · obtain first | last := List.mem_append.mp handedOut
    · have different : 0 ≠ registry.next := by
        intro same
        rw [← same] at least
        exact absurd least (by decide)
      exact (congrArg Option.isSome (if_neg different)).trans (sound.keepsDefault first)
    · have same := List.mem_singleton.mp last
      rw [← same] at least
      exact absurd least (by decide)

/-- The default instance may be added where it is missing. -/
theorem Sound.addDefault
    (missing : registry.names 0 = none)
    (free : registry.Free 0 name) :
    (registry.rename 0 (some name)).Sound (issued ++ [0]) := by
  have old : 0 < registry.next := by
    have least := UInt32.le_iff_toNat_le.mp sound.least
    rw [UInt32.lt_iff_toNat_lt]
    exact least
  have notIssued : 0 ∉ issued := by
    intro handedOut
    have present := sound.keepsDefault handedOut
    rw [missing] at present
    cases present
  have renamed := sound.rename old free
  refine ⟨renamed.least, renamed.most, renamed.below, renamed.distinct, ?_, fun id member => ?_,
    fun _ => rfl⟩
  · rw [List.nodup_append]
    refine ⟨sound.issuedOnce, List.nodup_singleton _, ?_⟩
    rintro id member _ (_ | ⟨_, ⟨⟩⟩) rfl
    exact notIssued member
  · obtain first | last := List.mem_append.mp member
    · exact sound.issuedBelow id first
    · exact List.mem_singleton.mp last ▸ old

end

end Registry

/-! ## Operations on a registry -/

namespace Machine

variable {machine after : Machine}

theorem registry_modifyEntry
    (machine : Machine)
    (id : UInt32)
    {change : InstanceEntry → InstanceEntry}
    (keeps : ∀ entry, (change entry).name = entry.name) :
    (machine.modifyEntry id change).registry = machine.registry := by
  refine Registry.ext (funext fun other => ?_) rfl
  unfold registry registryOf modifyEntry
  dsimp only
  rw [HashTable.lookup_modify]
  split
  next same =>
    subst same
    cases machine.entries.lookup other with
    | none => rfl
    | some entry => exact congrArg some (keeps entry)
  next => rfl

theorem registry_refreshAllStates (machine : Machine) :
    machine.refreshAllStates.registry = machine.registry := by
  have one : ∀ (machine : Machine) (id : UInt32),
      (machine.refreshEntryState id).registry = machine.registry := by
    intro machine id
    unfold refreshEntryState
    split
    next =>
      split
      next => exact registry_modifyEntry (machine.reap _) id fun _ => rfl
      next => rfl
    next => rfl
  unfold refreshAllStates
  generalize machine.entries.keys = ids
  induction ids generalizing machine with
  | nil => rfl
  | cons id rest ih =>
      exact (ih (machine.refreshEntryState id)).trans (one machine id)

theorem registry_spawnInstance (answers : Answers) (machine : Machine) (id : UInt32) :
    (spawnInstance answers machine id).2.registry = machine.registry := by
  unfold spawnInstance
  split
  next =>
    split
    next => rfl
    next =>
      split
      next => exact registry_modifyEntry _ id fun _ => rfl
      next => rfl
  next => rfl

theorem registry_stopInstance (answers : Answers) (machine : Machine) (id : UInt32) :
    (stopInstance answers machine id).2.registry = machine.registry := by
  have killed : ∀ machine : Machine, (machine.killEntry id).registry = machine.registry := by
    intro machine
    unfold killEntry
    split
    next =>
      split
      next => exact registry_modifyEntry (machine.reap _) id fun _ => rfl
      next => rfl
    next => rfl
  unfold stopInstance
  dsimp only
  split
  next =>
    rw [killed]
    refine (registry_modifyEntry _ id ?_).trans (registry_refreshAllStates machine)
    exact fun _ => rfl
  next => exact registry_refreshAllStates machine

theorem free_of_nameInUse
    {name : CStr}
    {id : UInt32}
    (unused : machine.nameInUse name id = false) :
    machine.registry.Free id name := by
  intro other named
  obtain ⟨entry, found, isName⟩ := Option.map_eq_some_iff.mp named
  by_contra different
  have used : machine.nameInUse name id = true :=
    List.any_eq_true.mpr ⟨(other, entry), HashTable.mem_toList found,
      decide_eq_true ⟨different, isName⟩⟩
  exact absurd (unused.symm.trans used) (by decide)

theorem registry_createInstance
    (answers : Answers)
    {name : Option CStr}
    (untaken : machine.nameTaken name = false) :
    (machine.createInstance answers name).1 = .ok ∧
      (machine.createInstance answers name).2.registry =
        machine.registry.issue
          ((given name).getD (defaultInstanceName machine.nextInstanceId)) := by
  unfold createInstance
  rw [untaken]
  refine ⟨rfl, (registry_spawnInstance answers _ _).trans ?_⟩
  refine Registry.ext (funext fun other => ?_) rfl
  unfold registry registryOf Registry.issue Registry.rename
  dsimp only
  rw [HashTable.lookup_insert]
  split <;> rfl

theorem registry_removeInstance
    (answers : Answers)
    (id : UInt32) :
    (machine.removeInstance answers id).2.registry = machine.registry ∨
      (id ≠ 0 ∧ (machine.removeInstance answers id).1 = saveMetadata answers.savesAgain ∧
        (machine.removeInstance answers id).2.registry = machine.registry.rename id none) := by
  have stopped := registry_stopInstance answers machine id
  unfold removeInstance
  split
  next => exact .inl rfl
  next notDefault =>
    generalize machine.stopInstance answers id = result at stopped
    obtain ⟨code, rest⟩ := result
    split
    next same =>
      cases same
      refine .inr ⟨notDefault, rfl, ?_⟩
      rw [← stopped]
      refine Registry.ext (funext fun other => ?_) rfl
      unfold registry registryOf Registry.rename
      dsimp only
      rw [HashTable.lookup_remove]
      split <;> rfl
    next same =>
      cases same
      exact .inl stopped

theorem registry_updateInstance
    (answers : Answers)
    (id : UInt32)
    (name : Option CStr)
    (desired : Option Bool) :
    (machine.updateInstance answers id name desired).2.registry = machine.registry ∨
      ∃ given, (machine.registry.names id).isSome = true ∧ machine.registry.Free id given ∧
        (machine.updateInstance answers id name desired).2.registry =
          machine.registry.rename id (some given) := by
  have fresh := registry_refreshAllStates machine
  unfold updateInstance
  generalize machine.refreshAllStates = refreshed at fresh
  dsimp only
  split
  next entry found =>
    split
    next => exact .inl fresh
    next unused =>
      cases isGiven : given name with
      | none =>
          obtain _ | _ | _ := desired
          · exact .inl fresh
          · exact .inl ((registry_stopInstance answers refreshed id).trans fresh)
          · exact .inl ((registry_spawnInstance answers refreshed id).trans fresh)
      | some newName =>
          have present : (machine.registry.names id).isSome = true := by
            rw [← fresh]
            unfold registry registryOf
            dsimp only
            rw [found]
            rfl
          have free : machine.registry.Free id newName := by
            rw [isGiven] at unused
            rw [← fresh]
            exact free_of_nameInUse (Bool.not_eq_true _ ▸ unused)
          have named : (refreshed.modifyEntry id fun entry =>
              { entry with name := newName }).registry =
                machine.registry.rename id (some newName) := by
            rw [← fresh]
            refine Registry.ext (funext fun other => ?_) rfl
            unfold registry registryOf Registry.rename modifyEntry
            dsimp only
            rw [HashTable.lookup_modify]
            split
            next same =>
              rw [same, found]
              rfl
            next => rfl
          refine .inr ⟨newName, present, free, ?_⟩
          obtain _ | _ | _ := desired
          · exact named
          · exact (registry_stopInstance answers _ id).trans named
          · exact (registry_spawnInstance answers _ id).trans named
  next => exact .inl fresh

end Machine

/-- The numbers in a file are ids. -/
theorem numbers_metadataJson
    (entries : HashTable UInt32 InstanceEntry)
    (nextInstanceId : UInt32) :
    ∀ value ∈ (metadataJson entries nextInstanceId).numbers,
      ∃ id : UInt32, value = .ofInt id.toNat := by
  have inEntries : ∀ (list : List (UInt32 × InstanceEntry)) (value : Double),
      value ∈ CJson.numbersOfItems (list.map fun entry => entryJson entry.1 entry.2) →
        ∃ id : UInt32, value = .ofInt id.toNat := by
    intro list value member
    induction list with
    | nil => cases member
    | cons entry rest ih =>
        have split : value = .ofInt entry.1.toNat ∨
            value ∈ CJson.numbersOfItems (rest.map fun entry => entryJson entry.1 entry.2) := by
          simpa [CJson.numbersOfItems, entryJson, CJson.numbers, CJson.numbersOfMembers,
            CJson.ofInt] using member
        obtain first | later := split
        · exact ⟨entry.1, first⟩
        · exact ih later
  intro value member
  have split : value = .ofInt nextInstanceId.toNat ∨
      value ∈ CJson.numbersOfItems (entries.toList.map fun entry => entryJson entry.1 entry.2) := by
    simpa [metadataJson, CJson.numbers, CJson.numbersOfMembers, CJson.ofInt] using member
  obtain first | later := split
  · exact ⟨nextInstanceId, first⟩
  · exact inEntries _ value later

/-- What was saved is read back. -/
theorem parse_metadataText
    (entries : HashTable UInt32 InstanceEntry)
    (nextInstanceId : UInt32) :
    CJson.parse (metadataText entries nextInstanceId) =
      some (metadataJson entries nextInstanceId) := by
  refine CJson.parse_printUnformatted _ (fun value member => ?_) fun value member => ?_
  · obtain ⟨id, rfl⟩ := numbers_metadataJson entries nextInstanceId value member
    rfl
  · obtain ⟨id, rfl⟩ := numbers_metadataJson entries nextInstanceId value member
    have bound := id.toNat_lt
    exact readDouble_formatG17_natCast (by omega)

/-- An id survives the conversion to `double` and the cast to `int`. -/
theorem idItem_ofInt
    {id : UInt32}
    (small : id ≤ 27718)
    (fallback : UInt32) :
    idItem (some (.ofInt id.toNat)) fallback = id := by
  have bound : id.toNat ≤ 27718 := UInt32.le_iff_toNat_le.mp small
  have signed : ((Int32.ofNat id.toNat).toInt : ℤ) = id.toNat :=
    Int32.toInt_ofNat_of_lt (by omega)
  unfold idItem CJson.ofInt
  dsimp only
  rw [← signed, Double.toInt32_ofInt]
  exact UInt32.ofNat_toNat

/-- The entry that is loaded for a saved one. -/
def loadedEntry (entry : InstanceEntry) : InstanceEntry where
  name := entry.name
  desiredRunning := entry.desiredRunning
  running := false
  pid := 0

theorem foldl_loadEntry
    {machine : Machine}
    {entries : List (UInt32 × InstanceEntry)}
    (below : ∀ entry ∈ entries, entry.1 < machine.nextInstanceId)
    (most : machine.nextInstanceId ≤ 27718) :
    (entries.map fun entry => entryJson entry.1 entry.2).foldl Machine.loadEntry machine =
      { machine with
        entries := machine.entries.insertAll
          (entries.map fun entry => (entry.1, loadedEntry entry.2)) } := by
  induction entries generalizing machine with
  | nil => rfl
  | cons entry rest ih =>
      have isBelow := below entry List.mem_cons_self
      have loaded : machine.loadEntry (entryJson entry.1 entry.2) =
          { machine with entries := machine.entries.insert entry.1 (loadedEntry entry.2) } := by
        have same :
            idItem (CJson.getObjectItem (some (entryJson entry.1 entry.2)) "instance_id") 0 =
              entry.1 :=
          idItem_ofInt (UInt32.le_trans (UInt32.le_of_lt isBelow) most) 0
        unfold Machine.loadEntry
        dsimp only
        rw [same, if_neg (UInt32.not_le.mpr isBelow)]
        rfl
      rw [List.map_cons, List.foldl_cons, loaded, ih]
      · rfl
      · exact fun later member => below later (List.mem_cons_of_mem _ member)
      · exact most

/-- A file that was saved in range gives its registry to a manager without other instances. -/
theorem registry_loadMetadata
    {entries : HashTable UInt32 InstanceEntry}
    {nextInstanceId : UInt32}
    {issued : List UInt32}
    (machine : Machine)
    (sound : (registryOf entries nextInstanceId).Sound issued)
    (known : ∀ id, (machine.registry.names id).isSome = true →
      ((registryOf entries nextInstanceId).names id).isSome = true) :
    (machine.loadMetadata (metadataText entries nextInstanceId)).2.registry =
      registryOf entries nextInstanceId := by
  have least : (1 : UInt32) ≤ nextInstanceId := sound.least
  have read : idItem (CJson.getObjectItem (some (metadataJson entries nextInstanceId))
      "next_instance_id") 1 = nextInstanceId :=
    idItem_ofInt sound.most 1
  have nonzero : nextInstanceId ≠ 0 := by
    rintro rfl
    exact absurd least (by decide)
  unfold Machine.loadMetadata
  rw [parse_metadataText]
  dsimp only [metadataJson] at read ⊢
  rw [read, if_neg nonzero]
  have items : CJson.arrayItems (CJson.getObjectItem (some (metadataJson entries nextInstanceId))
      "instances") = entries.toList.map fun entry => entryJson entry.1 entry.2 := rfl
  dsimp only [metadataJson] at items
  rw [items, foldl_loadEntry]
  · refine Registry.ext (funext fun id => ?_) rfl
    have keys : (entries.toList.map fun entry => (entry.1, loadedEntry entry.2)).map Prod.fst =
        entries.keys := by
      rw [List.map_map]
      rfl
    obtain ⟨found, kept⟩ := HashTable.lookup_insertAll machine.entries
      (keys.symm ▸ entries.nodup_keys) id
    unfold Machine.registry registryOf at known ⊢
    dsimp only at known ⊢
    cases stored : entries.lookup id with
    | some entry =>
        rw [found (loadedEntry entry)
          (List.mem_map.mpr ⟨(id, entry), HashTable.mem_toList stored, rfl⟩)]
        rfl
    | none =>
        have absent : id ∉ entries.keys := by
          rw [← HashTable.lookup_eq_none_iff]
          exact stored
        have missing := known id
        rw [stored] at missing
        rw [kept (keys ▸ absent)]
        cases present : machine.entries.lookup id with
        | none => rfl
        | some entry =>
            rw [present] at missing
            exact absurd (missing rfl) (by decide)
  · intro entry member
    exact sound.below entry.1 entry.2.name
      (congrArg (Option.map InstanceEntry.name) (HashTable.lookup_of_mem_toList member))
  · exact sound.most

/-! ## Runs -/

namespace Controller

variable {controller after : Controller}

/-- Two registries know the same ids. -/
def SameIds (first second : Registry) : Prop :=
  first.next = second.next ∧ ∀ id, (first.names id).isSome = (second.names id).isSome

theorem SameIds.trans
    {first second third : Registry}
    (left : SameIds first second)
    (right : SameIds second third) :
    SameIds first third :=
  ⟨left.1.trans right.1, fun id => (left.2 id).trans (right.2 id)⟩

/-- The registry in memory and the one in the file are sound and know the same ids. -/
structure Sound (controller : Controller) : Prop where
  registry : controller.machine.registry.Sound controller.issued
  stored : ∀ text, controller.file = some text → ∃ entries nextInstanceId,
    text = metadataText entries nextInstanceId ∧
      (registryOf entries nextInstanceId).Sound controller.issued ∧
      SameIds controller.machine.registry (registryOf entries nextInstanceId)
  unsaved : controller.file = none →
    controller.machine.registry = ⟨fun _ => none, 1⟩ ∧ controller.issued = []

/-- A sound registry may be saved. -/
theorem sound_save
    (registry : controller.machine.registry.Sound controller.issued) :
    controller.save.Sound where
  registry := registry
  stored := by
    rintro _ ⟨⟩
    exact ⟨controller.machine.entries, _, rfl, registry, rfl, fun _ => rfl⟩
  unsaved := nofun

/-- A registry that knows no ids. -/
theorem eq_of_sameIds
    {first second : Registry}
    (same : SameIds first second)
    (empty : second = ⟨fun _ => none, 1⟩) :
    first = ⟨fun _ => none, 1⟩ := by
  subst empty
  refine Registry.ext (funext fun id => ?_) same.1
  exact Option.isNone_iff_eq_none.mp (Option.isSome_eq_false_iff.mp (same.2 id))

/-- A call that gives known ids other names at most, or saves, keeps the file in step. -/
theorem Sound.saveAfter
    {result : SbsResult × Machine}
    (sound : controller.Sound)
    (registry : result.2.registry.Sound controller.issued)
    (sameIds : result.1 ≠ .ok → SameIds result.2.registry controller.machine.registry) :
    (controller.saveAfter result).Sound := by
  unfold Controller.saveAfter
  split
  next => exact sound_save registry
  next failed =>
    refine ⟨registry, fun text isText => ?_, fun none => ?_⟩
    · obtain ⟨entries, nextInstanceId, same, isSound, ids⟩ := sound.stored text isText
      exact ⟨entries, nextInstanceId, same, isSound, (sameIds failed).trans ids⟩
    · obtain ⟨empty, nothing⟩ := sound.unsaved none
      exact ⟨eq_of_sameIds (sameIds failed) empty, nothing⟩

/-- A manager that knows no other ids loads the file. -/
theorem Sound.load
    (sound : controller.Sound)
    {machine : Machine}
    (fewer : ∀ id, (machine.registry.names id).isSome = true →
      (controller.machine.registry.names id).isSome = true)
    (starts : controller.file = none → machine.registry = ⟨fun _ => none, 1⟩) :
    ({ controller with machine := machine }.load).Sound := by
  unfold Controller.load
  cases isFile : controller.file with
  | none =>
      obtain ⟨empty, nothing⟩ := sound.unsaved isFile
      refine ⟨?_, nofun, fun _ => ⟨starts isFile, nothing⟩⟩
      dsimp only
      rw [starts isFile, ← empty]
      exact sound.registry
  | some text =>
      obtain ⟨entries, nextInstanceId, rfl, isSound, ids⟩ := sound.stored text isFile
      have loaded := registry_loadMetadata machine isSound fun id known =>
        (ids.2 id).symm.trans (fewer id known)
      dsimp only
      refine ⟨loaded ▸ isSound, ?_, nofun⟩
      rintro _ ⟨⟩
      refine ⟨entries, nextInstanceId, rfl, isSound, ?_⟩
      rw [loaded]
      exact ⟨rfl, fun _ => rfl⟩

/-- A manager that starts in an empty directory. -/
theorem Starts.sound (starts : controller.Starts) : controller.Sound := by
  cases starts
  exact ⟨⟨by decide, by decide, nofun, nofun, List.nodup_nil, nofun, nofun⟩, nofun,
    fun _ => ⟨rfl, rfl⟩⟩

section

variable (sound : controller.Sound)
include sound

theorem Sound.create
    {pid : Option ℕ}
    {name : Option CStr}
    (inRange : controller.InRange (.create pid name))
    (stepped : controller.next (.create pid name) = some after) :
    after.Sound := by
  cases stepped
  cases taken : controller.machine.nameTaken name with
  | true =>
      have failed : controller.machine.createInstance (saving pid) name =
          (.inval, controller.machine) := by
        unfold Machine.createInstance
        rw [taken]
        rfl
      rw [failed, if_pos rfl]
      exact sound.saveAfter sound.registry fun _ => ⟨rfl, fun _ => rfl⟩
  | false =>
      obtain ⟨small, unused⟩ := inRange taken
      obtain ⟨ok, issued⟩ := Machine.registry_createInstance (saving pid) taken
      have free : controller.machine.registry.Free controller.machine.nextInstanceId
          ((given name).getD
            (Machine.defaultInstanceName controller.machine.nextInstanceId)) := by
        cases isGiven : given name with
        | none => exact Machine.free_of_nameInUse (unused isGiven)
        | some newName =>
            have untaken := taken
            unfold Machine.nameTaken at untaken
            rw [isGiven] at untaken
            intro other named
            have last := Machine.free_of_nameInUse untaken other named
            have below := sound.registry.below other newName named
            have most := UInt32.lt_of_lt_of_le below sound.registry.most
            rw [last] at most
            exact absurd most (by decide)
      unfold Controller.saveAfter
      rw [if_neg Bool.false_ne_true, if_pos ok]
      refine sound_save ?_
      dsimp only
      rw [issued]
      exact sound.registry.issue small free

theorem Sound.update
    (pid : Option ℕ)
    (id : UInt32)
    (name : Option CStr)
    (desired : Option Bool) :
    (controller.saveAfter
      (controller.machine.updateInstance (saving pid) id name desired)).Sound := by
  have outcome := @Machine.registry_updateInstance controller.machine (saving pid) id name desired
  generalize controller.machine.updateInstance (saving pid) id name desired = result at outcome
  obtain same | ⟨newName, present, free, renamed⟩ := outcome
  · refine sound.saveAfter ?_ fun _ => ?_
    · rw [same]
      exact sound.registry
    · rw [same]
      exact ⟨rfl, fun _ => rfl⟩
  · obtain ⟨old, isOld⟩ := Option.isSome_iff_exists.mp present
    refine sound.saveAfter ?_ fun _ => ?_
    · rw [renamed]
      exact sound.registry.rename (sound.registry.below id old isOld) free
    · rw [renamed]
      refine ⟨rfl, fun other => ?_⟩
      unfold Registry.rename
      dsimp only
      split
      next same =>
        rw [same, present]
        rfl
      next => rfl

theorem Sound.remove
    (id : UInt32) :
    (controller.saveAfter (controller.machine.removeInstance (saving none) id)).Sound := by
  have outcome := @Machine.registry_removeInstance controller.machine (saving none) id
  generalize controller.machine.removeInstance (saving none) id = result at outcome
  obtain same | ⟨notDefault, ok, removed⟩ := outcome
  · refine sound.saveAfter ?_ fun _ => ?_
    · rw [same]
      exact sound.registry
    · rw [same]
      exact ⟨rfl, fun _ => rfl⟩
  · refine sound.saveAfter ?_ fun failed => absurd ok failed
    rw [removed]
    exact sound.registry.drop notDefault

theorem Sound.ensureDefault
    (missing : controller.machine.entries.contains 0 = false)
    (unused : controller.machine.nameInUse (Machine.defaultInstanceName 0) 0 = false) :
    ({ controller with
      machine := controller.machine.ensureDefault
      issued := controller.issued ++ [0] }.save).Sound := by
  have least : (1 : UInt32) ≤ controller.machine.nextInstanceId := sound.registry.least
  have added : controller.machine.ensureDefault.registry =
      controller.machine.registry.rename 0 (some (Machine.defaultInstanceName 0)) := by
    refine Registry.ext (funext fun other => ?_) (if_neg ?_)
    · unfold Machine.registry registryOf Machine.ensureDefault Registry.rename
      dsimp only
      rw [HashTable.lookup_insert]
      split <;> rfl
    · intro zero
      rw [zero] at least
      exact absurd least (by decide)
  refine sound_save ?_
  dsimp only
  rw [added]
  refine sound.registry.addDefault ?_ (Machine.free_of_nameInUse unused)
  exact congrArg (Option.map InstanceEntry.name) (HashTable.contains_eq_false.mp missing)

/-- A call in range keeps the registry sound. -/
theorem Sound.next
    {event : RegistryEvent}
    (inRange : controller.InRange event)
    (stepped : controller.next event = some after) :
    after.Sound := by
  cases event with
  | create pid name => exact sound.create inRange stepped
  | update pid id name desired =>
      cases stepped
      exact sound.update pid id name desired
  | remove id =>
      cases stepped
      exact sound.remove id
  | ensureDefault =>
      cases stepped
      split
      next => exact sound
      next missing =>
        have isMissing := Bool.not_eq_true _ ▸ missing
        exact sound.ensureDefault isMissing (inRange isMissing)
  | save =>
      cases stepped
      exact sound_save sound.registry
  | load =>
      cases stepped
      exact sound.load (fun _ known => known) fun none => (sound.unsaved none).1
  | restart =>
      cases stepped
      exact sound.load nofun fun _ => rfl

end

theorem toNat_instanceApiPort
    {id : UInt32}
    (small : id < 27718) :
    (instanceApiPort id).toNat = 10100 + 2 * id.toNat ∧
      (instancePreviewPort id).toNat = 10100 + 2 * id.toNat + 1 := by
  have bound : id.toNat < 27718 := UInt32.lt_iff_toNat_lt.mp small
  have api : (instanceApiPort id).toNat = 10100 + 2 * id.toNat := by
    unfold instanceApiPort
    rw [UInt32.toNat_toUInt16, UInt32.toNat_add, UInt32.toNat_mul]
    simp only [UInt32.reduceToNat]
    omega
  refine ⟨api, ?_⟩
  unfold instancePreviewPort
  rw [UInt16.toNat_add, api]
  simp only [UInt16.reduceToNat]
  omega

/-- A registry in range gives every instance its own ports. -/
theorem Sound.portsDistinct (sound : controller.Sound) :
    PortsDistinct controller.machine.entries := by
  have small : ∀ id entry, controller.machine.entries.lookup id = some entry → id < 27718 :=
    fun id entry found => UInt32.lt_of_lt_of_le
      (sound.registry.below id entry.name (congrArg (Option.map InstanceEntry.name) found))
      sound.registry.most
  refine ⟨fun id entry found => toNat_instanceApiPort (small id entry found), ?_⟩
  intro first second entry other isFirst isSecond different port inFirst inSecond
  obtain ⟨firstApi, firstPreview⟩ := toNat_instanceApiPort (small first entry isFirst)
  obtain ⟨secondApi, secondPreview⟩ := toNat_instanceApiPort (small second other isSecond)
  refine different (UInt32.toNat_inj.mp ?_)
  simp only [ports, List.mem_cons, List.not_mem_nil, or_false, ← UInt16.toNat_inj]
    at inFirst inSecond
  omega

/-- In a run in range no id is handed out twice, and no two instances share a name or a port. -/
theorem identities_distinct
    (reachable : registryRuns.ReachableWhen InRange controller) :
    controller.issued.Nodup ∧ NamesDistinct controller.machine.entries ∧
      PortsDistinct controller.machine.entries := by
  have sound : controller.Sound := by
    refine @System.ReachableWhen.invariant _ _ registryRuns InRange Sound ?_ ?_ controller reachable
    · exact fun _ starts => starts.sound
    · exact fun _ _ _ sound inRange stepped => sound.next inRange stepped
  refine ⟨sound.registry.issuedOnce, ?_, sound.portsDistinct⟩
  intro first second entry other isFirst isSecond same
  have named : controller.machine.registry.names first = some entry.name :=
    congrArg (Option.map InstanceEntry.name) isFirst
  have alsoNamed : controller.machine.registry.names second = some entry.name := by
    rw [same]
    exact congrArg (Option.map InstanceEntry.name) isSecond
  exact (sound.registry.distinct first entry.name named second alsoNamed).symm

instance (controller : Controller) (event : RegistryEvent) :
    Decidable (controller.InRange event) := by
  cases event <;> unfold InRange <;> infer_instance

/-- Two instances, one of them under a name that was given, and a restart. -/
theorem identities_distinct_restarted :
    ∃ controller : Controller,
      registryRuns.ReachableWhen InRange controller ∧ controller.issued = [0, 1, 2] ∧
        controller.issued.Nodup ∧ NamesDistinct controller.machine.entries ∧
          PortsDistinct controller.machine.entries := by
  have runs : (System.run (System.guarded InRange next) ⟨.new, none, []⟩ [
      .ensureDefault, .create (some 40) (some "Stage"), .create none none, .remove 1, .restart,
      .update none 2 (some "Stage") none]).map (fun controller => controller.issued) =
      some [0, 1, 2] := by
    decide +kernel
  obtain ⟨controller, final, issued⟩ := Option.map_eq_some_iff.mp runs
  have reachable : registryRuns.ReachableWhen InRange controller :=
    System.reachableWhen_of_run (.initial rfl) final
  exact ⟨controller, reachable, issued, identities_distinct reachable⟩

/-- An instance other than the default one is removed if it is there. -/
theorem registry_removeInstance_present
    {machine : Machine}
    {id : UInt32}
    (notDefault : id ≠ 0)
    (present : (machine.registry.names id).isSome = true) :
    (machine.removeInstance (saving none) id).2.registry = machine.registry.rename id none := by
  have fresh := Machine.registry_refreshAllStates machine
  have stops : (machine.stopInstance (saving none) id).1 = .ok := by
    rw [← fresh] at present
    unfold Machine.registry registryOf at present
    rw [Option.isSome_map] at present
    obtain ⟨entry, found⟩ := Option.isSome_iff_exists.mp present
    unfold Machine.stopInstance
    dsimp only
    rw [found]
    rfl
  have stopped := Machine.registry_stopInstance (saving none) machine id
  unfold Machine.removeInstance
  rw [if_neg notDefault]
  generalize machine.stopInstance (saving none) id = result at stops stopped
  obtain ⟨code, rest⟩ := result
  cases stops
  rw [← stopped]
  refine Registry.ext (funext fun other => ?_) rfl
  unfold Machine.registry registryOf Registry.rename
  dsimp only
  rw [HashTable.lookup_remove]
  split <;> rfl

/-- An instance that is created without a name gets the next id. -/
theorem next_create (controller : Controller) :
    ∃ created, controller.next (.create none none) = some created ∧
      created.machine.registry = controller.machine.registry.issue
        (Machine.defaultInstanceName controller.machine.nextInstanceId) := by
  obtain ⟨ok, issued⟩ :=
    @Machine.registry_createInstance controller.machine (saving none) none rfl
  refine ⟨_, rfl, ?_⟩
  unfold Controller.saveAfter
  rw [if_pos ok]
  exact issued

/-- One instance with the id 1 and any number of ids that were handed out after it. -/
theorem reachable_oneInstance (count : ℕ) (bound : count < 2 ^ 31) :
    ∃ controller : Controller,
      registryRuns.Reachable controller ∧ controller.machine.registry.next = .ofNat (count + 2) ∧
        (controller.machine.registry.names 1).isSome = true := by
  induction count with
  | zero =>
      have runs : (System.run next ⟨.new, none, []⟩ [.create none none]).map
          (fun controller => (controller.machine.registry.next,
            (controller.machine.registry.names 1).isSome)) = some (2, true) := by
        decide +kernel
      obtain ⟨controller, final, facts⟩ := Option.map_eq_some_iff.mp runs
      obtain ⟨isNext, present⟩ := Prod.mk.inj facts
      exact ⟨controller, System.reachable_of_run (.initial rfl) final, isNext, present⟩
  | succ count ih =>
      obtain ⟨controller, reachable, isNext, present⟩ := ih (by omega)
      have nextId : controller.machine.nextInstanceId.toNat = count + 2 := by
        have same : controller.machine.nextInstanceId = .ofNat (count + 2) := isNext
        rw [same, UInt32.toNat_ofNat', Nat.mod_eq_of_lt (by omega)]
      have notDefault : controller.machine.nextInstanceId ≠ 0 := by
        intro zero
        rw [zero] at nextId
        simp at nextId
      have notFirst : 1 ≠ controller.machine.nextInstanceId := by
        intro one
        rw [← one] at nextId
        simp at nextId
      obtain ⟨created, isCreated, createdRegistry⟩ := controller.next_create
      have removed := @registry_removeInstance_present created.machine
        controller.machine.nextInstanceId notDefault (by
          rw [createdRegistry]
          exact congrArg Option.isSome (if_pos rfl))
      obtain ⟨after, isAfter⟩ : ∃ after,
          created.next (.remove controller.machine.nextInstanceId) = some after := ⟨_, rfl⟩
      have afterRegistry : after.machine.registry =
          created.machine.registry.rename controller.machine.nextInstanceId none := by
        cases isAfter
        unfold Controller.saveAfter
        split
        next => exact removed
        next => exact removed
      refine ⟨after, .step (.step reachable trivial isCreated) trivial isAfter, ?_, ?_⟩
      · rw [afterRegistry, createdRegistry]
        rw [← UInt32.toNat_inj]
        have more : (controller.machine.nextInstanceId + 1).toNat = count + 3 := by
          rw [UInt32.toNat_add, nextId]
          simp only [UInt32.reduceToNat]
          omega
        refine more.trans ?_
        rw [UInt32.toNat_ofNat', Nat.mod_eq_of_lt (by omega)]
      · rw [afterRegistry, createdRegistry]
        unfold Registry.issue Registry.rename
        dsimp only
        rw [if_neg notFirst]
        exact (congrArg Option.isSome (if_neg notFirst)).trans present

/-- A default name that was given to another instance before, and an id with the ports of an
earlier one. -/
theorem identities_collide :
    (¬∀ controller : Controller, registryRuns.Reachable controller →
        NamesDistinct controller.machine.entries) ∧
      ¬∀ controller : Controller, registryRuns.Reachable controller →
        PortsDistinct controller.machine.entries := by
  constructor
  · intro distinct
    have runs : (System.run next ⟨.new, none, []⟩ [
        .create none (some "Instance 2"), .create none none]).map
        (fun controller => ((controller.machine.entries.lookup 1).map InstanceEntry.name,
          (controller.machine.entries.lookup 2).map InstanceEntry.name)) =
        some (some ("Instance 2" : CStr), some ("Instance 2" : CStr)) := by
      decide +kernel
    obtain ⟨controller, final, facts⟩ := Option.map_eq_some_iff.mp runs
    obtain ⟨first, second⟩ := Prod.mk.inj facts
    obtain ⟨entry, isFirst, firstName⟩ := Option.map_eq_some_iff.mp first
    obtain ⟨other, isSecond, secondName⟩ := Option.map_eq_some_iff.mp second
    have same := distinct controller (System.reachable_of_run (.initial rfl) final) 1 2 entry other
      isFirst isSecond (firstName.trans secondName.symm)
    exact absurd same (by decide)
  · intro distinct
    obtain ⟨controller, reachable, isNext, present⟩ := reachable_oneInstance 32767 (by decide)
    have isId : controller.machine.nextInstanceId = 32769 := isNext
    obtain ⟨created, isCreated, createdRegistry⟩ := controller.next_create
    have known : ∀ id : UInt32, id = 1 ∨ id = 32769 →
        ∃ entry, created.machine.entries.lookup id = some entry := by
      intro id isKnown
      have named : (created.machine.registry.names id).isSome = true := by
        rw [createdRegistry]
        unfold Registry.issue Registry.rename
        dsimp only
        split
        next => rfl
        next other =>
          obtain rfl | rfl := isKnown
          · exact present
          · exact absurd isId.symm other
      rw [Machine.registry, registryOf, Option.isSome_map] at named
      exact Option.isSome_iff_exists.mp named
    obtain ⟨entry, isFirst⟩ := known 1 (.inl rfl)
    obtain ⟨other, isSecond⟩ := known 32769 (.inr rfl)
    refine (distinct created (.step reachable trivial isCreated)).2 1 32769 entry other isFirst
      isSecond (by decide) (instanceApiPort 1) List.mem_cons_self ?_
    decide

end Controller
end Instance
end SbsServer
