import SbsServer.CLib.System
import SbsServer.Instance.Manager

/-!
# One process per instance

Stopping and refreshing observe an exit before the child watch of the process
fires, and the child watch knows the instance only.  Its late call clears the
entry of the process that was spawned in between.  The result below is about the
runs in which every such late call finds the entry absent or not running.
-/

namespace SbsServer
namespace Instance

open CLib

/-- At most one live process for each instance, and running entries are those
with a process whose exit was not observed. -/
structure OneProcess (machine : Machine) : Prop where
  /-- Two live processes of one instance are the same. -/
  unique : ∀ serial other process rival,
    machine.processes.lookup serial = some process →
      machine.processes.lookup other = some rival →
        process.alive = true → rival.alive = true →
          process.instanceId = rival.instanceId → serial = other
  /-- An entry runs with a number exactly when an unobserved process of the
  instance has it. -/
  tracked : ∀ id pid,
    (∃ entry, machine.entries.lookup id = some entry ∧
      entry.running = true ∧ entry.pid = pid) ↔
    ∃ serial process, machine.processes.lookup serial = some process ∧
      process.instanceId = id ∧ process.waits pid

/-- A manager whose entries were loaded and not started. -/
def Loaded (machine : Machine) : Prop :=
  (machine.entries.All fun _ entry => entry.running = false ∧ entry.pid = 0) ∧
    machine.processes = .empty ∧ machine.spawned = 0 ∧ machine.idles = []

/-- Runs of the manager. -/
def instanceRuns : System Machine InstanceEvent :=
  System.ofNext Loaded Machine.next

/-- The child watch of a process whose exit was observed before fires only while
its instance is absent or not running, and no instance is created under the id
of a running one. -/
def Timely (machine : Machine) : InstanceEvent → Prop
  | .childExit serial =>
      ∀ process entry, machine.processes.lookup serial = some process →
        process.reaped = true →
          machine.entries.lookup process.instanceId = some entry →
            entry.running = false
  | .create _ name =>
      machine.nameTaken name = false →
        ∀ entry, machine.entries.lookup machine.nextInstanceId = some entry →
          entry.running = false
  | _ => True

/-- The bookkeeping of entries and processes. -/
structure Booked (machine : Machine) : Prop where
  /-- Processes are numbered in the order of spawning. -/
  serials : ∀ serial process, machine.processes.lookup serial = some process →
    serial < machine.spawned
  /-- Children have numbers. -/
  numbers : ∀ serial process, machine.processes.lookup serial = some process →
    process.pid ≠ 0
  /-- Two children that wait for their parent have different numbers. -/
  distinct : ∀ serial other process rival pid,
    machine.processes.lookup serial = some process →
      machine.processes.lookup other = some rival →
        process.waits pid → rival.waits pid → serial = other
  /-- A live process was not reaped. -/
  unreaped : ∀ serial process, machine.processes.lookup serial = some process →
    process.alive = true → process.reaped = false
  /-- The entry of a process that was not reaped runs with its number. -/
  entry : ∀ serial process, machine.processes.lookup serial = some process →
    process.reaped = false →
      ∃ entry, machine.entries.lookup process.instanceId = some entry ∧
        entry.running = true ∧ entry.pid = process.pid
  /-- A running entry has such a process. -/
  process : ∀ id entry, machine.entries.lookup id = some entry →
    entry.running = true →
      ∃ serial process, machine.processes.lookup serial = some process ∧
        process.instanceId = id ∧ process.waits entry.pid

/-- What is booked is one process per instance. -/
theorem Booked.oneProcess {machine : Machine} (booked : Booked machine) :
    OneProcess machine where
  unique := by
    intro serial other process rival found otherFound alive otherAlive same
    have waiting := booked.unreaped serial process found alive
    have otherWaiting := booked.unreaped other rival otherFound otherAlive
    obtain ⟨entry, stored, _, pid⟩ := booked.entry serial process found waiting
    obtain ⟨otherEntry, otherStored, _, otherPid⟩ :=
      booked.entry other rival otherFound otherWaiting
    rw [← same, stored] at otherStored
    cases otherStored
    exact booked.distinct serial other process rival entry.pid found otherFound
      ⟨pid.symm, waiting⟩ ⟨otherPid.symm, otherWaiting⟩
  tracked := by
    intro id pid
    constructor
    · rintro ⟨entry, stored, running, rfl⟩
      exact booked.process id entry stored running
    · rintro ⟨serial, process, found, rfl, samePid, waiting⟩
      obtain ⟨entry, stored, running, pid⟩ := booked.entry serial process found waiting
      exact ⟨entry, stored, running, pid.trans samePid⟩

/-! ## Primitive changes -/

namespace Booked

variable {machine : Machine}

/-- A change of an entry that keeps its number and whether it runs. -/
theorem modifyEntry
    (booked : Booked machine)
    (id : UInt32)
    {change : InstanceEntry → InstanceEntry}
    (running : ∀ entry, (change entry).running = entry.running)
    (pid : ∀ entry, (change entry).pid = entry.pid) :
    Booked (machine.modifyEntry id change) where
  serials := booked.serials
  numbers := booked.numbers
  distinct := booked.distinct
  unreaped := booked.unreaped
  entry := by
    intro serial process found waiting
    obtain ⟨entry, stored, isRunning, samePid⟩ := booked.entry serial process found waiting
    by_cases same : process.instanceId = id
    · refine ⟨change entry, ?_, (running entry).trans isRunning, (pid entry).trans samePid⟩
      refine (HashTable.lookup_modify _ _ _ _).trans ?_
      rw [if_pos same, stored]
      rfl
    · refine ⟨entry, ?_, isRunning, samePid⟩
      exact (HashTable.lookup_modify _ _ _ _).trans ((if_neg same).trans stored)
  process := by
    intro other entry stored isRunning
    have modified := (HashTable.lookup_modify _ _ _ _).symm.trans stored
    by_cases same : other = id
    · rw [if_pos same] at modified
      obtain ⟨before, beforeStored, rfl⟩ := Option.map_eq_some_iff.mp modified
      rw [running] at isRunning
      rw [pid]
      exact booked.process other before beforeStored isRunning
    · rw [if_neg same] at modified
      exact booked.process other entry modified isRunning

/-- Processes that exited or were observed since. -/
def Aged (before after : HashTable ℕ Process) : Prop :=
  after.All fun serial process => ∃ old, before.lookup serial = some old ∧
    process.pid = old.pid ∧ process.instanceId = old.instanceId ∧
    (process.reaped = false → old.reaped = false) ∧
    (process.alive = true → old.alive = true ∧ process.reaped = false)

/-- Aging keeps the numbers in order; entries have to be matched again. -/
theorem age
    (booked : Booked machine)
    {after : Machine}
    (aged : Aged machine.processes after.processes)
    (spawned : after.spawned = machine.spawned)
    (entry : ∀ serial process, after.processes.lookup serial = some process →
      process.reaped = false →
        ∃ entry, after.entries.lookup process.instanceId = some entry ∧
          entry.running = true ∧ entry.pid = process.pid)
    (process : ∀ id entry, after.entries.lookup id = some entry →
      entry.running = true →
        ∃ serial process, after.processes.lookup serial = some process ∧
          process.instanceId = id ∧ process.waits entry.pid) :
    Booked after where
  serials := by
    intro serial process found
    obtain ⟨old, before, _⟩ := aged serial process found
    rw [spawned]
    exact booked.serials serial old before
  numbers := by
    intro serial process found
    obtain ⟨old, before, pid, _⟩ := aged serial process found
    rw [pid]
    exact booked.numbers serial old before
  distinct := by
    intro serial other process rival pid found otherFound waits otherWaits
    obtain ⟨old, before, samePid, _, waiting, _⟩ := aged serial process found
    obtain ⟨otherOld, otherBefore, otherPid, _, otherWaiting, _⟩ := aged other rival otherFound
    exact booked.distinct serial other old otherOld pid before otherBefore
      ⟨samePid.symm.trans waits.1, waiting waits.2⟩
      ⟨otherPid.symm.trans otherWaits.1, otherWaiting otherWaits.2⟩
  unreaped := by
    intro serial process found alive
    obtain ⟨_, _, _, _, _, living⟩ := aged serial process found
    exact (living alive).2
  entry := entry
  process := process

/-- A child may exit at any time. -/
theorem exit (booked : Booked machine) (serial : ℕ) :
    Booked { machine with processes := machine.processes.modify serial fun process =>
      { process with alive := false } } := by
  have changed : ∀ other process,
      (machine.processes.modify serial fun process =>
        { process with alive := false }).lookup other = some process →
      ∃ old, machine.processes.lookup other = some old ∧
        (process = old ∨ process = { old with alive := false }) := by
    intro other process found
    rw [HashTable.lookup_modify] at found
    split at found
    · obtain ⟨old, before, rfl⟩ := Option.map_eq_some_iff.mp found
      exact ⟨old, before, Or.inr rfl⟩
    · exact ⟨process, found, Or.inl rfl⟩
  refine booked.age ?_ rfl ?_ ?_
  · intro other process found
    obtain ⟨old, before, rfl | rfl⟩ := changed other process found
    · exact ⟨process, before, rfl, rfl, id, fun alive =>
        ⟨alive, booked.unreaped other process before alive⟩⟩
    · exact ⟨old, before, rfl, rfl, id, fun alive => by cases alive⟩
  · intro other process found waiting
    obtain ⟨old, before, rfl | rfl⟩ := changed other process found
    · exact booked.entry other process before waiting
    · exact booked.entry other old before waiting
  · intro id entry stored running
    obtain ⟨other, old, before, instanceId, waits⟩ := booked.process id entry stored running
    refine ⟨other, if other = serial then { old with alive := false } else old, ?_, ?_, ?_⟩
    · refine (HashTable.lookup_modify _ _ _ _).trans ?_
      rw [before]
      split <;> rfl
    · split <;> exact instanceId
    · split <;> exact waits

variable {id : UInt32} {entry : InstanceEntry}

section

variable (booked : Booked machine)
include booked

/-- All processes of an instance are observed and its entry is cleared. -/
theorem settle
    {processes : HashTable ℕ Process}
    (aged : Aged machine.processes processes)
    (others : ∀ serial process, machine.processes.lookup serial = some process →
      process.instanceId ≠ id → processes.lookup serial = some process)
    (gone : ∀ serial process, processes.lookup serial = some process →
      process.instanceId = id → process.reaped = true) :
    Booked ({ machine with processes := processes }.clearRunning id) := by
  have entries : ∀ other,
      ({ machine with processes := processes }.clearRunning id).entries.lookup other =
        if other = id then
          (machine.entries.lookup other).map fun entry =>
            { entry with running := false, pid := 0 }
        else machine.entries.lookup other :=
    fun other => HashTable.lookup_modify _ _ _ _
  refine booked.age aged rfl ?_ ?_
  · intro serial process found waiting
    have different : process.instanceId ≠ id := by
      intro same
      rw [gone serial process found same] at waiting
      cases waiting
    obtain ⟨old, before, samePid, sameId, stillWaiting, _⟩ := aged serial process found
    obtain ⟨entry, stored, running, pid⟩ := booked.entry serial old before (stillWaiting waiting)
    refine ⟨entry, ?_, running, pid.trans samePid.symm⟩
    rw [entries, if_neg different, sameId, stored]
  · intro other entry stored running
    rw [entries] at stored
    by_cases same : other = id
    · rw [if_pos same] at stored
      obtain ⟨before, _, rfl⟩ := Option.map_eq_some_iff.mp stored
      cases running
    · rw [if_neg same] at stored
      obtain ⟨serial, process, found, instanceId, waits⟩ :=
        booked.process other entry stored running
      have different : process.instanceId ≠ id := fun equal => same (instanceId.symm.trans equal)
      exact ⟨serial, process, others serial process found different, instanceId, waits⟩

/-- The one process of a running entry. -/
theorem instanceId_of_waits
    (stored : machine.entries.lookup id = some entry)
    (running : entry.running = true)
    {serial : ℕ}
    {process : Process}
    (found : machine.processes.lookup serial = some process)
    (waits : process.waits entry.pid) :
    process.instanceId = id := by
  obtain ⟨own, ownProcess, ownFound, ownId, ownWaits⟩ := booked.process id entry stored running
  have same := booked.distinct serial own process ownProcess entry.pid found ownFound waits ownWaits
  rw [same, ownFound] at found
  cases found
  exact ownId

/-- The exit of the process of an entry is observed. -/
theorem observe
    (stored : machine.entries.lookup id = some entry)
    (running : entry.running = true) :
    Booked ((machine.reap entry.pid).clearRunning id) := by
  have changed : ∀ other process,
      (machine.reap entry.pid).processes.lookup other = some process →
      ∃ old, machine.processes.lookup other = some old ∧
        ((old.waits entry.pid ∧ process = { old with alive := false, reaped := true }) ∨
          (¬old.waits entry.pid ∧ process = old)) := by
    intro other process found
    obtain ⟨old, before, rfl⟩ := Option.map_eq_some_iff.mp
      ((HashTable.lookup_mapValues _ _ _).symm.trans found)
    refine ⟨old, before, ?_⟩
    split
    · next waits => exact Or.inl ⟨waits, rfl⟩
    · next others => exact Or.inr ⟨others, rfl⟩
  refine booked.settle ?_ ?_ ?_
  · intro other process found
    obtain ⟨old, before, ⟨_, rfl⟩ | ⟨_, rfl⟩⟩ := changed other process found
    · exact ⟨old, before, rfl, rfl, nofun, nofun⟩
    · exact ⟨process, before, rfl, rfl, fun waiting => waiting, fun alive =>
        ⟨alive, booked.unreaped other process before alive⟩⟩
  · intro serial process found different
    have others : ¬process.waits entry.pid := fun waits =>
      different (booked.instanceId_of_waits stored running found waits)
    refine (HashTable.lookup_mapValues _ _ _).trans ?_
    rw [found, Option.map_some, if_neg others]
  · intro serial process found same
    obtain ⟨old, before, ⟨_, rfl⟩ | ⟨others, rfl⟩⟩ := changed serial process found
    · rfl
    · rw [← Bool.not_eq_false]
      intro waiting
      obtain ⟨own, ownStored, _, pid⟩ := booked.entry serial process before waiting
      rw [same, stored] at ownStored
      cases ownStored
      exact others ⟨pid.symm, waiting⟩

/-- An exit is observed by the child watch in time. -/
theorem childExit
    {serial : ℕ}
    {process : Process}
    (found : machine.processes.lookup serial = some process)
    (dead : process.alive = false)
    (timely : process.reaped = true → ∀ entry,
      machine.entries.lookup process.instanceId = some entry → entry.running = false) :
    Booked ({ machine with processes := machine.processes.modify serial fun process =>
      { process with reaped := true, watched := false } }.clearRunning process.instanceId) := by
  have changed : ∀ other after,
      (machine.processes.modify serial fun process =>
        { process with reaped := true, watched := false }).lookup other = some after →
      (other = serial ∧ after = { process with reaped := true, watched := false }) ∨
        (other ≠ serial ∧ machine.processes.lookup other = some after) := by
    intro other after changedFound
    rw [HashTable.lookup_modify] at changedFound
    split at changedFound
    · next same =>
        rw [same, found] at changedFound
        cases changedFound
        exact Or.inl ⟨same, rfl⟩
    · next different => exact Or.inr ⟨different, changedFound⟩
  refine booked.settle ?_ ?_ ?_
  · intro other after changedFound
    rcases changed other after changedFound with ⟨rfl, rfl⟩ | ⟨_, before⟩
    · refine ⟨process, found, rfl, rfl, ?_, fun alive => ?_⟩
      · intro waiting
        cases waiting
      · rw [dead] at alive
        cases alive
    · exact ⟨after, before, rfl, rfl, id, fun alive =>
        ⟨alive, booked.unreaped other after before alive⟩⟩
  · intro other rival otherFound different
    rw [HashTable.lookup_modify]
    split
    · next same =>
        rw [same, found] at otherFound
        cases otherFound
        exact absurd rfl different
    · exact otherFound
  · intro other after changedFound same
    rcases changed other after changedFound with ⟨_, rfl⟩ | ⟨different, before⟩
    · rfl
    · rw [← Bool.not_eq_false]
      intro waiting
      obtain ⟨entry, stored, running, pid⟩ := booked.entry other after before waiting
      rw [same] at stored
      cases reaped : process.reaped with
      | true =>
          rw [timely reaped entry stored] at running
          cases running
      | false =>
          obtain ⟨own, ownStored, _, ownPid⟩ := booked.entry serial process found reaped
          rw [stored] at ownStored
          cases ownStored
          exact different (booked.distinct other serial after process entry.pid before found
            ⟨pid.symm, waiting⟩ ⟨ownPid.symm, reaped⟩)

/-- A process is spawned for an entry that does not run. -/
theorem spawn
    {pid : ℕ}
    (stored : machine.entries.lookup id = some entry)
    (stopped : entry.running = false)
    (positive : pid ≠ 0)
    (free : ∀ serial process, machine.processes.lookup serial = some process →
      ¬process.waits pid) :
    Booked ({ machine with
      processes := machine.processes.insert machine.spawned {
        pid := pid
        instanceId := id
        alive := true
        reaped := false
        watched := true }
      spawned := machine.spawned + 1 }.modifyEntry id fun entry =>
        { entry with pid := pid, running := true, desiredRunning := true }) := by
  let child : Process := {
    pid := pid
    instanceId := id
    alive := true
    reaped := false
    watched := true }
  have processes : ∀ serial process,
      (machine.processes.insert machine.spawned child).lookup serial = some process →
        (serial = machine.spawned ∧ process = child) ∨
          machine.processes.lookup serial = some process := by
    intro serial process found
    rw [HashTable.lookup_insert] at found
    split at found
    · next same =>
        cases found
        exact Or.inl ⟨same, rfl⟩
    · exact Or.inr found
  have absent : machine.processes.lookup machine.spawned = none := by
    cases found : machine.processes.lookup machine.spawned with
    | none => rfl
    | some process => exact absurd (booked.serials _ _ found) (lt_irrefl _)
  have started : (machine.processes.insert machine.spawned child).lookup machine.spawned =
      some child := by
    rw [HashTable.lookup_insert, if_pos rfl]
  have kept : ∀ serial process, machine.processes.lookup serial = some process →
      (machine.processes.insert machine.spawned child).lookup serial = some process := by
    intro serial process found
    have different : serial ≠ machine.spawned := by
      intro same
      rw [same, absent] at found
      cases found
    rw [HashTable.lookup_insert, if_neg different, found]
  have entries : ∀ other,
      (machine.entries.modify id fun entry =>
        { entry with pid := pid, running := true, desiredRunning := true }).lookup other =
        if other = id then
          some { entry with pid := pid, running := true, desiredRunning := true }
        else machine.entries.lookup other := by
    intro other
    rw [HashTable.lookup_modify]
    split
    · next same => rw [same, stored, Option.map_some]
    · rfl
  refine ⟨?_, ?_, ?_, ?_, ?_, ?_⟩
  · intro serial process found
    rcases processes serial process found with ⟨rfl, _⟩ | before
    · exact Nat.lt_succ_self _
    · exact Nat.lt_succ_of_lt (booked.serials serial process before)
  · intro serial process found
    rcases processes serial process found with ⟨_, rfl⟩ | before
    · exact positive
    · exact booked.numbers serial process before
  · intro serial other process rival number found otherFound waits otherWaits
    rcases processes serial process found with ⟨rfl, rfl⟩ | before <;>
      rcases processes other rival otherFound with ⟨rfl, rfl⟩ | otherBefore
    · rfl
    · have same : pid = number := waits.1
      rw [← same] at otherWaits
      exact absurd otherWaits (free other rival otherBefore)
    · have same : pid = number := otherWaits.1
      rw [← same] at waits
      exact absurd waits (free serial process before)
    · exact booked.distinct serial other process rival number before otherBefore waits otherWaits
  · intro serial process found alive
    rcases processes serial process found with ⟨_, rfl⟩ | before
    · rfl
    · exact booked.unreaped serial process before alive
  · intro serial process found waiting
    rcases processes serial process found with ⟨_, rfl⟩ | before
    · exact ⟨_, (entries id).trans (if_pos rfl), rfl, rfl⟩
    · obtain ⟨otherEntry, otherStored, running, samePid⟩ :=
        booked.entry serial process before waiting
      have different : process.instanceId ≠ id := by
        intro same
        rw [same, stored] at otherStored
        cases otherStored
        rw [stopped] at running
        cases running
      exact ⟨otherEntry, (entries _).trans ((if_neg different).trans otherStored), running,
        samePid⟩
  · intro other otherEntry otherStored running
    have changed := (entries other).symm.trans otherStored
    by_cases same : other = id
    · rw [if_pos same] at changed
      cases changed
      exact ⟨machine.spawned, child, started, same.symm, rfl, rfl⟩
    · rw [if_neg same] at changed
      obtain ⟨serial, process, found, instanceId, waits⟩ :=
        booked.process other otherEntry changed running
      exact ⟨serial, process, kept serial process found, instanceId, waits⟩

/-- Entries change only where none runs before or after. -/
theorem exchange
    {entries : HashTable UInt32 InstanceEntry}
    {nextId : UInt32}
    (others : ∀ other, other ≠ id → entries.lookup other = machine.entries.lookup other)
    (before : ∀ entry, machine.entries.lookup id = some entry → entry.running = false)
    (after : ∀ entry, entries.lookup id = some entry → entry.running = false) :
    Booked { machine with entries := entries, nextInstanceId := nextId } where
  serials := booked.serials
  numbers := booked.numbers
  distinct := booked.distinct
  unreaped := booked.unreaped
  entry := by
    intro serial process found waiting
    obtain ⟨entry, stored, running, pid⟩ := booked.entry serial process found waiting
    have different : process.instanceId ≠ id := by
      intro same
      rw [same] at stored
      rw [before entry stored] at running
      cases running
    exact ⟨entry, (others _ different).trans stored, running, pid⟩
  process := by
    intro other entry stored running
    have different : other ≠ id := by
      intro same
      rw [same] at stored
      rw [after entry stored] at running
      cases running
    exact booked.process other entry ((others _ different).symm.trans stored) running

end

/-- Pending callbacks are not booked. -/
theorem withIdles (booked : Booked machine) (idles : List UInt32) :
    Booked { machine with idles := idles } :=
  ⟨booked.serials, booked.numbers, booked.distinct, booked.unreaped, booked.entry,
    booked.process⟩

/-! ## Operations -/

theorem refreshEntryState (booked : Booked machine) (id : UInt32) :
    Booked (machine.refreshEntryState id) := by
  unfold Machine.refreshEntryState
  split
  · next entry stored =>
      split
      · next exited =>
          simp only [Bool.and_eq_true] at exited
          exact booked.observe stored exited.1.1
      · exact booked
  · exact booked

theorem refreshAllStates (booked : Booked machine) :
    Booked machine.refreshAllStates := by
  unfold Machine.refreshAllStates
  generalize machine.entries.keys = ids
  induction ids generalizing machine with
  | nil => exact booked
  | cons id rest ih => exact ih (booked.refreshEntryState id)

theorem killEntry (booked : Booked machine) (id : UInt32) :
    Booked (machine.killEntry id) := by
  unfold Machine.killEntry
  split
  · next entry stored =>
      split
      · next running =>
          rw [Bool.and_eq_true] at running
          exact booked.observe stored running.1
      · exact booked
  · exact booked

theorem spawnInstance (booked : Booked machine) (answers : Answers) (id : UInt32) :
    Booked (machine.spawnInstance answers id).2 := by
  unfold Machine.spawnInstance
  split
  · next entry stored =>
      split
      · exact booked
      · next stopped =>
          split
          · next pid offered =>
              obtain ⟨_, free⟩ := Option.filter_eq_some_iff.mp offered
              obtain ⟨positive, none_⟩ := of_decide_eq_true free
              refine booked.spawn stored (Bool.eq_false_iff.mpr stopped) positive ?_
              intro serial process found
              exact of_decide_eq_true
                (List.all_eq_true.mp none_ _ (HashTable.mem_toList found))
          · exact booked
  · exact booked

theorem startInstance (booked : Booked machine) (answers : Answers) (id : UInt32) :
    Booked (machine.startInstance answers id).2 := by
  unfold Machine.startInstance
  dsimp only
  split
  · exact booked.refreshAllStates.spawnInstance answers id
  · exact booked.refreshAllStates

/-- The entry is marked before it is killed. -/
theorem undesire (booked : Booked machine) (id : UInt32) :
    Booked (machine.modifyEntry id fun entry => { entry with desiredRunning := false }) :=
  booked.modifyEntry id (fun _ => rfl) fun _ => rfl

theorem stopInstance (booked : Booked machine) (answers : Answers) (id : UInt32) :
    Booked (machine.stopInstance answers id).2 := by
  unfold Machine.stopInstance
  dsimp only
  split
  · exact (booked.refreshAllStates.undesire id).killEntry id
  · exact booked.refreshAllStates

/-- The entry of a killed process does not run. -/
theorem killEntry_stops
    (booked : Booked machine)
    (stored : (machine.killEntry id).entries.lookup id = some entry) :
    entry.running = false := by
  unfold Machine.killEntry at stored
  split at stored
  · next before found =>
      split at stored
      · have cleared := (HashTable.lookup_modify _ _ _ _).symm.trans stored
        rw [if_pos rfl] at cleared
        obtain ⟨_, _, rfl⟩ := Option.map_eq_some_iff.mp cleared
        rfl
      · next idle =>
          rw [found] at stored
          cases stored
          rw [← Bool.not_eq_true]
          intro running
          obtain ⟨serial, process, known, _, waits⟩ := booked.process id entry found running
          have positive : entry.pid > 0 := by
            rw [← waits.1]
            exact Nat.pos_of_ne_zero (booked.numbers serial process known)
          simp [running, positive] at idle
  · next missing =>
      rw [missing] at stored
      cases stored

/-- The entry of a stopped instance does not run. -/
theorem stopInstance_stops
    (booked : Booked machine)
    (answers : Answers)
    (stored : (machine.stopInstance answers id).2.entries.lookup id = some entry) :
    entry.running = false := by
  unfold Machine.stopInstance at stored
  dsimp only at stored
  split at stored
  · exact (booked.refreshAllStates.undesire id).killEntry_stops stored
  · next missing =>
      rw [missing] at stored
      cases stored

theorem removeInstance (booked : Booked machine) (answers : Answers) (id : UInt32) :
    Booked (machine.removeInstance answers id).2 := by
  have stopped := booked.stopInstance answers id
  have stops : ∀ entry, (machine.stopInstance answers id).2.entries.lookup id = some entry →
      entry.running = false :=
    fun _ => booked.stopInstance_stops answers
  unfold Machine.removeInstance
  split
  · exact booked
  · generalize machine.stopInstance answers id = result at stopped stops
    obtain ⟨code, after⟩ := result
    split
    · next same =>
        cases same
        refine stopped.exchange (fun other different => ?_) stops fun entry stored => ?_
        · rw [HashTable.lookup_remove, if_neg different]
        · rw [HashTable.lookup_remove, if_pos rfl] at stored
          cases stored
    · next same =>
        cases same
        exact stopped

theorem updateInstance
    (booked : Booked machine)
    (answers : Answers)
    (id : UInt32)
    (name : Option CStr)
    (desired : Option Bool) :
    Booked (machine.updateInstance answers id name desired).2 := by
  unfold Machine.updateInstance
  dsimp only
  split
  · split
    · exact booked.refreshAllStates
    · cases given name with
      | none =>
          rcases desired with _ | _ | _
          · exact booked.refreshAllStates
          · exact booked.refreshAllStates.stopInstance answers id
          · exact booked.refreshAllStates.spawnInstance answers id
      | some name =>
          have renamed : Booked (machine.refreshAllStates.modifyEntry id fun entry =>
              { entry with name := name }) :=
            booked.refreshAllStates.modifyEntry id (fun _ => rfl) fun _ => rfl
          rcases desired with _ | _ | _
          · exact renamed
          · exact renamed.stopInstance answers id
          · exact renamed.spawnInstance answers id
  · exact booked.refreshAllStates

theorem createInstance
    (booked : Booked machine)
    (answers : Answers)
    (name : Option CStr)
    (idle : machine.nameTaken name = false → ∀ entry,
      machine.entries.lookup machine.nextInstanceId = some entry → entry.running = false) :
    Booked (machine.createInstance answers name).2 := by
  unfold Machine.createInstance
  split
  · exact booked
  · next untaken =>
      refine spawnInstance (booked.exchange (fun other different => ?_)
        (idle (Bool.eq_false_iff.mpr untaken)) fun entry stored => ?_) answers _
      · rw [HashTable.lookup_insert, if_neg different]
      · rw [HashTable.lookup_insert, if_pos rfl] at stored
        cases stored
        rfl

theorem handleInstanceRestart (booked : Booked machine) (answers : Answers) (id : UInt32) :
    Booked (machine.handleInstanceRestart answers id).2 := by
  have stopped := booked.stopInstance answers id
  unfold Machine.handleInstanceRestart
  generalize machine.stopInstance answers id = result at stopped
  obtain ⟨code, after⟩ := result
  cases code with
  | ok =>
      have started := stopped.startInstance answers id
      dsimp only
      generalize after.startInstance answers id = result at started
      obtain ⟨startCode, final⟩ := result
      cases startCode with
      | ok => exact started.refreshAllStates
      | _ => exact started
  | _ => exact stopped

theorem restartInstanceIdle (booked : Booked machine) (answers : Answers) (id : UInt32) :
    Booked (machine.restartInstanceIdle answers id) := by
  unfold Machine.restartInstanceIdle
  split
  · split
    · exact booked.spawnInstance answers id
    · exact booked
  · exact booked

end Booked

theorem booked_of_loaded {machine : Machine} (loaded : Loaded machine) : Booked machine := by
  obtain ⟨stopped, noProcesses, _, _⟩ := loaded
  have nothing : ∀ serial process, machine.processes.lookup serial ≠ some process := by
    intro serial process found
    rw [noProcesses, HashTable.lookup_empty] at found
    cases found
  refine ⟨?_, ?_, ?_, ?_, ?_, ?_⟩
  · exact fun serial process found => absurd found (nothing serial process)
  · exact fun serial process found => absurd found (nothing serial process)
  · exact fun serial _ process _ _ found => absurd found (nothing serial process)
  · exact fun serial process found => absurd found (nothing serial process)
  · exact fun serial process found => absurd found (nothing serial process)
  · intro id entry stored running
    rw [(stopped id entry stored).1] at running
    cases running

/-- There is nothing to clear without an entry. -/
theorem clearRunning_missing
    {machine : Machine}
    {id : UInt32}
    (missing : machine.entries.lookup id = none) :
    machine.clearRunning id = machine := by
  have same : (machine.entries.modify id fun entry =>
      { entry with running := false, pid := 0 }) = machine.entries := by
    apply HashTable.modify_eq_self
    intro entry stored
    rw [missing] at stored
    cases stored
  unfold Machine.clearRunning Machine.modifyEntry
  rw [same]

/-- One timely event keeps the books. -/
theorem Booked.next
    {machine after : Machine}
    {event : InstanceEvent}
    (booked : Booked machine)
    (timely : Timely machine event)
    (stepped : machine.next event = some after) :
    Booked after := by
  cases event with
  | create answers name =>
      cases stepped
      exact booked.createInstance answers name timely
  | update answers id name desired =>
      cases stepped
      exact booked.updateInstance answers id name desired
  | start answers id =>
      cases stepped
      exact booked.startInstance answers id
  | stop answers id =>
      cases stepped
      exact booked.stopInstance answers id
  | restart answers id =>
      cases stepped
      exact booked.handleInstanceRestart answers id
  | remove answers id =>
      cases stepped
      exact booked.removeInstance answers id
  | refresh =>
      cases stepped
      exact booked.refreshAllStates
  | startDesired answers id =>
      obtain ⟨entry, _, rfl⟩ := Option.map_eq_some_iff.mp stepped
      split
      · exact booked.spawnInstance answers id
      · exact booked
  | shutdown id =>
      cases stepped
      exact booked.killEntry id
  | exit serial =>
      obtain ⟨process, _, exits⟩ := Option.bind_eq_some_iff.mp stepped
      split at exits
      · cases exits
        exact booked.exit serial
      · cases exits
  | childExit serial =>
      obtain ⟨process, found, fires⟩ := Option.bind_eq_some_iff.mp stepped
      split at fires
      · next ready =>
          rw [Bool.and_eq_true, Bool.not_eq_true'] at ready
          have settled := booked.childExit found ready.2
            fun reaped entry => timely process entry found reaped
          cases fires
          unfold Machine.onInstanceChildExit
          split
          · split
            · exact settled.withIdles _
            · exact settled
          · next missing => exact clearRunning_missing missing ▸ settled
      · cases fires
  | idle answers =>
      dsimp only [Machine.next] at stepped
      split at stepped
      · cases stepped
        exact (booked.withIdles _).restartInstanceIdle answers _
      · cases stepped

/-- In every run whose child watches are timely there is one process for each
instance. -/
theorem oneProcess_of_timelyRun
    {machine : Machine}
    (reachable : instanceRuns.ReachableWhen Timely machine) :
    OneProcess machine := by
  have booked : Booked machine :=
    reachable.invariant (fun _ => booked_of_loaded) fun _ _ _ booked timely stepped =>
      booked.next timely stepped
  exact booked.oneProcess

/-- A controller with the default instance only. -/
def defaultMachine : Machine where
  entries := HashTable.empty.insert 0 {
    name := Machine.defaultInstanceName 0
    desiredRunning := true
    running := false
    pid := 0 }
  nextInstanceId := 1
  processes := .empty
  spawned := 0
  idles := []

theorem loaded_defaultMachine : Loaded defaultMachine := by
  refine ⟨HashTable.All.insert HashTable.All.empty ⟨rfl, rfl⟩, rfl, rfl, rfl⟩

/-- A call that may spawn a process with a number. -/
def spawning (pid : ℕ) : Answers where
  pid := some pid
  saves := true
  savesAgain := true

/-- What is known of a process of the default instance. -/
def observation (machine : Machine) (serial : ℕ) : Option (Bool × Bool × UInt32) :=
  (machine.processes.lookup serial).map fun process =>
    (process.alive, process.reaped, process.instanceId)

/-- After a crash the default instance is restarted as one process. -/
theorem oneProcess_afterCrash :
    ∃ machine, System.run Machine.next defaultMachine
        [.startDesired (spawning 100) 0, .exit 0, .childExit 0, .idle (spawning 101)] =
          some machine ∧
      observation machine 1 = some (true, false, 0) ∧ OneProcess machine := by
  have whole : ((System.run Machine.next defaultMachine
      [.startDesired (spawning 100) 0, .exit 0, .childExit 0, .idle (spawning 101)]).bind
        fun machine => observation machine 1) = some (true, false, 0) := by
    decide +kernel
  have crash : ((System.run Machine.next defaultMachine
      [.startDesired (spawning 100) 0, .exit 0]).bind
        fun machine => observation machine 0) = some (false, false, 0) := by
    decide +kernel
  obtain ⟨machine, reached, restarted⟩ := Option.bind_eq_some_iff.mp whole
  refine ⟨machine, reached, restarted, ?_⟩
  simp only [System.run, Option.bind_eq_some_iff] at reached
  obtain ⟨running, starts, crashed, exits, noticed, fires, final, restarts, same⟩ := reached
  cases same
  simp only [System.run, starts, exits, Option.bind_some] at crash
  have timely : Timely crashed (.childExit 0) := by
    intro process entry found reaped
    rw [observation, found, Option.map_some, Option.some.injEq, Prod.mk.injEq,
      Prod.mk.injEq] at crash
    rw [crash.2.1] at reaped
    cases reaped
  have startTimely : Timely defaultMachine (.startDesired (spawning 100) 0) := trivial
  have exitTimely : Timely running (.exit 0) := trivial
  have idleTimely : Timely noticed (.idle (spawning 101)) := trivial
  exact oneProcess_of_timelyRun (.step (.step (.step (.step (.initial loaded_defaultMachine)
    startTimely starts) exitTimely exits) timely fires) idleTimely restarts)

/-- After a restart the late child watch of the old process clears the entry of
the new one, and a second process is spawned. -/
theorem lateChildExit_spawns_twice :
    ∃ machine, instanceRuns.Reachable machine ∧ ¬OneProcess machine := by
  have runs : ((System.run Machine.next defaultMachine
      [.startDesired (spawning 100) 0, .restart (spawning 101) 0, .childExit 0,
        .idle (spawning 102)]).map
          fun machine => (observation machine 1, observation machine 2)) =
        some (some (true, false, 0), some (true, false, 0)) := by
    decide +kernel
  obtain ⟨machine, reached, observed⟩ := Option.map_eq_some_iff.mp runs
  obtain ⟨first, second⟩ := Prod.mk.inj observed
  obtain ⟨process, found, state⟩ := Option.map_eq_some_iff.mp first
  obtain ⟨rival, rivalFound, rivalState⟩ := Option.map_eq_some_iff.mp second
  refine ⟨machine, System.reachable_of_run (.initial loaded_defaultMachine) reached, ?_⟩
  intro one
  have same := one.unique 1 2 process rival found rivalFound
    (congrArg Prod.fst state) (congrArg Prod.fst rivalState)
    ((congrArg (fun seen => seen.2.2) state).trans
      (congrArg (fun seen => seen.2.2) rivalState).symm)
  cases same

end Instance
end SbsServer
