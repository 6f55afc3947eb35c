import SbsServer.CLib.Str
import SbsServer.SceneGraph.State

/-!
# The instance manager

The entries of the manager, the processes it spawned and the callbacks that
wait in its main loop.  A process is known by its place in the order of
spawning, since the system may hand out the number of a reaped process again.
The paths and ports of an entry follow from its id and are left out.
-/

namespace SbsServer
namespace Instance

open CLib

/-- `sbs_instance_entry_t` under its id. -/
structure InstanceEntry where
  name : CStr
  desiredRunning : Bool
  running : Bool
  pid : ℕ

/-- A process that `g_spawn_async` started for an instance. -/
structure Process where
  pid : ℕ
  instanceId : UInt32
  /-- The process has not exited. -/
  alive : Bool
  /-- Its exit was observed by `waitpid`. -/
  reaped : Bool
  /-- Its call of `on_instance_child_exit` is still to come. -/
  watched : Bool

/-- A child with a number that no `waitpid` has returned. -/
def Process.waits (process : Process) (pid : ℕ) : Prop :=
  process.pid = pid ∧ process.reaped = false

instance (process : Process) (pid : ℕ) : Decidable (process.waits pid) :=
  inferInstanceAs (Decidable (_ ∧ _))

/-- The manager, its child processes and its pending callbacks. -/
structure Machine where
  entries : HashTable UInt32 InstanceEntry
  nextInstanceId : UInt32
  processes : HashTable ℕ Process
  /-- How many processes were spawned. -/
  spawned : ℕ
  /-- Instances of the pending calls of `restart_instance_idle`. -/
  idles : List UInt32

/-- What one call meets outside: the number offered for a new process, if any,
and whether the metadata file can be written. -/
structure Answers where
  pid : Option ℕ
  saves : Bool
  savesAgain : Bool

/-- `save_metadata`. -/
def saveMetadata (saves : Bool) : SbsResult :=
  if saves then .ok else .io

namespace Machine

/-- A change in place of an entry. -/
def modifyEntry
    (machine : Machine)
    (id : UInt32)
    (change : InstanceEntry → InstanceEntry) : Machine :=
  { machine with entries := machine.entries.modify id change }

/-- `entry->running = false; entry->pid = 0`. -/
def clearRunning (machine : Machine) (id : UInt32) : Machine :=
  machine.modifyEntry id fun entry => { entry with running := false, pid := 0 }

/-- `waitpid` with `WNOHANG` returns the number. -/
def exited (machine : Machine) (pid : ℕ) : Bool :=
  machine.processes.toList.any fun entry =>
    entry.2.waits pid ∧ entry.2.alive = false

/-- A child is gone and `waitpid` has returned its number. -/
def reap (machine : Machine) (pid : ℕ) : Machine :=
  { machine with processes := machine.processes.mapValues fun _ process =>
      if process.waits pid then { process with alive := false, reaped := true }
      else process }

/-- The system hands out a number that no child holds. -/
def offered (machine : Machine) (pid : Option ℕ) : Option ℕ :=
  pid.filter fun pid =>
    pid ≠ 0 ∧ machine.processes.toList.all fun entry => ¬entry.2.waits pid

/-- `refresh_entry_state` on the entry of an id. -/
def refreshEntryState (machine : Machine) (id : UInt32) : Machine :=
  match machine.entries.lookup id with
  | some entry =>
      if entry.running && entry.pid > 0 && machine.exited entry.pid then
        (machine.reap entry.pid).clearRunning id
      else machine
  | none => machine

/-- `refresh_all_states`. -/
def refreshAllStates (machine : Machine) : Machine :=
  machine.entries.keys.foldl refreshEntryState machine

/-- `spawn_instance` on the entry of an id. -/
def spawnInstance
    (answers : Answers)
    (machine : Machine)
    (id : UInt32) : SbsResult × Machine :=
  match machine.entries.lookup id with
  | some entry =>
      if entry.running then (.ok, machine)
      else match machine.offered answers.pid with
        | some pid =>
            let started := { machine with
              processes := machine.processes.insert machine.spawned {
                pid := pid
                instanceId := id
                alive := true
                reaped := false
                watched := true }
              spawned := machine.spawned + 1 }
            (saveMetadata answers.saves, started.modifyEntry id fun entry =>
              { entry with pid := pid, running := true, desiredRunning := true })
        | none => (.io, machine)
  | none => (.inval, machine)

/-- `name_in_use`. -/
def nameInUse (machine : Machine) (name : CStr) (ignored : UInt32) : Bool :=
  machine.entries.toList.any fun entry => entry.1 ≠ ignored ∧ entry.2.name = name

/-- `default_instance_name`. -/
def defaultInstanceName (id : UInt32) : CStr :=
  if id = 0 then "Default" else "Instance " ++ CStr.ofNat id.toNat

/-- The name check of `sbs_instance_manager_create_instance`. -/
def nameTaken (machine : Machine) (name : Option CStr) : Bool :=
  (given name).any fun name => machine.nameInUse name 0xFFFFFFFF

/-- `sbs_instance_manager_create_instance`. -/
def createInstance
    (answers : Answers)
    (machine : Machine)
    (name : Option CStr) : SbsResult × Machine :=
  if machine.nameTaken name then (.inval, machine)
  else
    let id := machine.nextInstanceId
    let created := { machine with
      entries := machine.entries.insert id {
        name := (given name).getD (defaultInstanceName id)
        desiredRunning := true
        running := false
        pid := 0 }
      nextInstanceId := id + 1 }
    (.ok, (spawnInstance answers created id).2)

/-- `sbs_instance_manager_start_instance`. -/
def startInstance
    (answers : Answers)
    (machine : Machine)
    (id : UInt32) : SbsResult × Machine :=
  let fresh := machine.refreshAllStates
  match fresh.entries.lookup id with
  | some _ => spawnInstance answers fresh id
  | none => (.notFound, fresh)

/-- `kill` and the blocking `waitpid` on a running entry. -/
def killEntry (machine : Machine) (id : UInt32) : Machine :=
  match machine.entries.lookup id with
  | some entry =>
      if entry.running && entry.pid > 0 then (machine.reap entry.pid).clearRunning id
      else machine
  | none => machine

/-- `sbs_instance_manager_stop_instance`. -/
def stopInstance
    (answers : Answers)
    (machine : Machine)
    (id : UInt32) : SbsResult × Machine :=
  let fresh := machine.refreshAllStates
  match fresh.entries.lookup id with
  | some _ =>
      (saveMetadata answers.saves,
        (fresh.modifyEntry id fun entry => { entry with desiredRunning := false }).killEntry id)
  | none => (.notFound, fresh)

/-- `sbs_instance_manager_remove_instance`. -/
def removeInstance
    (answers : Answers)
    (machine : Machine)
    (id : UInt32) : SbsResult × Machine :=
  if id = 0 then (.inval, machine)
  else match stopInstance answers machine id with
    | (.ok, stopped) =>
        (saveMetadata answers.savesAgain, { stopped with entries := stopped.entries.remove id })
    | (_, stopped) => (.notFound, stopped)

/-- `sbs_instance_manager_update_instance`. -/
def updateInstance
    (answers : Answers)
    (machine : Machine)
    (id : UInt32)
    (name : Option CStr)
    (desired : Option Bool) : SbsResult × Machine :=
  let fresh := machine.refreshAllStates
  match fresh.entries.lookup id with
  | some _ =>
      if (given name).any fun name => fresh.nameInUse name id then (.inval, fresh)
      else
        let named := match given name with
          | some name => fresh.modifyEntry id fun entry => { entry with name := name }
          | none => fresh
        let (code, after) := match desired with
          | some true => spawnInstance answers named id
          | some false => stopInstance answers named id
          | none => (.ok, named)
        (if code = .ok then saveMetadata answers.savesAgain else code, after)
  | none => (.notFound, fresh)

/-- `sbs_api_handle_instance_restart` on a controller. -/
def handleInstanceRestart
    (answers : Answers)
    (machine : Machine)
    (id : UInt32) : SbsResult × Machine :=
  match stopInstance answers machine id with
  | (.ok, stopped) =>
      match startInstance answers stopped id with
      | (.ok, started) => (.ok, started.refreshAllStates)
      | result => result
  | result => result

/-- `restart_instance_idle`. -/
def restartInstanceIdle
    (answers : Answers)
    (machine : Machine)
    (id : UInt32) : Machine :=
  match machine.entries.lookup id with
  | some entry =>
      if entry.desiredRunning && !entry.running then (spawnInstance answers machine id).2
      else machine
  | none => machine

/-- `on_instance_child_exit` for an instance. -/
def onInstanceChildExit (machine : Machine) (id : UInt32) : Machine :=
  match machine.entries.lookup id with
  | some entry =>
      let cleared := machine.clearRunning id
      if entry.desiredRunning then { cleared with idles := cleared.idles ++ [id] }
      else cleared
  | none => machine

end Machine

/-- An event of the controller. -/
inductive InstanceEvent
  | create (answers : Answers) (name : Option CStr)
  | update (answers : Answers) (id : UInt32) (name : Option CStr) (desired : Option Bool)
  | start (answers : Answers) (id : UInt32)
  | stop (answers : Answers) (id : UInt32)
  | restart (answers : Answers) (id : UInt32)
  | remove (answers : Answers) (id : UInt32)
  /-- `refresh_all_states` in a query. -/
  | refresh
  /-- One round of the loop of `sbs_instance_manager_start_desired`. -/
  | startDesired (answers : Answers) (id : UInt32)
  /-- One round of the loop of `sbs_instance_manager_shutdown_all`. -/
  | shutdown (id : UInt32)
  /-- A process exits. -/
  | exit (serial : ℕ)
  /-- The child watch of an exited process fires. -/
  | childExit (serial : ℕ)
  /-- The first pending idle callback runs. -/
  | idle (answers : Answers)

namespace Machine

/-- The machine after an event, if the event can happen. -/
def next (machine : Machine) : InstanceEvent → Option Machine
  | .create answers name => some (machine.createInstance answers name).2
  | .update answers id name desired => some (machine.updateInstance answers id name desired).2
  | .start answers id => some (machine.startInstance answers id).2
  | .stop answers id => some (machine.stopInstance answers id).2
  | .restart answers id => some (machine.handleInstanceRestart answers id).2
  | .remove answers id => some (machine.removeInstance answers id).2
  | .refresh => some machine.refreshAllStates
  | .startDesired answers id => (machine.entries.lookup id).map fun entry =>
      if entry.desiredRunning then (machine.spawnInstance answers id).2 else machine
  | .shutdown id => some (machine.killEntry id)
  | .exit serial => (machine.processes.lookup serial).bind fun process =>
      if process.alive then
        some { machine with processes := machine.processes.modify serial fun process =>
          { process with alive := false } }
      else none
  | .childExit serial => (machine.processes.lookup serial).bind fun process =>
      if process.watched && !process.alive then
        -- the watch reaps the child itself where no `waitpid` did
        let reaped := { machine with processes := machine.processes.modify serial fun process =>
          { process with reaped := true, watched := false } }
        some (reaped.onInstanceChildExit process.instanceId)
      else none
  | .idle answers =>
      match machine.idles with
      | id :: rest => some ({ machine with idles := rest }.restartInstanceIdle answers id)
      | [] => none

end Machine
end Instance
end SbsServer
