import SbsServer.CLib.HashTable
import SbsServer.CLib.System
import SbsServer.SceneGraph.State

/-!
# The output supervisor

Entries of the supervisor and their worker processes.  An entry leaves the table
only by being freed, which also removes its callbacks, so a callback finds its
entry in the table under the id of its output.  Frames, sockets and the kills of
a worker that is late or lost have no part here beyond the exit that follows.
-/

namespace SbsServer
namespace Supervisor

open CLib

/-- `sbs_output_start_config_t` -/
structure OutputStartConfig where
  outputId : CStr
  width : UInt32
  height : UInt32
  framerateNum : UInt32
  framerateDen : UInt32
  codec : Option CStr
  bitrateKbps : UInt32
  gopSize : UInt32
  encoder : Option CStr
  sinkType : Option CStr
  srtUri : Option CStr
  srtLatencyMs : UInt32
  rtmpUri : Option CStr
  rtmpPasscode : Option CStr
  filePath : Option CStr
  filePathMode : Option CStr
  filePrefix : Option CStr
  fileContainer : Option CStr
  deriving DecidableEq

/-- `sbs_output_entry_t` -/
structure OutputEntry where
  configCopy : OutputStartConfig
  /-- The process of the worker, if one is running. -/
  pid : Option ℕ
  /-- `stable_timer_id` is a timer. -/
  stableTimer : Bool
  /-- `restart_timer_id` is a timer. -/
  restartTimer : Bool
  restartAttempts : ℕ
  shuttingDown : Bool
  deriving DecidableEq

/-- The table of the entries. -/
abbrev OutputTable := HashTable CStr OutputEntry

/-- The process of a launch, if the socket, the pipe and the process can be made. -/
abbrev OutputLaunch := Option ℕ

namespace OutputEntry

/-- `MAX_RESTART_ATTEMPTS` -/
def maxRestartAttempts : ℕ := 10

/-- A new entry. -/
def new (config : OutputStartConfig) : OutputEntry where
  configCopy := config
  pid := none
  stableTimer := false
  restartTimer := false
  restartAttempts := 0
  shuttingDown := false

/-- `output_entry_launch` -/
def launch
    (entry : OutputEntry)
    (outcome : OutputLaunch) : SbsResult × OutputEntry :=
  match outcome with
  | none => (.io, entry)
  | some pid => (.ok, { entry with pid := some pid })

/-- `schedule_restart` -/
def scheduleRestart (entry : OutputEntry) : OutputEntry :=
  let counted := { entry with restartAttempts := entry.restartAttempts + 1 }
  if counted.restartAttempts > maxRestartAttempts then counted
  else { counted with restartTimer := true }

/-- `output_entry_cleanup_worker` -/
def cleanupWorker (entry : OutputEntry) : OutputEntry :=
  { entry with pid := none, stableTimer := false, restartTimer := false }

/-- A worker is running or will be started again. -/
def Alive (entry : OutputEntry) : Prop :=
  entry.shuttingDown = false ∧ (entry.pid.isSome ∨ entry.restartTimer = true)

instance (entry : OutputEntry) : Decidable entry.Alive :=
  inferInstanceAs (Decidable (_ ∧ _))

end OutputEntry

/-- `sbs_output_supervisor_start_output` -/
def startOutput
    (outputs : OutputTable)
    (config : OutputStartConfig)
    (outcome : OutputLaunch) : SbsResult × OutputTable :=
  if outputs.contains config.outputId then (.inval, outputs)
  else
    match (OutputEntry.new config).launch outcome with
    | (.ok, entry) => (.ok, outputs.insert config.outputId entry)
    | (code, _) => (code, outputs)

/-- `sbs_output_supervisor_stop_output`.  The entry of a running worker stays until its exit
is seen. -/
def stopOutput
    (outputs : OutputTable)
    (outputId : CStr) : SbsResult × OutputTable :=
  match outputs.lookup outputId with
  | none => (.notFound, outputs)
  | some entry =>
      if entry.pid.isSome then
        (.ok, outputs.insert outputId
          { entry with shuttingDown := true, restartTimer := false })
      else (.ok, outputs.remove outputId)

/-- What the main loop sees of the workers. -/
inductive OutputEvent
  /-- The worker connects, in `on_worker_data`. -/
  | connect (outputId : CStr)
  /-- `on_child_exit` -/
  | childExit (outputId : CStr)
  /-- `on_stable_timer` -/
  | stableTimer (outputId : CStr)
  /-- `on_restart_timer` -/
  | restartTimer (outputId : CStr) (outcome : OutputLaunch)
  deriving DecidableEq

/-- The output of an event. -/
def OutputEvent.outputId : OutputEvent → CStr
  | .connect outputId | .childExit outputId | .stableTimer outputId
  | .restartTimer outputId _ => outputId

/-- The entry after one of its callbacks, where it can be called; nothing is left of an entry
that is removed. -/
def OutputEntry.next
    (entry : OutputEntry) : OutputEvent → Option (Option OutputEntry)
  | .connect _ =>
      if entry.pid.isSome then some (some { entry with stableTimer := true }) else none
  | .childExit _ =>
      if entry.pid.isSome then
        let exited := { entry with pid := none }
        if exited.shuttingDown then some none else some (some exited.scheduleRestart)
      else none
  | .stableTimer _ =>
      if entry.stableTimer then
        some (some { entry with stableTimer := false, restartAttempts := 0 })
      else none
  | .restartTimer _ outcome =>
      if entry.restartTimer then
        let fired := { entry with restartTimer := false }
        if fired.shuttingDown then some (some fired)
        else
          match fired.cleanupWorker.launch outcome with
          | (.ok, launched) => some (some launched)
          | (_, failed) => some (some failed.scheduleRestart)
      else none

/-- The table after an event. -/
def nextOutputs
    (outputs : OutputTable)
    (event : OutputEvent) : Option OutputTable :=
  match outputs.lookup event.outputId with
  | none => none
  | some entry =>
      match entry.next event with
      | none => none
      | some none => some (outputs.remove event.outputId)
      | some (some left) => some (outputs.insert event.outputId left)

/-- The callbacks from a table on. -/
def outputSystem (outputs : OutputTable) : System OutputTable OutputEvent :=
  .ofNext (· = outputs) nextOutputs

/-- No entry is given up: a worker exits, or cannot be launched again, at most ten times without
a stable minute. -/
def KeepsTrying
    (outputs : OutputTable)
    (event : OutputEvent) : Prop :=
  match event with
  | .childExit outputId | .restartTimer outputId none =>
      ∀ entry ∈ outputs.lookup outputId,
        entry.restartAttempts < OutputEntry.maxRestartAttempts
  | _ => True

instance (outputs : OutputTable) (event : OutputEvent) : Decidable (KeepsTrying outputs event) :=
  match event with
  | .childExit _ => inferInstanceAs (Decidable (∀ entry ∈ _, _))
  | .restartTimer _ none => inferInstanceAs (Decidable (∀ entry ∈ _, _))
  | .restartTimer _ (some _) => inferInstanceAs (Decidable True)
  | .connect _ | .stableTimer _ => inferInstanceAs (Decidable True)

theorem OutputEntry.alive_scheduleRestart
    {entry : OutputEntry}
    (running : entry.shuttingDown = false)
    (below : entry.restartAttempts < maxRestartAttempts) :
    entry.scheduleRestart.Alive ∧ entry.scheduleRestart.configCopy = entry.configCopy := by
  unfold scheduleRestart
  dsimp only
  rw [if_neg (Nat.not_lt.mpr below)]
  exact ⟨⟨running, .inr rfl⟩, rfl⟩

/-- One callback. -/
theorem OutputEntry.Alive.next
    {entry : OutputEntry}
    {event : OutputEvent}
    {left : Option OutputEntry}
    (alive : entry.Alive)
    (trying : (∃ outputId, event = .childExit outputId ∨ event = .restartTimer outputId none) →
      entry.restartAttempts < maxRestartAttempts)
    (stepped : entry.next event = some left) :
    ∃ after, left = some after ∧ after.Alive ∧ after.configCopy = entry.configCopy := by
  obtain ⟨running, alive⟩ := alive
  cases event with
  | connect outputId =>
      simp only [OutputEntry.next] at stepped
      split at stepped
      next =>
        cases stepped
        exact ⟨_, rfl, ⟨running, alive⟩, rfl⟩
      next => cases stepped
  | childExit outputId =>
      have below := trying ⟨outputId, .inl rfl⟩
      simp only [OutputEntry.next, running] at stepped
      split at stepped
      next =>
        cases stepped
        exact ⟨_, rfl, OutputEntry.alive_scheduleRestart rfl below⟩
      next => cases stepped
  | stableTimer outputId =>
      simp only [OutputEntry.next] at stepped
      split at stepped
      next =>
        cases stepped
        exact ⟨_, rfl, ⟨running, alive⟩, rfl⟩
      next => cases stepped
  | restartTimer outputId outcome =>
      simp only [OutputEntry.next, running] at stepped
      split at stepped
      next =>
        cases outcome with
        | some pid =>
            cases stepped
            exact ⟨_, rfl, ⟨rfl, .inl rfl⟩, rfl⟩
        | none =>
            have below := trying ⟨outputId, .inr rfl⟩
            cases stepped
            exact ⟨_, rfl, OutputEntry.alive_scheduleRestart rfl below⟩
      next => cases stepped

/-- A worker with a configuration is running for an output, or will be started again. -/
def HasWorker
    (outputs : OutputTable)
    (config : OutputStartConfig) : Prop :=
  ∃ entry, outputs.lookup config.outputId = some entry ∧ entry.Alive ∧
    entry.configCopy = config

variable {outputs : OutputTable} {config : OutputStartConfig}

/-- One event of any output. -/
theorem HasWorker.next
    {outputs after : OutputTable}
    {event : OutputEvent}
    (worker : HasWorker outputs config)
    (trying : KeepsTrying outputs event)
    (stepped : nextOutputs outputs event = some after) :
    HasWorker after config := by
  obtain ⟨entry, found, alive, same⟩ := worker
  unfold nextOutputs at stepped
  by_cases here : config.outputId = event.outputId
  · rw [← here, found] at stepped
    dsimp only at stepped
    have below : (∃ outputId, event = .childExit outputId ∨
        event = .restartTimer outputId none) →
          entry.restartAttempts < OutputEntry.maxRestartAttempts := by
      rintro ⟨outputId, rfl | rfl⟩
      · exact trying entry ((show config.outputId = outputId from here) ▸ found)
      · exact trying entry ((show config.outputId = outputId from here) ▸ found)
    cases left : entry.next event with
    | none =>
        rw [left] at stepped
        cases stepped
    | some remains =>
        obtain ⟨next, rfl, aliveNext, sameNext⟩ := alive.next below left
        rw [left] at stepped
        cases stepped
        refine ⟨next, ?_, aliveNext, sameNext.trans same⟩
        rw [HashTable.lookup_insert, if_pos rfl]
  · have other : after.lookup config.outputId = outputs.lookup config.outputId := by
      split at stepped
      next => cases stepped
      next =>
        split at stepped
        next => cases stepped
        next =>
          cases stepped
          rw [HashTable.lookup_remove, if_neg here]
        next =>
          cases stepped
          rw [HashTable.lookup_insert, if_neg here]
    exact ⟨entry, other.trans found, alive, same⟩

/-- A worker that is not given up stays in every order of the callbacks. -/
theorem HasWorker.of_reachable
    {outputs later : OutputTable}
    (worker : HasWorker outputs config)
    (reachable : (outputSystem outputs).ReachableWhen KeepsTrying later) :
    HasWorker later config := by
  apply reachable.invariant
  · rintro _ rfl
    exact worker
  · intro before event after worker trying stepped
    exact worker.next trying stepped

/-- A new entry is refused while an old one is in the table. -/
theorem startOutput_ok_iff
    {outcome : OutputLaunch} :
    (startOutput outputs config outcome).1 = .ok ↔
      outputs.contains config.outputId = false ∧ outcome.isSome = true := by
  unfold startOutput
  split
  next present =>
    rw [present]
    exact ⟨nofun, nofun⟩
  next absent =>
    rw [Bool.not_eq_true] at absent
    rw [absent]
    cases outcome with
    | none => exact ⟨nofun, nofun⟩
    | some pid => exact ⟨fun _ => ⟨rfl, rfl⟩, fun _ => rfl⟩

theorem hasWorker_startOutput
    {outcome : OutputLaunch}
    (ok : (startOutput outputs config outcome).1 = .ok) :
    HasWorker (startOutput outputs config outcome).2 config := by
  obtain ⟨absent, launches⟩ := startOutput_ok_iff.mp ok
  obtain ⟨pid, rfl⟩ := Option.isSome_iff_exists.mp launches
  have left : (startOutput outputs config (some pid)).2 =
      outputs.insert config.outputId { OutputEntry.new config with pid := some pid } := by
    unfold startOutput
    rw [absent]
    rfl
  refine ⟨{ OutputEntry.new config with pid := some pid }, ?_, ⟨rfl, .inl rfl⟩, rfl⟩
  rw [left, HashTable.lookup_insert, if_pos rfl]

/-- A stopped output leaves the table at once only if no process is running for it. -/
theorem contains_stopOutput
    {outputId : CStr} :
    (stopOutput outputs outputId).2.contains outputId = false ↔
      ∀ entry ∈ outputs.lookup outputId, entry.pid = none := by
  unfold stopOutput
  cases found : outputs.lookup outputId with
  | none =>
      have absent : outputs.contains outputId = false := HashTable.contains_eq_false.mpr found
      constructor
      · intro _ entry isEntry
        cases isEntry
      · exact fun _ => absent
  | some entry =>
      dsimp only
      cases running : entry.pid with
      | none =>
          rw [if_neg (by decide)]
          constructor
          · rintro _ _ ⟨⟩
            exact running
          · intro _
            apply HashTable.contains_eq_false.mpr
            rw [HashTable.lookup_remove, if_pos rfl]
      | some pid =>
          rw [if_pos Option.isSome_some]
          constructor
          · intro absent
            have missing := HashTable.contains_eq_false.mp absent
            rw [HashTable.lookup_insert, if_pos rfl] at missing
            cases missing
          · intro none
            have stopped := none entry rfl
            rw [running] at stopped
            cases stopped

end Supervisor
end SbsServer
