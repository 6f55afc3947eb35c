import SbsServer.CLib.Str
import SbsServer.SceneGraph.State

/-!
# The source supervisor

Entries of the supervisor with the GLib sources that wait for them in the main
loop.  An entry is known by its address, and an address is not used again, so a
callback of a freed entry stays distinct from those of later entries.  Processes
and file descriptors appear through the callbacks they cause: a worker may exit,
connect or close its socket at any time.
-/

namespace SbsServer
namespace Supervisor

open CLib

/-- The callbacks that the supervisor registers. -/
inductive CallbackKind
  /-- `on_frame_available`, on the listening socket or on the connection. -/
  | frameAvailable (listening : Bool)
  /-- `on_child_exit`. -/
  | childExit
  /-- `on_accept_timeout`. -/
  | acceptTimeout
  /-- `on_stable_timer`. -/
  | stableTimer
  /-- `on_restart_timer`. -/
  | restartTimer
  deriving DecidableEq

/-- A source of the main loop: its function and its `user_data`. -/
structure Callback where
  kind : CallbackKind
  entry : ℕ
  deriving DecidableEq

/-- `sbs_source_entry_t`; the ids are those of sources in the main loop, or 0. -/
structure SourceEntry where
  sourceId : CStr
  /-- `listen_fd >= 0`. -/
  listening : Bool
  /-- `conn_fd >= 0`. -/
  connected : Bool
  ioWatchId : ℕ
  childWatchId : ℕ
  acceptTimerId : ℕ
  stableTimerId : ℕ
  restartAttempts : ℕ
  shuttingDown : Bool
  deriving DecidableEq

/-- The supervisor, its heap and the main loop. -/
structure SourceSupervisor where
  /-- Source ids with the addresses of their entries. -/
  sources : HashTable CStr ℕ
  /-- Allocated entries under their addresses. -/
  heap : HashTable ℕ SourceEntry
  nextAddress : ℕ
  /-- Sources of the main loop under their ids. -/
  pending : HashTable ℕ Callback
  nextSourceId : ℕ
  /-- Source ids of the workers that were launched, the latest first. -/
  launches : List CStr

/-- What a launch meets outside. -/
inductive LaunchOutcome
  /-- A socket, a pipe or a process could not be made. -/
  | failed
  /-- The worker was forked and connects at once or later. -/
  | forked (connects : Bool)

namespace SourceSupervisor

/-- `MAX_RESTART_ATTEMPTS`. -/
def maxRestartAttempts : ℕ := 10

/-- Change of an entry through a pointer. -/
def modifyEntry
    (sup : SourceSupervisor)
    (address : ℕ)
    (change : SourceEntry → SourceEntry) : SourceSupervisor :=
  { sup with heap := sup.heap.modify address change }

/-- `g_source_remove`, where 0 stands for no source. -/
def removeSource (sup : SourceSupervisor) (id : ℕ) : SourceSupervisor :=
  { sup with pending := sup.pending.remove id }

/-- A new source in the main loop. -/
def addSource (sup : SourceSupervisor) (callback : Callback) : SourceSupervisor :=
  { sup with
    pending := sup.pending.insert sup.nextSourceId callback
    nextSourceId := sup.nextSourceId + 1 }

/-- Removal of the sources that an entry keeps. -/
def removeSources (sup : SourceSupervisor) (entry : SourceEntry) : SourceSupervisor :=
  (((sup.removeSource entry.ioWatchId).removeSource entry.childWatchId).removeSource
    entry.acceptTimerId).removeSource entry.stableTimerId

/-- `schedule_restart`: the id of the timer is not kept. -/
def scheduleRestart (sup : SourceSupervisor) (address : ℕ) : SourceSupervisor :=
  let counted := sup.modifyEntry address fun entry =>
    { entry with restartAttempts := entry.restartAttempts + 1 }
  match counted.heap.lookup address with
  | some entry =>
      if entry.restartAttempts > maxRestartAttempts then counted
      else counted.addSource { kind := .restartTimer, entry := address }
  | none => counted

/-- The child watch of a forked worker. -/
def watchChild (sup : SourceSupervisor) (address : ℕ) : SourceSupervisor :=
  (sup.addSource { kind := .childExit, entry := address }).modifyEntry address fun entry =>
    { entry with childWatchId := sup.nextSourceId }

/-- The accept timer. -/
def startAcceptTimer (sup : SourceSupervisor) (address : ℕ) : SourceSupervisor :=
  (sup.addSource { kind := .acceptTimeout, entry := address }).modifyEntry address fun entry =>
    { entry with acceptTimerId := sup.nextSourceId }

/-- The accept timer is cancelled. -/
def cancelAcceptTimer (sup : SourceSupervisor) (address : ℕ) : SourceSupervisor :=
  match sup.heap.lookup address with
  | some entry => (sup.removeSource entry.acceptTimerId).modifyEntry address fun entry =>
      { entry with acceptTimerId := 0 }
  | none => sup

/-- The watch on a socket. -/
def watchSocket
    (sup : SourceSupervisor)
    (address : ℕ)
    (listening : Bool) : SourceSupervisor :=
  (sup.addSource { kind := .frameAvailable listening, entry := address }).modifyEntry address
    fun entry => { entry with ioWatchId := sup.nextSourceId }

/-- The stable timer. -/
def startStableTimer (sup : SourceSupervisor) (address : ℕ) : SourceSupervisor :=
  (sup.addSource { kind := .stableTimer, entry := address }).modifyEntry address fun entry =>
    { entry with stableTimerId := sup.nextSourceId }

/-- A worker has connected. -/
def acceptConnection (sup : SourceSupervisor) (address : ℕ) : SourceSupervisor :=
  let accepted := sup.modifyEntry address fun entry => { entry with connected := true }
  ((accepted.cancelAcceptTimer address).watchSocket address false).startStableTimer address

/-- `source_entry_launch` of the entry at an address. -/
def launch
    (sup : SourceSupervisor)
    (address : ℕ)
    (outcome : LaunchOutcome) : SbsResult × SourceSupervisor :=
  match outcome, sup.heap.lookup address with
  | .forked connects, some entry =>
      let forked := { sup with launches := entry.sourceId :: sup.launches }
      let listening := forked.modifyEntry address fun entry => { entry with listening := true }
      let waiting := (listening.watchChild address).startAcceptTimer address
      (.ok, if connects then waiting.acceptConnection address
        else waiting.watchSocket address true)
  | _, _ =>
      (.io, sup.modifyEntry address fun entry => { entry with listening := false })

/-- `source_entry_cleanup_worker`. -/
def cleanupWorker (sup : SourceSupervisor) (address : ℕ) : SourceSupervisor :=
  match sup.heap.lookup address with
  | some entry => (sup.removeSources entry).modifyEntry address fun entry =>
      { entry with
        ioWatchId := 0
        childWatchId := 0
        acceptTimerId := 0
        stableTimerId := 0
        connected := false
        listening := false }
  | none => sup

/-- `source_entry_free`. -/
def freeEntry (sup : SourceSupervisor) (address : ℕ) : SourceSupervisor :=
  match sup.heap.lookup address with
  | some entry =>
      let removed := sup.removeSources entry
      { removed with heap := removed.heap.remove address }
  | none => sup

/-- `g_hash_table_remove` from `sources`. -/
def removeEntry (sup : SourceSupervisor) (sourceId : CStr) : SourceSupervisor :=
  match sup.sources.lookup sourceId with
  | some address => { sup with sources := sup.sources.remove sourceId }.freeEntry address
  | none => sup

/-- `sbs_source_supervisor_start_source` with a slot and a config that names its
source. -/
def startSource
    (sup : SourceSupervisor)
    (sourceId : CStr)
    (outcome : LaunchOutcome) : SbsResult × SourceSupervisor :=
  if sup.sources.contains sourceId then (.inval, sup)
  else
    let address := sup.nextAddress
    let allocated := { sup with
      sources := sup.sources.insert sourceId address
      heap := sup.heap.insert address {
        sourceId := sourceId
        listening := false
        connected := false
        ioWatchId := 0
        childWatchId := 0
        acceptTimerId := 0
        stableTimerId := 0
        restartAttempts := 0
        shuttingDown := false }
      nextAddress := address + 1 }
    match allocated.launch address outcome with
    | (.ok, launched) => (.ok, launched)
    | (code, launched) => (code, launched.removeEntry sourceId)

/-- `sbs_source_supervisor_stop_source`. -/
def stopSource
    (sup : SourceSupervisor)
    (sourceId : CStr) : SbsResult × SourceSupervisor :=
  match sup.sources.lookup sourceId with
  | some address =>
      let marked := sup.modifyEntry address fun entry => { entry with shuttingDown := true }
      (.ok, marked.removeEntry sourceId)
  | none => (.notFound, sup)

/-- `sbs_source_supervisor_shutdown_all`. -/
def shutdownAll (sup : SourceSupervisor) : SourceSupervisor :=
  let mark (_ : ℕ) (entry : SourceEntry) : SourceEntry := { entry with shuttingDown := true }
  sup.sources.keys.foldl removeEntry { sup with heap := sup.heap.mapValues mark }

/-- What a socket reports to `on_frame_available`. -/
inductive SocketState
  /-- A worker connects to the listening socket. -/
  | connects
  /-- The connection is lost or at its end. -/
  | lost
  /-- Messages were read, or there is nothing to do. -/
  | drained

/-- `on_frame_available`, and whether the source stays. -/
def onFrameAvailable
    (sup : SourceSupervisor)
    (address : ℕ)
    (entry : SourceEntry)
    (listening : Bool)
    (socket : SocketState) : Bool × SourceSupervisor :=
  if !entry.connected && listening && entry.listening then
    match socket with
    | .connects => (false, sup.acceptConnection address)
    | _ => (true, sup)
  else
    match socket with
    | .lost => (false, sup.modifyEntry address fun entry =>
        { entry with connected := false, ioWatchId := 0 })
    | _ => (true, sup)

/-- `on_child_exit`. -/
def onChildExit (sup : SourceSupervisor) (address : ℕ) (entry : SourceEntry) : SourceSupervisor :=
  let cleaned := (sup.removeSource entry.ioWatchId).modifyEntry address fun entry =>
    { entry with
      childWatchId := 0
      ioWatchId := 0
      connected := false
      listening := false }
  if entry.shuttingDown then cleaned else cleaned.scheduleRestart address

/-- `on_restart_timer`. -/
def onRestartTimer
    (sup : SourceSupervisor)
    (address : ℕ)
    (entry : SourceEntry)
    (outcome : LaunchOutcome) : SourceSupervisor :=
  if entry.shuttingDown then sup
  else match (sup.cleanupWorker address).launch address outcome with
    | (.ok, launched) => launched
    | (_, failed) => failed.scheduleRestart address

/-- A callback with the entry its pointer leads to, and whether its source
stays. -/
def dispatch
    (sup : SourceSupervisor)
    (callback : Callback)
    (entry : SourceEntry)
    (socket : SocketState)
    (outcome : LaunchOutcome) : Bool × SourceSupervisor :=
  match callback.kind with
  | .frameAvailable listening =>
      sup.onFrameAvailable callback.entry entry listening socket
  | .childExit => (false, sup.onChildExit callback.entry entry)
  | .acceptTimeout => (false, sup.modifyEntry callback.entry fun entry =>
      { entry with acceptTimerId := 0 })
  | .stableTimer => (false, sup.modifyEntry callback.entry fun entry =>
      { entry with stableTimerId := 0, restartAttempts := 0 })
  | .restartTimer => (false, sup.onRestartTimer callback.entry entry outcome)

end SourceSupervisor

/-- An event of the main thread. -/
inductive SupervisorEvent
  | start (sourceId : CStr) (outcome : LaunchOutcome)
  | stop (sourceId : CStr)
  | shutdownAll
  /-- A source of the main loop fires. -/
  | fire (id : ℕ) (socket : SourceSupervisor.SocketState) (outcome : LaunchOutcome)

namespace SourceSupervisor

/-- The supervisor after an event, if the event can happen and its behaviour is
defined: a callback that reads a freed entry has no next state. -/
def next (sup : SourceSupervisor) : SupervisorEvent → Option SourceSupervisor
  | .start sourceId outcome => some (sup.startSource sourceId outcome).2
  | .stop sourceId => some (sup.stopSource sourceId).2
  | .shutdownAll => some sup.shutdownAll
  | .fire id socket outcome =>
      (sup.pending.lookup id).bind fun callback =>
        (sup.heap.lookup callback.entry).map fun entry =>
          let (stays, after) := sup.dispatch callback entry socket outcome
          if stays then after else after.removeSource id

/-- A supervisor without sources. -/
def new : SourceSupervisor where
  sources := .empty
  heap := .empty
  nextAddress := 0
  pending := .empty
  nextSourceId := 1
  launches := []

end SourceSupervisor
end Supervisor
end SbsServer
