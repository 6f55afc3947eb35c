import Mathlib.Data.Finset.Range
import Mathlib.Data.List.Nodup
import SbsServer.CLib.System

/-!
# The restart budget

One entry of `source_supervisor.c` or `output_supervisor.c`: its worker, its
timers and its counter of restart attempts.  The main loop calls the callbacks in
any order.  The two supervisors differ in whether they keep the id of the restart
timer, in how they stop an entry and in that only frames are sent to an output.
-/

namespace SbsServer
namespace Supervisor

open CLib

/-- The supervisor that an entry belongs to. -/
inductive SupervisorKind
  | source
  | output
  deriving DecidableEq

/-- The socket that the I/O watch of an entry is on. -/
inductive IoWatch
  | listening
  | connection
  deriving DecidableEq

/-- A call of `source_entry_launch` or `output_entry_launch`: the attempts counted before it, and
how many stable periods were before it. -/
structure LaunchRecord where
  attempts : ℕ
  period : ℕ
  deriving DecidableEq

/-- A call of `on_stable_timer`: the launch whose worker it was armed for, the latest launch, and
whether the entry has a worker (`pid > 0`) and a connection (`conn_fd >= 0`). -/
structure ResetRecord where
  armedFor : ℕ
  launch : ℕ
  running : Bool
  connected : Bool
  deriving DecidableEq

/-- `sbs_source_entry_t` or `sbs_output_entry_t` while it is in its table, as far as restarts
depend on it.  `stableTimer` is the number of the launch that it was armed for; the restart
timers are those in the main loop.  The last two fields are a history. -/
structure BudgetEntry where
  running : Bool
  listening : Bool
  connected : Bool
  ioWatch : Option IoWatch
  childWatch : Bool
  acceptTimer : Bool
  stableTimer : Option ℕ
  restartTimers : ℕ
  restartTimerId : Bool
  restartAttempts : ℕ
  shuttingDown : Bool
  launches : List LaunchRecord
  resets : List ResetRecord
  deriving DecidableEq

/-- What a launch meets outside. -/
inductive WorkerLaunch
  /-- A socket, a pipe or a process could not be made. -/
  | failed
  /-- The worker was forked; it connects at once or later. -/
  | forked (connects : Bool)
  deriving DecidableEq

/-- What happens to an entry. -/
inductive BudgetEvent
  /-- The watch on the listening socket finds a connection. -/
  | accept
  /-- The connection is lost or at its end. -/
  | connectionLost
  /-- Sending to an output breaks its connection. -/
  | sendFails
  /-- `on_child_exit` -/
  | childExit
  /-- `on_accept_timeout` -/
  | acceptTimeout
  /-- `on_stable_timer` -/
  | stableTimer
  /-- `on_restart_timer` -/
  | restartTimer (outcome : WorkerLaunch)
  /-- `sbs_source_supervisor_stop_source` or `sbs_output_supervisor_stop_output` -/
  | stop
  deriving DecidableEq

namespace ResetRecord

/-- The worker that the timer was armed for is still there and connected. -/
def Stable (reset : ResetRecord) : Prop :=
  reset.armedFor = reset.launch ∧ reset.running = true ∧ reset.connected = true

instance (reset : ResetRecord) : Decidable reset.Stable :=
  inferInstanceAs (Decidable (_ ∧ _ ∧ _))

end ResetRecord

namespace BudgetEntry

/-- `MAX_RESTART_ATTEMPTS` -/
def maxRestartAttempts : ℕ := 10

/-- How many stable periods there were. -/
def periods (entry : BudgetEntry) : ℕ :=
  entry.resets.countP (·.Stable)

/-- A new entry. -/
def new : BudgetEntry where
  running := false
  listening := false
  connected := false
  ioWatch := none
  childWatch := false
  acceptTimer := false
  stableTimer := none
  restartTimers := 0
  restartTimerId := false
  restartAttempts := 0
  shuttingDown := false
  launches := []
  resets := []

/-- The worker has connected. -/
def acceptConnection (entry : BudgetEntry) : BudgetEntry :=
  { entry with
    connected := true
    acceptTimer := false
    ioWatch := some .connection
    stableTimer := some entry.launches.length }

/-- What is noted of a launch. -/
def launchRecord (entry : BudgetEntry) : LaunchRecord where
  attempts := entry.restartAttempts
  period := entry.periods

/-- What is noted of a stable timer. -/
def resetRecord
    (entry : BudgetEntry)
    (armedFor : ℕ) : ResetRecord where
  armedFor := armedFor
  launch := entry.launches.length
  running := entry.running
  connected := entry.connected

/-- `source_entry_launch`, `output_entry_launch` -/
def launch
    (entry : BudgetEntry)
    (outcome : WorkerLaunch) : Bool × BudgetEntry :=
  let called := { entry with launches := entry.launches ++ [entry.launchRecord] }
  match outcome with
  | .failed => (false, { called with listening := false })
  | .forked connects =>
      let forked := { called with
        listening := true
        running := true
        childWatch := true
        acceptTimer := true }
      (true, if connects then forked.acceptConnection
        else { forked with ioWatch := some .listening })

/-- `schedule_restart` -/
def scheduleRestart
    (kind : SupervisorKind)
    (entry : BudgetEntry) : BudgetEntry :=
  let counted := { entry with restartAttempts := entry.restartAttempts + 1 }
  if counted.restartAttempts > maxRestartAttempts then counted
  else
    { counted with
      restartTimers := counted.restartTimers + 1
      restartTimerId := kind = .output || counted.restartTimerId }

/-- Cancelling the restart timer whose id is kept. -/
def cancelRestartTimer (entry : BudgetEntry) : BudgetEntry :=
  if entry.restartTimerId then
    { entry with
      restartTimers := entry.restartTimers - 1
      restartTimerId := false }
  else entry

/-- `source_entry_cleanup_worker`, `output_entry_cleanup_worker` -/
def cleanupWorker (entry : BudgetEntry) : BudgetEntry :=
  { entry.cancelRestartTimer with
    ioWatch := none
    childWatch := false
    acceptTimer := false
    stableTimer := none
    connected := false
    listening := false
    running := false }

/-- `on_frame_available` or `on_worker_data` at the end of the connection. -/
def loseConnection (entry : BudgetEntry) : BudgetEntry :=
  { entry with
    connected := false
    ioWatch := none }

/-- The worker is gone, and its sockets are closed. -/
def exited (entry : BudgetEntry) : BudgetEntry :=
  { entry with
    childWatch := false
    running := false
    ioWatch := none
    connected := false
    listening := false }

/-- `on_child_exit`; nothing is left of an output that was stopped. -/
def onChildExit
    (kind : SupervisorKind)
    (entry : BudgetEntry) : Option BudgetEntry :=
  if entry.shuttingDown then
    match kind with
    | .source => some entry.exited
    | .output => none
  else some (entry.exited.scheduleRestart kind)

/-- `on_stable_timer` -/
def onStableTimer
    (entry : BudgetEntry)
    (armedFor : ℕ) : BudgetEntry :=
  { entry with
    stableTimer := none
    restartAttempts := 0
    resets := entry.resets ++ [entry.resetRecord armedFor] }

/-- `on_restart_timer` -/
def onRestartTimer
    (kind : SupervisorKind)
    (entry : BudgetEntry)
    (outcome : WorkerLaunch) : BudgetEntry :=
  let fired := { entry with
    restartTimers := entry.restartTimers - 1
    restartTimerId := if kind = .output then false else entry.restartTimerId }
  if fired.shuttingDown then fired
  else
    match fired.cleanupWorker.launch outcome with
    | (true, launched) => launched
    | (false, failed) => failed.scheduleRestart kind

/-- Stopping an entry; nothing is left of a source, nor of an output without a worker. -/
def stop
    (kind : SupervisorKind)
    (entry : BudgetEntry) : Option BudgetEntry :=
  match kind with
  | .source => none
  | .output =>
      let stopped := { entry with shuttingDown := true }.cancelRestartTimer
      if stopped.running then some stopped else none

/-- What is left of an entry after an event, if the event can happen. -/
def next
    (kind : SupervisorKind)
    (entry : BudgetEntry) : BudgetEvent → Option (Option BudgetEntry)
  | .accept =>
      if entry.ioWatch = some .listening ∧ entry.connected = false ∧ entry.listening = true then
        some (some entry.acceptConnection)
      else none
  | .connectionLost =>
      if entry.ioWatch = some .connection then some (some entry.loseConnection) else none
  | .sendFails =>
      if kind = .output ∧ entry.connected = true ∧ entry.shuttingDown = false then
        some (some { entry with connected := false })
      else none
  | .childExit => if entry.childWatch then some (entry.onChildExit kind) else none
  | .acceptTimeout =>
      if entry.acceptTimer then some (some { entry with acceptTimer := false }) else none
  | .stableTimer => entry.stableTimer.map fun armedFor => some (entry.onStableTimer armedFor)
  | .restartTimer outcome =>
      if 0 < entry.restartTimers then some (some (entry.onRestartTimer kind outcome)) else none
  | .stop => some (entry.stop kind)

/-- The entry that `sbs_source_supervisor_start_source` or `sbs_output_supervisor_start_output`
adds to its table. -/
def started (connects : Bool) : BudgetEntry :=
  (new.launch (.forked connects)).2

/-- Runs of an entry until it is removed. -/
def system (kind : SupervisorKind) : System BudgetEntry BudgetEvent :=
  .ofNext (fun entry => ∃ connects, entry = started connects)
    fun entry event => (entry.next kind event).bind id

/-- The counter is lowered only by stable timers of the connected worker of the latest launch; it
is higher at each launch than at those before it since the last stable period; and without one
there are at most ten relaunches. -/
structure BudgetKept
    (kind : SupervisorKind)
    (entry : BudgetEntry) : Prop where
  lowered : ∀ event after, entry.next kind event = some (some after) →
    after.restartAttempts < entry.restartAttempts → event = .stableTimer
  stable : ∀ reset ∈ entry.resets, reset.Stable
  increasing : entry.launches.Pairwise fun earlier later =>
    earlier.period = later.period → earlier.attempts < later.attempts
  relaunches : ∀ period,
    (entry.launches.tail.filter (·.period = period)).length ≤ maxRestartAttempts

/-- A stable timer is called only while the entry has a connected worker. -/
def TimerOfWorker
    (entry : BudgetEntry) : BudgetEvent → Prop
  | .stableTimer => entry.running = true ∧ entry.connected = true
  | _ => True

instance (entry : BudgetEntry) : ∀ event, Decidable (entry.TimerOfWorker event)
  | .stableTimer => inferInstanceAs (Decidable (_ ∧ _))
  | .accept => isTrue trivial
  | .connectionLost => isTrue trivial
  | .sendFails => isTrue trivial
  | .childExit => isTrue trivial
  | .acceptTimeout => isTrue trivial
  | .restartTimer _ => isTrue trivial
  | .stop => isTrue trivial

/-! ## Invariant -/

/-- What holds of an entry whose stable timers were called for its workers. -/
structure Sound (entry : BudgetEntry) : Prop where
  stable : ∀ reset ∈ entry.resets, reset.Stable
  armed : ∀ armedFor, entry.stableTimer = some armedFor → armedFor = entry.launches.length
  oneTimer : entry.restartTimers ≤ 1
  noTimer : entry.childWatch = true ∨ entry.running = true → entry.restartTimers = 0
  pending : 0 < entry.restartTimers →
    1 ≤ entry.restartAttempts ∧ entry.restartAttempts ≤ maxRestartAttempts
  past : ∀ record ∈ entry.launches, record.period ≤ entry.periods
  below : ∀ record ∈ entry.launches, record.period = entry.periods →
    record.attempts ≤ entry.restartAttempts ∧
      (0 < entry.restartTimers → record.attempts < entry.restartAttempts)
  increasing : entry.launches.Pairwise fun earlier later =>
    earlier.period = later.period → earlier.attempts < later.attempts
  launched : entry.launches ≠ []
  relaunched : ∀ record ∈ entry.launches.tail,
    1 ≤ record.attempts ∧ record.attempts ≤ maxRestartAttempts

/-- Sockets and watches come and go, and a restart timer may be cancelled. -/
structure SameBudget (entry after : BudgetEntry) : Prop where
  launches : after.launches = entry.launches
  resets : after.resets = entry.resets
  attempts : after.restartAttempts = entry.restartAttempts
  timers : after.restartTimers ≤ entry.restartTimers
  child : after.childWatch = true ∨ after.running = true →
    entry.childWatch = true ∨ entry.running = true
  armed : ∀ armedFor, after.stableTimer = some armedFor →
    entry.stableTimer = some armedFor ∨ armedFor = entry.launches.length

variable {entry after : BudgetEntry}

theorem Sound.same
    (sound : entry.Sound)
    (same : entry.SameBudget after) :
    after.Sound := by
  have periods : after.periods = entry.periods := by
    rw [BudgetEntry.periods, same.resets, BudgetEntry.periods]
  have timers := same.timers
  constructor
  · rw [same.resets]
    exact sound.stable
  · intro armedFor some
    rw [same.launches]
    rcases same.armed armedFor some with old | new
    · exact sound.armed armedFor old
    · exact new
  · exact timers.trans sound.oneTimer
  · intro present
    have none := sound.noTimer (same.child present)
    omega
  · intro some
    rw [same.attempts]
    exact sound.pending (by omega)
  · rw [same.launches, periods]
    exact sound.past
  · rw [same.launches, periods, same.attempts]
    intro record member now
    have below := sound.below record member now
    exact ⟨below.1, fun some => below.2 (by omega)⟩
  · rw [same.launches]
    exact sound.increasing
  · rw [same.launches]
    exact sound.launched
  · rw [same.launches]
    exact sound.relaunched

theorem sameBudget_cancelRestartTimer (entry : BudgetEntry) :
    entry.SameBudget entry.cancelRestartTimer := by
  unfold cancelRestartTimer
  split
  next => exact ⟨rfl, rfl, rfl, Nat.sub_le _ _, id, fun _ => .inl⟩
  next => exact ⟨rfl, rfl, rfl, Nat.le_refl _, id, fun _ => .inl⟩

variable {kind : SupervisorKind} {event : BudgetEvent}

/-- What an event does to an entry that is left. -/
theorem next_cases
    (stepped : entry.next kind event = some (some after)) :
    entry.SameBudget after ∨
      (entry.childWatch = true ∧ after = entry.exited.scheduleRestart kind) ∨
      (∃ armedFor, event = .stableTimer ∧ entry.stableTimer = some armedFor ∧
        after = entry.onStableTimer armedFor) ∨
      ∃ outcome, 0 < entry.restartTimers ∧ after = entry.onRestartTimer kind outcome := by
  cases event with
  | accept =>
      simp only [BudgetEntry.next] at stepped
      split at stepped
      next =>
        cases stepped
        exact .inl ⟨rfl, rfl, rfl, Nat.le_refl _, id,
          fun armedFor some => .inr (Option.some.inj some).symm⟩
      next => cases stepped
  | connectionLost =>
      simp only [BudgetEntry.next] at stepped
      split at stepped
      next =>
        cases stepped
        exact .inl ⟨rfl, rfl, rfl, Nat.le_refl _, id, fun _ => .inl⟩
      next => cases stepped
  | sendFails =>
      simp only [BudgetEntry.next] at stepped
      split at stepped
      next =>
        cases stepped
        exact .inl ⟨rfl, rfl, rfl, Nat.le_refl _, id, fun _ => .inl⟩
      next => cases stepped
  | childExit =>
      simp only [BudgetEntry.next] at stepped
      split at stepped
      next watched =>
        have left := Option.some.inj stepped
        unfold BudgetEntry.onChildExit at left
        split at left
        next =>
          cases kind with
          | source =>
              cases left
              exact .inl ⟨rfl, rfl, rfl, Nat.le_refl _, by simp [exited], fun _ => .inl⟩
          | output => cases left
        next => exact .inr (.inl ⟨watched, (Option.some.inj left).symm⟩)
      next => cases stepped
  | acceptTimeout =>
      simp only [BudgetEntry.next] at stepped
      split at stepped
      next =>
        cases stepped
        exact .inl ⟨rfl, rfl, rfl, Nat.le_refl _, id, fun _ => .inl⟩
      next => cases stepped
  | stableTimer =>
      obtain ⟨armedFor, armed, left⟩ := Option.map_eq_some_iff.mp stepped
      exact .inr (.inr (.inl ⟨armedFor, rfl, armed, (Option.some.inj left).symm⟩))
  | restartTimer outcome =>
      simp only [BudgetEntry.next] at stepped
      split at stepped
      next pending =>
        exact .inr (.inr (.inr ⟨outcome, pending,
          (Option.some.inj (Option.some.inj stepped)).symm⟩))
      next => cases stepped
  | stop =>
      have left := Option.some.inj stepped
      cases kind with
      | source => cases left
      | output =>
          have same := sameBudget_cancelRestartTimer { entry with shuttingDown := true }
          simp only [BudgetEntry.stop] at left
          split at left
          next =>
            cases left
            exact .inl ⟨same.launches, same.resets, same.attempts, same.timers, same.child,
              same.armed⟩
          next => cases left

section

variable (sound : entry.Sound)
include sound

/-- A restart is scheduled for an entry that has neither a worker nor a timer. -/
theorem Sound.scheduleRestart
    (kind : SupervisorKind)
    (noTimer : entry.restartTimers = 0)
    (gone : ¬ (entry.childWatch = true ∨ entry.running = true)) :
    (entry.scheduleRestart kind).Sound := by
  have below : ∀ record ∈ entry.launches, record.period = entry.periods →
      record.attempts ≤ entry.restartAttempts + 1 ∧
        record.attempts < entry.restartAttempts + 1 := by
    intro record member same
    have before := (sound.below record member same).1
    exact ⟨by omega, by omega⟩
  unfold BudgetEntry.scheduleRestart
  dsimp only
  split
  next =>
    exact { sound with
      pending := fun some => absurd some (by dsimp only; omega)
      below := fun record member same =>
        ⟨(below record member same).1, fun _ => (below record member same).2⟩ }
  next within =>
    exact { sound with
      oneTimer := by
        dsimp only
        omega
      noTimer := fun present => absurd present gone
      pending := fun _ => ⟨by dsimp only; omega, Nat.le_of_not_lt within⟩
      below := fun record member same =>
        ⟨(below record member same).1, fun _ => (below record member same).2⟩ }

/-- A stable timer of the connected worker. -/
theorem Sound.onStableTimer
    {armedFor : ℕ}
    (armed : entry.stableTimer = some armedFor)
    (running : entry.running = true)
    (connected : entry.connected = true) :
    (entry.onStableTimer armedFor).Sound := by
  have isStable : (entry.resetRecord armedFor).Stable :=
    ⟨sound.armed armedFor armed, running, connected⟩
  have periods : (entry.onStableTimer armedFor).periods = entry.periods + 1 := by
    rw [BudgetEntry.periods, BudgetEntry.onStableTimer, List.countP_append,
      List.countP_singleton, if_pos (decide_eq_true isStable)]
    rfl
  have noTimer := sound.noTimer (.inr running)
  refine { sound with
    stable := ?_
    armed := fun _ none => nomatch none
    pending := fun (some : 0 < entry.restartTimers) => by omega
    past := ?_
    below := ?_ }
  · intro reset member
    rcases List.mem_append.mp member with old | new
    · exact sound.stable reset old
    · rw [List.mem_singleton.mp new]
      exact isStable
  · intro record member
    rw [periods]
    exact Nat.le_succ_of_le (sound.past record member)
  · intro record member same
    rw [periods] at same
    have before := sound.past record member
    omega

/-- A launch is called for an entry that has counted an attempt for it. -/
theorem Sound.called
    (counted : ∀ record ∈ entry.launches, record.period = entry.periods →
      record.attempts < entry.restartAttempts)
    (within : 1 ≤ entry.restartAttempts ∧ entry.restartAttempts ≤ maxRestartAttempts)
    (noTimer : entry.restartTimers = 0)
    (unarmed : entry.stableTimer = none) :
    { entry with launches := entry.launches ++ [entry.launchRecord] }.Sound := by
  refine { sound with
    armed := fun armedFor some => nomatch unarmed.symm.trans some
    past := ?_
    below := ?_
    increasing := ?_
    launched := List.append_ne_nil_of_right_ne_nil _ (List.cons_ne_nil _ _)
    relaunched := ?_ }
  · intro record member
    rcases List.mem_append.mp member with old | new
    · exact sound.past record old
    · rw [List.mem_singleton.mp new]
      exact Nat.le_refl _
  · intro record member same
    rcases List.mem_append.mp member with old | new
    · exact sound.below record old same
    · rw [List.mem_singleton.mp new]
      exact ⟨Nat.le_refl _, fun (some : 0 < entry.restartTimers) => by omega⟩
  · apply pairwise_concat sound.increasing
    intro record old same
    exact counted record old same
  · intro record member
    rw [List.tail_append_of_ne_nil sound.launched] at member
    rcases List.mem_append.mp member with old | new
    · exact sound.relaunched record old
    · rw [List.mem_singleton.mp new]
      exact within

/-- An entry whose restart timer was called, before it is launched. -/
theorem Sound.cleaned
    (pending : 0 < entry.restartTimers)
    (kind : SupervisorKind) :
    let ready := ({ entry with
      restartTimers := entry.restartTimers - 1
      restartTimerId := if kind = .output then false else entry.restartTimerId } :
        BudgetEntry).cleanupWorker
    ready.Sound ∧
      (∀ record ∈ ready.launches, record.period = ready.periods →
        record.attempts < ready.restartAttempts) ∧
      (1 ≤ ready.restartAttempts ∧ ready.restartAttempts ≤ maxRestartAttempts) ∧
      ready.restartTimers = 0 ∧ ¬ (ready.childWatch = true ∨ ready.running = true) ∧
      ready.stableTimer = none := by
  intro ready
  have oneTimer := sound.oneTimer
  have cancelled := sameBudget_cancelRestartTimer { entry with
    restartTimers := entry.restartTimers - 1
    restartTimerId := if kind = .output then false else entry.restartTimerId }
  have same : entry.SameBudget ready := {
    launches := cancelled.launches
    resets := cancelled.resets
    attempts := cancelled.attempts
    timers := cancelled.timers.trans (Nat.sub_le _ _)
    child := by simp [ready, cleanupWorker]
    armed := fun _ some => nomatch some }
  have timers : ready.restartTimers ≤ entry.restartTimers - 1 := cancelled.timers
  have periods : ready.periods = entry.periods := by
    rw [BudgetEntry.periods, same.resets, BudgetEntry.periods]
  refine ⟨sound.same same, ?_, ?_, by omega, by simp [ready, cleanupWorker], rfl⟩
  · rw [same.launches, periods, same.attempts]
    exact fun record member now => (sound.below record member now).2 pending
  · rw [same.attempts]
    exact sound.pending pending

/-- The worker of a launch that was called. -/
theorem Sound.forked
    (noTimer : entry.restartTimers = 0)
    (launches : after.launches = entry.launches)
    (resets : after.resets = entry.resets)
    (attempts : after.restartAttempts = entry.restartAttempts)
    (timers : after.restartTimers = entry.restartTimers)
    (armed : ∀ armedFor, after.stableTimer = some armedFor →
      entry.stableTimer = some armedFor ∨ armedFor = entry.launches.length) :
    after.Sound := by
  have calm : { after with
      childWatch := false
      running := false }.Sound :=
    sound.same ⟨launches, resets, attempts, timers.le, by simp, armed⟩
  exact { calm with noTimer := fun _ => timers.trans noTimer }

/-- The entry that a restart timer launches again. -/
theorem Sound.onRestartTimer
    (kind : SupervisorKind)
    (pending : 0 < entry.restartTimers)
    (outcome : WorkerLaunch) :
    (entry.onRestartTimer kind outcome).Sound := by
  unfold BudgetEntry.onRestartTimer
  dsimp only
  split
  next => exact sound.same ⟨rfl, rfl, rfl, Nat.sub_le _ _, id, fun _ => .inl⟩
  next =>
    have cleaned := sound.cleaned pending kind
    generalize ({ entry with
      restartTimers := entry.restartTimers - 1
      restartTimerId := if kind = .output then false else entry.restartTimerId } :
        BudgetEntry).cleanupWorker = ready at cleaned ⊢
    obtain ⟨readySound, counted, within, none, gone, unarmed⟩ := cleaned
    have called := readySound.called counted within none unarmed
    cases outcome with
    | failed =>
        have failed : (ready.launch .failed).2.Sound :=
          called.same ⟨rfl, rfl, rfl, Nat.le_refl _, id, fun _ => .inl⟩
        exact failed.scheduleRestart kind none gone
    | forked connects =>
        cases connects with
        | true =>
            exact called.forked none rfl rfl rfl rfl
              fun armedFor some => .inr (Option.some.inj some).symm
        | false => exact called.forked none rfl rfl rfl rfl fun _ => .inl

/-- One event. -/
theorem Sound.next
    (ofWorker : entry.TimerOfWorker event)
    (stepped : entry.next kind event = some (some after)) :
    after.Sound := by
  obtain same | ⟨watched, rfl⟩ | ⟨armedFor, rfl, armed, rfl⟩ | ⟨outcome, pending, rfl⟩ :=
    next_cases stepped
  · exact sound.same same
  · have exited : entry.exited.Sound :=
      sound.same ⟨rfl, rfl, rfl, Nat.le_refl _, by simp [BudgetEntry.exited], fun _ => .inl⟩
    exact exited.scheduleRestart kind (sound.noTimer (.inl watched))
      (by simp [BudgetEntry.exited])
  · exact sound.onStableTimer armed ofWorker.1 ofWorker.2
  · exact sound.onRestartTimer kind pending outcome

end

/-- Scheduling a restart does not lower the counter. -/
theorem restartAttempts_le_scheduleRestart
    (kind : SupervisorKind)
    (entry : BudgetEntry) :
    entry.restartAttempts ≤ (entry.scheduleRestart kind).restartAttempts := by
  unfold scheduleRestart
  dsimp only
  split
  next => exact Nat.le_succ _
  next => exact Nat.le_succ _

/-- Neither does a restart timer. -/
theorem restartAttempts_le_onRestartTimer
    (kind : SupervisorKind)
    (entry : BudgetEntry)
    (outcome : WorkerLaunch) :
    entry.restartAttempts ≤ (entry.onRestartTimer kind outcome).restartAttempts := by
  unfold onRestartTimer
  dsimp only
  split
  next => exact Nat.le_refl _
  next =>
    have cleaned : ({ entry with
        restartTimers := entry.restartTimers - 1
        restartTimerId := if kind = .output then false else entry.restartTimerId } :
          BudgetEntry).cleanupWorker.restartAttempts = entry.restartAttempts :=
      (sameBudget_cancelRestartTimer _).attempts
    generalize ({ entry with
      restartTimers := entry.restartTimers - 1
      restartTimerId := if kind = .output then false else entry.restartTimerId } :
        BudgetEntry).cleanupWorker = ready at cleaned ⊢
    rw [← cleaned]
    cases outcome with
    | failed => exact restartAttempts_le_scheduleRestart kind (ready.launch .failed).2
    | forked connects => cases connects <;> exact Nat.le_refl _

theorem eq_stableTimer_of_lowered
    (stepped : entry.next kind event = some (some after))
    (lowered : after.restartAttempts < entry.restartAttempts) :
    event = .stableTimer := by
  obtain same | ⟨_, rfl⟩ | ⟨_, rfl, _⟩ | ⟨outcome, _, rfl⟩ := next_cases stepped
  · exact absurd lowered (Nat.not_lt.mpr same.attempts.ge)
  · exact absurd lowered
      (Nat.not_lt.mpr (restartAttempts_le_scheduleRestart kind entry.exited))
  · rfl
  · exact absurd lowered
      (Nat.not_lt.mpr (restartAttempts_le_onRestartTimer kind entry outcome))

/-- Launches whose attempts increase from one to ten are at most ten. -/
theorem length_le_of_increasing
    {launches : List LaunchRecord}
    (increasing : launches.Pairwise fun earlier later => earlier.attempts < later.attempts)
    (within : ∀ record ∈ launches, 1 ≤ record.attempts ∧ record.attempts ≤ maxRestartAttempts) :
    launches.length ≤ maxRestartAttempts := by
  have nodup : (launches.map (·.attempts)).Nodup :=
    List.pairwise_map.mpr (increasing.imp Nat.ne_of_lt)
  have inside : launches.map (·.attempts) ⊆ List.range' 1 maxRestartAttempts := by
    intro attempts member
    obtain ⟨record, recorded, rfl⟩ := List.mem_map.mp member
    have bounds := within record recorded
    exact List.mem_range'_1.mpr ⟨bounds.1, by omega⟩
  have shorter := (nodup.subperm inside).length_le
  rwa [List.length_map, List.length_range'] at shorter

/-- What the invariant says of the budget. -/
theorem Sound.budgetKept
    (sound : entry.Sound)
    (kind : SupervisorKind) :
    entry.BudgetKept kind where
  lowered _ _ stepped less := eq_stableTimer_of_lowered stepped less
  stable := sound.stable
  increasing := sound.increasing
  relaunches period := by
    refine length_le_of_increasing ?_ fun record member =>
      sound.relaunched record (List.mem_filter.mp member).1
    refine (sound.increasing.tail.filter _).imp_of_mem fun {earlier later} first second less => ?_
    have samePeriod := of_decide_eq_true (List.mem_filter.mp first).2
    exact less (samePeriod.trans (of_decide_eq_true (List.mem_filter.mp second).2).symm)

/-- The first launch. -/
theorem sound_started (connects : Bool) : (started connects).Sound := by
  have first : (started false).Sound := {
    stable := fun _ member => nomatch member
    armed := fun _ some => nomatch some
    oneTimer := Nat.zero_le _
    noTimer := fun _ => rfl
    pending := fun some => absurd some (Nat.lt_irrefl 0)
    past := fun record member => by
      rw [List.mem_singleton.mp member]
      exact Nat.le_refl _
    below := fun record member _ => by
      rw [List.mem_singleton.mp member]
      exact ⟨Nat.le_refl _, fun some => absurd some (Nat.lt_irrefl 0)⟩
    increasing := List.pairwise_singleton _ _
    launched := List.cons_ne_nil _ _
    relaunched := fun _ member => nomatch member }
  cases connects with
  | false => exact first
  | true => exact first.forked rfl rfl rfl rfl rfl fun _ some => .inr (Option.some.inj some).symm

/-- In every run of an entry of either supervisor in which a stable timer is called only while
its worker is there and connected, the restart budget is refunded only by such timers, the
counter is higher at each launch than at those before it since the last one, and at most ten
relaunches follow one another without one. -/
theorem budgetKept_of_reachable
    (kind : SupervisorKind)
    {entry : BudgetEntry}
    (reachable : (system kind).ReachableWhen TimerOfWorker entry) :
    entry.BudgetKept kind := by
  refine Sound.budgetKept ?_ kind
  refine reachable.invariant ?_ ?_
  · rintro _ ⟨connects, rfl⟩
    exact sound_started connects
  · intro before event after sound ofWorker stepped
    obtain ⟨left, happened, same⟩ := Option.bind_eq_some_iff.mp stepped
    exact sound.next ofWorker (happened.trans (congrArg some same))

/-- A worker is stable, then each relaunched one exits soon, until the entry is given up. -/
def stableThenFailing : List BudgetEvent :=
  [.accept, .childExit, .restartTimer (.forked true), .stableTimer] ++
    (List.replicate 10 [.childExit, .restartTimer (.forked false)]).flatten ++
    [.accept, .connectionLost, .childExit]

theorem budgetKept_stableThenFailing :
    ∃ entry, System.run
      (System.guarded TimerOfWorker fun entry event => (entry.next .source event).bind id)
      (started false) stableThenFailing = some entry ∧
      entry.launches.length = 12 ∧ entry.restartAttempts = 11 ∧ entry.restartTimers = 0 ∧
      entry.BudgetKept .source := by
  have runs : (System.run
      (System.guarded TimerOfWorker fun entry event => (entry.next .source event).bind id)
      (started false) stableThenFailing).map (fun entry =>
        (entry.launches.length, entry.restartAttempts, entry.restartTimers)) =
      some (12, 11, 0) := by
    decide +kernel
  obtain ⟨entry, runs, results⟩ := Option.map_eq_some_iff.mp runs
  simp only [Prod.mk.injEq] at results
  exact ⟨entry, runs, results.1, results.2.1, results.2.2,
    budgetKept_of_reachable .source (System.reachableWhen_of_run (.initial ⟨false, rfl⟩) runs)⟩

/-- A worker exits shortly before its stable timer, which is not cancelled and is called while
the entry waits for its restart; this goes on. -/
def refundedByTheDead : List BudgetEvent :=
  (List.replicate 12 [.accept, .childExit, .stableTimer, .restartTimer (.forked false)]).flatten

/-- Workers that all exit are launched again and again, in either supervisor. -/
theorem budget_notKept :
    (∃ entry, (system .source).Reachable entry ∧ ¬ entry.BudgetKept .source) ∧
      ∃ entry, (system .output).Reachable entry ∧ ¬ entry.BudgetKept .output := by
  have runs : ∀ kind, ∃ entry, (system kind).Reachable entry ∧
      (entry.launches.tail.filter (·.period = 0)).length = 12 := by
    intro kind
    have runs : (System.run (fun entry event => (entry.next kind event).bind id)
        (started false) refundedByTheDead).map (fun entry =>
          (entry.launches.tail.filter (·.period = 0)).length) = some 12 := by
      cases kind <;> decide +kernel
    obtain ⟨entry, runs, many⟩ := Option.map_eq_some_iff.mp runs
    exact ⟨entry, System.reachable_of_run (.initial ⟨false, rfl⟩) runs, many⟩
  have tooMany : ∀ {kind : SupervisorKind} {entry : BudgetEntry},
      (entry.launches.tail.filter (·.period = 0)).length = 12 → ¬ entry.BudgetKept kind := by
    intro kind entry many kept
    have few := kept.relaunches 0
    rw [many] at few
    exact absurd few (by decide)
  obtain ⟨source, sourceReached, sourceMany⟩ := runs .source
  obtain ⟨output, outputReached, outputMany⟩ := runs .output
  exact ⟨⟨source, sourceReached, tooMany sourceMany⟩, output, outputReached, tooMany outputMany⟩

end BudgetEntry
end Supervisor
end SbsServer
