import SbsServer.CLib.System
import Mathlib.Logic.Function.Basic

/-!
# Stopping an SRT sink

The locks of the encoder manager: calls of its interface hold the recursive
`pipeline_mutex` from begin to end, the threads of a branch meet in
`srt_sender_mutex`, and `stop_custom_srt_sender` joins the accept thread of the
branch.  A branch is known by an identity that is never used again.
-/

namespace SbsServer
namespace Engine

open CLib

variable {Branch : Type} [DecidableEq Branch]

/-- How `start_srt_session` ends. -/
inductive SessionStart
  | started
  /-- No listener could be made. -/
  | noListener
  /-- The accept thread could not be created. -/
  | noThread
  /-- A later step failed. -/
  | failed
  deriving DecidableEq

/-- What a call still has to do. -/
inductive SinkOperation (Branch : Type)
  /-- `stop_custom_srt_sender` -/
  | stop (branch : Branch)
  /-- `sbs_encoder_manager_add_sink` for an SRT sink. -/
  | add (outcome : SessionStart)
  deriving DecidableEq

/-- Where `stop_custom_srt_sender` is. -/
inductive StopStage
  /-- Before its section of `srt_sender_mutex`. -/
  | locking
  | inside
  /-- Before the listener is closed. -/
  | closing
  /-- In `pthread_join`, if the accept thread was started. -/
  | joining
  deriving DecidableEq

/-- Where `start_custom_srt_sender` is. -/
inductive StartStage
  | locking
  | inside
  /-- Before `pthread_create`. -/
  | creating
  deriving DecidableEq

/-- What a call does just now. -/
inductive Activity (Branch : Type)
  | between
  | stopping (branch : Branch) (stage : StopStage)
  | starting (branch : Branch) (outcome : SessionStart) (stage : StartStage)
  deriving DecidableEq

/-- A call that holds `pipeline_mutex`. -/
structure ManagerCall (Branch : Type) where
  activity : Activity Branch
  rest : List (SinkOperation Branch)
  deriving DecidableEq

/-- Who holds `pipeline_mutex`. -/
inductive PipelineOwner (Branch : Type)
  | manager (call : ManagerCall Branch)
  /-- The accept thread of a branch, in `schedule_srt_late_join_keyframe`. -/
  | accept (branch : Branch)
  /-- Any other section, such as that of a frame. -/
  | other
  deriving DecidableEq

/-- Who holds `srt_sender_mutex`. -/
inductive SenderOwner
  | manager
  | accept
  | sampler
  deriving DecidableEq

/-- Where `custom_srt_accept_thread_main` is. -/
inductive AcceptPlace
  /-- Before the section at the head of the loop. -/
  | checking
  | insideCheck
  /-- In `srt_accept`. -/
  | accepting
  /-- Before the section behind a failed `srt_accept`. -/
  | failed
  | insideFailed
  /-- Before the section that appends the client. -/
  | accepted
  | insideAppend
  /-- In `custom_srt_client_connected`. -/
  | connected
  /-- Waits for `pipeline_mutex`. -/
  | waiting
  /-- In the section of `schedule_srt_late_join_keyframe`. -/
  | scheduling
  | exited
  deriving DecidableEq

/-- The accept thread has appended a client whose keyframe is not scheduled yet. -/
def AcceptPlace.late : AcceptPlace → Bool
  | .connected | .waiting | .scheduling => true
  | _ => false

/-- The sender of a branch. -/
structure BranchSender where
  created : Bool
  srtSenderRunning : Bool
  /-- `srt_listener` is a socket. -/
  hasListener : Bool
  /-- The socket of the listener was not closed. -/
  listens : Bool
  srtAcceptStarted : Bool
  accept : AcceptPlace
  srtSenderMutex : Option SenderOwner
  deriving DecidableEq

/-- The encoder manager with the threads of its branches. -/
structure ManagerState (Branch : Type) where
  pipelineMutex : Option (PipelineOwner Branch)
  branches : Branch → BranchSender

/-- A step of one thread. -/
inductive ManagerStep (Branch : Type)
  /-- `sbs_encoder_manager_remove_sink` locks the pipeline. -/
  | removeSink (branch : Branch)
  /-- `sbs_encoder_manager_update_config` locks the pipeline. -/
  | updateConfig (branches : List Branch) (outcomes : List SessionStart)
  /-- `sbs_encoder_manager_add_sink` locks the pipeline. -/
  | addSink (outcome : SessionStart)
  /-- Some other section of the pipeline begins. -/
  | lockOther
  | unlockOther
  /-- The call that holds the pipeline goes on; a new branch has this identity. -/
  | manager (fresh : Branch)
  /-- The accept thread of a branch goes on; `srt_accept` has this result. -/
  | accept (branch : Branch) (client : Bool)
  /-- The callback of a branch enters or leaves a section. -/
  | sampler (branch : Branch)
  deriving DecidableEq

namespace ManagerState

/-- No sink was added. -/
def init : ManagerState Branch where
  pipelineMutex := none
  branches _ :=
    { created := false
      srtSenderRunning := false
      hasListener := false
      listens := false
      srtAcceptStarted := false
      accept := .exited
      srtSenderMutex := none }

/-- The sender of one branch changes. -/
def set
    (state : ManagerState Branch)
    (branch : Branch)
    (sender : BranchSender) : ManagerState Branch :=
  { state with branches := Function.update state.branches branch sender }

/-- A call begins when the pipeline is free. -/
def begin
    (state : ManagerState Branch)
    (operations : List (SinkOperation Branch)) : Option (ManagerState Branch) :=
  match state.pipelineMutex with
  | none =>
      some { state with
        pipelineMutex := some (.manager { activity := .between, rest := operations }) }
  | some _ => none

/-- The call does something else. -/
def proceed
    (state : ManagerState Branch)
    (activity : Activity Branch)
    (rest : List (SinkOperation Branch)) : ManagerState Branch :=
  { state with pipelineMutex := some (.manager { activity := activity, rest := rest }) }

/-- A step of `stop_custom_srt_sender`. -/
def stopNext
    (state : ManagerState Branch)
    (branch : Branch)
    (stage : StopStage)
    (rest : List (SinkOperation Branch)) : Option (ManagerState Branch) :=
  let sender := state.branches branch
  match stage with
  | .locking =>
      match sender.srtSenderMutex with
      | none =>
          some ((state.set branch { sender with srtSenderMutex := some .manager }).proceed
            (.stopping branch .inside) rest)
      | some _ => none
  | .inside =>
      some ((state.set branch
          { sender with
            srtSenderRunning := false
            hasListener := false
            srtSenderMutex := none }).proceed
        (.stopping branch .closing) rest)
  | .closing =>
      some ((state.set branch { sender with listens := false }).proceed
        (.stopping branch .joining) rest)
  | .joining =>
      if sender.srtAcceptStarted then
        if sender.accept = .exited then
          some ((state.set branch { sender with srtAcceptStarted := false }).proceed
            .between rest)
        else none
      else some (state.proceed .between rest)

/-- A step of `start_custom_srt_sender`.  If the session fails the sender is stopped,
and once more when the branch is freed. -/
def startNext
    (state : ManagerState Branch)
    (branch : Branch)
    (outcome : SessionStart)
    (stage : StartStage)
    (rest : List (SinkOperation Branch)) : Option (ManagerState Branch) :=
  let sender := state.branches branch
  match stage with
  | .locking =>
      if outcome = .noListener then some (state.proceed .between (.stop branch :: rest))
      else
        match sender.srtSenderMutex with
        | none =>
            some ((state.set branch { sender with srtSenderMutex := some .manager }).proceed
              (.starting branch outcome .inside) rest)
        | some _ => none
  | .inside =>
      some ((state.set branch
          { sender with
            srtSenderRunning := true
            hasListener := true
            listens := true
            srtAcceptStarted := false
            srtSenderMutex := none }).proceed
        (.starting branch outcome .creating) rest)
  | .creating =>
      if outcome = .noThread then
        some (state.proceed .between (.stop branch :: .stop branch :: rest))
      else
        some ((state.set branch
            { sender with srtAcceptStarted := true, accept := .checking }).proceed
          .between
          (if outcome = .failed then .stop branch :: .stop branch :: rest else rest))

/-- A step of the call that holds the pipeline. -/
def managerNext
    (state : ManagerState Branch)
    (fresh : Branch) : Option (ManagerState Branch) :=
  match state.pipelineMutex with
  | some (.manager call) =>
      match call.activity with
      | .between =>
          match call.rest with
          | [] => some { state with pipelineMutex := none }
          | .stop branch :: rest => some (state.proceed (.stopping branch .locking) rest)
          | .add outcome :: rest =>
              if (state.branches fresh).created then none
              else
                some ((state.set fresh { state.branches fresh with created := true }).proceed
                  (.starting fresh outcome .locking) rest)
      | .stopping branch stage => state.stopNext branch stage call.rest
      | .starting branch outcome stage => state.startNext branch outcome stage call.rest
  | _ => none

/-- The accept thread locks `srt_sender_mutex`. -/
def acceptLocks
    (state : ManagerState Branch)
    (branch : Branch)
    (place : AcceptPlace) : Option (ManagerState Branch) :=
  match (state.branches branch).srtSenderMutex with
  | none =>
      some (state.set branch
        { state.branches branch with srtSenderMutex := some .accept, accept := place })
  | some _ => none

/-- The accept thread is somewhere else. -/
def acceptAt
    (state : ManagerState Branch)
    (branch : Branch)
    (place : AcceptPlace) : ManagerState Branch :=
  state.set branch { state.branches branch with accept := place }

/-- The accept thread leaves its section of `srt_sender_mutex`. -/
def acceptUnlocks
    (state : ManagerState Branch)
    (branch : Branch)
    (place : AcceptPlace) : ManagerState Branch :=
  state.set branch
    { state.branches branch with srtSenderMutex := none, accept := place }

/-- A step of `custom_srt_accept_thread_main`. -/
def acceptNext
    (state : ManagerState Branch)
    (branch : Branch)
    (client : Bool) : Option (ManagerState Branch) :=
  let sender := state.branches branch
  match sender.accept with
  | .checking => state.acceptLocks branch .insideCheck
  | .insideCheck =>
      some (state.acceptUnlocks branch
        (if sender.srtSenderRunning && sender.hasListener then .accepting else .exited))
  | .accepting =>
      some (state.acceptAt branch (if client && sender.listens then .accepted else .failed))
  | .failed => state.acceptLocks branch .insideFailed
  | .insideFailed =>
      some (state.acceptUnlocks branch
        (if sender.srtSenderRunning then .checking else .exited))
  | .accepted => state.acceptLocks branch .insideAppend
  | .insideAppend =>
      some (state.acceptUnlocks branch
        (if sender.srtSenderRunning then .connected else .checking))
  | .connected => some (state.acceptAt branch .waiting)
  | .waiting =>
      match state.pipelineMutex with
      | none =>
          some { state.acceptAt branch .scheduling with
            pipelineMutex := some (.accept branch) }
      | some _ => none
  | .scheduling =>
      if state.pipelineMutex = some (.accept branch) then
        some { state.acceptAt branch .checking with pipelineMutex := none }
      else none
  | .exited => none

/-- The callback enters or leaves a section of `srt_sender_mutex`. -/
def samplerNext
    (state : ManagerState Branch)
    (branch : Branch) : Option (ManagerState Branch) :=
  let sender := state.branches branch
  match sender.srtSenderMutex with
  | none => some (state.set branch { sender with srtSenderMutex := some .sampler })
  | some .sampler => some (state.set branch { sender with srtSenderMutex := none })
  | some _ => none

/-- A step of one thread. -/
def next (state : ManagerState Branch) :
    ManagerStep Branch → Option (ManagerState Branch)
  | .removeSink branch => state.begin [.stop branch, .stop branch]
  | .updateConfig branches outcomes =>
      state.begin (branches.map .stop ++ branches.map .stop ++ outcomes.map .add)
  | .addSink outcome => state.begin [.add outcome]
  | .lockOther =>
      match state.pipelineMutex with
      | none => some { state with pipelineMutex := some .other }
      | some _ => none
  | .unlockOther =>
      if state.pipelineMutex = some .other then some { state with pipelineMutex := none }
      else none
  | .manager fresh => state.managerNext fresh
  | .accept branch client => state.acceptNext branch client
  | .sampler branch => state.samplerNext branch

end ManagerState

/-- The threads of the encoder manager. -/
def managerSystem (Branch : Type) [DecidableEq Branch] :
    System (ManagerState Branch) (ManagerStep Branch) :=
  System.ofNext (· = .init) ManagerState.next

/-- The mutexes of the manager and its branches. -/
inductive ManagerMutex (Branch : Type)
  | pipeline
  | sender (branch : Branch)
  deriving DecidableEq

namespace ManagerState

/-! ## Waiting -/

/-- The call that holds the pipeline waits in `pthread_join` for the accept thread. -/
def Joins (state : ManagerState Branch) (branch : Branch) : Prop :=
  (∃ rest, state.pipelineMutex =
      some (.manager { activity := .stopping branch .joining, rest := rest })) ∧
    (state.branches branch).srtAcceptStarted = true

/-- The accept thread of a branch waits for a mutex. -/
def AcceptWaits
    (state : ManagerState Branch)
    (branch : Branch) : ManagerMutex Branch → Prop
  | .pipeline => (state.branches branch).accept = .waiting
  | .sender other =>
      other = branch ∧
        ((state.branches branch).accept = .checking ∨
          (state.branches branch).accept = .failed ∨
          (state.branches branch).accept = .accepted)

/-- The call that holds the pipeline holds a mutex. -/
def CallHolds (state : ManagerState Branch) : ManagerMutex Branch → Prop
  | .pipeline => ∃ call, state.pipelineMutex = some (.manager call)
  | .sender branch => (state.branches branch).srtSenderMutex = some .manager

/-- The thread that stops a sender waits for the accept thread, which waits for a mutex
that the stopping thread holds. -/
def Deadlocked (state : ManagerState Branch) : Prop :=
  ∃ branch mutex,
    state.Joins branch ∧ state.AcceptWaits branch mutex ∧ state.CallHolds mutex

/-- The branch whose sender a call is about to stop, in its section. -/
def stopsNow (state : ManagerState Branch) : Option Branch :=
  match state.pipelineMutex with
  | some (.manager { activity := .stopping branch .inside, rest := _ }) => some branch
  | _ => none

/-- A section that stops a sender meets no client whose keyframe is not scheduled. -/
def MeetsNobody (state : ManagerState Branch) : ManagerStep Branch → Prop
  | .manager _ =>
      ∀ branch ∈ state.stopsNow, (state.branches branch).accept.late = false
  | _ => True

/-- The accept thread of a branch will end without the pipeline. -/
structure Stopped (sender : BranchSender) : Prop where
  running : sender.srtSenderRunning = false
  scheduled : sender.accept.late = false
  unlocked : sender.srtSenderMutex ≠ some .manager

/-- Behind its section a call stops a sender that is stopped. -/
def StopsSafely (state : ManagerState Branch) : Prop :=
  ∀ branch stage rest, state.pipelineMutex =
      some (.manager { activity := .stopping branch stage, rest := rest }) →
    stage = .closing ∨ stage = .joining → Stopped (state.branches branch)

variable {state after : ManagerState Branch}

@[simp] theorem set_branches_same
    (branch : Branch)
    (sender : BranchSender) :
    (state.set branch sender).branches branch = sender := by
  simp [set]

theorem set_branches_other
    {branch other : Branch}
    (sender : BranchSender)
    (different : other ≠ branch) :
    (state.set branch sender).branches other = state.branches other := by
  simp [set, different]

/-- A step of another thread keeps stopped senders stopped. -/
theorem StopsSafely.set
    (safe : state.StopsSafely)
    {branch : Branch}
    {sender : BranchSender}
    (keeps : Stopped (state.branches branch) → Stopped sender) :
    (state.set branch sender).StopsSafely := by
  intro other stage rest owner behind
  have stopped := safe other stage rest owner behind
  by_cases same : other = branch
  · rw [same, set_branches_same]
    exact keeps (same ▸ stopped)
  · rw [set_branches_other sender same]
    exact stopped

omit [DecidableEq Branch] in
/-- Without a call nothing is stopped. -/
theorem stopsSafely_of_owner
    (noCall : ∀ call, state.pipelineMutex ≠ some (.manager call)) :
    state.StopsSafely :=
  fun _ _ _ owner _ => absurd owner (noCall _)

variable {rest : List (SinkOperation Branch)}

omit [DecidableEq Branch] in
/-- Where a call is not behind the section of a stop, nothing is stopped. -/
theorem stopsSafely_proceed
    {activity : Activity Branch}
    (elsewhere : ∀ branch, activity ≠ .stopping branch .closing ∧
      activity ≠ .stopping branch .joining) :
    (state.proceed activity rest).StopsSafely := by
  intro branch stage others owner behind
  have same : activity = .stopping branch stage := by
    cases owner
    rfl
  obtain closing | joining := behind
  · exact absurd (closing ▸ same) (elsewhere branch).1
  · exact absurd (joining ▸ same) (elsewhere branch).2

omit [DecidableEq Branch] in
theorem stopsSafely_begin
    {operations : List (SinkOperation Branch)}
    (begun : state.begin operations = some after) :
    after.StopsSafely := by
  unfold ManagerState.begin at begun
  split at begun
  · cases begun
    exact stopsSafely_proceed (by simp)
  · cases begun

variable {branch : Branch}

theorem StopsSafely.stopNext
    (safe : state.StopsSafely)
    {stage : StopStage}
    (owner : state.pipelineMutex =
      some (.manager { activity := .stopping branch stage, rest := rest }))
    (meetsNobody : stage = .inside → (state.branches branch).accept.late = false)
    (stepped : state.stopNext branch stage rest = some after) :
    after.StopsSafely := by
  cases stage with
  | locking =>
      simp only [ManagerState.stopNext] at stepped
      split at stepped
      · cases stepped
        exact stopsSafely_proceed (by simp)
      · cases stepped
  | inside =>
      simp only [ManagerState.stopNext] at stepped
      cases stepped
      intro other stage others sameOwner behind
      have same : other = branch := by
        cases sameOwner
        rfl
      rw [same]
      show Stopped ((state.set branch _).branches branch)
      rw [set_branches_same]
      exact {
        running := rfl
        scheduled := meetsNobody rfl
        unlocked := by simp }
  | closing =>
      simp only [ManagerState.stopNext] at stepped
      cases stepped
      have stopped := safe branch .closing rest owner (.inl rfl)
      intro other stage others sameOwner behind
      have same : other = branch := by
        cases sameOwner
        rfl
      rw [same]
      show Stopped ((state.set branch _).branches branch)
      rw [set_branches_same]
      exact {
        running := stopped.running
        scheduled := stopped.scheduled
        unlocked := stopped.unlocked }
  | joining =>
      simp only [ManagerState.stopNext] at stepped
      split at stepped
      · split at stepped
        · cases stepped
          exact stopsSafely_proceed (by simp)
        · cases stepped
      · cases stepped
        exact stopsSafely_proceed (by simp)

theorem stopsSafely_startNext
    {outcome : SessionStart}
    {stage : StartStage}
    (stepped : state.startNext branch outcome stage rest = some after) :
    after.StopsSafely := by
  cases stage with
  | locking =>
      simp only [ManagerState.startNext] at stepped
      split at stepped
      · cases stepped
        exact stopsSafely_proceed (by simp)
      · split at stepped
        · cases stepped
          exact stopsSafely_proceed (by simp)
        · cases stepped
  | inside =>
      simp only [ManagerState.startNext] at stepped
      cases stepped
      exact stopsSafely_proceed (by simp)
  | creating =>
      simp only [ManagerState.startNext] at stepped
      split at stepped
      · cases stepped
        exact stopsSafely_proceed (by simp)
      · cases stepped
        exact stopsSafely_proceed (by simp)

section

variable (safe : state.StopsSafely)
include safe

theorem StopsSafely.managerNext
    {fresh : Branch}
    (meetsNobody : state.MeetsNobody (.manager fresh))
    (stepped : state.managerNext fresh = some after) :
    after.StopsSafely := by
  simp only [ManagerState.managerNext] at stepped
  split at stepped
  next call owner =>
    obtain ⟨activity, rest⟩ := call
    cases activity with
    | between =>
        cases rest with
        | nil =>
            cases stepped
            exact stopsSafely_of_owner (by simp)
        | cons operation rest =>
            cases operation with
            | stop branch =>
                cases stepped
                exact stopsSafely_proceed (by simp)
            | add outcome =>
                simp only at stepped
                split at stepped
                · cases stepped
                · cases stepped
                  exact stopsSafely_proceed (by simp)
    | stopping branch stage =>
        refine safe.stopNext owner ?_ stepped
        intro inside
        apply meetsNobody branch
        simp [stopsNow, owner, inside]
    | starting branch outcome stage => exact stopsSafely_startNext stepped
  next => cases stepped

theorem StopsSafely.acceptLocks
    {place : AcceptPlace}
    (scheduled : place.late = false)
    (stepped : state.acceptLocks branch place = some after) :
    after.StopsSafely := by
  unfold ManagerState.acceptLocks at stepped
  split at stepped
  · cases stepped
    apply safe.set
    intro stopped
    exact {
      running := stopped.running
      scheduled := scheduled
      unlocked := by simp }
  · cases stepped

theorem StopsSafely.acceptNext
    {client : Bool}
    (stepped : state.acceptNext branch client = some after) :
    after.StopsSafely := by
  have unlocks : ∀ place : AcceptPlace,
      (Stopped (state.branches branch) → place.late = false) →
        (state.acceptUnlocks branch place).StopsSafely := by
    intro place scheduled
    apply safe.set
    intro stopped
    exact {
      running := stopped.running
      scheduled := scheduled stopped
      unlocked := by simp }
  have moves : ∀ place : AcceptPlace,
      (Stopped (state.branches branch) → place.late = false) →
        (state.acceptAt branch place).StopsSafely := by
    intro place scheduled
    apply safe.set
    intro stopped
    exact {
      running := stopped.running
      scheduled := scheduled stopped
      unlocked := stopped.unlocked }
  simp only [ManagerState.acceptNext] at stepped
  split at stepped
  next => exact safe.acceptLocks rfl stepped
  next =>
    cases stepped
    apply unlocks
    intro stopped
    rw [stopped.running]
    rfl
  next =>
    cases stepped
    apply moves
    intro stopped
    split
    · rfl
    · rfl
  next => exact safe.acceptLocks rfl stepped
  next =>
    cases stepped
    apply unlocks
    intro stopped
    rw [stopped.running]
    rfl
  next => exact safe.acceptLocks rfl stepped
  next =>
    cases stepped
    apply unlocks
    intro stopped
    rw [stopped.running]
    rfl
  next connected =>
    cases stepped
    apply moves
    intro stopped
    have scheduled := stopped.scheduled
    rw [connected] at scheduled
    cases scheduled
  next =>
    split at stepped
    · cases stepped
      exact stopsSafely_of_owner (by simp)
    · cases stepped
  next =>
    split at stepped
    · cases stepped
      exact stopsSafely_of_owner (by simp)
    · cases stepped
  next => cases stepped

theorem StopsSafely.samplerNext
    (stepped : state.samplerNext branch = some after) :
    after.StopsSafely := by
  simp only [ManagerState.samplerNext] at stepped
  split at stepped
  · cases stepped
    apply safe.set
    intro stopped
    exact { running := stopped.running, scheduled := stopped.scheduled, unlocked := by simp }
  · cases stepped
    apply safe.set
    intro stopped
    exact { running := stopped.running, scheduled := stopped.scheduled, unlocked := by simp }
  · cases stepped

/-- Every step that meets nobody keeps stops safe. -/
theorem StopsSafely.next
    {step : ManagerStep Branch}
    (meetsNobody : state.MeetsNobody step)
    (stepped : state.next step = some after) :
    after.StopsSafely := by
  cases step with
  | removeSink branch => exact stopsSafely_begin stepped
  | updateConfig branches outcomes => exact stopsSafely_begin stepped
  | addSink outcome => exact stopsSafely_begin stepped
  | lockOther =>
      simp only [ManagerState.next] at stepped
      split at stepped
      · cases stepped
        exact stopsSafely_of_owner (by simp)
      · cases stepped
  | unlockOther =>
      simp only [ManagerState.next] at stepped
      split at stepped
      · cases stepped
        exact stopsSafely_of_owner (by simp)
      · cases stepped
  | manager fresh => exact safe.managerNext meetsNobody stepped
  | accept branch client => exact safe.acceptNext stepped
  | sampler branch => exact safe.samplerNext stepped

end

/-! ## Runs -/

/-- If no section that stops a sender meets a client whose keyframe is still to be
scheduled, then the stopping thread never waits for an accept thread that waits for one
of its mutexes. -/
theorem stop_never_deadlocks
    {state : ManagerState Branch}
    (reachable : (managerSystem Branch).ReachableWhen MeetsNobody state) :
    ¬ state.Deadlocked := by
  have safe : state.StopsSafely := by
    refine reachable.invariant ?_ ?_
    · intro state isInitial
      rw [show state = init from isInitial]
      exact stopsSafely_of_owner (by simp [init])
    · intro state step after safe meetsNobody stepped
      exact safe.next meetsNobody stepped
  intro deadlocked
  obtain ⟨branch, mutex, ⟨⟨rest, owner⟩, _⟩, waits, holds⟩ := deadlocked
  have stopped := safe branch .joining rest owner (.inr rfl)
  cases mutex with
  | pipeline =>
      have scheduled := stopped.scheduled
      rw [show (state.branches branch).accept = .waiting from waits] at scheduled
      cases scheduled
  | sender other =>
      obtain ⟨same, _⟩ := waits
      rw [same] at holds
      exact stopped.unlocked holds

/-- A call stops a branch behind its section, and the accept thread of the branch still
has to schedule a keyframe. -/
structure MetCaller (branch : Branch) (state : ManagerState Branch) : Prop where
  stopping : ∃ stage rest, (stage = .closing ∨ stage = .joining) ∧
    state.pipelineMutex =
      some (.manager { activity := .stopping branch stage, rest := rest })
  started : (state.branches branch).srtAcceptStarted = true
  caller : (state.branches branch).accept = .connected ∨
    (state.branches branch).accept = .waiting

theorem MetCaller.set
    {branch other : Branch}
    {sender : BranchSender}
    (met : state.MetCaller branch)
    (keeps : other = branch →
      sender.srtAcceptStarted = true ∧
        (sender.accept = .connected ∨ sender.accept = .waiting)) :
    (state.set other sender).MetCaller branch := by
  by_cases same : branch = other
  · obtain ⟨started, caller⟩ := keeps same.symm
    cases same
    exact {
      stopping := met.stopping
      started := by simpa using started
      caller := by simpa using caller }
  · exact {
      stopping := met.stopping
      started := by simpa [set_branches_other sender same] using met.started
      caller := by simpa [set_branches_other sender same] using met.caller }

theorem MetCaller.acceptLocks
    {branch other : Branch}
    {place : AcceptPlace}
    (met : state.MetCaller branch)
    (different : other ≠ branch)
    (stepped : state.acceptLocks other place = some after) :
    after.MetCaller branch := by
  unfold ManagerState.acceptLocks at stepped
  split at stepped
  · cases stepped
    exact met.set fun same => absurd same different
  · cases stepped

/-- A stop that meets a caller never ends: the accept thread waits for the pipeline that
the stopping thread holds until the accept thread ends. -/
theorem MetCaller.next
    {step : ManagerStep Branch}
    (met : state.MetCaller branch)
    (stepped : state.next step = some after) :
    after.MetCaller branch := by
  obtain ⟨stage, rest, behind, owner⟩ := met.stopping
  cases step with
  | removeSink other => simp [ManagerState.next, ManagerState.begin, owner] at stepped
  | updateConfig branches outcomes =>
      simp [ManagerState.next, ManagerState.begin, owner] at stepped
  | addSink outcome => simp [ManagerState.next, ManagerState.begin, owner] at stepped
  | lockOther => simp [ManagerState.next, owner] at stepped
  | unlockOther => simp [ManagerState.next, owner] at stepped
  | manager fresh =>
      simp only [ManagerState.next, ManagerState.managerNext, owner] at stepped
      obtain closing | joining := behind
      · rw [closing] at stepped
        simp only [ManagerState.stopNext] at stepped
        cases stepped
        have kept := @met.set _ _ _ _ branch
          { state.branches branch with listens := false }
          fun _ => ⟨met.started, met.caller⟩
        exact {
          stopping := ⟨.joining, rest, .inr rfl, rfl⟩
          started := kept.started
          caller := kept.caller }
      · have notExited : (state.branches branch).accept ≠ .exited := by
          intro exited
          have caller := met.caller
          rw [exited] at caller
          simp at caller
        simp [joining, ManagerState.stopNext, met.started, notExited] at stepped
  | accept other client =>
      by_cases same : other = branch
      · cases same
        simp only [ManagerState.next, ManagerState.acceptNext] at stepped
        obtain connected | waiting := met.caller
        · rw [connected] at stepped
          cases stepped
          exact met.set fun _ => ⟨met.started, .inr rfl⟩
        · rw [waiting] at stepped
          simp [owner] at stepped
      · have moves : ∀ sender, (state.set other sender).MetCaller branch :=
          fun sender => met.set fun isSame => absurd isSame same
        simp only [ManagerState.next, ManagerState.acceptNext] at stepped
        split at stepped
        next => exact met.acceptLocks same stepped
        next =>
          cases stepped
          exact moves _
        next =>
          cases stepped
          exact moves _
        next => exact met.acceptLocks same stepped
        next =>
          cases stepped
          exact moves _
        next => exact met.acceptLocks same stepped
        next =>
          cases stepped
          exact moves _
        next =>
          cases stepped
          exact moves _
        next => simp [owner] at stepped
        next => simp [owner] at stepped
        next => cases stepped
  | sampler other =>
      simp only [ManagerState.next, ManagerState.samplerNext] at stepped
      split at stepped
      · cases stepped
        exact met.set fun same => by
          rw [same]
          exact ⟨met.started, met.caller⟩
      · cases stepped
        exact met.set fun same => by
          rw [same]
          exact ⟨met.started, met.caller⟩
      · cases stepped

/-- However the threads go on, the pipeline is never free again. -/
theorem stop_that_meets_caller_never_ends
    {branch : Branch}
    {steps : List (ManagerStep Branch)}
    (met : state.MetCaller branch)
    (runs : System.run ManagerState.next state steps = some after) :
    after.pipelineMutex ≠ none := by
  induction steps generalizing state with
  | nil =>
      cases runs
      obtain ⟨stage, rest, _, owner⟩ := met.stopping
      simp [owner]
  | cons step rest ih =>
      obtain ⟨middle, stepped, restRuns⟩ := Option.bind_eq_some_iff.mp runs
      exact ih (met.next stepped) restRuns

/-- The accept thread of the sink goes on to wait for the pipeline. -/
theorem stop_that_meets_caller_never_ends_waiting :
    let start : ManagerState Nat := init
    let state : ManagerState Nat := {
      branches := fun _ => { start.branches 0 with
        srtAcceptStarted := true
        accept := .connected }
      pipelineMutex := some (.manager { activity := .stopping 0 .joining, rest := [] }) }
    ∃ after, System.run ManagerState.next state [.accept 0 true] = some after ∧
      after.pipelineMutex ≠ none := by
  intro start state
  have met : state.MetCaller 0 := ⟨⟨.joining, [], .inr rfl, rfl⟩, rfl, .inl rfl⟩
  obtain ⟨after, runs⟩ := Option.isSome_iff_exists.mp
    (by rfl : (System.run ManagerState.next state [.accept 0 true]).isSome)
  exact ⟨after, runs, stop_that_meets_caller_never_ends met runs⟩

/-- A sink is added and its accept thread has accepted a caller. -/
def addedSink : List (ManagerStep Nat) :=
  [.addSink .started] ++ List.replicate 5 (.manager 0) ++ List.replicate 3 (.accept 0 true)

/-- `sbs_encoder_manager_remove_sink` up to the join. -/
def removedSink : List (ManagerStep Nat) :=
  .removeSink 0 :: List.replicate 4 (.manager 0)

instance (state : ManagerState Branch) : (step : ManagerStep Branch) →
    Decidable (state.MeetsNobody step)
  | .manager _ =>
      inferInstanceAs (Decidable
        (∀ branch ∈ state.stopsNow, (state.branches branch).accept.late = false))
  | .removeSink _ | .updateConfig _ _ | .addSink _ | .lockOther | .unlockOther
  | .accept _ _ | .sampler _ => .isTrue trivial

/-- A caller that is not appended yet does not block the stop. -/
theorem stop_never_deadlocks_accepted :
    ∃ state : ManagerState Nat,
      (managerSystem Nat).ReachableWhen MeetsNobody state ∧ state.Joins 0 ∧
        ¬ state.Deadlocked := by
  have computed :
      (System.run (System.guarded MeetsNobody ManagerState.next) init
          (addedSink ++ removedSink)).map
          (fun state => decide (state.pipelineMutex =
              some (.manager { activity := .stopping 0 .joining, rest := [.stop 0] }) ∧
            (state.branches 0).srtAcceptStarted = true)) =
        some true := by
    decide
  obtain ⟨state, runs, fields⟩ := Option.map_eq_some_iff.mp computed
  obtain ⟨owner, started⟩ := of_decide_eq_true fields
  have reachable := @System.reachableWhen_of_run _ _ MeetsNobody _ (· = init) _ _ _ _
    (.initial rfl) runs
  exact ⟨state, reachable, ⟨⟨_, owner⟩, started⟩, stop_never_deadlocks reachable⟩

/-- A sink is removed just after a caller was appended: the stopping thread holds the
pipeline and joins the accept thread, which waits for the pipeline. -/
theorem removed_sink_meets_caller :
    ∃ state : ManagerState Nat,
      (managerSystem Nat).Reachable state ∧ state.Deadlocked := by
  have computed :
      (System.run ManagerState.next init
          (addedSink ++ [.accept 0 true, .accept 0 true] ++ removedSink ++ [.accept 0 true])).map
          (fun state => decide (state.pipelineMutex =
              some (.manager { activity := .stopping 0 .joining, rest := [.stop 0] }) ∧
            (state.branches 0).srtAcceptStarted = true ∧
            (state.branches 0).accept = .waiting)) =
        some true := by
    decide
  obtain ⟨state, runs, fields⟩ := Option.map_eq_some_iff.mp computed
  obtain ⟨owner, started, waits⟩ := of_decide_eq_true fields
  exact ⟨state, System.reachable_of_run (.initial rfl) runs, 0, .pipeline,
    ⟨⟨_, owner⟩, started⟩, waits, ⟨_, owner⟩⟩

end ManagerState
end Engine
end SbsServer
