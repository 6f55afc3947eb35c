import SbsServer.CLib.System
import SbsServer.CLib.LateStore
import SbsServer.Engine.SrtRelayStream

/-!
# Callers of an SRT sink

The accept thread appends clients, the callback of the app sink drops those that
fail, and the control thread starts and stops the sender.  Each changes the client
list in a section of `srt_sender_mutex` and stores the number of clients that it saw
there in `srt_caller_count` after it has left the section.
-/

namespace SbsServer
namespace Engine

open CLib

/-- A number of callers that is not stored yet. -/
abbrev CallerCount := CLib.Stamped Nat

/-- Where `custom_srt_accept_thread_main` is. -/
inductive AcceptStage
  /-- Before the section that reads `srt_sender_running`. -/
  | checking
  /-- In `srt_accept`. -/
  | accepting
  /-- `srt_accept` failed. -/
  | failed
  /-- Before the section that appends a client. -/
  | accepted (client : Nat)
  /-- In `custom_srt_client_connected`, before the count is stored. -/
  | connected (count : CallerCount)
  /-- In `schedule_srt_late_join_keyframe`. -/
  | scheduling
  | exited
  deriving DecidableEq

/-- Where `on_srt_ts_sample` is. -/
inductive SampleStage
  | idle
  /-- In `custom_srt_clients_removed`, before the count is stored. -/
  | removed (count : CallerCount)
  /-- Nobody is left; before `drop_until_keyframe` is set. -/
  | dropping
  /-- Before the section that clears the buffers. -/
  | clearing
  /-- Before `flush_srt_session`. -/
  | flushing
  deriving DecidableEq

/-- Where the thread is that starts and stops the session. -/
inductive ControlStage
  | stopped
  | running
  /-- In `stop_custom_srt_sender`, behind its section. -/
  | stopping (count : CallerCount)
  /-- The sender is stopped, the streaming pipeline is not. -/
  | draining
  deriving DecidableEq

/-- What happens to the callers of a branch. -/
inductive CallerEvent
  /-- `start_custom_srt_sender` -/
  | start
  /-- The accept thread reads `srt_sender_running`. -/
  | check
  /-- `srt_accept` returns. -/
  | accept (client : Option Nat)
  /-- The accept thread appends its client. -/
  | append
  /-- The accept thread stores its count. -/
  | storeConnected
  /-- The accept thread asks for a keyframe. -/
  | schedule
  /-- The callback sends a sample. -/
  | sample (data : List UInt8) (answers : SendAnswers)
  /-- The callback stores its count. -/
  | storeRemoved
  /-- The callback sets `drop_until_keyframe`. -/
  | drop
  /-- The callback clears the buffers. -/
  | clear
  /-- The callback flushes the session. -/
  | flush
  /-- The section of `stop_custom_srt_sender`. -/
  | stop
  /-- The accept thread is joined and the count is reset. -/
  | joined
  /-- The streaming pipeline is stopped. -/
  | drained

/-- The callers of a branch.  The last three fields are a history: the number of
sections that changed the client list, the section whose count was stored last and
the clients that were connected when a cleanup threw data away. -/
structure CallerState where
  control : ControlStage
  accept : AcceptStage
  sampler : SampleStage
  sender : SrtSender
  listening : Bool
  srtCallerCount : Nat
  dropUntilKeyframe : Bool
  sections : Nat
  storedSection : Nat
  clearedFor : List Nat

/-- The buffers are emptied. -/
def SrtSender.clearBuffers (sender : SrtSender) : SrtSender :=
  { sender with srtVideoTsBacklog := [], srtTsInput := [], srtSendPayload := [] }

namespace CallerState

/-- No session was started. -/
def init : CallerState where
  control := .stopped
  accept := .exited
  sampler := .idle
  sender :=
    { srtSenderRunning := false
      srtClients := []
      srtTsInput := []
      srtVideoTsBacklog := []
      srtSendPayload := []
      srtSenderBytesSent := 0
      srtSenderSendFailures := 0
      srtSenderPacketsSent := 0
      srtSenderPacketsDropped := 0
      removed := 0
      messages := []
      delivered := [] }
  listening := false
  srtCallerCount := 0
  dropUntilKeyframe := true
  sections := 0
  storedSection := 0
  clearedFor := []

/-- A count is stored. -/
def store (count : CallerCount) (state : CallerState) : CallerState :=
  { state with srtCallerCount := count.value, storedSection := count.stamp }

/-- The count that a section which changes the clients sees. -/
def seen (state : CallerState) (sender : SrtSender) : CallerCount where
  value := sender.srtClients.length
  stamp := state.sections + 1

/-- A section that changes the clients. -/
def change (sender : SrtSender) (state : CallerState) : CallerState :=
  { state with sender := sender, sections := state.sections + 1 }

/-- The section of `on_srt_ts_sample`. -/
def sampleSection
    (data : List UInt8)
    (answers : SendAnswers)
    (state : CallerState) : CallerState :=
  if state.sender.srtSenderRunning && !state.sender.srtClients.isEmpty then
    let sent := SrtSender.customSrtSendInterleavedLocked answers
      { state.sender with removed := 0 } data
    if 0 < sent.removed then
      { state.change sent with sampler := .removed (state.seen sent) }
    else { state with sender := sent }
  else { state with sender := state.sender.clearBuffers }

/-- `start_srt_session` up to the accept thread. -/
def startSender (state : CallerState) : CallerState :=
  { state with
    control := .running
    accept := .checking
    sender :=
      { state.sender.clearBuffers with
        srtClients := []
        srtSenderRunning := true
        srtSenderBytesSent := 0
        srtSenderSendFailures := 0
        srtSenderPacketsSent := 0
        srtSenderPacketsDropped := 0 }
    listening := true
    srtCallerCount := 0
    dropUntilKeyframe := true
    sections := state.sections + 1
    storedSection := state.sections + 1 }

/-- The section of `stop_custom_srt_sender`. -/
def stopSection (state : CallerState) : CallerState :=
  let sender :=
    { state.sender.clearBuffers with srtClients := [], srtSenderRunning := false }
  { state.change sender with control := .stopping (state.seen sender), listening := false }

/-- A step of one of the three threads. -/
def next (state : CallerState) : CallerEvent → Option CallerState
  | .start =>
      if state.control = .stopped ∧ state.accept = .exited ∧ state.sampler = .idle then
        some state.startSender
      else none
  | .check =>
      match state.accept with
      | .checking =>
          if state.sender.srtSenderRunning && state.listening then
            some { state with accept := .accepting }
          else some { state with accept := .exited }
      | .failed =>
          if state.sender.srtSenderRunning then some { state with accept := .checking }
          else some { state with accept := .exited }
      | _ => none
  | .accept client =>
      match state.accept, client with
      | .accepting, some client => some { state with accept := .accepted client }
      | .accepting, none => some { state with accept := .failed }
      | _, _ => none
  | .append =>
      match state.accept with
      | .accepted client =>
          if state.sender.srtSenderRunning then
            let sender :=
              { state.sender with srtClients := state.sender.srtClients ++ [client] }
            some { state.change sender with accept := .connected (state.seen sender) }
          else some { state with accept := .checking }
      | _ => none
  | .storeConnected =>
      match state.accept with
      | .connected count => some { state.store count with accept := .scheduling }
      | _ => none
  | .schedule =>
      if state.accept = .scheduling then
        some { state with accept := .checking, dropUntilKeyframe := true }
      else none
  | .sample data answers =>
      if state.control ≠ .stopped ∧ state.sampler = .idle then
        some (state.sampleSection data answers)
      else none
  | .storeRemoved =>
      match state.sampler with
      | .removed count =>
          some { state.store count with
            sampler := if count.value = 0 then .dropping else .idle }
      | _ => none
  | .drop =>
      if state.sampler = .dropping then
        some { state with sampler := .clearing, dropUntilKeyframe := true }
      else none
  | .clear =>
      if state.sampler = .clearing then
        some { state with
          sampler := .flushing
          sender := state.sender.clearBuffers
          clearedFor := state.clearedFor ++ state.sender.srtClients }
      else none
  | .flush =>
      if state.sampler = .flushing then
        some { state with
          sampler := .idle
          clearedFor := state.clearedFor ++ state.sender.srtClients }
      else none
  | .stop => if state.control = .running then some state.stopSection else none
  | .joined =>
      match state.control with
      | .stopping count =>
          if state.accept = .exited then
            some { state.store count with control := .draining }
          else none
      | _ => none
  | .drained =>
      if state.control = .draining ∧ state.sampler = .idle then
        some { state with control := .stopped }
      else none

end CallerState

/-- The threads that deal with the callers of a branch. -/
def callerSystem : System CallerState CallerEvent :=
  System.ofNext (· = .init) CallerState.next

/-! ## Counts that are not stored yet -/

/-- The count of the accept thread. -/
def AcceptStage.pending : AcceptStage → Option CallerCount
  | .connected count => some count
  | _ => none

/-- The count of the callback. -/
def SampleStage.pending : SampleStage → Option CallerCount
  | .removed count => some count
  | _ => none

/-- The count of the control thread. -/
def ControlStage.pending : ControlStage → Option CallerCount
  | .stopping count => some count
  | _ => none

/-- The callback cleans up behind the last caller. -/
def SampleStage.cleansUp : SampleStage → Bool
  | .idle => false
  | .removed count => count.value == 0
  | .dropping | .clearing | .flushing => true

namespace CallerState

/-- No call that changed the clients is in progress. -/
def Quiet (state : CallerState) : Prop :=
  state.accept.pending = none ∧ state.sampler = .idle ∧ state.control.pending = none

/-- `push_srt_session_packet` withholds video. -/
def withholdsVideo (state : CallerState) : Bool :=
  state.srtCallerCount ≤ 0

/-- The steps in order: a count is not stored after one that was seen in a later
section, and no caller is appended while the callback cleans up. -/
def InOrder (state : CallerState) : CallerEvent → Prop
  | .storeConnected =>
      ∀ count, state.accept.pending = some count → state.storedSection < count.stamp
  | .storeRemoved =>
      ∀ count, state.sampler.pending = some count → state.storedSection < count.stamp
  | .append => state.sender.srtSenderRunning = true → state.sampler.cleansUp = false
  | _ => True

/-- `srt_caller_count` as a register of the number of clients. -/
def stores (state : CallerState) : LateStores Nat where
  current := state.sender.srtClients.length
  sections := state.sections
  register := state.srtCallerCount
  storedStamp := state.storedSection
  pending :=
    state.accept.pending.toList ++ state.sampler.pending.toList ++
      state.control.pending.toList

theorem mem_pending
    {state : CallerState}
    {late : CallerCount} :
    late ∈ state.stores.pending ↔
      state.accept.pending = some late ∨ state.sampler.pending = some late ∨
        state.control.pending = some late := by
  simp [stores]

/-- The count and the cleanups. -/
structure Counted (state : CallerState) : Prop where
  agrees : state.stores.Agrees
  /-- The control thread stores the count of the last section. -/
  stopped : ∀ count, state.control.pending = some count → count.stamp = state.sections
  /-- A stopping session has no clients. -/
  running : state.sender.srtSenderRunning = true → state.control = .running
  cleansUp : state.sampler.cleansUp = true → state.sender.srtClients = []
  cleared : state.clearedFor = []

theorem Counted.init : CallerState.init.Counted where
  agrees := .reset rfl rfl rfl
  stopped := by simp [CallerState.init, ControlStage.pending]
  running := by simp [CallerState.init]
  cleansUp := by simp [CallerState.init, SampleStage.cleansUp]
  cleared := rfl

variable {state after : CallerState}

section

variable (counted : state.Counted)
include counted

/-- A step that stores nothing and does not change the number of clients. -/
theorem Counted.frame
    (length : after.sender.srtClients.length = state.sender.srtClients.length)
    (running : after.sender.srtSenderRunning = state.sender.srtSenderRunning)
    (sections : after.sections = state.sections)
    (register : after.srtCallerCount = state.srtCallerCount)
    (storedSection : after.storedSection = state.storedSection)
    (accept : after.accept.pending = state.accept.pending)
    (sampler : after.sampler.pending = state.sampler.pending)
    (control : after.control.pending = state.control.pending)
    (stage : state.control = .running → after.control = .running)
    (cleansUp : after.sampler.cleansUp = true → state.sampler.cleansUp = true)
    (cleared : after.clearedFor = []) :
    after.Counted where
  agrees := by
    apply counted.agrees.unchanged
    · exact length
    · exact sections
    · exact register
    · exact storedSection
    · simp [stores, accept, sampler, control]
  stopped count pending := by
    rw [sections]
    exact counted.stopped count (control ▸ pending)
  running isRunning := stage (counted.running (running ▸ isRunning))
  cleansUp cleaning := by
    apply List.eq_nil_of_length_eq_zero
    rw [length, counted.cleansUp (cleansUp cleaning), List.length_nil]
  cleared := cleared

theorem Counted.acceptMoves
    {stage : AcceptStage}
    (before : state.accept.pending = none)
    (later : stage.pending = none) :
    ({ state with accept := stage } : CallerState).Counted := by
  apply counted.frame
  all_goals first | rfl | exact id | skip
  · exact later.trans before.symm
  · exact counted.cleared

/-- The callback moves on without a count. -/
theorem Counted.sampleMoves
    {stage : SampleStage}
    {dropUntilKeyframe : Bool}
    (before : state.sampler.pending = none)
    (later : stage.pending = none)
    (cleansUp : stage.cleansUp = true → state.sampler.cleansUp = true)
    (cleared : state.clearedFor = []) :
    ({ state with sampler := stage, dropUntilKeyframe := dropUntilKeyframe } :
      CallerState).Counted := by
  apply counted.frame
  all_goals first | rfl | exact id | skip
  · exact later.trans before.symm
  · exact cleansUp
  · exact cleared

theorem Counted.startSender
    (idle : state.sampler = .idle) :
    state.startSender.Counted where
  agrees := by
    refine .reset rfl rfl ?_
    simp [stores, CallerState.startSender, AcceptStage.pending, ControlStage.pending,
      SampleStage.pending, idle]
  stopped := by simp [CallerState.startSender, ControlStage.pending]
  running _ := rfl
  cleansUp _ := rfl
  cleared := counted.cleared

theorem Counted.appendClient
    {client : Nat}
    (accepted : state.accept = .accepted client)
    (running : state.sender.srtSenderRunning = true)
    (notCleaning : state.sampler.cleansUp = false) :
    let sender := { state.sender with srtClients := state.sender.srtClients ++ [client] }
    ({ state.change sender with accept := .connected (state.seen sender) } :
      CallerState).Counted := by
  intro sender
  have controlRuns := counted.running running
  exact {
    agrees := by
      apply @counted.agrees.change _ _ _ (state.seen sender)
      · rfl
      · rfl
      · rfl
      · intro other
        simp [stores, change, accepted, AcceptStage.pending]
    stopped := by simp [change, controlRuns, ControlStage.pending]
    running := fun _ => controlRuns
    cleansUp := by simp [change, notCleaning]
    cleared := counted.cleared }

theorem Counted.sampleSection
    (idle : state.sampler = .idle)
    (data : List UInt8)
    (answers : SendAnswers) :
    (state.sampleSection data answers).Counted := by
  have frame : ∀ sender : SrtSender,
      sender.srtClients.length = state.sender.srtClients.length →
      sender.srtSenderRunning = state.sender.srtSenderRunning →
        ({ state with sender := sender } : CallerState).Counted := by
    intro sender length running
    apply counted.frame length running
    all_goals first | rfl | exact id | skip
    exact counted.cleared
  have accounts := (SrtSender.keptBySending_accounts answers).sendInterleaved
    { state.sender with removed := 0 } data
  dsimp only [CallerState.sampleSection]
  split
  next active =>
    have running : state.sender.srtSenderRunning = true := by
      rw [Bool.and_eq_true] at active
      exact active.1
    have controlRuns := counted.running running
    split
    next some =>
      exact {
        agrees := by
          apply @counted.agrees.change _ _ _ (state.seen
            (SrtSender.customSrtSendInterleavedLocked answers
              { state.sender with removed := 0 } data))
          · rfl
          · rfl
          · rfl
          · intro other
            simp [stores, change, idle, controlRuns, SampleStage.pending,
              ControlStage.pending, or_comm]
        stopped := by simp [change, controlRuns, ControlStage.pending]
        running := fun _ => controlRuns
        cleansUp := by
          intro cleaning
          have nobody := beq_iff_eq.mp cleaning
          exact List.eq_nil_of_length_eq_zero nobody
        cleared := counted.cleared }
    next none =>
      apply frame
      · have length := accounts.2
        dsimp only at length
        omega
      · exact accounts.1
  next =>
    apply frame
    · rfl
    · rfl

theorem Counted.stopSection
    (running : state.control = .running) :
    state.stopSection.Counted where
  agrees := by
    apply @counted.agrees.change _ _ _ ⟨0, state.sections + 1⟩
    · rfl
    · rfl
    · rfl
    · intro other
      simp only [stores, CallerState.stopSection, change, seen, running, ControlStage.pending,
        List.mem_append, Option.mem_toList, List.length_nil, Option.toList_some,
        Option.toList_none, List.mem_singleton, List.not_mem_nil, or_false]
      exact or_comm
  stopped := by
    intro count pending
    cases pending
    rfl
  running := by simp [CallerState.stopSection, change]
  cleansUp _ := rfl
  cleared := counted.cleared

end

variable {count : CallerCount}

section

variable (counted : state.Counted)
include counted

theorem Counted.storeCount
    (pending : count ∈ state.stores.pending)
    (inOrder : state.storedSection < count.stamp ∨ count.stamp = state.sections)
    (sender : after.sender = state.sender)
    (sections : after.sections = state.sections)
    (register : after.srtCallerCount = count.value)
    (storedSection : after.storedSection = count.stamp)
    (fewer : ∀ other ∈ after.stores.pending, other ∈ state.stores.pending)
    (others : ∀ other ∈ state.stores.pending, other = count ∨ other ∈ after.stores.pending)
    (stopped : ∀ count, after.control.pending = some count →
      state.control.pending = some count)
    (stage : state.control = .running → after.control = .running)
    (cleansUp : after.sampler.cleansUp = true → state.sampler.cleansUp = true)
    (cleared : after.clearedFor = state.clearedFor) :
    after.Counted where
  agrees := by
    apply counted.agrees.store pending inOrder
    · exact congrArg (fun sender => sender.srtClients.length) sender
    · exact sections
    · exact register
    · exact storedSection
    · exact fewer
    · exact others
  stopped other isPending := by
    rw [sections]
    exact counted.stopped other (stopped other isPending)
  running isRunning := stage (counted.running (sender ▸ isRunning))
  cleansUp cleaning := by
    rw [sender]
    exact counted.cleansUp (cleansUp cleaning)
  cleared := cleared.trans counted.cleared

/-- The accept thread stores its count. -/
theorem Counted.storeConnected
    (pending : state.accept.pending = some count)
    (inOrder : state.storedSection < count.stamp) :
    ({ state.store count with accept := .scheduling } : CallerState).Counted := by
  apply counted.storeCount (mem_pending.mpr (.inl pending)) (.inl inOrder)
  all_goals first | rfl | exact id | exact fun _ => id | skip
  · intro other member
    obtain accept | others := mem_pending.mp member
    · cases accept
    · exact mem_pending.mpr (.inr others)
  · intro other member
    obtain accept | others := mem_pending.mp member
    · exact .inl (Option.some.inj (accept.symm.trans pending))
    · exact .inr (mem_pending.mpr (.inr others))

/-- The callback stores its count, and cleans up behind the last caller. -/
theorem Counted.storeRemoved
    (removed : state.sampler = .removed count)
    (inOrder : state.storedSection < count.stamp) :
    ({ state.store count with
      sampler := if count.value = 0 then .dropping else .idle } : CallerState).Counted := by
  have pending : state.sampler.pending = some count := by
    rw [removed]
    rfl
  have idle : SampleStage.pending (if count.value = 0 then .dropping else .idle) = none := by
    split
    · rfl
    · rfl
  apply counted.storeCount (mem_pending.mpr (.inr (.inl pending))) (.inl inOrder)
  all_goals first | rfl | exact id | exact fun _ => id | skip
  · intro other member
    obtain accept | sampler | control := mem_pending.mp member
    · exact mem_pending.mpr (.inl accept)
    · rw [idle] at sampler
      cases sampler
    · exact mem_pending.mpr (.inr (.inr control))
  · intro other member
    obtain accept | sampler | control := mem_pending.mp member
    · exact .inr (mem_pending.mpr (.inl accept))
    · exact .inl (Option.some.inj (sampler.symm.trans pending))
    · exact .inr (mem_pending.mpr (.inr (.inr control)))
  · intro cleaning
    rw [removed]
    by_cases nobody : count.value = 0
    · simp [SampleStage.cleansUp, nobody]
    · simp [nobody, SampleStage.cleansUp] at cleaning

/-- The control thread stores its count behind the accept thread. -/
theorem Counted.storeStopped
    (stopping : state.control = .stopping count) :
    ({ state.store count with control := .draining } : CallerState).Counted := by
  have pending : state.control.pending = some count := by
    rw [stopping]
    rfl
  apply counted.storeCount (mem_pending.mpr (.inr (.inr pending)))
    (.inr (counted.stopped count pending))
  all_goals first | rfl | exact id | skip
  · intro other member
    obtain accept | sampler | control := mem_pending.mp member
    · exact mem_pending.mpr (.inl accept)
    · exact mem_pending.mpr (.inr (.inl sampler))
    · cases control
  · intro other member
    obtain accept | sampler | control := mem_pending.mp member
    · exact .inr (mem_pending.mpr (.inl accept))
    · exact .inr (mem_pending.mpr (.inr (.inl sampler)))
    · exact .inl (Option.some.inj (control.symm.trans pending))
  · intro other control
    cases control
  · intro running
    rw [running] at stopping
    cases stopping

/-- A cleanup throws away nobody's data. -/
theorem Counted.clearedFor_append
    (cleaning : state.sampler.cleansUp = true) :
    state.clearedFor ++ state.sender.srtClients = [] := by
  rw [counted.cleansUp cleaning, List.append_nil]
  exact counted.cleared

/-- Every step in order keeps the count and the cleanups. -/
theorem Counted.next
    {event : CallerEvent}
    (inOrder : state.InOrder event)
    (stepped : state.next event = some after) :
    after.Counted := by
  cases event with
  | start =>
      simp only [CallerState.next] at stepped
      split at stepped
      next stopped =>
        cases stepped
        exact counted.startSender stopped.2.2
      next => cases stepped
  | check =>
      simp only [CallerState.next] at stepped
      split at stepped
      next checking =>
        split at stepped
        · cases stepped
          exact counted.acceptMoves (by rw [checking]; rfl) rfl
        · cases stepped
          exact counted.acceptMoves (by rw [checking]; rfl) rfl
      next failed =>
        split at stepped
        · cases stepped
          exact counted.acceptMoves (by rw [failed]; rfl) rfl
        · cases stepped
          exact counted.acceptMoves (by rw [failed]; rfl) rfl
      next => cases stepped
  | accept client =>
      simp only [CallerState.next] at stepped
      split at stepped
      next client accepting =>
        cases stepped
        exact counted.acceptMoves (by rw [accepting]; rfl) rfl
      next accepting =>
        cases stepped
        exact counted.acceptMoves (by rw [accepting]; rfl) rfl
      next => cases stepped
  | append =>
      simp only [CallerState.next] at stepped
      split at stepped
      next client accepted =>
        split at stepped
        next running =>
          cases stepped
          exact counted.appendClient accepted running (inOrder running)
        next =>
          cases stepped
          exact counted.acceptMoves (by rw [accepted]; rfl) rfl
      next => cases stepped
  | storeConnected =>
      simp only [CallerState.next] at stepped
      split at stepped
      next count connected =>
        cases stepped
        have pending : state.accept.pending = some count := by
          rw [connected]
          rfl
        exact counted.storeConnected pending (inOrder count pending)
      next => cases stepped
  | schedule =>
      simp only [CallerState.next] at stepped
      split at stepped
      next scheduling =>
        cases stepped
        apply counted.frame
        all_goals first | rfl | exact id | skip
        · rw [scheduling]
          rfl
        · exact counted.cleared
      next => cases stepped
  | sample data answers =>
      simp only [CallerState.next] at stepped
      split at stepped
      next playing =>
        cases stepped
        exact counted.sampleSection playing.2 data answers
      next => cases stepped
  | storeRemoved =>
      simp only [CallerState.next] at stepped
      split at stepped
      next count removed =>
        cases stepped
        apply counted.storeRemoved removed
        apply inOrder
        rw [removed]
        rfl
      next => cases stepped
  | drop =>
      simp only [CallerState.next] at stepped
      split at stepped
      next dropping =>
        cases stepped
        apply counted.sampleMoves
        · rw [dropping]
          rfl
        · rfl
        · intro _
          rw [dropping]
          rfl
        · exact counted.cleared
      next => cases stepped
  | clear =>
      simp only [CallerState.next] at stepped
      split at stepped
      next clearing =>
        cases stepped
        apply counted.frame
        all_goals first | rfl | exact id | skip
        · rw [clearing]
          rfl
        · intro _
          rw [clearing]
          rfl
        · exact counted.clearedFor_append (by rw [clearing]; rfl)
      next => cases stepped
  | flush =>
      simp only [CallerState.next] at stepped
      split at stepped
      next flushing =>
        cases stepped
        apply counted.frame
        all_goals first | rfl | exact id | skip
        · rw [flushing]
          rfl
        · intro cleaning
          cases cleaning
        · exact counted.clearedFor_append (by rw [flushing]; rfl)
      next => cases stepped
  | stop =>
      simp only [CallerState.next] at stepped
      split at stepped
      next running =>
        cases stepped
        exact counted.stopSection running
      next => cases stepped
  | joined =>
      simp only [CallerState.next] at stepped
      split at stepped
      next count stopping =>
        split at stepped
        next =>
          cases stepped
          exact counted.storeStopped stopping
        next => cases stepped
      next => cases stepped
  | drained =>
      simp only [CallerState.next] at stepped
      split at stepped
      next draining =>
        cases stepped
        apply counted.frame
        all_goals first | rfl | exact id | skip
        · rw [draining.1]
          rfl
        · intro running
          rw [draining.1] at running
          cases running
        · exact counted.cleared
      next => cases stepped

end

/-! ## Runs -/

/-- If counts are stored in order and nobody is appended during a cleanup, then the
count is the number of clients whenever no call is in progress, no client is withheld
video as if nobody were connected, and no cleanup throws away a client's data. -/
theorem callers_agree
    {state : CallerState}
    (reachable : callerSystem.ReachableWhen InOrder state) :
    (state.Quiet →
        state.srtCallerCount = state.sender.srtClients.length ∧
          (state.sender.srtClients ≠ [] → state.withholdsVideo = false)) ∧
      state.clearedFor = [] := by
  have counted : state.Counted := by
    refine reachable.invariant ?_ ?_
    · intro state isInitial
      rw [show state = init from isInitial]
      exact .init
    · intro state event after counted inOrder stepped
      exact counted.next inOrder stepped
  refine ⟨?_, counted.cleared⟩
  intro quiet
  have nothing : state.stores.pending = [] := by
    simp [stores, quiet.1, quiet.2.1, quiet.2.2, SampleStage.pending]
  have agrees : state.srtCallerCount = state.sender.srtClients.length :=
    counted.agrees.settled nothing
  refine ⟨agrees, ?_⟩
  intro connected
  have somebody := List.length_pos_of_ne_nil connected
  simp only [withholdsVideo, decide_eq_false_iff_not]
  omega

instance (state : CallerState) : Decidable state.Quiet :=
  inferInstanceAs (Decidable (_ ∧ _ ∧ _))

instance (state : CallerState) (event : CallerEvent) :
    Decidable (state.InOrder event) := by
  cases event
  all_goals unfold InOrder
  all_goals infer_instance

/-- A session starts and a caller comes. -/
def firstCaller : List CallerEvent :=
  [.start, .check, .accept (some 1), .append, .storeConnected, .schedule]

/-- The count is that of one client when the first caller has come. -/
theorem callers_agree_first_caller :
    ∃ state, callerSystem.ReachableWhen InOrder state ∧
      state.sender.srtClients = [1] ∧ state.srtCallerCount = [1].length ∧
      state.withholdsVideo = false := by
  have computed :
      (System.run (System.guarded InOrder CallerState.next) init firstCaller).map
          (fun state => decide (state.Quiet ∧ state.sender.srtClients = [1])) =
        some true := by
    decide +kernel
  obtain ⟨state, runs, fields⟩ := Option.map_eq_some_iff.mp computed
  obtain ⟨quiet, clients⟩ := of_decide_eq_true fields
  have reachable :=
    @System.reachableWhen_of_run _ _ InOrder _ (· = init) _ _ _ _ (.initial rfl) runs
  have agrees := (callers_agree reachable).1 quiet
  rw [clients] at agrees
  exact ⟨state, reachable, clients, agrees.1, agrees.2 (List.cons_ne_nil 1 [])⟩

/-- The first caller is dropped while a second one comes: the callback has seen nobody in
its section, and stores that behind the accept thread. -/
def callersCross : List CallerEvent :=
  firstCaller ++
    [.check, .accept (some 2),
      .sample (List.replicate srtLivePayloadSize tsSyncByte) (fun _ _ => false),
      .append, .storeConnected, .schedule, .storeRemoved, .drop, .clear, .flush]

/-- A connected caller is withheld video as if nobody were connected, and the cleanup of
the caller before it has thrown its data away. -/
theorem departing_caller_hides_new_caller :
    ∃ state, callerSystem.Reachable state ∧ state.Quiet ∧
      state.sender.srtClients = [2] ∧ state.srtCallerCount = 0 ∧
      state.withholdsVideo = true ∧ state.clearedFor = [2, 2] := by
  have computed :
      (System.run CallerState.next init callersCross).map
          (fun state => decide (state.Quiet ∧ state.sender.srtClients = [2] ∧
            state.srtCallerCount = 0 ∧ state.withholdsVideo = true ∧
            state.clearedFor = [2, 2])) =
        some true := by
    decide +kernel
  obtain ⟨state, runs, fields⟩ := Option.map_eq_some_iff.mp computed
  exact ⟨state, System.reachable_of_run (.initial rfl) runs, of_decide_eq_true fields⟩

end CallerState
end Engine
end SbsServer
