import SbsServer.CLib.Descriptors
import SbsServer.Supervisor.DescriptorAccounts

/-!
# Frames for all outputs

`sbs_output_supervisor_send_frame` duplicates the descriptor of a frame for every output
that is connected.  A duplicate is closed when its message was not sent; when it was sent, the
message has a duplicate of its own, made by the kernel, and the supervisor's stays open.
-/

namespace SbsServer
namespace Supervisor

open CLib

/-- What `sendmsg` answers. -/
inductive SendAnswer
  /-- `EAGAIN` or `EWOULDBLOCK` -/
  | wouldBlock
  /-- `EPIPE` or `ECONNRESET` -/
  | hungUp
  /-- Any other error. -/
  | error
  /-- The number of bytes sent. -/
  | sent (bytes : Nat)
  deriving DecidableEq

/-- What `sbs_ipc_send_frame2` returns for a socket and a message. -/
def sendFrame2 : SendAnswer → SbsResult
  | .wouldBlock => .wouldBlock
  | .hungUp => .pipe
  | .error => .io
  | .sent bytes => if bytes ≠ videoFrameSize then .io else .ok

/-- The fields of `sbs_output_entry_t` that `sbs_output_supervisor_send_frame` uses. -/
structure OutputConnection where
  connected : Bool
  shuttingDown : Bool
  /-- `conn_fd`, unless it is -1. -/
  connFd : Option Nat
  /-- The process of the worker, if one is running. -/
  pid : Option Nat
  framesSent : UInt64
  framesDropped : UInt64
  deriving DecidableEq

/-- The calls for one output. -/
structure FrameAnswers where
  /-- `dup` succeeds. -/
  dup : Bool
  send : SendAnswer

/-- The message is sent to the output. -/
def FrameAnswers.Delivers (answers : FrameAnswers) : Prop :=
  answers.dup = true ∧ sendFrame2 answers.send = .ok

/-- The output gets frames. -/
def OutputConnection.Receives (entry : OutputConnection) : Prop :=
  entry.connected = true ∧ entry.shuttingDown = false ∧ entry.connFd.isSome = true

instance (answers : FrameAnswers) : Decidable answers.Delivers :=
  inferInstanceAs (Decidable (_ ∧ _))

instance (entry : OutputConnection) : Decidable entry.Receives :=
  inferInstanceAs (Decidable (_ ∧ _))

/-- The loop of `sbs_output_supervisor_send_frame` after some outputs. -/
structure FanOut where
  table : Descriptors
  /-- The outputs that were visited. -/
  visited : List OutputConnection
  sentCount : Int32
  /-- The connections that were closed after an error. -/
  dropped : List Nat
  /-- The workers that were killed. -/
  killed : List Nat
  /-- The duplicates whose messages were sent. -/
  handedOver : List Nat

/-- The loop before the first output. -/
def FanOut.start (current : Finset Nat) : FanOut where
  table := .start current
  visited := []
  sentCount := 0
  dropped := []
  killed := []
  handedOver := []

namespace FanOut

/-- The next output was visited. -/
def visit
    (fanOut : FanOut)
    (entry : OutputConnection) : FanOut :=
  { fanOut with visited := fanOut.visited ++ [entry] }

/-- The error branch of the loop, for the connection of an output. -/
def sendFailed
    (fanOut : FanOut)
    (entry : OutputConnection)
    (code : SbsResult) : FanOut :=
  let counted := { entry with framesDropped := entry.framesDropped + 1 }
  if code = .pipe ∨ code = .io then
    let disconnected := { counted with connected := false, connFd := none }
    let closed := match entry.connFd with
      | none => fanOut
      | some connFd =>
          { fanOut with
            table := fanOut.table.close connFd
            dropped := fanOut.dropped ++ [connFd] }
    let killed := if entry.shuttingDown then [] else entry.pid.toList
    { closed with killed := closed.killed ++ killed }.visit disconnected
  else fanOut.visit counted

/-- One pass through the loop. -/
def sendTo
    (fanOut : FanOut)
    (entry : OutputConnection)
    (answers : FrameAnswers) : FanOut :=
  if !entry.connected || entry.shuttingDown || entry.connFd.isNone then fanOut.visit entry
  else if !answers.dup then
    fanOut.visit { entry with framesDropped := entry.framesDropped + 1 }
  else
    let (dupFd, table) := fanOut.table.dup
    match sendFrame2 answers.send with
    | .wouldBlock =>
        { fanOut with table := table.close dupFd }.visit
          { entry with framesDropped := entry.framesDropped + 1 }
    | .ok =>
        { fanOut with
          table := table
          sentCount := fanOut.sentCount + 1
          handedOver := fanOut.handedOver ++ [dupFd] }.visit
            { entry with framesSent := entry.framesSent + 1 }
    | code => { fanOut with table := table.close dupFd }.sendFailed entry code

/-- The loop over the outputs, with the answers to each of them. -/
def sendLoop
    (answers : Nat → FrameAnswers)
    (position : Nat)
    (fanOut : FanOut) : List OutputConnection → FanOut
  | [] => fanOut
  | entry :: rest =>
      sendLoop answers (position + 1) (fanOut.sendTo entry (answers position)) rest

end FanOut

/-- The connections of some outputs. -/
def connections (entries : List OutputConnection) : List Nat :=
  entries.filterMap (·.connFd)

/-- Every connection is an open descriptor of its own. -/
structure Connected
    (current : Finset Nat)
    (entries : List OutputConnection) : Prop where
  distinct : (connections entries).Nodup
  opened : ∀ connFd ∈ connections entries, connFd ∈ current

/-- The outputs of a supervisor and the open descriptors of the server. -/
structure ServerOutputs where
  descriptors : Finset Nat
  entries : List OutputConnection
  connected : Connected descriptors entries

/-- `sbs_output_supervisor_send_frame` -/
def sendFrame
    (outputs : ServerOutputs)
    (answers : Nat → FrameAnswers) : FanOut :=
  FanOut.sendLoop answers 0 (.start outputs.descriptors) outputs.entries

theorem connections_append (first second : List OutputConnection) :
    connections (first ++ second) = connections first ++ connections second :=
  List.filterMap_append

/-- What a pass through the loop does to the descriptors. -/
inductive Passed
    (before after : FanOut)
    (entry : OutputConnection)
    (answers : FrameAnswers) : Prop
  /-- There is no duplicate. -/
  | kept
      (undelivered : ¬(entry.Receives ∧ answers.Delivers))
      (table : after.table = before.table)
      (dropped : after.dropped = before.dropped)
      (handedOver : after.handedOver = before.handedOver)
      (sentCount : after.sentCount = before.sentCount)
      (visited : connections after.visited = connections before.visited ++ connections [entry])
  /-- The duplicate was closed. -/
  | returned
      (undelivered : ¬(entry.Receives ∧ answers.Delivers))
      (table : after.table = before.table.dup.2.close before.table.dup.1)
      (dropped : after.dropped = before.dropped)
      (handedOver : after.handedOver = before.handedOver)
      (sentCount : after.sentCount = before.sentCount)
      (visited : connections after.visited = connections before.visited ++ connections [entry])
  /-- The duplicate and the connection were closed. -/
  | broken
      (undelivered : ¬(entry.Receives ∧ answers.Delivers))
      (connFd : Nat)
      (isConnection : entry.connFd = some connFd)
      (table : after.table = (before.table.dup.2.close before.table.dup.1).close connFd)
      (dropped : after.dropped = before.dropped ++ [connFd])
      (handedOver : after.handedOver = before.handedOver)
      (sentCount : after.sentCount = before.sentCount)
      (visited : connections after.visited = connections before.visited)
  /-- The message was sent. -/
  | delivered
      (delivered : entry.Receives ∧ answers.Delivers)
      (table : after.table = before.table.dup.2)
      (dropped : after.dropped = before.dropped)
      (handedOver : after.handedOver = before.handedOver ++ [before.table.dup.1])
      (sentCount : after.sentCount = before.sentCount + 1)
      (visited : connections after.visited = connections before.visited ++ connections [entry])

/-- The connections are those of the outputs before, of one output and of those behind it. -/
theorem connections_append_cons
    (first rest : List OutputConnection)
    (entry : OutputConnection) :
    connections (first ++ entry :: rest) =
      connections first ++ connections [entry] ++ connections rest := by
  rw [← List.singleton_append, connections_append, connections_append, List.append_assoc]

theorem Connected.mono
    {current larger : Finset Nat}
    {entries : List OutputConnection}
    (connected : Connected current entries)
    (subset : current ⊆ larger) :
    Connected larger entries where
  distinct := connected.distinct
  opened := fun connFd present => subset (connected.opened connFd present)

theorem Connected.congr
    {current : Finset Nat}
    {entries others : List OutputConnection}
    (connected : Connected current entries)
    (same : connections others = connections entries) :
    Connected current others := by
  constructor
  · rw [same]
    exact connected.distinct
  · rw [same]
    exact connected.opened

/-- The connections that are left when one is closed. -/
theorem Connected.close
    {current : Finset Nat}
    {entries others : List OutputConnection}
    {front back : List Nat}
    {connFd : Nat}
    (connected : Connected current entries)
    (before : connections entries = front ++ [connFd] ++ back)
    (after : connections others = front ++ back) :
    Connected (current.erase connFd) others := by
  have nodup := connected.distinct
  rw [before, List.append_assoc, List.singleton_append, List.nodup_middle,
    List.nodup_cons] at nodup
  constructor
  · rw [after]
    exact nodup.2
  · intro other present
    rw [after] at present
    refine Finset.mem_erase.mpr ⟨fun same => nodup.1 (same ▸ present), ?_⟩
    apply connected.opened
    rw [before]
    simp only [List.mem_append] at present ⊢
    tauto

namespace FanOut

variable (fanOut : FanOut)

theorem connections_visit
    {entry changed : OutputConnection}
    (same : changed.connFd = entry.connFd) :
    connections (fanOut.visit changed).visited =
      connections fanOut.visited ++ connections [entry] := by
  unfold visit
  rw [connections_append]
  congr 1
  unfold connections
  rw [List.filterMap_cons, List.filterMap_cons, same]

theorem connections_visit_none
    {changed : OutputConnection}
    (none : changed.connFd = none) :
    connections (fanOut.visit changed).visited = connections fanOut.visited := by
  unfold visit
  rw [connections_append]
  unfold connections
  rw [List.filterMap_cons_none none, List.filterMap_nil, List.append_nil]

/-- A connection is closed after an error. -/
theorem passed_sendFailed
    {fanOut : FanOut}
    {entry : OutputConnection}
    {answers : FrameAnswers}
    {code : SbsResult}
    {connFd : Nat}
    (undelivered : ¬(entry.Receives ∧ answers.Delivers))
    (isConnection : entry.connFd = some connFd)
    (lost : code = .pipe ∨ code = .io) :
    Passed fanOut
      ({ fanOut with table := fanOut.table.dup.2.close fanOut.table.dup.1 }.sendFailed entry code)
      entry answers := by
  unfold sendFailed
  rw [if_pos lost, isConnection]
  exact .broken undelivered connFd isConnection rfl rfl rfl rfl (connections_visit_none _ rfl)

theorem sendFrame2_cases (answer : SendAnswer) :
    sendFrame2 answer = .ok ∨ sendFrame2 answer = .wouldBlock ∨ sendFrame2 answer = .pipe ∨
      sendFrame2 answer = .io := by
  cases answer with
  | wouldBlock => exact .inr (.inl rfl)
  | hungUp => exact .inr (.inr (.inl rfl))
  | error => exact .inr (.inr (.inr rfl))
  | sent bytes =>
      rw [sendFrame2]
      split
      · exact .inr (.inr (.inr rfl))
      · exact .inl rfl

theorem passed_sendTo
    (entry : OutputConnection)
    (answers : FrameAnswers) :
    Passed fanOut (fanOut.sendTo entry answers) entry answers := by
  unfold sendTo
  split
  next skipped =>
    have absent : ¬entry.Receives := by
      rintro ⟨connected, running, isConnection⟩
      simp [connected, running, Option.isSome_iff_ne_none.mp isConnection] at skipped
    exact .kept (fun both => absent both.1) rfl rfl rfl rfl (fanOut.connections_visit rfl)
  next gets =>
    simp only [Bool.or_eq_true, Bool.not_eq_true', Option.isNone_iff_eq_none, not_or,
      Bool.not_eq_false, Bool.not_eq_true] at gets
    obtain ⟨⟨connected, running⟩, present⟩ := gets
    obtain ⟨connFd, isConnection⟩ := Option.ne_none_iff_exists'.mp present
    have receives : entry.Receives := ⟨connected, running, by rw [isConnection]; rfl⟩
    split
    next noRoom =>
      have undelivered : ¬answers.Delivers := fun delivers => by
        simp [delivers.1] at noRoom
      exact .kept (fun both => undelivered both.2) rfl rfl rfl rfl
        (fanOut.connections_visit rfl)
    next room =>
      have duplicated : answers.dup = true := by simpa using room
      have undelivered (fails : sendFrame2 answers.send ≠ .ok) :
          ¬(entry.Receives ∧ answers.Delivers) := fun both => fails both.2.2
      obtain sent | full | lost | failed := sendFrame2_cases answers.send
      · rw [sent]
        exact .delivered ⟨receives, duplicated, sent⟩ rfl rfl rfl rfl
          (fanOut.connections_visit rfl)
      · rw [full]
        exact .returned (undelivered (by rw [full]; decide)) rfl rfl rfl rfl
          (connections_visit _ rfl)
      · rw [lost]
        exact passed_sendFailed (undelivered (by rw [lost]; decide)) isConnection (.inl rfl)
      · rw [failed]
        exact passed_sendFailed (undelivered (by rw [failed]; decide)) isConnection (.inr rfl)

/-! ## All outputs -/

/-- The accounts of the loop, with some outputs before it. -/
structure Accounts
    (before : Finset Nat)
    (fanOut : FanOut)
    (rest : List OutputConnection) : Prop where
  balanced : fanOut.table.Balanced before
  /-- The duplicates that were not handed over and the lost connections were closed. -/
  closes : (fanOut.table.closed : Multiset Nat) + (fanOut.handedOver : Multiset Nat) =
    (fanOut.table.opened : Multiset Nat) + (fanOut.dropped : Multiset Nat)
  connected : Connected fanOut.table.current (fanOut.visited ++ rest)
  counted : fanOut.sentCount = Int32.ofNat fanOut.handedOver.length

theorem accounts_start (outputs : ServerOutputs) :
    Accounts outputs.descriptors (.start outputs.descriptors) outputs.entries where
  balanced := Descriptors.balanced_start outputs.descriptors
  closes := rfl
  connected := outputs.connected
  counted := rfl

variable {before : Finset Nat} {fanOut : FanOut} {entry : OutputConnection}
variable {rest : List OutputConnection}

/-- The output that is visited keeps its place. -/
theorem Accounts.connected_keep
    (accounts : Accounts before fanOut (entry :: rest))
    {visited : List OutputConnection}
    (same : connections visited = connections fanOut.visited ++ connections [entry]) :
    Connected fanOut.table.current (visited ++ rest) := by
  apply accounts.connected.congr
  rw [connections_append, connections_append_cons, same]

theorem Accounts.sendTo
    (accounts : Accounts before fanOut (entry :: rest))
    (answers : FrameAnswers) :
    Accounts before (fanOut.sendTo entry answers) rest := by
  have passed := fanOut.passed_sendTo entry answers
  generalize fanOut.sendTo entry answers = after at passed
  have isOpen := Finset.mem_insert_self fanOut.table.dup.1 fanOut.table.current
  cases passed with
  | kept undelivered table dropped handedOver sentCount visited =>
      refine ⟨?_, ?_, ?_, ?_⟩
      · rw [table]
        exact accounts.balanced
      · rw [table, dropped, handedOver]
        exact accounts.closes
      · rw [table]
        exact accounts.connected_keep visited
      · rw [sentCount, handedOver]
        exact accounts.counted
  | returned undelivered table dropped handedOver sentCount visited =>
      refine ⟨?_, ?_, ?_, ?_⟩
      · rw [table]
        exact accounts.balanced.dup.close isOpen
      · rw [table, dropped, handedOver, Descriptors.closed_close, Descriptors.opened_close,
          Descriptors.closed_dup, Descriptors.opened_dup, ← Multiset.coe_add, ← Multiset.coe_add,
          add_right_comm, accounts.closes, add_right_comm]
      · rw [table, Descriptors.current_close_dup]
        exact accounts.connected_keep visited
      · rw [sentCount, handedOver]
        exact accounts.counted
  | broken undelivered connFd isConnection table dropped handedOver sentCount visited =>
      have isOwn : connections [entry] = [connFd] := List.filterMap_cons_some isConnection
      have listed := connections_append_cons fanOut.visited rest entry
      rw [isOwn] at listed
      have present : connFd ∈ fanOut.table.current := by
        apply accounts.connected.opened
        rw [listed]
        simp
      refine ⟨?_, ?_, ?_, ?_⟩
      · rw [table]
        refine (accounts.balanced.dup.close isOpen).close ?_
        rwa [Descriptors.current_close_dup]
      · rw [table, dropped, handedOver, Descriptors.closed_close, Descriptors.closed_close,
          Descriptors.closed_dup, Descriptors.opened_close, Descriptors.opened_close,
          Descriptors.opened_dup, ← Multiset.coe_add, ← Multiset.coe_add, ← Multiset.coe_add,
          ← Multiset.coe_add, add_right_comm, add_right_comm _ _ (fanOut.handedOver : Multiset Nat),
          accounts.closes, ← add_assoc, add_right_comm (fanOut.table.opened : Multiset Nat)]
      · rw [table, Descriptors.current_close, Descriptors.current_close_dup]
        refine accounts.connected.close listed ?_
        rw [connections_append, visited]
      · rw [sentCount, handedOver]
        exact accounts.counted
  | delivered delivered table dropped handedOver sentCount visited =>
      refine ⟨?_, ?_, ?_, ?_⟩
      · rw [table]
        exact accounts.balanced.dup
      · rw [table, dropped, handedOver, Descriptors.closed_dup, Descriptors.opened_dup,
          ← Multiset.coe_add, ← Multiset.coe_add, ← add_assoc, accounts.closes, add_right_comm]
      · rw [table]
        exact (accounts.connected_keep visited).mono (Finset.subset_insert _ _)
      · rw [sentCount, handedOver, accounts.counted, List.length_append, Int32.ofNat_add]
        rfl

theorem Accounts.sendLoop
    (accounts : Accounts before fanOut rest)
    (answers : Nat → FrameAnswers)
    (position : Nat) :
    Accounts before (fanOut.sendLoop answers position rest) [] := by
  induction rest generalizing fanOut position with
  | nil => exact accounts
  | cons entry rest ih => exact ih (accounts.sendTo (answers position)) (position + 1)

theorem handedOver_sendTo_eq_nil
    (entry : OutputConnection)
    (answers : FrameAnswers) :
    (fanOut.sendTo entry answers).handedOver = [] ↔
      fanOut.handedOver = [] ∧ ¬(entry.Receives ∧ answers.Delivers) := by
  have passed := fanOut.passed_sendTo entry answers
  generalize fanOut.sendTo entry answers = after at passed
  cases passed with
  | kept undelivered table dropped handedOver => simp [handedOver, undelivered]
  | returned undelivered table dropped handedOver => simp [handedOver, undelivered]
  | broken undelivered connFd isConnection table dropped handedOver =>
      simp [handedOver, undelivered]
  | delivered delivered table dropped handedOver => simp [handedOver, delivered]

/-- No duplicate is handed over iff no message is sent. -/
theorem handedOver_sendLoop_eq_nil
    (answers : Nat → FrameAnswers)
    (position : Nat)
    (entries : List OutputConnection) :
    (fanOut.sendLoop answers position entries).handedOver = [] ↔
      fanOut.handedOver = [] ∧ ∀ index entry, entries[index]? = some entry →
        ¬(entry.Receives ∧ (answers (position + index)).Delivers) := by
  induction entries generalizing fanOut position with
  | nil => simp [FanOut.sendLoop]
  | cons entry rest ih =>
      rw [FanOut.sendLoop, ih, handedOver_sendTo_eq_nil, and_assoc]
      refine and_congr_right fun _ => ?_
      constructor
      · rintro ⟨first, others⟩ index other found
        cases index with
        | zero =>
            obtain rfl := Option.some.inj found
            exact first
        | succ index =>
            have later := others index other found
            rwa [Nat.add_assoc, Nat.add_comm 1] at later
      · intro none
        refine ⟨none 0 entry rfl, fun index other found => ?_⟩
        rw [Nat.add_assoc, Nat.add_comm 1]
        exact none (index + 1) other found

end FanOut

theorem accounts_sendFrame
    (outputs : ServerOutputs)
    (answers : Nat → FrameAnswers) :
    FanOut.Accounts outputs.descriptors (sendFrame outputs answers) [] :=
  (FanOut.accounts_start outputs).sendLoop answers 0

/-- The outputs and the descriptors after a frame. -/
def ServerOutputs.afterFrame
    (outputs : ServerOutputs)
    (answers : Nat → FrameAnswers) : ServerOutputs where
  descriptors := (sendFrame outputs answers).table.current
  entries := (sendFrame outputs answers).visited
  connected := by
    have connected := (accounts_sendFrame outputs answers).connected
    rwa [List.append_nil] at connected

/-- Only the duplicates of messages that were sent are left. -/
theorem card_afterFrame
    (outputs : ServerOutputs)
    (answers : Nat → FrameAnswers) :
    (outputs.afterFrame answers).descriptors.card + (sendFrame outputs answers).dropped.length =
      outputs.descriptors.card + (sendFrame outputs answers).handedOver.length := by
  have accounts := accounts_sendFrame outputs answers
  have opened := congrArg Multiset.card accounts.balanced
  have closed := congrArg Multiset.card accounts.closes
  simp only [Multiset.card_add, Finset.card_val, Multiset.coe_card] at opened closed
  unfold ServerOutputs.afterFrame
  dsimp only
  omega

/-- The outputs after some frames. -/
def ServerOutputs.afterFrames
    (outputs : ServerOutputs) : List (Nat → FrameAnswers) → ServerOutputs
  | [] => outputs
  | answers :: rest => (outputs.afterFrame answers).afterFrames rest

/-- Every frame is sent to some output, and no connection is lost. -/
def ServerOutputs.Streams (outputs : ServerOutputs) : List (Nat → FrameAnswers) → Prop
  | [] => True
  | answers :: rest =>
      ((sendFrame outputs answers).dropped = [] ∧ (sendFrame outputs answers).handedOver ≠ []) ∧
        (outputs.afterFrame answers).Streams rest

/-- An open descriptor more for every frame. -/
theorem card_afterFrames
    {outputs : ServerOutputs}
    {frames : List (Nat → FrameAnswers)}
    (streams : outputs.Streams frames) :
    outputs.descriptors.card + frames.length ≤ (outputs.afterFrames frames).descriptors.card := by
  induction frames generalizing outputs with
  | nil => exact Nat.le_refl _
  | cons answers rest ih =>
      obtain ⟨⟨kept, sent⟩, later⟩ := streams
      have one := card_afterFrame outputs answers
      have others := ih later
      have some := List.length_pos_iff.mpr sent
      rw [kept, List.length_nil] at one
      rw [List.length_cons, ServerOutputs.afterFrames]
      omega

/-- The open descriptors are those before without the connections that were closed after an
error, and these and the duplicates are what was closed. -/
structure ClosesExactly
    (outputs : ServerOutputs)
    (answers : Nat → FrameAnswers) : Prop where
  left : (sendFrame outputs answers).table.current =
    outputs.descriptors \ (sendFrame outputs answers).dropped.toFinset
  closed : (sendFrame outputs answers).table.closed.Perm
    ((sendFrame outputs answers).table.opened ++ (sendFrame outputs answers).dropped)

theorem closes_duplicates
    (outputs : ServerOutputs)
    (answers : Nat → FrameAnswers) :
    ClosesExactly outputs answers ↔
      ∀ index entry, outputs.entries[index]? = some entry →
        ¬(entry.Receives ∧ (answers index).Delivers) := by
  have accounts := accounts_sendFrame outputs answers
  have none := (FanOut.start outputs.descriptors).handedOver_sendLoop_eq_nil answers 0
    outputs.entries
  simp only [Nat.zero_add] at none
  have nothing : (sendFrame outputs answers).handedOver = [] ↔
      ∀ index entry, outputs.entries[index]? = some entry →
        ¬(entry.Receives ∧ (answers index).Delivers) :=
    none.trans (and_iff_right rfl)
  rw [← nothing]
  have closes := accounts.closes
  constructor
  · intro exact
    have closed : ((sendFrame outputs answers).table.closed : Multiset Nat) = _ :=
      Multiset.coe_eq_coe.mpr exact.closed
    rw [closed, ← Multiset.coe_add, add_eq_left, Multiset.coe_eq_zero] at closes
    exact closes
  · intro nil
    rw [nil, Multiset.coe_nil, add_zero, Multiset.coe_add, Multiset.coe_eq_coe] at closes
    exact ⟨accounts.balanced.current_eq closes, closes⟩

/-- One output on the descriptor 5. -/
def oneOutput : ServerOutputs where
  descriptors := {0, 1, 2, 5, 7}
  entries := [⟨true, false, some 5, some 4711, 0, 0⟩]
  connected := ⟨by decide, by decide⟩

/-- Two frames, and the descriptors 3 and 4 stay open. -/
theorem card_afterFrames_two :
    let frame : Nat → FrameAnswers := fun _ => ⟨true, .sent 128⟩
    5 + 2 ≤ (oneOutput.afterFrames [frame, frame]).descriptors.card := by
  intro frame
  exact @card_afterFrames oneOutput [frame, frame]
    ⟨by decide +kernel, by decide +kernel, trivial⟩

/-- The message with the descriptor 7 is sent, and the duplicate 3 stays open. -/
theorem duplicate_stays_open :
    (sendFrame oneOutput fun _ => ⟨true, .sent 128⟩).table.opened = [3] ∧
      (sendFrame oneOutput fun _ => ⟨true, .sent 128⟩).table.closed = [] ∧
      ¬ClosesExactly oneOutput fun _ => ⟨true, .sent 128⟩ := by
  refine ⟨by decide +kernel, by decide +kernel, fun exact => ?_⟩
  have left := exact.left
  revert left
  decide +kernel

end Supervisor
end SbsServer
