import SbsServer.CLib.PacketStream
import Mathlib.Data.UInt

/-!
# The SRT relay

A branch with an SRT sink sends its transport stream to callers itself.  The
functions here run in a section of `srt_sender_mutex`: they put a sample behind
`srt_ts_input`, take whole packets from it, delay the video packets in
`srt_video_ts_backlog` and collect what is sent in `srt_send_payload`.
-/

namespace SbsServer
namespace Engine

/-- `SBS_TS_PACKET_SIZE` -/
abbrev tsPacketSize : Nat := 188

/-- `SBS_TS_VIDEO_PID` -/
def tsVideoPid : Nat := 0x100

/-- `SBS_TS_AUDIO_PID` -/
def tsAudioPid : Nat := 0x101

/-- `SBS_SRT_VIDEO_BACKLOG_MAX_PACKETS` -/
def srtVideoBacklogMaxPackets : Nat := 65536

/-- `SBS_SRT_VIDEO_DRAIN_AFTER_AUDIO_PACKETS` -/
def srtVideoDrainAfterAudioPackets : Nat := 98

/-- `SRT_LIVE_DEF_PLSIZE` -/
abbrev srtLivePayloadSize : Nat := 1316

/-- The byte at which a packet starts. -/
def tsSyncByte : UInt8 := 0x47

/-- The part of a branch that `srt_sender_mutex` guards.  A socket is its number. -/
structure SrtSender where
  srtSenderRunning : Bool
  srtClients : List Nat
  srtTsInput : List UInt8
  srtVideoTsBacklog : List UInt8
  srtSendPayload : List UInt8
  srtSenderBytesSent : UInt64
  srtSenderSendFailures : UInt64
  srtSenderPacketsSent : UInt64
  srtSenderPacketsDropped : UInt64
  /-- The counter `*removed` of the call. -/
  removed : Nat
  /-- A history: the messages handed to `custom_srt_send_message_locked`. -/
  messages : List (List UInt8)
  /-- A history: the messages that were sent, with their client. -/
  delivered : List (Nat × List UInt8)
  deriving DecidableEq

/-- Whether `srt_sendmsg` takes a whole message, for the number of the message and
the socket. -/
abbrev SendAnswers := Nat → Nat → Bool

namespace SrtSender

/-- `g_array_remove_index_fast` -/
def removeIndexFast (clients : List Nat) (index : Nat) : List Nat :=
  match clients.getLast? with
  | some last => (clients.set index last).dropLast
  | none => clients

/-- One round of the loop over the clients. -/
def sendToClient
    (takes : Nat → Bool)
    (data : List UInt8)
    (sender : SrtSender)
    (index : Nat) : SrtSender :=
  let packets := UInt64.ofNat ((data.length + tsPacketSize - 1) / tsPacketSize)
  match sender.srtClients[index]? with
  | none => sender
  | some client =>
      if takes client then
        { sender with
          srtSenderBytesSent := sender.srtSenderBytesSent + UInt64.ofNat data.length
          srtSenderPacketsSent := sender.srtSenderPacketsSent + packets
          delivered := sender.delivered ++ [(client, data)] }
      else
        { sender with
          srtSenderSendFailures := sender.srtSenderSendFailures + 1
          srtSenderPacketsDropped := sender.srtSenderPacketsDropped + packets
          srtClients := removeIndexFast sender.srtClients index
          removed := sender.removed + 1 }

/-- `custom_srt_send_message_locked`: from the last client to the first. -/
def customSrtSendMessageLocked
    (answers : SendAnswers)
    (sender : SrtSender)
    (data : List UInt8) : SrtSender :=
  if data.isEmpty then sender
  else
    let sent :=
      (List.range sender.srtClients.length).reverse.foldl
        (sendToClient (answers sender.messages.length) data) sender
    { sent with messages := sender.messages ++ [data] }

/-- `custom_srt_flush_payload_locked` -/
def customSrtFlushPayloadLocked
    (answers : SendAnswers)
    (force : Bool)
    (sender : SrtSender) : SrtSender :=
  if srtLivePayloadSize ≤ sender.srtSendPayload.length ∨
      (force = true ∧ 0 < sender.srtSendPayload.length) then
    let bytes := min srtLivePayloadSize sender.srtSendPayload.length
    let sent := customSrtSendMessageLocked answers sender (sender.srtSendPayload.take bytes)
    let shorter := { sent with srtSendPayload := sender.srtSendPayload.drop bytes }
    if shorter.srtClients.isEmpty then shorter
    else customSrtFlushPayloadLocked answers force shorter
  else sender
termination_by sender.srtSendPayload.length
decreasing_by
  simp only [List.length_drop, srtLivePayloadSize] at *
  omega

/-- `custom_srt_send_bytes_locked` -/
def customSrtSendBytesLocked
    (answers : SendAnswers)
    (sender : SrtSender)
    (data : List UInt8) : SrtSender :=
  if data.isEmpty || sender.srtClients.isEmpty then sender
  else
    customSrtFlushPayloadLocked answers false
      { sender with srtSendPayload := sender.srtSendPayload ++ data }

/-- The packets that `custom_srt_send_video_backlog_locked` takes. -/
def backlogPackets
    (maxPackets : Nat)
    (sender : SrtSender) : Nat :=
  let packets := sender.srtVideoTsBacklog.length / tsPacketSize
  if 0 < maxPackets ∧ maxPackets < packets then maxPackets else packets

/-- `custom_srt_send_video_backlog_locked` -/
def customSrtSendVideoBacklogLocked
    (answers : SendAnswers)
    (maxPackets : Nat)
    (sender : SrtSender) : SrtSender :=
  let bytes := sender.backlogPackets maxPackets * tsPacketSize
  if sender.srtVideoTsBacklog.isEmpty || bytes == 0 then sender
  else
    let sent := customSrtSendBytesLocked answers sender (sender.srtVideoTsBacklog.take bytes)
    { sent with srtVideoTsBacklog := sent.srtVideoTsBacklog.drop bytes }

/-- The input and the backlog are the same. -/
def SameQueues (sender after : SrtSender) : Prop :=
  after.srtTsInput = sender.srtTsInput ∧
    after.srtVideoTsBacklog = sender.srtVideoTsBacklog

theorem SameQueues.trans
    {first second third : SrtSender}
    (before : first.SameQueues second)
    (later : second.SameQueues third) :
    first.SameQueues third :=
  ⟨later.1.trans before.1, later.2.trans before.2⟩

theorem sameQueues_sendToClient
    (takes : Nat → Bool)
    (data : List UInt8)
    (sender : SrtSender)
    (index : Nat) :
    sender.SameQueues (sender.sendToClient takes data index) := by
  unfold sendToClient
  cases sender.srtClients[index]? with
  | none => exact ⟨rfl, rfl⟩
  | some client =>
      cases taken : takes client with
      | true => simp [taken, SameQueues]
      | false => simp [taken, SameQueues]

variable (answers : SendAnswers)

variable (sender : SrtSender)

theorem sameQueues_sendMessage
    (data : List UInt8) :
    sender.SameQueues (customSrtSendMessageLocked answers sender data) := by
  unfold customSrtSendMessageLocked
  split
  · exact ⟨rfl, rfl⟩
  · suffices clients : ∀ indices : List Nat, ∀ start : SrtSender,
        start.SameQueues
          (indices.foldl
            (sendToClient (answers sender.messages.length) data) start) by
      exact clients _ sender
    intro indices
    induction indices with
    | nil =>
        intro start
        exact ⟨rfl, rfl⟩
    | cons index rest ih =>
        intro start
        exact (sameQueues_sendToClient _ _ start index).trans (ih _)

theorem sameQueues_flush
    (force : Bool)
    (sender : SrtSender) :
    sender.SameQueues (customSrtFlushPayloadLocked answers force sender) := by
  induction sender using customSrtFlushPayloadLocked.induct answers force with
  | case1 sender enough bytes sent shorter noClients =>
      rw [customSrtFlushPayloadLocked, if_pos enough, if_pos noClients]
      exact sameQueues_sendMessage answers sender _
  | case2 sender enough bytes sent shorter clients ih =>
      rw [customSrtFlushPayloadLocked, if_pos enough, if_neg clients]
      exact (sameQueues_sendMessage answers sender _).trans ih
  | case3 sender short =>
      rw [customSrtFlushPayloadLocked, if_neg short]
      exact ⟨rfl, rfl⟩

theorem sameQueues_sendBytes
    (data : List UInt8) :
    sender.SameQueues (customSrtSendBytesLocked answers sender data) := by
  unfold customSrtSendBytesLocked
  split
  · exact ⟨rfl, rfl⟩
  · exact sameQueues_flush answers false _

@[simp] theorem sendBytes_tsInput
    (data : List UInt8) :
    (customSrtSendBytesLocked answers sender data).srtTsInput = sender.srtTsInput :=
  (sameQueues_sendBytes answers sender data).1

@[simp] theorem sendBytes_videoTsBacklog
    (data : List UInt8) :
    (customSrtSendBytesLocked answers sender data).srtVideoTsBacklog =
      sender.srtVideoTsBacklog :=
  (sameQueues_sendBytes answers sender data).2

/-- With nothing to send nothing happens, so the checks may be left out. -/
theorem sendVideoBacklog_eq
    (maxPackets : Nat)
    (sender : SrtSender) :
    customSrtSendVideoBacklogLocked answers maxPackets sender =
      { customSrtSendBytesLocked answers sender
          (sender.srtVideoTsBacklog.take (sender.backlogPackets maxPackets * tsPacketSize)) with
        srtVideoTsBacklog :=
          sender.srtVideoTsBacklog.drop (sender.backlogPackets maxPackets * tsPacketSize) } := by
  have noBytes : customSrtSendBytesLocked answers sender [] = sender := by
    simp [customSrtSendBytesLocked]
  dsimp only [customSrtSendVideoBacklogLocked]
  split
  next nothing =>
    rw [Bool.or_eq_true, List.isEmpty_iff, beq_iff_eq] at nothing
    obtain empty | zero := nothing
    · rw [empty, List.take_nil, List.drop_nil, noBytes, ← empty]
    · rw [zero, List.take_zero, List.drop_zero, noBytes]
  next => rw [sendBytes_videoTsBacklog]

@[simp] theorem sendVideoBacklog_tsInput
    (maxPackets : Nat)
    (sender : SrtSender) :
    (customSrtSendVideoBacklogLocked answers maxPackets sender).srtTsInput =
      sender.srtTsInput := by
  rw [sendVideoBacklog_eq]
  exact sendBytes_tsInput answers sender _

/-- A backlog of a packet or more gets shorter. -/
theorem sendVideoBacklog_shorter
    (maxPackets : Nat)
    (sender : SrtSender)
    (packet : tsPacketSize ≤ sender.srtVideoTsBacklog.length) :
    (customSrtSendVideoBacklogLocked answers maxPackets sender).srtVideoTsBacklog.length <
      sender.srtVideoTsBacklog.length := by
  have whole : 0 < sender.srtVideoTsBacklog.length / tsPacketSize :=
    Nat.div_pos packet (by decide)
  have taken : 0 < sender.backlogPackets maxPackets := by
    dsimp only [backlogPackets]
    split
    next limited => exact limited.1
    next => exact whole
  have bytes : 0 < sender.backlogPackets maxPackets * tsPacketSize :=
    Nat.mul_pos taken (by decide)
  have longEnough : 0 < sender.srtVideoTsBacklog.length :=
    Nat.lt_of_lt_of_le (by decide) packet
  rw [sendVideoBacklog_eq, List.length_drop]
  omega

/-! ## Packets -/

/-- The loop that sends video while too much is delayed. -/
def drainBacklog
    (answers : SendAnswers)
    (sender : SrtSender) : SrtSender :=
  if srtVideoBacklogMaxPackets < sender.srtVideoTsBacklog.length / tsPacketSize then
    drainBacklog answers (customSrtSendVideoBacklogLocked answers 7 sender)
  else sender
termination_by sender.srtVideoTsBacklog.length
decreasing_by
  apply sendVideoBacklog_shorter
  simp only [srtVideoBacklogMaxPackets, tsPacketSize] at *
  omega

/-- `ts_packet_pid` -/
def tsPacketPid (packet : List UInt8) : Nat :=
  ((packet.getD 1 0).toNat &&& 0x1f) <<< 8 ||| (packet.getD 2 0).toNat

/-- A packet is delayed or sent. -/
def relayPacket
    (answers : SendAnswers)
    (sender : SrtSender)
    (packet : List UInt8) : SrtSender :=
  let pid := tsPacketPid packet
  if pid = tsVideoPid then
    drainBacklog answers
      { sender with srtVideoTsBacklog := sender.srtVideoTsBacklog ++ packet }
  else if pid = tsAudioPid then
    customSrtSendVideoBacklogLocked answers srtVideoDrainAfterAudioPackets
      (customSrtSendBytesLocked answers sender packet)
  else customSrtSendBytesLocked answers sender packet

@[simp] theorem drainBacklog_tsInput
    (sender : SrtSender) :
    (drainBacklog answers sender).srtTsInput = sender.srtTsInput := by
  induction sender using drainBacklog.induct answers with
  | case1 sender long ih =>
      rw [drainBacklog, if_pos long, ih]
      exact sendVideoBacklog_tsInput answers 7 sender
  | case2 sender short =>
      rw [drainBacklog, if_neg short]

@[simp] theorem relayPacket_tsInput
    (packet : List UInt8) :
    (relayPacket answers sender packet).srtTsInput = sender.srtTsInput := by
  dsimp only [relayPacket]
  split
  · simp
  · split
    · simp
    · simp

/-- The input from its next sync byte on. -/
def resync (input : List UInt8) : List UInt8 :=
  input.dropWhile (· ≠ tsSyncByte)

/-- The search for a sync byte skips at least one byte. -/
theorem length_resync_lt
    {input : List UInt8}
    (enough : tsPacketSize ≤ input.length)
    (unsynced : input.head? ≠ some tsSyncByte) :
    (resync input).length < input.length := by
  unfold resync
  cases input with
  | nil => simp [tsPacketSize] at enough
  | cons byte rest =>
      have other : byte ≠ tsSyncByte := by simpa using unsynced
      have shorter := (List.dropWhile_sublist (· ≠ tsSyncByte) (l := rest)).length_le
      rw [List.dropWhile_cons_of_pos (by simpa using other), List.length_cons]
      exact Nat.lt_succ_of_le shorter

/-- The packet at the head of the input is relayed and removed. -/
def relayHead
    (answers : SendAnswers)
    (sender : SrtSender) : SrtSender :=
  let relayed := relayPacket answers sender (sender.srtTsInput.take tsPacketSize)
  { relayed with srtTsInput := relayed.srtTsInput.drop tsPacketSize }

@[simp] theorem relayHead_tsInput
    (sender : SrtSender) :
    (relayHead answers sender).srtTsInput = sender.srtTsInput.drop tsPacketSize := by
  simp [relayHead]

/-- The loop over the packets of `srt_ts_input`. -/
def relayInput
    (answers : SendAnswers)
    (sender : SrtSender) : SrtSender :=
  if tsPacketSize ≤ sender.srtTsInput.length then
    if sender.srtTsInput.head? ≠ some tsSyncByte then
      if resync sender.srtTsInput = [] then { sender with srtTsInput := [] }
      else relayInput answers { sender with srtTsInput := resync sender.srtTsInput }
    else relayInput answers (relayHead answers sender)
  else sender
termination_by sender.srtTsInput.length
decreasing_by
  · exact length_resync_lt (by assumption) (by assumption)
  · simp only [relayHead_tsInput, List.length_drop, tsPacketSize] at *
    omega

/-- `custom_srt_send_interleaved_locked` -/
def customSrtSendInterleavedLocked
    (answers : SendAnswers)
    (sender : SrtSender)
    (data : List UInt8) : SrtSender :=
  if data.isEmpty || sender.srtClients.isEmpty then sender
  else relayInput answers { sender with srtTsInput := sender.srtTsInput ++ data }

/-- A relation that is passed on and that holds between a sender and what a message or a
change of the buffers makes of it. -/
structure KeptBySending
    (answers : SendAnswers)
    (Keeps : SrtSender → SrtSender → Prop) : Prop where
  refl : ∀ sender, Keeps sender sender
  trans : ∀ {first second third}, Keeps first second → Keeps second third → Keeps first third
  buffers : ∀ sender input backlog payload,
    Keeps sender
      { sender with
        srtTsInput := input
        srtVideoTsBacklog := backlog
        srtSendPayload := payload }
  message : ∀ sender data, Keeps sender (customSrtSendMessageLocked answers sender data)

namespace KeptBySending

variable {answers : SendAnswers} {Keeps : SrtSender → SrtSender → Prop}

section

variable (kept : KeptBySending answers Keeps)
include kept

theorem flush
    (force : Bool)
    (sender : SrtSender) :
    Keeps sender (customSrtFlushPayloadLocked answers force sender) := by
  induction sender using customSrtFlushPayloadLocked.induct answers force with
  | case1 sender enough bytes sent shorter noClients =>
      rw [customSrtFlushPayloadLocked, if_pos enough, if_pos noClients]
      exact kept.trans (kept.message sender _) (kept.buffers _ _ _ _)
  | case2 sender enough bytes sent shorter clients ih =>
      rw [customSrtFlushPayloadLocked, if_pos enough, if_neg clients]
      exact kept.trans (kept.trans (kept.message sender _) (kept.buffers _ _ _ _))
        ih
  | case3 sender short =>
      rw [customSrtFlushPayloadLocked, if_neg short]
      exact kept.refl sender

theorem sendBytes
    (sender : SrtSender)
    (data : List UInt8) :
    Keeps sender (customSrtSendBytesLocked answers sender data) := by
  unfold customSrtSendBytesLocked
  split
  · exact kept.refl sender
  · exact kept.trans (kept.buffers _ _ _ _) (kept.flush false _)

theorem sendVideoBacklog
    (maxPackets : Nat)
    (sender : SrtSender) :
    Keeps sender (customSrtSendVideoBacklogLocked answers maxPackets sender) := by
  rw [sendVideoBacklog_eq]
  exact kept.trans (kept.sendBytes sender _) (kept.buffers _ _ _ _)

theorem drainBacklog
    (sender : SrtSender) :
    Keeps sender (SrtSender.drainBacklog answers sender) := by
  induction sender using SrtSender.drainBacklog.induct answers with
  | case1 sender long ih =>
      rw [SrtSender.drainBacklog, if_pos long]
      exact kept.trans (kept.sendVideoBacklog 7 sender) ih
  | case2 sender short =>
      rw [SrtSender.drainBacklog, if_neg short]
      exact kept.refl sender

theorem relayPacket
    (sender : SrtSender)
    (packet : List UInt8) :
    Keeps sender (SrtSender.relayPacket answers sender packet) := by
  dsimp only [SrtSender.relayPacket]
  split
  · exact kept.trans (kept.buffers _ _ _ _) (kept.drainBacklog _)
  · split
    · exact kept.trans (kept.sendBytes sender packet) (kept.sendVideoBacklog _ _)
    · exact kept.sendBytes sender packet

theorem relayInput
    (sender : SrtSender) :
    Keeps sender (SrtSender.relayInput answers sender) := by
  induction sender using SrtSender.relayInput.induct answers with
  | case1 sender enough unsynced nothing =>
      rw [SrtSender.relayInput, if_pos enough, if_pos unsynced, if_pos nothing]
      exact kept.buffers _ _ _ _
  | case2 sender enough unsynced something ih =>
      rw [SrtSender.relayInput, if_pos enough, if_pos unsynced, if_neg something]
      exact kept.trans (kept.buffers _ _ _ _) ih
  | case3 sender enough synced ih =>
      rw [SrtSender.relayInput, if_pos enough, if_neg synced]
      have head : Keeps sender (relayHead answers sender) :=
        kept.trans (kept.relayPacket sender (sender.srtTsInput.take tsPacketSize))
          (kept.buffers _ _ _ _)
      exact kept.trans head ih
  | case4 sender short =>
      rw [SrtSender.relayInput, if_neg short]
      exact kept.refl sender

theorem sendInterleaved
    (sender : SrtSender)
    (data : List UInt8) :
    Keeps sender (customSrtSendInterleavedLocked answers sender data) := by
  unfold customSrtSendInterleavedLocked
  split
  · exact kept.refl sender
  · exact kept.trans (kept.buffers _ _ _ _) (kept.relayInput _)

end

end KeptBySending

/-- Every client that is missing was counted. -/
def Accounts (sender after : SrtSender) : Prop :=
  after.srtSenderRunning = sender.srtSenderRunning ∧
    after.srtClients.length + after.removed = sender.srtClients.length + sender.removed

theorem length_removeIndexFast
    {clients : List Nat}
    {index client : Nat}
    (present : clients[index]? = some client) :
    (removeIndexFast clients index).length + 1 = clients.length := by
  obtain ⟨bound, _⟩ := List.getElem?_eq_some_iff.mp present
  have nonempty : clients ≠ [] := List.ne_nil_of_length_pos (Nat.zero_lt_of_lt bound)
  rw [removeIndexFast, List.getLast?_eq_some_getLast nonempty]
  simp only [List.length_dropLast, List.length_set]
  omega

theorem accounts_sendToClient
    (takes : Nat → Bool)
    (data : List UInt8)
    (sender : SrtSender)
    (index : Nat) :
    sender.Accounts (sender.sendToClient takes data index) := by
  unfold sendToClient
  cases present : sender.srtClients[index]? with
  | none => exact ⟨rfl, rfl⟩
  | some client =>
      cases taken : takes client with
      | true => simp [taken, Accounts]
      | false =>
          have shorter := length_removeIndexFast present
          simp only [taken, Accounts, Bool.false_eq_true, if_false, true_and]
          omega

theorem keptBySending_accounts (answers : SendAnswers) : KeptBySending answers Accounts where
  refl _ := ⟨rfl, rfl⟩
  trans before later := ⟨later.1.trans before.1, later.2.trans before.2⟩
  buffers _ _ _ _ := ⟨rfl, rfl⟩
  message sender data := by
    unfold customSrtSendMessageLocked
    split
    · exact ⟨rfl, rfl⟩
    · suffices clients : ∀ indices : List Nat, ∀ start : SrtSender,
          start.Accounts
            (indices.foldl
              (sendToClient (answers sender.messages.length) data) start) by
        exact clients _ sender
      intro indices
      induction indices with
      | nil => exact fun _ => ⟨rfl, rfl⟩
      | cons index rest ih =>
          intro start
          have first := accounts_sendToClient (answers sender.messages.length) data start index
          have others := ih
            (start.sendToClient (answers sender.messages.length) data index)
          exact ⟨others.1.trans first.1, others.2.trans first.2⟩

end SrtSender
end Engine
end SbsServer
