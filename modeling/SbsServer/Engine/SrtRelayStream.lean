import SbsServer.Engine.SrtRelay
import Mathlib.Data.List.Perm.Basic

/-!
# What the SRT relay sends

While a client is connected and every send succeeds, the relay only reorders whole
packets: it keeps a line of packets that are sent and a line of video packets that
are delayed.  The messages are the packets sent in groups of seven.
-/

namespace SbsServer
namespace Engine

open CLib

/-- Packets of the transport stream. -/
def tsFraming : Framing UInt8 where
  sync := tsSyncByte
  size := tsPacketSize
  positive := by decide

/-- The packets of an SRT message. -/
def packetsPerMessage : Nat := 7

/-- The packets are whole. -/
def Whole (packets : List (List UInt8)) : Prop :=
  ∀ packet ∈ packets, packet.length = tsPacketSize

namespace Whole

variable {packets later : List (List UInt8)}

theorem append
    (whole : Whole packets)
    (wholeLater : Whole later) :
    Whole (packets ++ later) := by
  intro packet member
  obtain before | after := List.mem_append.mp member
  · exact whole packet before
  · exact wholeLater packet after

theorem take
    (whole : Whole packets)
    (count : Nat) :
    Whole (packets.take count) :=
  fun packet member => whole packet (List.mem_of_mem_take member)

theorem drop
    (whole : Whole packets)
    (count : Nat) :
    Whole (packets.drop count) :=
  fun packet member => whole packet (List.mem_of_mem_drop member)

theorem length_flatten
    (whole : Whole packets) :
    packets.flatten.length = packets.length * tsPacketSize := by
  induction packets with
  | nil => rfl
  | cons packet rest ih =>
      have first := whole packet (by simp)
      have others := ih fun packet member => whole packet (by simp [member])
      rw [List.flatten_cons, List.length_append, List.length_cons, first, others]
      simp only [tsPacketSize]
      omega

/-- The first packets are the first bytes. -/
theorem take_flatten
    (whole : Whole packets)
    (count : Nat) :
    packets.flatten.take (count * tsPacketSize) = (packets.take count).flatten ∧
      packets.flatten.drop (count * tsPacketSize) = (packets.drop count).flatten := by
  induction packets generalizing count with
  | nil => simp
  | cons packet rest ih =>
      have first := whole packet (by simp)
      cases count with
      | zero => simp
      | succ count =>
          have others := ih
            (fun packet member => whole packet (by simp [member])) count
          have size : (count + 1) * tsPacketSize =
              packet.length + count * tsPacketSize := by
            rw [first]
            simp only [tsPacketSize]
            omega
          rw [size, List.flatten_cons, List.take_length_add_append,
            List.drop_length_add_append, others.1, others.2]
          simp

end Whole

namespace SrtSender

variable {answers : SendAnswers} {sender : SrtSender}

/-- Every send succeeds. -/
def Delivers (answers : SendAnswers) : Prop :=
  ∀ message client, answers message client = true

/-- The elements at all positions of a list are the list. -/
theorem filterMap_range_getElem? (clients : List Nat) :
    (List.range clients.length).filterMap (fun index => clients[index]?) = clients := by
  induction clients with
  | nil => rfl
  | cons client rest ih =>
      simp [List.range_succ_eq_map, List.filterMap_map, ih]

/-- A message is sent to every client, and the clients stay. -/
theorem sendMessage_delivers
    (delivers : Delivers answers)
    {data : List UInt8}
    (nonempty : data ≠ []) :
    (customSrtSendMessageLocked answers sender data).srtClients = sender.srtClients ∧
      (customSrtSendMessageLocked answers sender data).messages =
        sender.messages ++ [data] ∧
      (customSrtSendMessageLocked answers sender data).delivered =
        sender.delivered ++ sender.srtClients.reverse.map fun client => (client, data) := by
  have clients : ∀ indices : List Nat, ∀ start : SrtSender,
      let sent := indices.foldl (sendToClient (answers sender.messages.length) data) start
      sent.srtClients = start.srtClients ∧
        sent.delivered = start.delivered ++
          (indices.filterMap (fun index => start.srtClients[index]?)).map
            fun client => (client, data) := by
    intro indices
    induction indices with
    | nil => exact fun start => ⟨rfl, (List.append_nil _).symm⟩
    | cons index rest ih =>
        intro start
        obtain ⟨same, sent⟩ := ih
          (start.sendToClient (answers sender.messages.length) data index)
        dsimp only at same sent ⊢
        rw [List.foldl_cons, same, sent, List.filterMap_cons]
        unfold sendToClient
        cases start.srtClients[index]? with
        | none => exact ⟨rfl, rfl⟩
        | some client => simp [delivers _ client]
  have isEmpty : data.isEmpty = false := by simpa using nonempty
  obtain ⟨same, sent⟩ := clients (List.range sender.srtClients.length).reverse sender
  rw [List.filterMap_reverse, filterMap_range_getElem?] at sent
  simp only [customSrtSendMessageLocked, isEmpty]
  exact ⟨same, rfl, sent⟩

/-- The messages that were sent to a client. -/
def messagesTo (sender : SrtSender) (client : Nat) : List (List UInt8) :=
  (sender.delivered.filter fun sent => sent.1 = client).map Prod.snd

/-- A client that is connected once stays so, and every further message is sent to it. -/
def Hears (client : Nat) (sender after : SrtSender) : Prop :=
  sender.srtClients.count client = 1 →
    after.srtClients.count client = 1 ∧
      ∃ more, after.messages = sender.messages ++ more ∧
        after.messagesTo client = sender.messagesTo client ++ more

theorem Hears.refl (client : Nat) (sender : SrtSender) : Hears client sender sender :=
  fun once => ⟨once, [], (List.append_nil _).symm, (List.append_nil _).symm⟩

theorem Hears.trans
    {client : Nat}
    {first second third : SrtSender}
    (before : Hears client first second)
    (later : Hears client second third) :
    Hears client first third := by
  intro once
  obtain ⟨middle, early, sent, heard⟩ := before once
  obtain ⟨stays, late, sentLater, heardLater⟩ := later middle
  refine ⟨stays, early ++ late, ?_, ?_⟩
  · rw [sentLater, sent, List.append_assoc]
  · rw [heardLater, heard, List.append_assoc]

theorem keptBySending_hears
    (delivers : Delivers answers)
    (client : Nat) :
    KeptBySending answers (Hears client) where
  refl := .refl client
  trans := .trans
  buffers _ _ _ _ := Hears.refl client _
  message sender data := by
    by_cases empty : data = []
    · rw [empty]
      exact .refl client sender
    · intro once
      obtain ⟨same, sent, delivered⟩ := @sendMessage_delivers _ sender delivers data empty
      refine ⟨same ▸ once, [data], sent, ?_⟩
      have alone : sender.srtClients.reverse.filter (· = client) = [client] := by
        rw [List.filter_eq, List.count_reverse, once]
        rfl
      rw [messagesTo, delivered, List.filter_append, List.map_append, List.filter_map]
      simp only [Function.comp_def, List.map_map]
      rw [alone]
      rfl

/-- Whole packets in the payload are sent in groups. -/
theorem flush_delivers
    (delivers : Delivers answers)
    (connected : sender.srtClients ≠ [])
    {packets : List (List UInt8)}
    (whole : Whole packets)
    (payload : sender.srtSendPayload = packets.flatten) :
    (customSrtFlushPayloadLocked answers false sender).srtClients = sender.srtClients ∧
      (customSrtFlushPayloadLocked answers false sender).srtSendPayload =
        (Groups.rest packetsPerMessage packets).flatten ∧
      (customSrtFlushPayloadLocked answers false sender).messages =
        sender.messages ++ (Groups.full packetsPerMessage packets).map List.flatten := by
  have length : sender.srtSendPayload.length = packets.length * tsPacketSize := by
    rw [payload, whole.length_flatten]
  induction packets using Groups.cut.induct packetsPerMessage generalizing sender with
  | case1 packets enough ih =>
      have long : srtLivePayloadSize ≤ sender.srtSendPayload.length := by
        simp only [packetsPerMessage, srtLivePayloadSize, tsPacketSize] at *
        omega
      have bytes : min srtLivePayloadSize sender.srtSendPayload.length =
          packetsPerMessage * tsPacketSize :=
        Nat.min_eq_left long
      have parts := whole.take_flatten packetsPerMessage
      have message : sender.srtSendPayload.take (packetsPerMessage * tsPacketSize) =
          (packets.take packetsPerMessage).flatten := by
        rw [payload, parts.1]
      have left : sender.srtSendPayload.drop (packetsPerMessage * tsPacketSize) =
          (packets.drop packetsPerMessage).flatten := by
        rw [payload, parts.2]
      have nonempty : sender.srtSendPayload.take (packetsPerMessage * tsPacketSize) ≠ [] := by
        apply List.ne_nil_of_length_pos
        simp only [List.length_take, srtLivePayloadSize, tsPacketSize,
          packetsPerMessage] at *
        omega
      have delivered := @sendMessage_delivers _ sender delivers _ nonempty
      rw [customSrtFlushPayloadLocked, if_pos (.inl long)]
      dsimp only
      rw [bytes, if_neg (by simpa [delivered.1] using connected)]
      have later := @ih
        { customSrtSendMessageLocked answers sender
            (sender.srtSendPayload.take (packetsPerMessage * tsPacketSize)) with
          srtSendPayload :=
            sender.srtSendPayload.drop (packetsPerMessage * tsPacketSize) }
        (delivered.1.symm ▸ connected) (whole.drop packetsPerMessage) left
        (by rw [left, (whole.drop packetsPerMessage).length_flatten])
      refine ⟨later.1.trans delivered.1, ?_, ?_⟩
      · rw [Groups.rest, Groups.cut_group (by decide) enough.2]
        exact later.2.1
      · rw [Groups.full, Groups.cut_group (by decide) enough.2, List.map_cons, ← message]
        refine later.2.2.trans ?_
        simp [delivered.2]
  | case2 packets few =>
      have short : ¬ (srtLivePayloadSize ≤ sender.srtSendPayload.length ∨
          (false = true ∧ 0 < sender.srtSendPayload.length)) := by
        simp only [packetsPerMessage, srtLivePayloadSize, tsPacketSize,
          Bool.false_eq_true, false_and, or_false] at *
        omega
      rw [customSrtFlushPayloadLocked, if_neg short, Groups.rest, Groups.full,
        Groups.cut_short (by simp only [packetsPerMessage] at *; omega)]
      simp [payload]

end SrtSender

/-- Packets that are sent and video packets that are delayed. -/
structure Lineup where
  sent : List (List UInt8)
  delayed : List (List UInt8)

namespace Lineup

/-- No packet has come. -/
def empty : Lineup where
  sent := []
  delayed := []

/-- Delayed packets are sent. -/
def release (count : Nat) (lineup : Lineup) : Lineup where
  sent := lineup.sent ++ lineup.delayed.take count
  delayed := lineup.delayed.drop count

/-- A packet is sent. -/
def send (lineup : Lineup) (packet : List UInt8) : Lineup :=
  { lineup with sent := lineup.sent ++ [packet] }

/-- A packet is delayed; too long a line of delayed packets moves on. -/
def delay (lineup : Lineup) (packet : List UInt8) : Lineup :=
  let longer := { lineup with delayed := lineup.delayed ++ [packet] }
  if srtVideoBacklogMaxPackets < longer.delayed.length then longer.release 7 else longer

/-- A packet comes. -/
def take (lineup : Lineup) (packet : List UInt8) : Lineup :=
  let pid := SrtSender.tsPacketPid packet
  if pid = tsVideoPid then lineup.delay packet
  else if pid = tsAudioPid then
    (lineup.send packet).release srtVideoDrainAfterAudioPackets
  else lineup.send packet

/-- The packets of one PID, those sent first. -/
def ofPid (pid : Nat) (lineup : Lineup) : List (List UInt8) :=
  (lineup.sent ++ lineup.delayed).filter fun packet => SrtSender.tsPacketPid packet = pid

/-- What holds between packets. -/
structure Sound (lineup : Lineup) : Prop where
  /-- Only video is delayed. -/
  video : ∀ packet ∈ lineup.delayed, SrtSender.tsPacketPid packet = tsVideoPid
  bounded : lineup.delayed.length ≤ srtVideoBacklogMaxPackets
  whole : Whole (lineup.sent ++ lineup.delayed)

@[simp] theorem sent_append_delayed_release
    (count : Nat)
    (lineup : Lineup) :
    (lineup.release count).sent ++ (lineup.release count).delayed =
      lineup.sent ++ lineup.delayed := by
  rw [release, List.append_assoc, List.take_append_drop]

theorem Sound.empty : Lineup.empty.Sound where
  video := by simp [Lineup.empty]
  bounded := by simp [Lineup.empty]
  whole := by simp [Lineup.empty, Whole]

variable {lineup : Lineup}

theorem Sound.release
    (sound : lineup.Sound)
    (count : Nat) :
    (lineup.release count).Sound where
  video packet member := sound.video packet (List.mem_of_mem_drop member)
  bounded := by
    have bounded := sound.bounded
    simp only [Lineup.release, List.length_drop]
    omega
  whole := by
    rw [sent_append_delayed_release]
    exact sound.whole

variable {packet : List UInt8}

theorem Sound.send
    (sound : lineup.Sound)
    (whole : packet.length = tsPacketSize) :
    (lineup.send packet).Sound where
  video := sound.video
  bounded := sound.bounded
  whole := by
    intro other member
    obtain earlier | delayed := List.mem_append.mp member
    · obtain sent | new := List.mem_append.mp earlier
      · exact sound.whole other (by simp [sent])
      · rw [List.mem_singleton.mp new]
        exact whole
    · exact sound.whole other (by simp [show other ∈ lineup.delayed from delayed])

theorem Sound.delay
    (sound : lineup.Sound)
    (whole : packet.length = tsPacketSize)
    (video : SrtSender.tsPacketPid packet = tsVideoPid) :
    (lineup.delay packet).Sound := by
  have bounded := sound.bounded
  have videos : ∀ other ∈ lineup.delayed ++ [packet],
      SrtSender.tsPacketPid other = tsVideoPid := by
    intro other member
    obtain delayed | new := List.mem_append.mp member
    · exact sound.video other delayed
    · rw [List.mem_singleton.mp new]
      exact video
  have wholes : Whole (lineup.sent ++ (lineup.delayed ++ [packet])) := by
    rw [← List.append_assoc]
    exact sound.whole.append (by simpa [Whole] using whole)
  dsimp only [Lineup.delay]
  split
  next long =>
    exact {
      video := fun other member => videos other (List.mem_of_mem_drop member)
      bounded := by
        simp only [Lineup.release, List.length_drop, List.length_append,
          List.length_singleton]
        omega
      whole := by
        rw [sent_append_delayed_release]
        exact wholes }
  next short =>
    exact {
      video := videos
      bounded := Nat.not_lt.mp short
      whole := wholes }

/-- A whole packet keeps the line sound. -/
theorem Sound.take
    (sound : lineup.Sound)
    (whole : packet.length = tsPacketSize) :
    (lineup.take packet).Sound := by
  dsimp only [Lineup.take]
  split
  next video => exact sound.delay whole video
  next =>
    split
    · exact (sound.send whole).release _
    · exact sound.send whole

/-- A packet comes behind the packets of its PID. -/
theorem ofPid_take
    (sound : lineup.Sound)
    (packet : List UInt8)
    (pid : Nat) :
    (lineup.take packet).ofPid pid =
      lineup.ofPid pid ++
        [packet].filter fun packet => SrtSender.tsPacketPid packet = pid := by
  have behind : SrtSender.tsPacketPid packet ≠ tsVideoPid →
      (lineup.send packet).ofPid pid =
        lineup.ofPid pid ++
          [packet].filter fun packet => SrtSender.tsPacketPid packet = pid := by
    intro other
    unfold ofPid send
    by_cases isVideo : pid = tsVideoPid
    · have notThis : SrtSender.tsPacketPid packet ≠ pid := isVideo ▸ other
      simp [notThis]
    · have noneDelayed : lineup.delayed.filter
          (fun packet => SrtSender.tsPacketPid packet = pid) = [] := by
        rw [List.filter_eq_nil_iff]
        intro delayed member same
        exact isVideo ((of_decide_eq_true same).symm.trans (sound.video delayed member))
      simp only [List.filter_append, noneDelayed, List.append_nil]
  dsimp only [take]
  split
  · have same : (lineup.delay packet).sent ++ (lineup.delay packet).delayed =
        lineup.sent ++ lineup.delayed ++ [packet] := by
      dsimp only [delay]
      split
      · rw [sent_append_delayed_release, List.append_assoc]
      · rw [List.append_assoc]
    unfold ofPid
    rw [same, List.filter_append]
  next other =>
    split
    · unfold ofPid
      rw [sent_append_delayed_release]
      exact behind other
    · exact behind other

/-- A packet is put into the line once. -/
theorem perm_take
    (lineup : Lineup)
    (packet : List UInt8) :
    ((lineup.take packet).sent ++ (lineup.take packet).delayed).Perm
      (lineup.sent ++ lineup.delayed ++ [packet]) := by
  have sent : ((lineup.send packet).sent ++ (lineup.send packet).delayed).Perm
      (lineup.sent ++ lineup.delayed ++ [packet]) := by
    unfold send
    rw [List.append_assoc, List.append_assoc]
    exact List.perm_append_comm.append_left lineup.sent
  dsimp only [take]
  split
  · dsimp only [delay]
    split
    · rw [sent_append_delayed_release, List.append_assoc]
    · rw [List.append_assoc]
  · split
    · rw [sent_append_delayed_release]
      exact sent
    · exact sent

/-- Packets come one after the other. -/
theorem foldl_take
    (sound : lineup.Sound)
    {packets : List (List UInt8)}
    (whole : Whole packets) :
    let after := packets.foldl take lineup
    after.Sound ∧
      (after.sent ++ after.delayed).Perm (lineup.sent ++ lineup.delayed ++ packets) ∧
      ∀ pid, after.ofPid pid =
        lineup.ofPid pid ++
          packets.filter fun packet => SrtSender.tsPacketPid packet = pid := by
  induction packets generalizing lineup with
  | nil => simp [sound]
  | cons packet rest ih =>
      have first := whole packet (by simp)
      obtain ⟨soundAfter, perm, ordered⟩ := ih (sound.take first)
        (fun packet member => whole packet (by simp [member]))
      refine ⟨soundAfter, ?_, ?_⟩
      · refine perm.trans ?_
        rw [List.append_cons _ packet rest]
        exact (lineup.perm_take packet).append_right rest
      · intro pid
        rw [List.foldl_cons, ordered, ofPid_take sound, List.append_assoc,
          ← List.filter_append]
        rfl

end Lineup

/-! ## The relay keeps the line -/

namespace SrtSender

variable {answers : SendAnswers} {sender : SrtSender} {lineup : Lineup}

/-- The buffers hold a line of packets. -/
structure Represents (lineup : Lineup) (sender : SrtSender) : Prop where
  connected : sender.srtClients ≠ []
  messages : sender.messages =
    (Groups.full packetsPerMessage lineup.sent).map List.flatten
  payload : sender.srtSendPayload = (Groups.rest packetsPerMessage lineup.sent).flatten
  backlog : sender.srtVideoTsBacklog = lineup.delayed.flatten

theorem Whole.rest
    {packets : List (List UInt8)}
    (whole : Whole packets) :
    Whole (Groups.rest packetsPerMessage packets) := by
  intro packet member
  apply whole packet
  rw [← @Groups.full_flatten_append_rest _ packetsPerMessage packets]
  exact List.mem_append_right _ member

section

variable (represents : Represents lineup sender)
include represents

/-- Packets are sent behind those already sent. -/
theorem Represents.sendBytes
    (delivers : Delivers answers)
    (wholeSent : Whole lineup.sent)
    {packets : List (List UInt8)}
    (whole : Whole packets) :
    Represents { lineup with sent := lineup.sent ++ packets }
      (customSrtSendBytesLocked answers sender packets.flatten) := by
  unfold customSrtSendBytesLocked
  split
  next nothing =>
    have connected : sender.srtClients.isEmpty = false := by
      simpa using represents.connected
    have noBytes : packets.flatten = [] := by simpa [connected] using nothing
    have count := whole.length_flatten
    rw [noBytes, List.length_nil] at count
    have none : packets = [] := by
      apply List.eq_nil_of_length_eq_zero
      simp only [tsPacketSize] at count
      omega
    rw [none, List.append_nil]
    exact represents
  next something =>
    have appended : sender.srtSendPayload ++ packets.flatten =
        (Groups.rest packetsPerMessage lineup.sent ++ packets).flatten := by
      rw [represents.payload, List.flatten_append]
    have flushed := @flush_delivers _
      { sender with srtSendPayload := sender.srtSendPayload ++ packets.flatten }
      delivers represents.connected _ ((Whole.rest wholeSent).append whole) appended
    have same := sameQueues_flush answers false
      { sender with srtSendPayload := sender.srtSendPayload ++ packets.flatten }
    exact {
      connected := flushed.1.symm ▸ represents.connected
      messages := by
        refine flushed.2.2.trans ?_
        rw [Groups.full_append (by decide) lineup.sent packets, List.map_append]
        exact congrArg (· ++ _) represents.messages
      payload := by
        refine flushed.2.1.trans ?_
        rw [Groups.rest_append (by decide) lineup.sent packets]
      backlog := same.2.trans represents.backlog }

/-- Delayed packets are sent behind those already sent. -/
theorem Represents.sendVideoBacklog
    (delivers : Delivers answers)
    (whole : Whole (lineup.sent ++ lineup.delayed))
    {maxPackets : Nat}
    (limited : 0 < maxPackets) :
    Represents (lineup.release maxPackets)
      (customSrtSendVideoBacklogLocked answers maxPackets sender) := by
  have wholeSent : Whole lineup.sent := fun packet member => whole packet (by simp [member])
  have wholeDelayed : Whole lineup.delayed :=
    fun packet member => whole packet (by simp [member])
  have packets : sender.srtVideoTsBacklog.length / tsPacketSize = lineup.delayed.length := by
    rw [represents.backlog, wholeDelayed.length_flatten]
    exact Nat.mul_div_cancel _ (by decide)
  have taken : lineup.delayed.take (sender.backlogPackets maxPackets) =
        lineup.delayed.take maxPackets ∧
      lineup.delayed.drop (sender.backlogPackets maxPackets) =
        lineup.delayed.drop maxPackets := by
    dsimp only [backlogPackets]
    rw [packets]
    split
    · exact ⟨rfl, rfl⟩
    next few =>
      have all : lineup.delayed.length ≤ maxPackets := by omega
      rw [List.take_of_length_le all, List.drop_of_length_le all, List.take_length,
        List.drop_length]
      exact ⟨rfl, rfl⟩
  have parts := wholeDelayed.take_flatten (sender.backlogPackets maxPackets)
  have sent := represents.sendBytes delivers wholeSent
    (wholeDelayed.take (sender.backlogPackets maxPackets))
  rw [← parts.1, ← represents.backlog] at sent
  rw [taken.1] at sent
  rw [sendVideoBacklog_eq]
  exact {
    connected := sent.connected
    messages := sent.messages
    payload := sent.payload
    backlog := by
      rw [represents.backlog, parts.2, taken.2]
      rfl }

/-- One packet more than the most is drained at once. -/
theorem Represents.drainBacklog
    (delivers : Delivers answers)
    (whole : Whole (lineup.sent ++ lineup.delayed))
    (bounded : lineup.delayed.length ≤ srtVideoBacklogMaxPackets + 1) :
    Represents
      (if srtVideoBacklogMaxPackets < lineup.delayed.length then lineup.release 7 else lineup)
      (SrtSender.drainBacklog answers sender) := by
  have packets : ∀ {lineup : Lineup} {sender : SrtSender},
      Represents lineup sender → Whole (lineup.sent ++ lineup.delayed) →
        sender.srtVideoTsBacklog.length / tsPacketSize = lineup.delayed.length := by
    intro lineup sender represents whole
    have wholeDelayed : Whole lineup.delayed :=
      fun packet member => whole packet (by simp [member])
    rw [represents.backlog, wholeDelayed.length_flatten]
    exact Nat.mul_div_cancel _ (by decide)
  have count := packets represents whole
  by_cases long : srtVideoBacklogMaxPackets < lineup.delayed.length
  · have released := represents.sendVideoBacklog delivers whole (show 0 < 7 by decide)
    have countReleased := packets released (by
      rw [Lineup.sent_append_delayed_release]
      exact whole)
    have short : ¬ srtVideoBacklogMaxPackets < (lineup.release 7).delayed.length := by
      simp only [Lineup.release, List.length_drop]
      omega
    rw [if_pos long, SrtSender.drainBacklog, count, if_pos long, SrtSender.drainBacklog,
      countReleased, if_neg short]
    exact released
  · rw [if_neg long, SrtSender.drainBacklog, count, if_neg long]
    exact represents

/-- A packet of the input goes into the line. -/
theorem Represents.relayPacket
    (delivers : Delivers answers)
    (sound : lineup.Sound)
    {packet : List UInt8}
    (whole : packet.length = tsPacketSize) :
    Represents (lineup.take packet) (SrtSender.relayPacket answers sender packet) := by
  have wholeSent : Whole lineup.sent :=
    fun packet member => sound.whole packet (by simp [member])
  have wholePacket : Whole [packet] := by simpa [Whole] using whole
  have sent : Represents (lineup.send packet)
      (customSrtSendBytesLocked answers sender packet) := by
    have sent := represents.sendBytes delivers wholeSent wholePacket
    rw [List.flatten_singleton] at sent
    exact sent
  dsimp only [Lineup.take, SrtSender.relayPacket]
  split
  next video =>
    have delayed : Represents { lineup with delayed := lineup.delayed ++ [packet] }
        { sender with srtVideoTsBacklog := sender.srtVideoTsBacklog ++ packet } :=
      { represents with backlog := by simp [represents.backlog] }
    apply delayed.drainBacklog delivers
    · rw [← List.append_assoc]
      exact sound.whole.append wholePacket
    · have bounded := sound.bounded
      simp only [List.length_append, List.length_singleton]
      omega
  next =>
    split
    · exact sent.sendVideoBacklog delivers (sound.send whole).whole (by decide)
    · exact sent

/-- The packets of the input go into the line, and less than a packet stays. -/
theorem Represents.relayInput
    (delivers : Delivers answers)
    (sound : lineup.Sound) :
    Represents ((tsFraming.packets sender.srtTsInput).foldl Lineup.take lineup)
        (SrtSender.relayInput answers sender) ∧
      tsFraming.unfinished (SrtSender.relayInput answers sender).srtTsInput =
        tsFraming.unfinished sender.srtTsInput ∧
      (SrtSender.relayInput answers sender).srtTsInput.length < tsPacketSize := by
  induction sender using SrtSender.relayInput.induct answers generalizing lineup with
  | case1 sender enough unsynced nothing =>
      have scanned : tsFraming.scan sender.srtTsInput = tsFraming.scan [] := by
        rw [← Framing.scan_dropWhile, ← nothing]
        rfl
      rw [SrtSender.relayInput, if_pos enough, if_pos unsynced, if_pos nothing]
      rw [Framing.packets, Framing.unfinished, Framing.unfinished, scanned]
      refine ⟨?_, rfl, Nat.zero_lt_succ _⟩
      have empty : (tsFraming.scan []).1 = [] := Framing.packets_nil
      rw [empty]
      exact { represents with }
  | case2 sender enough unsynced something ih =>
      have scanned : tsFraming.scan (resync sender.srtTsInput) =
          tsFraming.scan sender.srtTsInput :=
        Framing.scan_dropWhile sender.srtTsInput
      have later := ih { represents with } sound
      rw [SrtSender.relayInput, if_pos enough, if_pos unsynced, if_neg something]
      rw [Framing.packets, Framing.unfinished, Framing.unfinished, scanned] at later
      exact later
  | case3 sender enough synced ih =>
      rw [ne_eq, not_not] at synced
      obtain ⟨rest, isHead⟩ := List.head?_eq_some_iff.mp synced
      have long : tsFraming.size ≤ rest.length + 1 := by
        rw [isHead, List.length_cons] at enough
        exact enough
      have scanned := Framing.scan_packet long
      rw [show tsFraming.sync :: rest = sender.srtTsInput from isHead.symm] at scanned
      have packets : tsFraming.packets sender.srtTsInput =
          sender.srtTsInput.take tsPacketSize ::
            tsFraming.packets (sender.srtTsInput.drop tsPacketSize) :=
        congrArg Prod.fst scanned
      have unfinished : tsFraming.unfinished sender.srtTsInput =
          tsFraming.unfinished (sender.srtTsInput.drop tsPacketSize) := by
        rw [Framing.unfinished, scanned]
        rfl
      have whole : (sender.srtTsInput.take tsPacketSize).length = tsPacketSize := by
        rw [List.length_take]
        exact Nat.min_eq_left enough
      have relayed := represents.relayPacket delivers sound whole
      have later := @ih
        (lineup.take (sender.srtTsInput.take tsPacketSize))
        { relayed with } (sound.take whole)
      rw [relayHead_tsInput] at later
      rw [SrtSender.relayInput, if_pos enough, if_neg (by simpa using synced)]
      rw [packets, unfinished]
      exact later
  | case4 sender short =>
      have few : sender.srtTsInput.length < tsPacketSize := Nat.not_le.mp short
      rw [SrtSender.relayInput, if_neg short, Framing.scan_unfinished few]
      exact ⟨represents, rfl, few⟩

end

end SrtSender

/-- What happens to a sender between start and stop. -/
inductive SenderEvent
  /-- The accept thread appends a client. -/
  | client (socket : Nat)
  /-- A sample of the transport stream is sent. -/
  | sample (data : List UInt8)
  deriving DecidableEq

/-- The stream that was cut into samples. -/
def streamOf (events : List SenderEvent) : List UInt8 :=
  (events.map fun
    | .client _ => []
    | .sample data => data).flatten

namespace SrtSender

/-- An event is handled. -/
def handle
    (answers : SendAnswers)
    (sender : SrtSender) : SenderEvent → SrtSender
  | .client socket => { sender with srtClients := sender.srtClients ++ [socket] }
  | .sample data => customSrtSendInterleavedLocked answers sender data

/-- Clients are connected and nothing was relayed. -/
structure Fresh (sender : SrtSender) : Prop where
  connected : sender.srtClients ≠ []
  input : sender.srtTsInput = []
  backlog : sender.srtVideoTsBacklog = []
  payload : sender.srtSendPayload = []
  messages : sender.messages = []

/-- The line of the packets of a stream. -/
def lineupOf (stream : List UInt8) : Lineup :=
  (tsFraming.packets stream).foldl Lineup.take .empty

theorem whole_packets (stream : List UInt8) : Whole (tsFraming.packets stream) :=
  fun _ member => Framing.length_of_mem_packets member

theorem lineupOf_spec (stream : List UInt8) :
    (lineupOf stream).Sound ∧
      ((lineupOf stream).sent ++ (lineupOf stream).delayed).Perm (tsFraming.packets stream) ∧
      ∀ pid, (lineupOf stream).ofPid pid =
        (tsFraming.packets stream).filter fun packet => tsPacketPid packet = pid :=
  Lineup.foldl_take .empty (whole_packets stream)

/-- The buffers after a stream. -/
structure Relays (stream : List UInt8) (sender : SrtSender) : Prop where
  line : Represents (lineupOf stream) sender
  input : tsFraming.unfinished sender.srtTsInput = tsFraming.unfinished stream
  short : sender.srtTsInput.length < tsPacketSize

theorem Fresh.relays (fresh : Fresh sender) : Relays [] sender where
  line :=
    { connected := fresh.connected
      messages := by simp [fresh.messages, lineupOf, Lineup.empty, Groups.full, Groups.cut_short,
        packetsPerMessage]
      payload := by simp [fresh.payload, lineupOf, Lineup.empty, Groups.rest, Groups.cut_short,
        packetsPerMessage]
      backlog := by simp [fresh.backlog, lineupOf, Lineup.empty] }
  input := by rw [fresh.input]
  short := by simp [fresh.input, tsPacketSize]

variable {stream : List UInt8}

/-- A sample goes behind the stream. -/
theorem Relays.sample
    (relays : Relays stream sender)
    (delivers : Delivers answers)
    (data : List UInt8) :
    Relays (stream ++ data) (customSrtSendInterleavedLocked answers sender data) := by
  have connected : sender.srtClients.isEmpty = false := by simpa using relays.line.connected
  unfold customSrtSendInterleavedLocked
  split
  next nothing =>
    have noBytes : data = [] := by simpa [connected] using nothing
    rw [noBytes, List.append_nil]
    exact relays
  next =>
    have more : Represents (lineupOf stream)
        { sender with srtTsInput := sender.srtTsInput ++ data } :=
      { relays.line with }
    have relayed := more.relayInput delivers (lineupOf_spec stream).1
    have packets : tsFraming.packets (sender.srtTsInput ++ data) =
        tsFraming.packets (tsFraming.unfinished stream ++ data) := by
      rw [Framing.packets_append, Framing.scan_unfinished relays.short, relays.input,
        List.nil_append]
    have line : lineupOf (stream ++ data) =
        (tsFraming.packets (sender.srtTsInput ++ data)).foldl Lineup.take (lineupOf stream) := by
      rw [packets, lineupOf, lineupOf, Framing.packets_append, List.foldl_append]
    exact {
      line := by
        rw [line]
        exact relayed.1
      input := by
        refine relayed.2.1.trans ?_
        rw [Framing.unfinished_append sender.srtTsInput, relays.input,
          ← Framing.unfinished_append]
      short := relayed.2.2 }

theorem Relays.handle
    (relays : Relays stream sender)
    (delivers : Delivers answers)
    (event : SenderEvent) :
    Relays (stream ++ streamOf [event]) (sender.handle answers event) := by
  cases event with
  | client socket =>
      have same : stream ++ streamOf [.client socket] = stream := by simp [streamOf]
      rw [same]
      exact {
        line := { relays.line with connected := by simp [SrtSender.handle] }
        input := relays.input
        short := relays.short }
  | sample data =>
      have longer : stream ++ streamOf [.sample data] = stream ++ data := by simp [streamOf]
      rw [longer]
      exact relays.sample delivers data

/-- Events one after the other. -/
theorem Relays.run
    (relays : Relays stream sender)
    (delivers : Delivers answers)
    (events : List SenderEvent) :
    Relays (stream ++ streamOf events) (events.foldl (SrtSender.handle answers) sender) := by
  induction events generalizing stream sender with
  | nil => simpa [streamOf] using relays
  | cons event rest ih =>
      have later := ih (relays.handle delivers event)
      have joined : stream ++ streamOf (event :: rest) =
          stream ++ streamOf [event] ++ streamOf rest := by
        simp [streamOf]
      rw [joined]
      exact later

/-- A client hears the events in which it does not connect again. -/
theorem hears_run
    (delivers : Delivers answers)
    {client : Nat}
    {events : List SenderEvent}
    (connectsNot : .client client ∉ events) :
    Hears client sender (events.foldl (SrtSender.handle answers) sender) := by
  induction events generalizing sender with
  | nil => exact .refl client sender
  | cons event rest ih =>
      rw [List.mem_cons, not_or] at connectsNot
      refine Hears.trans ?_ (ih connectsNot.2)
      cases event with
      | client socket =>
          have other : socket ≠ client := fun same => connectsNot.1 (by rw [same])
          intro once
          refine ⟨?_, [], (List.append_nil _).symm, (List.append_nil _).symm⟩
          simpa [SrtSender.handle, List.count_singleton, other] using once
      | sample data => exact (keptBySending_hears delivers client).sendInterleaved sender data

/-- While a client is connected and every send succeeds, the buffers and messages
hold every packet of the stream once, those of one PID in order; messages are groups
of whole packets and do not depend on how the stream was cut.  From any event on, every
further message is sent to each client that is connected. -/
theorem relay_keeps_stream
    (delivers : Delivers answers)
    (fresh : Fresh sender)
    (events : List SenderEvent) :
    let after := events.foldl (SrtSender.handle answers) sender
    let packets := tsFraming.packets (streamOf events)
    (∃ groups : List (List (List UInt8)), ∃ waiting delayed : List (List UInt8),
      after.messages = groups.map List.flatten ∧
        after.srtSendPayload = waiting.flatten ∧
        after.srtVideoTsBacklog = delayed.flatten ∧
        (∀ group ∈ groups, group.length = packetsPerMessage) ∧
        (groups.flatten ++ waiting ++ delayed).Perm packets ∧
        ∀ pid, (groups.flatten ++ waiting ++ delayed).filter
            (fun packet => tsPacketPid packet = pid) =
          packets.filter fun packet => tsPacketPid packet = pid) ∧
      (tsFraming.unfinished after.srtTsInput = tsFraming.unfinished (streamOf events) ∧
        after.srtTsInput.length < tsPacketSize) ∧
      (∀ message ∈ after.messages, message.length = srtLivePayloadSize) ∧
      after.srtVideoTsBacklog.length / tsPacketSize ≤ srtVideoBacklogMaxPackets ∧
      (∀ otherCut : List SenderEvent, streamOf otherCut = streamOf events →
        (otherCut.foldl (SrtSender.handle answers) sender).messages = after.messages) ∧
      ∀ first rest client, events = first ++ rest →
        let middle := first.foldl (SrtSender.handle answers) sender
        middle.srtClients.count client = 1 → .client client ∉ rest →
          ∃ more, after.messages = middle.messages ++ more ∧
            after.messagesTo client = middle.messagesTo client ++ more := by
  intro after packets
  have relays : Relays (streamOf events) after := fresh.relays.run delivers events
  obtain ⟨sound, perm, ordered⟩ := lineupOf_spec (streamOf events)
  have whole : Whole (lineupOf (streamOf events)).sent :=
    fun packet member => sound.whole packet (by simp [member])
  have wholeDelayed : Whole (lineupOf (streamOf events)).delayed :=
    fun packet member => sound.whole packet (by simp [member])
  have cut := @Groups.full_flatten_append_rest _ packetsPerMessage
    (lineupOf (streamOf events)).sent
  refine ⟨⟨Groups.full packetsPerMessage (lineupOf (streamOf events)).sent,
    Groups.rest packetsPerMessage (lineupOf (streamOf events)).sent,
    (lineupOf (streamOf events)).delayed, relays.line.messages, relays.line.payload,
    relays.line.backlog, fun group member => Groups.length_of_mem_full member, ?_, ?_⟩,
    ⟨relays.input, relays.short⟩, ?_, ?_, ?_, ?_⟩
  · rw [cut]
    exact perm
  · intro pid
    rw [cut]
    exact ordered pid
  · intro message member
    rw [relays.line.messages, List.mem_map] at member
    obtain ⟨group, isGroup, isMessage⟩ := member
    have wholeGroup : Whole group := by
      intro packet inGroup
      apply whole packet
      rw [← cut]
      exact List.mem_append_left _ (List.mem_flatten.mpr ⟨group, isGroup, inGroup⟩)
    rw [← isMessage, wholeGroup.length_flatten, Groups.length_of_mem_full isGroup]
    rfl
  · rw [relays.line.backlog, wholeDelayed.length_flatten,
      Nat.mul_div_cancel _ (by decide : 0 < tsPacketSize)]
    exact sound.bounded
  · intro otherCut sameStream
    have other := fresh.relays.run delivers otherCut
    rw [List.nil_append, sameStream] at other
    rw [other.line.messages, relays.line.messages]
  · rintro first rest client split middle once connectsNot
    have heard := @hears_run _ middle delivers _ _ connectsNot
    rw [← List.foldl_append, ← split] at heard
    exact (heard once).2

/-- A caller is connected and the relay has not sent anything. -/
def callerConnected : SrtSender where
  srtSenderRunning := true
  srtClients := [1]
  srtTsInput := []
  srtVideoTsBacklog := []
  srtSendPayload := []
  srtSenderBytesSent := 0
  srtSenderSendFailures := 0
  srtSenderPacketsSent := 0
  srtSenderPacketsDropped := 0
  removed := 0
  messages := []
  delivered := []

/-- A packet of a PID with a number. -/
def numbered (pid number : UInt8) : List UInt8 :=
  [tsSyncByte, 1, pid, number] ++ List.replicate 184 255

/-- Fourteen video packets with three sound packets between them. -/
def programPackets : List (List UInt8) :=
  [numbered 0 0, numbered 0 1, numbered 0 2, numbered 0 3, numbered 1 0, numbered 0 4,
    numbered 0 5, numbered 0 6, numbered 0 7, numbered 0 8, numbered 1 1, numbered 0 9,
    numbered 0 10, numbered 0 11, numbered 0 12, numbered 0 13, numbered 1 2]

/-- The samples before the second caller: the stream starts with stray bytes and is cut within
packets. -/
def earlySamples : List SenderEvent :=
  let stream := [0, 1] ++ programPackets.flatten
  [.sample (stream.take 300), .sample ((stream.drop 300).take 2000)]

/-- The second caller and the rest of the stream with a part of a packet. -/
def lateSamples : List SenderEvent :=
  [.client 2, .sample (([0, 1] ++ programPackets.flatten).drop 2300 ++ [tsSyncByte, 1])]

/-- The program is relayed to two callers. -/
theorem relay_keeps_stream_program :
    let middle := earlySamples.foldl (SrtSender.handle fun _ _ => true) callerConnected
    let after := (earlySamples ++ lateSamples).foldl (SrtSender.handle fun _ _ => true)
      callerConnected
    (∃ sent delayed : List (List UInt8),
      after.messages.flatten ++ after.srtSendPayload = sent.flatten ∧
        after.srtVideoTsBacklog = delayed.flatten ∧
        (sent ++ delayed).Perm programPackets ∧
        ∀ pid, (sent ++ delayed).filter (fun packet => tsPacketPid packet = pid) =
          programPackets.filter fun packet => tsPacketPid packet = pid) ∧
      after.srtTsInput.length < tsPacketSize ∧
      (∀ message ∈ after.messages, message.length = srtLivePayloadSize) ∧
      ([SenderEvent.sample (streamOf (earlySamples ++ lateSamples))].foldl
        (SrtSender.handle fun _ _ => true) callerConnected).messages = after.messages ∧
      middle.messages.length = 1 ∧ after.messages.length = 2 ∧
      after.messagesTo 1 = after.messages ∧
      after.messages = middle.messages ++ after.messagesTo 2 := by
  intro middle after
  have fresh : Fresh callerConnected := ⟨by decide, rfl, rfl, rfl, rfl⟩
  have packets : tsFraming.packets (streamOf (earlySamples ++ lateSamples)) = programPackets := by
    decide +kernel
  obtain ⟨one, none, two⟩ :
      middle.messages.length = 1 ∧ middle.messagesTo 2 = [] ∧ after.messages.length = 2 := by
    decide +kernel
  obtain ⟨⟨groups, waiting, delayed, messages, payload, backlog, -, perm, ordered⟩, ⟨-, short⟩,
      whole, -, anyCut, hears⟩ :=
    @relay_keeps_stream (fun _ _ => true) callerConnected (fun _ _ => rfl) fresh
      (earlySamples ++ lateSamples)
  rw [packets] at perm ordered
  refine ⟨⟨groups.flatten ++ waiting, delayed, ?_, backlog, perm, ordered⟩, short, whole,
    anyCut _ (List.append_nil _), one, two, ?_, ?_⟩
  · rw [show after.messages = _ from messages, show after.srtSendPayload = _ from payload,
      List.flatten_append, List.flatten_flatten]
  · obtain ⟨more, sent, heard⟩ := hears [] _ 1 rfl (by decide) (by decide +kernel)
    exact heard.trans sent.symm
  · obtain ⟨more, sent, heard⟩ :=
      hears (earlySamples ++ [SenderEvent.client 2]) lateSamples.tail 2 rfl
        (by decide +kernel) (by decide +kernel)
    have heardOnly : after.messagesTo 2 = more := by
      rw [← List.nil_append more, ← none]
      exact heard
    rw [heardOnly]
    exact sent

end SrtSender
end Engine
end SbsServer
