import SbsServer.Engine.FrameSlotQueue
import SbsServer.Supervisor.LeaseAccounts

/-!
# Leases between the capture worker and the server

The two parties of a capture source: the worker, which lends captured frames
under sequence numbers, and the server, which receives them into the frame slot of
the source, where the compositor takes them, and which releases each of them.
The server counts its connections, since frames of an earlier connection may
still be in the slot when a new worker has connected.
-/

namespace SbsServer
namespace Supervisor

open CLib Engine Worker

/-- `sbs_frame_fds_t` of a captured frame: the connection that `release_sock_fd` belongs to
and `release_sequence`. -/
structure FrameFds where
  connection : Nat
  sequence : UInt64
  deriving DecidableEq

/-- The worker and the server's side of its source.  The last two fields are a history of the
connection: the frames sent, by their sequence number, and the numbers released. -/
structure LeaseLink where
  worker : VfmcapWorker
  connection : Nat
  /-- `conn_fd` is open. -/
  connected : Bool
  muted : Bool
  /-- The frames in flight to the server. -/
  frameChannel : List UInt64
  /-- The messages in flight to the worker. -/
  releaseChannel : List VfmcapWorker.ControlMessage
  frameSlot : FrameSlot FrameFds
  /-- The frames that the compositor has taken from the slot. -/
  taken : List FrameFds
  sent : List Nat
  released : List UInt64

namespace LeaseLink

/-- A source whose worker has just connected. -/
def start : LeaseLink where
  worker := .started
  connection := 0
  connected := true
  muted := false
  frameChannel := []
  releaseChannel := []
  frameSlot := .init true
  taken := []
  sent := []
  released := []

/-- The frames in a slot, oldest first. -/
def slotFrames (slot : FrameSlot FrameFds) : List FrameFds :=
  slot.stored.filterMap FrameEntry.frame

/-- The frames that the server holds. -/
def held (link : LeaseLink) : List FrameFds :=
  slotFrames link.frameSlot ++ link.taken

/-- The sequence number of a frame of the connection. -/
def ownSequence
    (link : LeaseLink)
    (fds : FrameFds) : Option UInt64 :=
  if fds.connection = link.connection then some fds.sequence else none

/-- The sequence numbers of the frames of the connection that the server holds. -/
def heldSequences (link : LeaseLink) : List UInt64 :=
  link.held.filterMap link.ownSequence

/-- The sequence number that a message releases. -/
def releasedBy : VfmcapWorker.ControlMessage → Option UInt64
  | .frameRelease sequence => some sequence
  | _ => none

/-- The sequence numbers whose release is in flight to the worker. -/
def releasesInFlight (link : LeaseLink) : List UInt64 :=
  link.releaseChannel.filterMap releasedBy

/-- `send_source_frame_release`, for a frame of the connection; a message that would block is
dropped. -/
def sendRelease
    (capacity : Nat)
    (link : LeaseLink)
    (sequence : UInt64) : LeaseLink :=
  { link with
    released := link.released ++ [sequence]
    releaseChannel :=
      if link.releaseChannel.length < capacity then
        link.releaseChannel ++ [.frameRelease sequence]
      else link.releaseChannel }

/-- `sbs_frame_fds_release`; a message on an earlier connection reaches nobody. -/
def releaseFds
    (capacity : Nat)
    (link : LeaseLink)
    (fds : FrameFds) : LeaseLink :=
  match link.ownSequence fds with
  | some sequence => link.sendRelease capacity sequence
  | none => link

/-- How `on_frame_available` gets on with a frame of a source that is not muted. -/
inductive ReceiveOutcome
  | published (timestampUs : UInt64)
  /-- `calloc` fails. -/
  | noMemory
  /-- `dup` fails. -/
  | noDescriptor
  deriving DecidableEq

/-- `on_frame_available`, for the next frame. -/
def receive
    (capacity : Nat)
    (link : LeaseLink)
    (outcome : ReceiveOutcome) : Option LeaseLink :=
  match link.connected, link.frameChannel with
  | true, sequence :: rest =>
      let received := { link with frameChannel := rest }
      if link.muted then some (received.sendRelease capacity sequence)
      else
        match outcome with
        | .published timestampUs =>
            let (frameSlot, released) :=
              link.frameSlot.publish (some ⟨link.connection, sequence⟩) timestampUs
            some (released.foldl (releaseFds capacity) { received with frameSlot := frameSlot })
        | .noMemory => some (received.sendRelease capacity sequence)
        | .noDescriptor => some (received.sendRelease capacity sequence)
  | _, _ => none

/-- The compositor takes the oldest frame from the slot. -/
def takeOldest (link : LeaseLink) : LeaseLink :=
  let (frameSlot, fds, _) := link.frameSlot.takeOldest
  { link with frameSlot := frameSlot, taken := link.taken ++ fds.toList }

/-- The slot is flushed. -/
def flush
    (capacity : Nat)
    (link : LeaseLink) : LeaseLink :=
  let (frameSlot, released) := link.frameSlot.flush
  released.foldl (releaseFds capacity) { link with frameSlot := frameSlot }

/-- The compositor releases a frame that it has taken. -/
def releaseTaken
    (capacity : Nat)
    (link : LeaseLink)
    (index : Nat) : Option LeaseLink :=
  link.taken[index]?.map fun fds =>
    { link with taken := link.taken.eraseIdx index }.releaseFds capacity fds

/-- The server asks the worker to shut down. -/
def sendShutdown
    (capacity : Nat)
    (link : LeaseLink) : LeaseLink :=
  if link.releaseChannel.length < capacity then
    { link with releaseChannel := link.releaseChannel ++ [.shutdown] }
  else link

/-- A new worker process connects. -/
def respawn (link : LeaseLink) : LeaseLink :=
  { link with
    worker := .started
    connection := link.connection + 1
    connected := true
    frameChannel := []
    releaseChannel := []
    sent := []
    released := [] }

/-- The messages that an event of the worker reads. -/
def messagesRead : VfmcapWorker.VfmcapEvent → List VfmcapWorker.ControlMessage
  | .fire _ (.control false messages _) => messages
  | _ => []

/-- Whether an event of the worker fits what the server has done: messages are read in order,
none after a request to shut down, and the connection ends with its last descriptor. -/
def fits
    (link : LeaseLink)
    (event : VfmcapWorker.VfmcapEvent) : Bool :=
  (messagesRead event).isPrefixOf link.releaseChannel &&
    !(messagesRead event).dropLast.contains .shutdown &&
    (event != .serverCloses || (!link.connected && link.heldSequences.isEmpty))

/-- An event of the worker. -/
def workerStep
    (link : LeaseLink)
    (event : VfmcapWorker.VfmcapEvent) : Option LeaseLink :=
  if link.fits event then
    (link.worker.next event).map fun after =>
      let lent := link.worker.lending.lent after.lending
      { link with
        worker := after
        frameChannel := link.frameChannel ++ lent.map VfmcapLease.sequence
        sent := link.sent ++ lent.map VfmcapLease.frame
        releaseChannel := link.releaseChannel.drop (messagesRead event).length }
  else none

/-- What happens to a capture source. -/
inductive LeaseEvent
  | worker (event : VfmcapWorker.VfmcapEvent)
  | receive (outcome : ReceiveOutcome)
  | mute
  | unmute
  | takeOldest
  | flush
  | releaseTaken (index : Nat)
  | shutdown
  /-- The server closes `conn_fd`. -/
  | hangUp
  | respawn
  deriving DecidableEq

/-- The source after an event, if the event can happen. -/
def next
    (capacity : Nat)
    (link : LeaseLink) : LeaseEvent → Option LeaseLink
  | .worker event => link.workerStep event
  | .receive outcome => link.receive capacity outcome
  | .mute => some { link with muted := true }
  | .unmute => some { link with muted := false }
  | .takeOldest => some link.takeOldest
  | .flush => some (link.flush capacity)
  | .releaseTaken index => link.releaseTaken capacity index
  | .shutdown => some (link.sendShutdown capacity)
  | .hangUp => some { link with connected := false }
  | .respawn => some link.respawn

/-- Runs of a capture source, with a number of messages that the direction to the worker
holds. -/
def system (capacity : Nat) : System LeaseLink LeaseEvent :=
  .ofNext (· = start) (next capacity)

/-- A slot that stands for some queue and releases what it drops. -/
structure GoodSlot (slot : FrameSlot FrameFds) : Prop where
  queue : ∃ items, slot.Represents items
  releases : slot.releaseFn = true

variable {slot : FrameSlot FrameFds} {capacity : Nat} {link after : LeaseLink}

theorem GoodSlot.releasing
    (good : GoodSlot slot) :
    slot.Releasing :=
  ⟨good.queue, good.releases⟩

theorem GoodSlot.of_releasing
    (releasing : slot.Releasing) :
    GoodSlot slot :=
  ⟨releasing.queue, releasing.releases⟩

theorem GoodSlot.publish
    (good : GoodSlot slot)
    (fds : FrameFds)
    (timestampUs : UInt64) :
    GoodSlot (slot.publish (some fds) timestampUs).1 ∧
      ((slot.publish (some fds) timestampUs).2 ++
        slotFrames (slot.publish (some fds) timestampUs).1).Perm (fds :: slotFrames slot) := by
  obtain ⟨releasing, published⟩ := good.releasing.publish fds timestampUs
  exact ⟨.of_releasing releasing, published⟩

theorem GoodSlot.takeOldest
    (good : GoodSlot slot) :
    GoodSlot slot.takeOldest.1 ∧
      slot.takeOldest.2.1.toList ++ slotFrames slot.takeOldest.1 = slotFrames slot := by
  obtain ⟨releasing, taken⟩ := good.releasing.takeOldest
  exact ⟨.of_releasing releasing, taken⟩

theorem GoodSlot.flush
    (good : GoodSlot slot) :
    GoodSlot slot.flush.1 ∧ slot.flush.2 = slotFrames slot ∧ slotFrames slot.flush.1 = [] := by
  obtain ⟨releasing, flushed, empty⟩ := good.releasing.flush
  exact ⟨.of_releasing releasing, flushed, empty⟩

/-- What the worker reads of its messages, and what is left of them. -/
theorem controlMessages_accounts
    {messages rest : List VfmcapWorker.ControlMessage}
    {worker : VfmcapWorker}
    (none : worker.hasContext = false → ∀ index, worker.leases index = none)
    (lastShutdown : .shutdown ∉ messages.dropLast)
    {places : List UInt64}
    {sent : List Nat}
    {released : List UInt64}
    (accounts : Accounts worker.lending
      (places ++ (messages ++ rest).filterMap releasedBy)
      ((messages ++ rest).filterMap releasedBy) sent released) :
    Accounts (worker.controlMessages messages).lending
      (places ++ rest.filterMap releasedBy) (rest.filterMap releasedBy) sent released := by
  induction messages generalizing worker with
  | nil => exact accounts
  | cons message later ih =>
      have laterShutdown : .shutdown ∉ later.dropLast := by
        cases later with
        | nil => simp
        | cons next further =>
            rw [List.dropLast_cons_of_ne_nil (by simp)] at lastShutdown
            exact fun member => lastShutdown (List.mem_cons_of_mem _ member)
      cases message with
      | other => exact ih none laterShutdown accounts
      | shutdown =>
          have last : later = [] := by
            cases later with
            | nil => rfl
            | cons next further =>
                rw [List.dropLast_cons_of_ne_nil (by simp)] at lastShutdown
                exact absurd (List.mem_cons_self ..) lastShutdown
          rw [last] at accounts
          exact accounts
      | frameRelease sequence =>
          obtain ⟨leases, handedBack, same, free⟩ := worker.releaseSequence_keeps sequence
          refine ih ?_ laterShutdown ?_
          · rw [same]
            exact fun noContext index => free index (none noContext index)
          · have first := accounts.perm (List.perm_middle.symm)
            exact first.acknowledge (worker.releaseSequence_lends none sequence)

/-! ## Room for the releases -/

/-- The sequence numbers on their way to the server or back. -/
def places (link : LeaseLink) : List UInt64 :=
  link.frameChannel ++ link.heldSequences ++ link.releasesInFlight

/-- Whether a sequence number has an active lease. -/
def isActive
    (link : LeaseLink)
    (sequence : UInt64) : Bool :=
  sequence ∈ link.worker.lending.active.map VfmcapLease.sequence

/-- How many of some sequence numbers have no active lease. -/
def stale
    (link : LeaseLink)
    (sequences : List UInt64) : Nat :=
  sequences.countP fun sequence => !link.isActive sequence

/-- How many messages in flight to the worker are no releases. -/
def otherMessages (link : LeaseLink) : Nat :=
  link.releaseChannel.countP fun message => (releasedBy message).isNone

/-- The direction to the worker holds `SBS_VFMCAP_MAX_IN_FLIGHT` messages in addition to one
for each frame on its way whose lease has ended and to the messages that are no releases. -/
def HasRoom
    (capacity : Nat)
    (link : LeaseLink) : Prop :=
  link.stale link.places + link.otherMessages + vfmcapMaxInFlight ≤ capacity

/-- The accounts of a source while some sequence numbers are in the hands of the server. -/
structure Accounted
    (capacity : Nat)
    (link : LeaseLink)
    (hand : List UInt64) : Prop where
  accounts : Accounts link.worker.lending (hand ++ link.places) link.releasesInFlight
    link.sent link.released
  room : link.stale (hand ++ link.places) + link.otherMessages + vfmcapMaxInFlight ≤ capacity

theorem length_releaseChannel (link : LeaseLink) :
    link.releaseChannel.length = link.releasesInFlight.length + link.otherMessages := by
  rw [releasesInFlight, otherMessages, List.length_filterMap_eq_countP,
    List.length_eq_countP_add_countP fun message => (releasedBy message).isSome]
  congr 1
  refine List.countP_congr fun message _ => ?_
  cases releasedBy message with
  | none => simp
  | some sequence => simp

variable {hand : List UInt64}

/-- A release that the server sends finds room. -/
theorem Accounted.finds_room
    {sequence : UInt64}
    (accounted : Accounted capacity link (sequence :: hand)) :
    link.releaseChannel.length < capacity := by
  have part : (sequence :: link.releasesInFlight).Sublist (sequence :: hand ++ link.places) := by
    refine List.Sublist.cons_cons _ (List.Sublist.trans ?_ (List.sublist_append_right _ _))
    exact List.sublist_append_right _ _
  have distinct := accounted.accounts.distinct.sublist part
  have staleBound : link.stale (sequence :: link.releasesInFlight) ≤
      link.stale (sequence :: hand ++ link.places) := part.countP_le
  have activeBound : (sequence :: link.releasesInFlight).countP link.isActive ≤
      vfmcapMaxInFlight := by
    rw [List.countP_eq_length_filter]
    have inside : (sequence :: link.releasesInFlight).filter link.isActive ⊆
        link.worker.lending.active.map VfmcapLease.sequence :=
      fun other member => of_decide_eq_true (List.mem_filter.mp member).2
    refine Nat.le_trans (List.subperm_of_subset (distinct.filter _) inside).length_le ?_
    rw [List.length_map]
    exact Table.length_items_le _
  have split : link.releasesInFlight.length + 1 =
      (sequence :: link.releasesInFlight).countP link.isActive +
        link.stale (sequence :: link.releasesInFlight) := by
    have lengths := List.length_eq_countP_add_countP link.isActive
      (l := sequence :: link.releasesInFlight)
    simpa [stale] using lengths
  have lengths := link.length_releaseChannel
  have room := accounted.room
  omega

/-- The server releases a frame in its hands. -/
theorem Accounted.sendRelease
    {sequence : UInt64}
    (accounted : Accounted capacity link (sequence :: hand)) :
    Accounted capacity (link.sendRelease capacity sequence) hand := by
  have sent : link.sendRelease capacity sequence = { link with
      released := link.released ++ [sequence]
      releaseChannel := link.releaseChannel ++ [.frameRelease sequence] } := by
    rw [LeaseLink.sendRelease, if_pos accounted.finds_room]
  have releases : (link.sendRelease capacity sequence).releasesInFlight =
      link.releasesInFlight ++ [sequence] := by
    rw [sent]
    simp [releasesInFlight, releasedBy]
  have others : (link.sendRelease capacity sequence).otherMessages = link.otherMessages := by
    rw [sent]
    simp [otherMessages, releasedBy]
  have placed : (link.sendRelease capacity sequence).places = link.places ++ [sequence] := by
    rw [places, releases, ← List.append_assoc, sent]
    rfl
  have order : (hand ++ (link.sendRelease capacity sequence).places).Perm
      (sequence :: hand ++ link.places) := by
    rw [placed, ← List.append_assoc]
    exact List.perm_append_singleton _ _
  constructor
  · rw [releases]
    have released := (accounted.accounts.release sequence).perm order
    rw [sent] at released ⊢
    exact released
  · rw [others]
    have same : (link.sendRelease capacity sequence).stale
        (hand ++ (link.sendRelease capacity sequence).places) =
          link.stale (sequence :: hand ++ link.places) := by
      rw [stale, order.countP_eq, sent]
      rfl
    rw [same]
    exact accounted.room

/-- What releases leave of a source. -/
theorem releaseFds_keeps
    (capacity : Nat)
    (link : LeaseLink)
    (fds : FrameFds) :
    ∃ released releaseChannel, link.releaseFds capacity fds =
      { link with released := released, releaseChannel := releaseChannel } := by
  unfold releaseFds
  split
  next => exact ⟨_, _, rfl⟩
  next => exact ⟨link.released, link.releaseChannel, rfl⟩

theorem foldl_releaseFds_keeps
    (capacity : Nat)
    (frames : List FrameFds)
    (link : LeaseLink) :
    ∃ released releaseChannel, frames.foldl (releaseFds capacity) link =
      { link with released := released, releaseChannel := releaseChannel } := by
  induction frames generalizing link with
  | nil => exact ⟨link.released, link.releaseChannel, rfl⟩
  | cons fds rest ih =>
      obtain ⟨released, releaseChannel, first⟩ := link.releaseFds_keeps capacity fds
      obtain ⟨restReleased, restChannel, same⟩ :=
        ih (link.releaseFds capacity fds)
      refine ⟨restReleased, restChannel, ?_⟩
      rw [List.foldl_cons, same, first]

/-- The server releases some frames in its hands. -/
theorem Accounted.foldl_releaseFds
    {frames : List FrameFds}
    (accounted : Accounted capacity link (frames.filterMap link.ownSequence ++ hand)) :
    Accounted capacity (frames.foldl (releaseFds capacity) link) hand := by
  induction frames generalizing link with
  | nil => exact accounted
  | cons fds rest ih =>
      obtain ⟨released, releaseChannel, first⟩ := link.releaseFds_keeps capacity fds
      refine ih ?_
      have same : (link.releaseFds capacity fds).ownSequence = link.ownSequence := by
        rw [first]
        rfl
      rw [same]
      cases own : link.ownSequence fds with
      | none =>
          rw [List.filterMap_cons_none own] at accounted
          rw [releaseFds, own]
          exact accounted
      | some sequence =>
          rw [List.filterMap_cons_some own] at accounted
          rw [releaseFds, own]
          exact accounted.sendRelease

/-- Sequence numbers pass between the hands of the server and the places. -/
theorem Accounted.move
    (accounted : Accounted capacity link hand)
    {moved : LeaseLink}
    {movedHand : List UInt64}
    (worker : moved.worker = link.worker)
    (releaseChannel : moved.releaseChannel = link.releaseChannel)
    (sent : moved.sent = link.sent)
    (released : moved.released = link.released)
    (order : (movedHand ++ moved.places).Perm (hand ++ link.places)) :
    Accounted capacity moved movedHand where
  accounts := by
    have accounts := accounted.accounts.perm order
    rw [releasesInFlight, worker, releaseChannel, sent, released]
    exact accounts
  room := by
    have same : moved.stale (movedHand ++ moved.places) = link.stale (hand ++ link.places) := by
      have active : moved.isActive = link.isActive := by
        funext sequence
        rw [isActive, isActive, worker]
      rw [stale, stale, order.countP_eq, active]
    rw [same, otherMessages, releaseChannel]
    exact accounted.room

/-! ## Steps -/

/-- What holds of a source at every point. -/
structure Sound (link : LeaseLink) : Prop where
  worker : link.worker.SoundExcept 0
  slot : GoodSlot link.frameSlot
  connections : ∀ fds ∈ link.held, fds.connection ≤ link.connection
  accounts : Accounts link.worker.lending link.places link.releasesInFlight link.sent link.released

/-- A source whose accounts are kept, after releases. -/
theorem Sound.of_foldl_releaseFds
    {capacity : Nat}
    {frames : List FrameFds}
    {link : LeaseLink}
    (worker : link.worker.SoundExcept 0)
    (slot : GoodSlot link.frameSlot)
    (connections : ∀ fds ∈ link.held, fds.connection ≤ link.connection)
    (accounted : Accounted capacity link (frames.filterMap link.ownSequence)) :
    (frames.foldl (releaseFds capacity) link).Sound := by
  rw [← List.append_nil (frames.filterMap _)] at accounted
  have after := accounted.foldl_releaseFds.accounts
  obtain ⟨released, releaseChannel, same⟩ := foldl_releaseFds_keeps capacity frames link
  rw [same] at after ⊢
  exact ⟨worker, slot, connections, after⟩

/-- The accounts of a source before a step. -/
theorem Sound.accounted
    (sound : link.Sound)
    (room : link.HasRoom capacity) :
    Accounted capacity link [] :=
  ⟨sound.accounts, room⟩

/-- Numbers that leave or join the middle of the places do so in any order. -/
theorem perm_places
    {gone come before after : List UInt64}
    (kept : (gone ++ after).Perm (come ++ before))
    (front rest back : List UInt64) :
    (gone ++ (front ++ (after ++ rest) ++ back)).Perm
      (come ++ (front ++ (before ++ rest) ++ back)) := by
  rw [List.perm_iff_count] at kept ⊢
  intro sequence
  have count := kept sequence
  simp only [List.count_append] at count ⊢
  omega

section

variable (sound : link.Sound)
include sound

theorem receive_sound
    (room : link.HasRoom capacity)
    {outcome : ReceiveOutcome}
    (received : link.receive capacity outcome = some after) :
    after.Sound := by
  unfold receive at received
  split at received
  next sequence rest connected arrives =>
    have inHand : Accounted capacity { link with frameChannel := rest } [sequence] := by
      refine (sound.accounted room).move rfl rfl rfl rfl ?_
      have before : link.places = sequence :: (rest ++ link.heldSequences ++
          link.releasesInFlight) := by
        rw [places, arrives]
        rfl
      rw [before]
      exact .refl _
    have released : ({ link with frameChannel := rest }.sendRelease capacity sequence).Sound :=
      ⟨sound.worker, sound.slot, sound.connections, inHand.sendRelease.accounts⟩
    split at received
    next =>
      cases received
      exact released
    next =>
      split at received
      next timestampUs =>
        cases received
        obtain ⟨good, kept⟩ := sound.slot.publish ⟨link.connection, sequence⟩ timestampUs
        refine Sound.of_foldl_releaseFds sound.worker good ?_ ?_
        · intro fds member
          rcases List.mem_append.mp member with inSlot | inTaken
          · rcases List.mem_cons.mp (kept.mem_iff.mp (List.mem_append_right _ inSlot)) with
              rfl | old
            · exact Nat.le_refl _
            · exact sound.connections fds (List.mem_append_left _ old)
          · exact sound.connections fds (List.mem_append_right _ inTaken)
        · refine inHand.move rfl rfl rfl rfl ?_
          have own := kept.filterMap link.ownSequence
          rw [List.filterMap_append, List.filterMap_cons_some (b := sequence)
            (by rw [ownSequence, if_pos rfl])] at own
          have moved := @perm_places _ [sequence] _ _ own rest
            (link.taken.filterMap link.ownSequence) link.releasesInFlight
          rw [← List.filterMap_append, ← List.filterMap_append] at moved
          exact moved
      next =>
        cases received
        exact released
      next =>
        cases received
        exact released
  next => cases received

theorem takeOldest_sound :
    link.takeOldest.Sound := by
  obtain ⟨good, kept⟩ := sound.slot.takeOldest
  have held : link.takeOldest.held.Perm link.held := by
    have moved : link.takeOldest.held = slotFrames link.frameSlot.takeOldest.1 ++
        (link.taken ++ link.frameSlot.takeOldest.2.1.toList) := rfl
    rw [moved, held, ← kept, List.append_assoc]
    rw [← List.append_assoc]
    exact List.perm_append_comm
  refine ⟨sound.worker, good, ?_, ?_⟩
  · exact fun fds member => sound.connections fds (held.mem_iff.mp member)
  · refine sound.accounts.perm ?_
    exact ((held.filterMap _).append_left _).append_right _

theorem flush_sound
    (room : link.HasRoom capacity) :
    (link.flush capacity).Sound := by
  obtain ⟨good, released, empty⟩ := sound.slot.flush
  refine Sound.of_foldl_releaseFds sound.worker good ?_ ?_
  · intro fds member
    rcases List.mem_append.mp member with inSlot | inTaken
    · have nowhere : fds ∈ slotFrames link.frameSlot.flush.1 := inSlot
      rw [empty] at nowhere
      cases nowhere
    · exact sound.connections fds (List.mem_append_right _ inTaken)
  · refine (sound.accounted room).move rfl rfl rfl rfl ?_
    have all : (link.frameSlot.flush.2.filterMap link.ownSequence ++
        (slotFrames link.frameSlot.flush.1).filterMap link.ownSequence).Perm
          ([] ++ (slotFrames link.frameSlot).filterMap link.ownSequence) := by
      rw [released, empty, List.filterMap_nil, List.append_nil]
      exact .refl _
    have moved := perm_places all link.frameChannel (link.taken.filterMap link.ownSequence)
      link.releasesInFlight
    rw [← List.filterMap_append, ← List.filterMap_append] at moved
    exact moved

theorem releaseTaken_sound
    (room : link.HasRoom capacity)
    {index : Nat}
    (released : link.releaseTaken capacity index = some after) :
    after.Sound := by
  obtain ⟨fds, taken, rfl⟩ := Option.map_eq_some_iff.mp released
  obtain ⟨inside, isFds⟩ := List.getElem?_eq_some_iff.mp taken
  have order : (fds :: link.taken.eraseIdx index).Perm link.taken := by
    rw [← isFds]
    exact List.getElem_cons_eraseIdx_perm inside
  refine @Sound.of_foldl_releaseFds _ [fds] _ sound.worker sound.slot ?_ ?_
  · intro other member
    refine sound.connections other ?_
    rcases List.mem_append.mp member with inSlot | inTaken
    · exact List.mem_append_left _ inSlot
    · exact List.mem_append_right _ (order.mem_iff.mp (List.mem_cons_of_mem _ inTaken))
  · refine (sound.accounted room).move rfl rfl rfl rfl ?_
    have own := order.filterMap link.ownSequence
    rw [← List.singleton_append, List.filterMap_append] at own
    have moved := @perm_places _ [] _ _ own
      (link.frameChannel ++ (slotFrames link.frameSlot).filterMap link.ownSequence) []
      link.releasesInFlight
    have before : link.places = link.frameChannel ++
        ((slotFrames link.frameSlot).filterMap link.ownSequence ++
          link.taken.filterMap link.ownSequence) ++ link.releasesInFlight := by
      rw [places, heldSequences, held, List.filterMap_append]
    have after : { link with taken := link.taken.eraseIdx index }.places = link.frameChannel ++
        ((slotFrames link.frameSlot).filterMap link.ownSequence ++
          (link.taken.eraseIdx index).filterMap link.ownSequence) ++ link.releasesInFlight := by
      rw [places, heldSequences, held, List.filterMap_append]
      rfl
    rw [before, after]
    simp only [List.append_nil, List.append_assoc] at moved ⊢
    exact moved

theorem respawn_sound :
    link.respawn.Sound := by
  have none : link.respawn.heldSequences = [] := by
    refine List.filterMap_eq_nil_iff.mpr fun fds member => ?_
    have older := sound.connections fds member
    rw [ownSequence, if_neg]
    exact Nat.ne_of_lt (Nat.lt_succ_of_le older)
  refine ⟨?_, sound.slot, ?_, ?_⟩
  · exact VfmcapWorker.sound_of_reachable (.initial rfl)
  · exact fun fds member => Nat.le_succ_of_le (sound.connections fds member)
  · rw [places, none]
    exact Accounts.start

theorem workerStep_sound
    (fewSent : link.sent.length + 1 < 2 ^ 64)
    {event : VfmcapWorker.VfmcapEvent}
    (stepped : link.workerStep event = some after) :
    after.Sound := by
  unfold workerStep at stepped
  split at stepped
  next allowed =>
    obtain ⟨worker, workerStepped, rfl⟩ := Option.map_eq_some_iff.mp stepped
    have workerSound := VfmcapWorker.next_sound sound.worker workerStepped
    refine ⟨workerSound, sound.slot, sound.connections, ?_⟩
    change Accounts worker.lending
      (link.frameChannel ++
          (link.worker.lending.lent worker.lending).map VfmcapLease.sequence ++
        link.heldSequences ++
        (link.releaseChannel.drop (messagesRead event).length).filterMap releasedBy)
      ((link.releaseChannel.drop (messagesRead event).length).filterMap releasedBy)
      (link.sent ++ (link.worker.lending.lent worker.lending).map VfmcapLease.frame)
      link.released
    by_cases reads : ∃ id messages ends, event = .fire id (.control false messages ends)
    · obtain ⟨id, messages, ends, rfl⟩ := reads
      have lends := VfmcapWorker.next_control_lends workerStepped
      obtain ⟨leases, handedBack, shuttingDown, same, _⟩ :=
        VfmcapWorker.controlMessages_keeps messages link.worker
      have silent : link.worker.lending.lent worker.lending = [] := by
        rw [lends, same, Lending.lent]
        exact if_pos rfl
      simp only [fits, messagesRead, Bool.and_eq_true, Bool.not_eq_true'] at allowed
      obtain ⟨⟨inOrder, lastShutdown⟩, _⟩ := allowed
      obtain ⟨rest, whole⟩ := List.isPrefixOf_iff_prefix.mp inOrder
      have left : link.releaseChannel.drop messages.length = rest := by
        rw [← whole, List.drop_left]
      have accounts := sound.accounts
      rw [places, releasesInFlight, ← whole] at accounts
      have read := controlMessages_accounts sound.worker.leases
        (by simpa using lastShutdown) accounts
      rw [silent, List.map_nil, List.map_nil, List.append_nil, List.append_nil, lends,
        messagesRead, left]
      exact read
    · have silent : ∀ id messages ends, event ≠ .fire id (.control false messages ends) :=
        fun id messages ends same => reads ⟨id, messages, ends, same⟩
      have lends := VfmcapWorker.next_lends sound.worker.leases silent workerStepped
      have nothing : messagesRead event = [] := by
        unfold messagesRead
        split
        next id messages ends => exact absurd rfl (silent id messages ends)
        next => rfl
      have accounts := sound.accounts.step lends fewSent
      rw [nothing, List.length_nil, List.drop_zero]
      refine accounts.perm ?_
      rw [List.perm_iff_count]
      intro sequence
      simp only [places, releasesInFlight, List.count_append]
      omega
  next => cases stepped

/-- A step with room for the releases keeps the accounts. -/
theorem next_accounted
    (room : link.HasRoom capacity)
    (fewSent : link.sent.length + 1 < 2 ^ 64)
    {event : LeaseEvent}
    (stepped : link.next capacity event = some after) :
    after.Sound := by
  cases event with
  | worker event => exact workerStep_sound sound fewSent stepped
  | receive outcome => exact receive_sound sound room stepped
  | mute =>
      cases stepped
      exact ⟨sound.worker, sound.slot, sound.connections, sound.accounts⟩
  | unmute =>
      cases stepped
      exact ⟨sound.worker, sound.slot, sound.connections, sound.accounts⟩
  | takeOldest =>
      cases stepped
      exact takeOldest_sound sound
  | flush =>
      cases stepped
      exact flush_sound sound room
  | releaseTaken index => exact releaseTaken_sound sound room stepped
  | shutdown =>
      cases stepped
      unfold sendShutdown
      split
      next =>
        have releases : { link with
            releaseChannel :=
              link.releaseChannel ++ [VfmcapWorker.ControlMessage.shutdown] }.releasesInFlight =
              link.releasesInFlight := by
          simp [releasesInFlight, releasedBy]
        refine ⟨sound.worker, sound.slot, sound.connections, ?_⟩
        rw [places, releases]
        exact sound.accounts
      next => exact sound
  | hangUp =>
      cases stepped
      exact ⟨sound.worker, sound.slot, sound.connections, sound.accounts⟩
  | respawn =>
      cases stepped
      exact respawn_sound sound

end

/-- Leases are kept exactly: active leases have different sequence numbers, the frame of each is
in one place, a captured frame is lent or was handed back once, one that was sent is handed
back after its release or with the capture, and without a frame on its way no lease is
active. -/
structure ExactLeases (link : LeaseLink) : Prop where
  distinct : (link.worker.lending.active.map VfmcapLease.sequence).Nodup
  onePlace : ∀ lease ∈ link.worker.lending.active,
    link.frameChannel.count lease.sequence + link.heldSequences.count lease.sequence +
      link.releasesInFlight.count lease.sequence = 1
  backOnce : (link.worker.handedBack ++ link.worker.lending.active.map VfmcapLease.frame).Perm
    (List.range link.worker.captured)
  backReleased : ∀ frame ∈ link.worker.handedBack, frame ∉ link.worker.withdrawn →
    ∀ sequence : UInt64, link.sent[sequence.toNat]? = some frame → sequence ∈ link.released
  drained : link.frameChannel = [] → link.heldSequences = [] → link.releasesInFlight = [] →
    link.worker.lending.active = []

theorem Sound.exactLeases
    (sound : link.Sound) :
    link.ExactLeases where
  distinct := sound.accounts.sequences
  onePlace lease member := by
    have once := List.count_eq_one_of_mem sound.accounts.distinct
      (sound.accounts.placed lease member)
    rw [places, List.count_append, List.count_append] at once
    exact once
  backOnce := sound.accounts.frames
  backReleased := sound.accounts.back
  drained noFrame noHeld noRelease := by
    have empty : link.places = [] := by
      rw [places, noFrame, noHeld, noRelease]
      rfl
    cases active : link.worker.lending.active with
    | nil => rfl
    | cons lease rest =>
        have placed := sound.accounts.placed lease (active ▸ List.mem_cons_self ..)
        rw [empty] at placed
        cases placed

/-- Before every step the direction to the worker has room for the releases, and fewer frames
were sent than there are sequence numbers. -/
def Roomy
    (capacity : Nat)
    (link : LeaseLink)
    (_ : LeaseEvent) : Prop :=
  link.HasRoom capacity ∧ link.sent.length + 1 < 2 ^ 64

instance
    (capacity : Nat)
    (link : LeaseLink)
    (event : LeaseEvent) : Decidable (Roomy capacity link event) :=
  inferInstanceAs (Decidable (_ ≤ capacity ∧ _))

theorem sound_of_reachable
    (reachable : (system capacity).ReachableWhen (Roomy capacity) link) :
    link.Sound := by
  refine @System.ReachableWhen.invariant _ _ (system capacity) _ Sound ?_ ?_ _ reachable
  · rintro _ rfl
    refine ⟨VfmcapWorker.sound_of_reachable (.initial rfl), ⟨⟨[], ?_⟩, rfl⟩, ?_, Accounts.start⟩
    · exact FrameSlot.represents_init true
    · exact fun fds member => nomatch member
  · intro state event next sound roomy stepped
    exact next_accounted sound roomy.1 roomy.2 stepped

/-- In every run with room for the releases the leases are kept exactly. -/
theorem exactLeases_of_reachable
    {capacity : Nat}
    {link : LeaseLink}
    (reachable : (system capacity).ReachableWhen (Roomy capacity) link) :
    link.ExactLeases :=
  (sound_of_reachable reachable).exactLeases

/-- A frame that is sent under a timer's id. -/
def frameSent (id : Nat) : LeaseEvent :=
  .worker (.fire id (.frame (.frame true false) .ok))

/-- Frames are sent, received, taken, dropped and released; the capture is restarted in
between. -/
def lendAndReturn : List LeaseEvent :=
  [frameSent 2, frameSent 2, .receive (.published 0), .receive (.published 0), .takeOldest,
    .releaseTaken 0,
    .worker (.fire 4 (.stats true true)), .worker (.fire 4 (.stats true true)),
    .worker (.fire 4 (.stats true true)), .worker (.fire 4 (.stats true true)),
    frameSent 6, .mute, .receive .noMemory, .flush,
    .worker (.fire 5 (.control false [.frameRelease 0, .frameRelease 2] false))]

theorem exactLeases_lendAndReturn :
    ∃ link, System.run (System.guarded (Roomy 20) (next 20)) start lendAndReturn = some link ∧
      link.ExactLeases := by
  have runs : (System.run (System.guarded (Roomy 20) (next 20)) start lendAndReturn).isSome := by
    decide +kernel
  obtain ⟨link, runs⟩ := Option.isSome_iff_exists.mp runs
  refine ⟨link, runs, ?_⟩
  exact exactLeases_of_reachable
    (@System.reachableWhen_of_run _ _ (Roomy 20) _ (· = start) _ _ _ _ (.initial rfl) runs)

/-- A capture that is restarted with a frame on its way and then lends as many frames as it
may, all of which the server releases before the worker reads a message. -/
def restartAndFill : List LeaseEvent :=
  frameSent 2 :: List.replicate 4 (.worker (.fire 4 (.stats true true))) ++
    List.replicate 16 (frameSent 6) ++ .mute :: List.replicate 17 (.receive .noMemory) ++
    [.worker (.fire 5 (.control false
      ((List.range 16).map fun number => .frameRelease (UInt64.ofNat number)) false))]

/-- With room for no more messages than leases the release of a frame may be lost after a
restart, and its lease stays; and a frame that could not be sent is handed back without
release. -/
theorem leases_notExact :
    (∃ link, (system vfmcapMaxInFlight).Reachable link ∧ ¬ link.ExactLeases ∧
      link.places = [] ∧ link.worker.lending.active ≠ []) ∧
    ∃ link, (system vfmcapMaxInFlight).Reachable link ∧ link.worker.handedBack = [0] ∧
      link.worker.withdrawn = [] ∧ link.released = [] := by
  constructor
  · have runs : ((System.run (next vfmcapMaxInFlight) start restartAndFill).bind fun link =>
        if link.places = [] ∧ link.worker.lending.active ≠ [] then some link
        else none).isSome := by
      decide +kernel
    obtain ⟨link, found⟩ := Option.isSome_iff_exists.mp runs
    obtain ⟨final, runs, found⟩ := Option.bind_eq_some_iff.mp found
    split at found
    next leaked =>
      refine ⟨final, System.reachable_of_run (.initial rfl) runs, fun exact => ?_, leaked⟩
      obtain ⟨empty, active⟩ := leaked
      obtain ⟨both, noRelease⟩ := List.append_eq_nil_iff.mp empty
      obtain ⟨noFrame, noHeld⟩ := List.append_eq_nil_iff.mp both
      exact active (exact.drained noFrame noHeld noRelease)
    next => cases found
  · have runs : ((System.run (next vfmcapMaxInFlight) start
        [.worker (.fire 2 (.frame (.frame true false) .wouldBlock))]).bind fun link =>
        if link.worker.handedBack = [0] ∧ link.worker.withdrawn = [] ∧ link.released = [] then
          some link
        else none).isSome := by
      decide +kernel
    obtain ⟨link, found⟩ := Option.isSome_iff_exists.mp runs
    obtain ⟨final, runs, found⟩ := Option.bind_eq_some_iff.mp found
    split at found
    next returned => exact ⟨final, System.reachable_of_run (.initial rfl) runs, returned⟩
    next => cases found

end LeaseLink
end Supervisor
end SbsServer
