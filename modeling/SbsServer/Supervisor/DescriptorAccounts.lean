import Mathlib.Data.List.Perm.Basic
import SbsServer.Engine.FrameSlotQueue
import SbsServer.SceneGraph.State

/-!
# Descriptors of a source worker

`on_frame_available` receives datagrams with up to two descriptors and passes them on to
the frame slot of the source, or closes them.  Descriptors are numbered in the order in
which they are received, so that a number is never used again; what a message changes in
the scene graph, and the release messages to the worker, are not modelled.
-/

namespace SbsServer
namespace Supervisor

open CLib Engine

/-- `sizeof(sbs_video_frame_msg_t)` -/
def videoFrameSize : Nat := 128

/-- `SBS_IPC_MSG_VIDEO_FRAME` -/
def msgVideoFrame : UInt32 := 0x0001

/-- `SBS_IPC_MSG_STATUS` -/
def msgStatus : UInt32 := 0x0010

/-- `SBS_IPC_MSG_SIGNAL_CHANGE` -/
def msgSignalChange : UInt32 := 0x0013

/-- `SBS_FRAME_FLAG_NEEDS_RELEASE` -/
def frameFlagNeedsRelease : UInt32 := 0x0040

/-- A datagram of a worker: its size in bytes, and what the bytes say. -/
structure Datagram where
  size : Nat
  msgType : UInt32
  flags : UInt32
  sequence : UInt64
  /-- How many descriptors it carries. -/
  descriptors : Fin 3
  deriving DecidableEq

/-- What `recvmsg` answers. -/
inductive RecvAnswer
  /-- `EAGAIN` -/
  | wouldBlock
  /-- `ECONNRESET` -/
  | connReset
  /-- Any other error. -/
  | error
  | datagram (datagram : Datagram)
  deriving DecidableEq

/-- What `sbs_ipc_recv_frame2` returns, with the descriptors that it closes. -/
structure RecvFrame where
  code : SbsResult
  dmabufFd : Option Nat
  dmabufFd2 : Option Nat
  closed : List Nat

/-- A call that returns no descriptor. -/
def RecvFrame.failed
    (code : SbsResult)
    (closed : List Nat) : RecvFrame where
  code := code
  dmabufFd := none
  dmabufFd2 := none
  closed := closed

/-- `sbs_ipc_recv_frame2`, for the descriptors that come with the answer. -/
def recvFrame2
    (answer : RecvAnswer)
    (descriptors : List Nat) : RecvFrame :=
  match answer with
  | .wouldBlock => .failed .wouldBlock []
  | .connReset => .failed .pipe []
  | .error => .failed .io []
  | .datagram datagram =>
      let ret := min datagram.size videoFrameSize
      if ret = 0 then .failed .eof []
      else if ret ≠ videoFrameSize then .failed .io descriptors
      else
        { code := .ok
          dmabufFd := descriptors[0]?
          dmabufFd2 := descriptors[1]?
          closed := [] }

/-- `sbs_frame_fds_t`; a frame that needs a release has its sequence number. -/
structure SourceFrame where
  dmabufFd : Option Nat
  dmabufFd2 : Option Nat
  releaseSequence : Option UInt64
  deriving DecidableEq

namespace SourceFrame

/-- The descriptors of a frame. -/
def owned (frame : SourceFrame) : List Nat :=
  frame.dmabufFd.toList ++ frame.dmabufFd2.toList

/-- The descriptors that `sbs_frame_fds_release` closes. -/
def release (frame : SourceFrame) : List Nat :=
  frame.dmabufFd.toList ++ if frame.dmabufFd2 = frame.dmabufFd then [] else frame.dmabufFd2.toList

/-- A frame with two different descriptors closes both. -/
theorem release_of_nodup
    {frame : SourceFrame}
    (different : frame.owned.Nodup) :
    frame.release = frame.owned := by
  obtain ⟨fd, fd2, sequence⟩ := frame
  unfold release
  split
  next same =>
    dsimp only at same
    rw [same] at different ⊢
    cases fd with
    | none => rfl
    | some fd => exact absurd different (by simp [owned])
  next => rfl

end SourceFrame

/-- A source with its frame slot.  The last two fields are the history: how many descriptors
were received, and the closed ones. -/
structure SourceLink where
  /-- `conn_fd >= 0` -/
  connected : Bool
  muted : Bool
  frameSlot : FrameSlot SourceFrame
  /-- The frames that the compositor has taken from the slot. -/
  taken : List SourceFrame
  received : Nat
  closed : List Nat

/-- How the calls of one pass through the loop get on. -/
structure PassAnswers where
  recv : RecvAnswer
  /-- `calloc` -/
  allocates : Bool
  /-- `dup` -/
  duplicates : Bool
  nowUs : UInt64
  deriving DecidableEq

namespace SourceLink

/-- A source before its worker connects. -/
def new : SourceLink where
  connected := false
  muted := false
  frameSlot := .init true
  taken := []
  received := 0
  closed := []

/-- Close some descriptors. -/
def close
    (link : SourceLink)
    (descriptors : List Nat) : SourceLink :=
  { link with closed := link.closed ++ descriptors }

/-- Close the two descriptors of a message, once if they are the same. -/
def closeBoth
    (link : SourceLink)
    (dmabufFd dmabufFd2 : Option Nat) : SourceLink :=
  link.close (dmabufFd.toList ++ if dmabufFd2 = dmabufFd then [] else dmabufFd2.toList)

/-- The branch of `on_frame_available` for a video frame. -/
def onVideoFrame
    (link : SourceLink)
    (answers : PassAnswers)
    (datagram : Datagram)
    (dmabufFd dmabufFd2 : Option Nat) : SourceLink :=
  if link.muted then link.close (dmabufFd.toList ++ dmabufFd2.toList)
  else if !answers.allocates then link.closeBoth dmabufFd dmabufFd2
  else
    let needsRelease := datagram.flags &&& frameFlagNeedsRelease ≠ 0
    let frame : SourceFrame := ⟨dmabufFd, dmabufFd2, none⟩
    if needsRelease ∧ answers.duplicates = false then link.close frame.release
    else
      let frame :=
        if needsRelease then { frame with releaseSequence := some datagram.sequence } else frame
      let (frameSlot, released) := link.frameSlot.publish (some frame) answers.nowUs
      { link with frameSlot := frameSlot }.close (released.flatMap SourceFrame.release)

/-- The dispatch of `on_frame_available` by the type of a message. -/
def onMessage
    (link : SourceLink)
    (answers : PassAnswers)
    (datagram : Datagram)
    (dmabufFd dmabufFd2 : Option Nat) : SourceLink :=
  if datagram.msgType = msgVideoFrame then
    link.onVideoFrame answers datagram dmabufFd dmabufFd2
  else if datagram.msgType = msgStatus then link
  else if datagram.msgType = msgSignalChange then link
  else link.closeBoth dmabufFd dmabufFd2

/-- The descriptors that come with an answer of `recvmsg`. -/
def incoming
    (link : SourceLink)
    (answer : RecvAnswer) : List Nat :=
  match answer with
  | .datagram datagram => List.range' link.received datagram.descriptors
  | _ => []

/-- One pass through the loop of `on_frame_available`, and whether the loop goes on. -/
def receivePass
    (link : SourceLink)
    (answers : PassAnswers) : Bool × SourceLink :=
  let descriptors := link.incoming answers.recv
  let frame := recvFrame2 answers.recv descriptors
  let link := { link with received := link.received + descriptors.length }.close frame.closed
  match frame.code, answers.recv with
  | .ok, .datagram datagram =>
      (true, link.onMessage answers datagram frame.dmabufFd frame.dmabufFd2)
  | .eof, _ => (false, { link with connected := false })
  | _, _ => (false, link)

/-- The loop of `on_frame_available`. -/
def receiveLoop
    (link : SourceLink) : List PassAnswers → SourceLink
  | [] => link
  | answers :: rest =>
      match link.receivePass answers with
      | (true, link) => link.receiveLoop rest
      | (false, link) => link

/-- `on_frame_available` on the connection, up to some pass. -/
def onFrameAvailable
    (link : SourceLink)
    (hangUp : Bool)
    (passes : List PassAnswers) : SourceLink :=
  if hangUp then { link with connected := false } else link.receiveLoop passes

/-- What happens to a source. -/
inductive SourceLinkEvent
  | connect
  | pass (answers : PassAnswers)
  /-- The socket hangs up. -/
  | hangUp
  | mute (muted : Bool)
  /-- The compositor takes the oldest frame. -/
  | takeOldest
  /-- The compositor releases a frame that it has taken. -/
  | releaseTaken (index : Nat)
  /-- The slot is flushed. -/
  | flush

/-- The source after an event, if the event can happen. -/
def next (link : SourceLink) : SourceLinkEvent → Option SourceLink
  | .connect => some { link with connected := true }
  | .pass answers => if link.connected then some (link.receivePass answers).2 else none
  | .hangUp => some { link with connected := false }
  | .mute muted => some { link with muted := muted }
  | .takeOldest =>
      let (frameSlot, frame, _) := link.frameSlot.takeOldest
      some { link with frameSlot := frameSlot, taken := link.taken ++ frame.toList }
  | .releaseTaken index =>
      link.taken[index]?.map fun frame =>
        { link with taken := link.taken.eraseIdx index }.close frame.release
  | .flush =>
      let (frameSlot, released) := link.frameSlot.flush
      some ({ link with frameSlot := frameSlot }.close (released.flatMap SourceFrame.release))

/-- Runs of a source. -/
def system : System SourceLink SourceLinkEvent :=
  .ofNext (· = new) next

/-- The published frames that hold their descriptors. -/
def frames (link : SourceLink) : List SourceFrame :=
  link.frameSlot.frames ++ link.taken

/-- Every received descriptor is closed once or belongs to one published frame. -/
structure Accounted (link : SourceLink) : Prop where
  slot : link.frameSlot.Releasing
  once : (link.frames.flatMap SourceFrame.owned ++ link.closed).Perm (List.range link.received)

/-- A datagram whose descriptors are disposed of: it carries none, or it is not empty and is no
complete message about the status or the signal. -/
def Disposed (datagram : Datagram) : Prop :=
  datagram.descriptors = 0 ∨
    (datagram.size ≠ 0 ∧ (datagram.size < videoFrameSize ∨
      (datagram.msgType ≠ msgStatus ∧ datagram.msgType ≠ msgSignalChange)))

/-- The datagrams of a run are disposed of. -/
def Disposes (_ : SourceLink) : SourceLinkEvent → Prop
  | .pass answers => ∀ datagram, answers.recv = .datagram datagram → Disposed datagram
  | _ => True

variable {link : SourceLink}

/-- Every received descriptor is closed once, belongs to one frame or is still to be disposed
of. -/
structure Pending
    (link : SourceLink)
    (descriptors : List Nat) : Prop where
  slot : link.frameSlot.Releasing
  once : (link.frames.flatMap SourceFrame.owned ++ link.closed ++ descriptors).Perm
    (List.range link.received)

theorem pending_nil_iff :
    link.Pending [] ↔ link.Accounted := by
  constructor
  · rintro ⟨slot, once⟩
    rw [List.append_nil] at once
    exact ⟨slot, once⟩
  · rintro ⟨slot, once⟩
    refine ⟨slot, ?_⟩
    rwa [List.append_nil]

/-- Descriptors that come are still to be disposed of. -/
theorem Accounted.receive
    (accounted : link.Accounted)
    (count : Nat) :
    Pending { link with received := link.received + count }
      (List.range' link.received count) := by
  refine ⟨accounted.slot, ?_⟩
  have range : List.range (link.received + count) =
      List.range link.received ++ List.range' link.received count := by
    have appended := @List.range'_append_1 0 link.received count
    rw [Nat.zero_add] at appended
    rw [List.range_eq_range', List.range_eq_range', appended]
  dsimp only
  rw [range]
  exact accounted.once.append_right _

/-- What is closed is disposed of. -/
theorem Pending.close
    {descriptors : List Nat}
    (pending : link.Pending descriptors) :
    (link.close descriptors).Accounted := by
  refine ⟨pending.slot, ?_⟩
  have once := pending.once
  rwa [List.append_assoc] at once

/-- What frames close when they are released. -/
theorem flatMap_release
    {frames : List SourceFrame}
    (different : (frames.flatMap SourceFrame.owned).Nodup) :
    frames.flatMap SourceFrame.release = frames.flatMap SourceFrame.owned := by
  induction frames with
  | nil => rfl
  | cons frame rest ih =>
      rw [List.flatMap_cons, List.nodup_append] at different
      rw [List.flatMap_cons, List.flatMap_cons, SourceFrame.release_of_nodup different.1,
        ih different.2.1]

/-- Frames that leave the slot are closed. -/
theorem Pending.releaseFrames
    {released : List SourceFrame}
    (pending : link.Pending (released.flatMap SourceFrame.owned)) :
    (link.close (released.flatMap SourceFrame.release)).Accounted := by
  have different : (released.flatMap SourceFrame.owned).Nodup :=
    (pending.once.nodup_iff.mpr List.nodup_range).of_append_right
  rw [flatMap_release different]
  exact pending.close

/-- A published frame has its descriptors, and a frame that it drives out of the slot closes its
own. -/
theorem Pending.publish
    {frame : SourceFrame}
    (pending : link.Pending frame.owned)
    (timestampUs : UInt64) :
    ({ link with frameSlot := (link.frameSlot.publish (some frame) timestampUs).1 }.close
      ((link.frameSlot.publish (some frame) timestampUs).2.flatMap
        SourceFrame.release)).Accounted := by
  obtain ⟨releasing, moved⟩ := pending.slot.publish frame timestampUs
  apply Pending.releaseFrames
  refine ⟨releasing, ?_⟩
  refine List.Perm.trans ?_ pending.once
  have owned := moved.flatMap_right SourceFrame.owned
  rw [List.perm_iff_count] at owned ⊢
  intro descriptor
  have same := owned descriptor
  unfold frames
  simp only [List.flatMap_append, List.flatMap_cons, List.count_append] at same ⊢
  omega

/-! ## One pass -/

variable {dmabufFd dmabufFd2 : Option Nat} {datagram : Datagram} {answers : PassAnswers}

section

variable (pending : link.Pending (dmabufFd.toList ++ dmabufFd2.toList))
include pending

theorem Pending.closeBoth :
    (link.closeBoth dmabufFd dmabufFd2).Accounted := by
  have different : (SourceFrame.owned ⟨dmabufFd, dmabufFd2, none⟩).Nodup :=
    (pending.once.nodup_iff.mpr List.nodup_range).of_append_right
  have both : (SourceFrame.release ⟨dmabufFd, dmabufFd2, none⟩) =
      dmabufFd.toList ++ dmabufFd2.toList :=
    SourceFrame.release_of_nodup different
  change (link.close (SourceFrame.release ⟨dmabufFd, dmabufFd2, none⟩)).Accounted
  rw [both]
  exact pending.close

theorem Pending.onVideoFrame
    (answers : PassAnswers)
    (datagram : Datagram) :
    (link.onVideoFrame answers datagram dmabufFd dmabufFd2).Accounted := by
  unfold SourceLink.onVideoFrame
  split
  · exact pending.close
  split
  · exact pending.closeBoth
  dsimp only
  split
  · exact pending.closeBoth
  split
  · exact pending.publish answers.nowUs
  · exact pending.publish answers.nowUs

/-- A complete message without descriptors, or of another type than the two. -/
theorem Pending.onMessage
    (answers : PassAnswers)
    (disposed : dmabufFd.toList ++ dmabufFd2.toList = [] ∨
      (datagram.msgType ≠ msgStatus ∧ datagram.msgType ≠ msgSignalChange)) :
    (link.onMessage answers datagram dmabufFd dmabufFd2).Accounted := by
  have kept : datagram.msgType = msgStatus ∨ datagram.msgType = msgSignalChange →
      link.Accounted := by
    intro type
    obtain none_ | ⟨notStatus, notSignal⟩ := disposed
    · rw [none_] at pending
      exact pending_nil_iff.mp pending
    · obtain status | signal := type
      · exact absurd status notStatus
      · exact absurd signal notSignal
  unfold SourceLink.onMessage
  split
  · exact pending.onVideoFrame answers datagram
  split
  next status => exact kept (.inl status)
  split
  next signal => exact kept (.inr signal)
  · exact pending.closeBoth

end

/-- The descriptors of a complete message are the two that are returned. -/
theorem range'_getElem
    (start : Nat)
    (count : Fin 3) :
    (List.range' start count)[0]?.toList ++ (List.range' start count)[1]?.toList =
      List.range' start count := by
  match count with
  | 0 => rfl
  | 1 => rfl
  | 2 => rfl

/-- Closing nothing changes nothing. -/
theorem close_nil (link : SourceLink) :
    link.close [] = link := by
  unfold SourceLink.close
  rw [List.append_nil]

theorem receivePass_datagram
    (recv : answers.recv = .datagram datagram) :
    let descriptors := List.range' link.received datagram.descriptors
    let after := { link with received := link.received + datagram.descriptors }
    link.receivePass answers =
      if datagram.size = 0 then (false, { after with connected := false })
      else if datagram.size < videoFrameSize then (false, after.close descriptors)
      else (true, after.onMessage answers datagram descriptors[0]? descriptors[1]?) := by
  have empty : min datagram.size videoFrameSize = 0 ↔ datagram.size = 0 := by
    unfold videoFrameSize
    omega
  have short : min datagram.size videoFrameSize ≠ videoFrameSize ↔
      datagram.size < videoFrameSize := by
    omega
  unfold SourceLink.receivePass incoming recvFrame2 RecvFrame.failed
  rw [recv]
  dsimp only
  rw [List.length_range']
  by_cases isEmpty : datagram.size = 0
  · rw [if_pos isEmpty, if_pos (empty.mpr isEmpty)]
    dsimp only
    rw [close_nil]
  · rw [if_neg isEmpty, if_neg (mt empty.mp isEmpty)]
    by_cases isShort : datagram.size < videoFrameSize
    · rw [if_pos isShort, if_pos (short.mpr isShort)]
    · rw [if_neg isShort, if_neg (mt short.mp isShort)]
      dsimp only
      rw [close_nil]

theorem receivePass_failed
    (nothing : ∀ datagram, answers.recv ≠ .datagram datagram) :
    link.receivePass answers = (false, link) := by
  unfold SourceLink.receivePass
  cases recv : answers.recv with
  | datagram datagram => exact absurd recv (nothing datagram)
  | wouldBlock => exact congrArg (Prod.mk false) link.close_nil
  | connReset => exact congrArg (Prod.mk false) link.close_nil
  | error => exact congrArg (Prod.mk false) link.close_nil

section

variable (accounted : link.Accounted)
include accounted

/-- One pass through the loop. -/
theorem Accounted.pass
    (disposed : ∀ datagram, answers.recv = .datagram datagram → Disposed datagram) :
    (link.receivePass answers).2.Accounted := by
  cases recv : answers.recv with
  | datagram datagram =>
      have pending := accounted.receive datagram.descriptors
      have isDisposed := disposed datagram recv
      rw [receivePass_datagram recv]
      dsimp only
      split
      next empty =>
        have noDescriptor : datagram.descriptors = 0 :=
          isDisposed.resolve_right fun complete => complete.1 empty
        rw [noDescriptor] at pending ⊢
        have kept := pending_nil_iff.mp pending
        exact ⟨kept.slot, kept.once⟩
      split
      next short => exact pending.close
      next long =>
        rw [← range'_getElem] at pending
        apply pending.onMessage
        rw [range'_getElem]
        obtain noDescriptor | ⟨-, short | type⟩ := isDisposed
        · left
          rw [noDescriptor]
          rfl
        · exact absurd short long
        · exact .inr type
  | _ => rwa [receivePass_failed (by rw [recv]; nofun)]

/-- A datagram that is not disposed of leaves its descriptors open. -/
theorem Accounted.not_pass
    (recv : answers.recv = .datagram datagram)
    (leaks : ¬ Disposed datagram) :
    ¬ (link.receivePass answers).2.Accounted := by
  unfold Disposed at leaks
  rw [not_or] at leaks
  obtain ⟨carries, passes⟩ := leaks
  have untouched : (link.receivePass answers).2.frames = link.frames ∧
      (link.receivePass answers).2.closed = link.closed ∧
      (link.receivePass answers).2.received = link.received + datagram.descriptors := by
    rw [receivePass_datagram recv]
    dsimp only
    split
    next => exact ⟨rfl, rfl, rfl⟩
    next notEmpty =>
      have complete : ¬ datagram.size < videoFrameSize := fun short =>
        passes ⟨notEmpty, .inl short⟩
      have ignored : datagram.msgType = msgStatus ∨ datagram.msgType = msgSignalChange := by
        by_contra other
        rw [not_or] at other
        exact passes ⟨notEmpty, .inr other⟩
      rw [if_neg complete]
      unfold SourceLink.onMessage
      obtain status | signal := ignored
      · rw [status, if_neg (by decide), if_pos rfl]
        exact ⟨rfl, rfl, rfl⟩
      · rw [signal, if_neg (by decide), if_neg (by decide), if_pos rfl]
        exact ⟨rfl, rfl, rfl⟩
  intro after
  have before := accounted.once.length_eq
  have lengths := after.once.length_eq
  rw [untouched.1, untouched.2.1, untouched.2.2, before, List.length_range,
    List.length_range] at lengths
  exact carries (Fin.ext (by simpa using lengths))

theorem Accounted.takeOldest :
    Accounted { link with
      frameSlot := link.frameSlot.takeOldest.1
      taken := link.taken ++ link.frameSlot.takeOldest.2.1.toList } := by
  obtain ⟨releasing, moved⟩ := accounted.slot.takeOldest
  refine ⟨releasing, ?_⟩
  refine List.Perm.trans ?_ accounted.once
  unfold frames
  dsimp only
  rw [← moved]
  have swapped : (link.frameSlot.takeOldest.1.frames ++
      (link.taken ++ link.frameSlot.takeOldest.2.1.toList)).Perm
        (link.frameSlot.takeOldest.2.1.toList ++ link.frameSlot.takeOldest.1.frames ++
          link.taken) := by
    rw [← List.append_assoc]
    refine (List.perm_append_comm).trans ?_
    rw [List.append_assoc]
  exact (swapped.flatMap_right SourceFrame.owned).append_right _

theorem Accounted.flush :
    ({ link with frameSlot := link.frameSlot.flush.1 }.close
      (link.frameSlot.flush.2.flatMap SourceFrame.release)).Accounted := by
  obtain ⟨releasing, released, empty⟩ := accounted.slot.flush
  apply Pending.releaseFrames
  refine ⟨releasing, ?_⟩
  refine List.Perm.trans ?_ accounted.once
  unfold frames
  dsimp only
  rw [released, empty, List.nil_append, List.flatMap_append]
  rw [List.perm_iff_count]
  intro descriptor
  simp only [List.count_append]
  omega

theorem Accounted.releaseTaken
    {index : Nat}
    {frame : SourceFrame}
    (isTaken : link.taken[index]? = some frame) :
    ({ link with taken := link.taken.eraseIdx index }.close frame.release).Accounted := by
  have order : (frame :: link.taken.eraseIdx index).Perm link.taken := by
    obtain ⟨inside, rfl⟩ := List.getElem?_eq_some_iff.mp isTaken
    exact List.getElem_cons_eraseIdx_perm inside
  have pending : Pending { link with taken := link.taken.eraseIdx index }
      ([frame].flatMap SourceFrame.owned) := by
    refine ⟨accounted.slot, ?_⟩
    refine List.Perm.trans ?_ accounted.once
    have owned := order.flatMap_right SourceFrame.owned
    rw [List.perm_iff_count] at owned ⊢
    intro descriptor
    have same := owned descriptor
    unfold frames
    simp only [List.flatMap_append, List.flatMap_cons, List.flatMap_nil, List.append_nil,
      List.count_append] at same ⊢
    omega
  have closed := pending.releaseFrames
  rwa [List.flatMap_singleton] at closed

end

theorem Accounted.next
    {after : SourceLink}
    {event : SourceLinkEvent}
    (accounted : link.Accounted)
    (disposes : link.Disposes event)
    (isNext : link.next event = some after) :
    after.Accounted := by
  cases event with
  | connect =>
      obtain rfl := Option.some.inj isNext
      exact ⟨accounted.slot, accounted.once⟩
  | pass answers =>
      unfold SourceLink.next at isNext
      dsimp only at isNext
      split at isNext
      · obtain rfl := Option.some.inj isNext
        exact accounted.pass disposes
      · cases isNext
  | hangUp =>
      obtain rfl := Option.some.inj isNext
      exact ⟨accounted.slot, accounted.once⟩
  | mute muted =>
      obtain rfl := Option.some.inj isNext
      exact ⟨accounted.slot, accounted.once⟩
  | takeOldest =>
      obtain rfl := Option.some.inj isNext
      exact accounted.takeOldest
  | releaseTaken index =>
      obtain ⟨frame, isTaken, rfl⟩ := Option.map_eq_some_iff.mp isNext
      exact accounted.releaseTaken isTaken
  | flush =>
      obtain rfl := Option.some.inj isNext
      exact accounted.flush

/-- In a run whose datagrams are disposed of, every received descriptor is closed once or belongs
to one published frame. -/
theorem descriptors_accounted
    (reachable : system.ReachableWhen Disposes link) :
    link.Accounted := by
  apply reachable.invariant
  · rintro _ rfl
    refine ⟨FrameSlot.releasing_init, ?_⟩
    unfold frames
    rw [show new.frameSlot = .init true from rfl, FrameSlot.frames_init]
    exact .nil
  · intro link event after accounted disposes stepped
    exact accounted.next disposes stepped

/-- A message does not close the connection. -/
theorem connected_receivePass
    {answers : PassAnswers}
    (goesOn : (link.receivePass answers).1 = true) :
    (link.receivePass answers).2.connected = link.connected := by
  cases recv : answers.recv with
  | datagram datagram =>
      rw [receivePass_datagram recv] at goesOn ⊢
      dsimp only at goesOn ⊢
      split at goesOn
      next => cases goesOn
      next notEmpty =>
        rw [if_neg notEmpty]
        split at goesOn
        next => cases goesOn
        next long =>
          rw [if_neg long]
          unfold SourceLink.onMessage SourceLink.onVideoFrame
          dsimp only
          repeat' split
          all_goals rfl
  | _ =>
      rw [receivePass_failed (by rw [recv]; nofun)] at goesOn
      cases goesOn

/-- A call of `on_frame_available` is a run of passes. -/
theorem reachable_onFrameAvailable
    {condition : SourceLink → SourceLinkEvent → Prop}
    (reachable : system.ReachableWhen condition link)
    (connected : link.connected = true)
    {hangUp : Bool}
    {passes : List PassAnswers}
    (hangsUp : ∀ link, condition link .hangUp)
    (meets : ∀ link, ∀ answers ∈ passes, condition link (.pass answers)) :
    system.ReachableWhen condition (link.onFrameAvailable hangUp passes) := by
  unfold SourceLink.onFrameAvailable
  cases hangUp with
  | true => exact .step reachable (hangsUp link) rfl
  | false =>
      rw [if_neg Bool.false_ne_true]
      induction passes generalizing link with
      | nil => exact reachable
      | cons answers rest ih =>
          have passed : system.ReachableWhen condition (link.receivePass answers).2 :=
            .step reachable (meets link answers List.mem_cons_self) (if_pos connected)
          unfold SourceLink.receiveLoop
          have stays := @connected_receivePass link answers
          generalize link.receivePass answers = pass at passed stays
          obtain ⟨goesOn, after⟩ := pass
          cases goesOn with
          | false => exact passed
          | true =>
              apply ih passed ((stays rfl).trans connected)
              intro link other member
              exact meets link other (List.mem_cons_of_mem answers member)

/-- A complete message of a type, with some descriptors. -/
def messagePass
    (msgType : UInt32)
    (descriptors : Fin 3) : PassAnswers where
  recv := .datagram {
    size := videoFrameSize
    msgType := msgType
    flags := frameFlagNeedsRelease
    sequence := 1
    descriptors := descriptors }
  allocates := true
  duplicates := true
  nowUs := 0

/-- A source whose worker has connected. -/
def justConnected : SourceLink :=
  { new with connected := true }

theorem reachable_justConnected
    {condition : SourceLink → SourceLinkEvent → Prop}
    (connects : condition new .connect) :
    system.ReachableWhen condition justConnected :=
  .step (.initial rfl) connects (rfl : system.step _ .connect _)

/-- A frame with two descriptors, a status message without one and a message of an unknown type
with one. -/
theorem descriptors_accounted_published :
    let link := justConnected.onFrameAvailable false
      [messagePass msgVideoFrame 2, messagePass msgStatus 0, messagePass 0x00ff 1]
    link.frames.flatMap SourceFrame.owned = [0, 1] ∧ link.closed = [2] ∧ link.Accounted := by
  refine ⟨by decide +kernel, by decide +kernel, ?_⟩
  apply descriptors_accounted
  apply reachable_onFrameAvailable (reachable_justConnected (by exact trivial)) rfl
  · exact fun _ => trivial
  · intro link answers member datagram isDatagram
    simp only [List.mem_cons, List.not_mem_nil, or_false] at member
    obtain rfl | rfl | rfl := member
    · obtain rfl := RecvAnswer.datagram.inj isDatagram
      exact .inr ⟨by decide, .inr (by decide)⟩
    · obtain rfl := RecvAnswer.datagram.inj isDatagram
      exact .inl rfl
    · obtain rfl := RecvAnswer.datagram.inj isDatagram
      exact .inr ⟨by decide, .inr (by decide)⟩

/-- The descriptor of a status message is never closed. -/
theorem status_leaks :
    let link := justConnected.onFrameAvailable false [messagePass msgStatus 1]
    system.Reachable link ∧ link.received = 1 ∧ link.frames = [] ∧ link.closed = [] ∧
      ¬ link.Accounted := by
  have frames : (justConnected.onFrameAvailable false [messagePass msgStatus 1]).frames = [] := by
    decide +kernel
  refine ⟨?_, rfl, frames, rfl, ?_⟩
  · apply reachable_onFrameAvailable (reachable_justConnected (by exact trivial)) rfl
    · exact fun _ => trivial
    · exact fun _ _ _ => trivial
  · intro accounted
    have once := accounted.once.length_eq
    rw [frames] at once
    exact absurd once (by decide)

end SourceLink

end Supervisor
end SbsServer
