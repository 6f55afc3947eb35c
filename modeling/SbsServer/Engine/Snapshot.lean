import Mathlib.Data.Fintype.Defs
import Mathlib.Logic.Function.Basic
import SbsServer.CLib.System

/-!
# Snapshots

`snapshot.c`: a client asks for a picture, waits on a condition variable until
the export thread has stored a frame, and encodes a copy of it.  One flag and one
stored frame serve all clients.  A step is one section under the lock; a wait
releases the lock, and a client that wakes takes it again in a step of its own.
-/

namespace SbsServer
namespace Engine

open CLib

/-- What `sbs_snapshot_engine_capture` returns. -/
inductive CaptureResult (Frame : Type)
  /-- `SBS_ERR_NOT_FOUND` -/
  | notFound
  /-- `SBS_ERR_IO`, with the frame whose descriptor was copied, if there was one. -/
  | io (memfd : Option Frame)
  /-- `SBS_OK` with the picture of a frame. -/
  | picture (frame : Frame)
  deriving DecidableEq

/-- Where a client stands in `sbs_snapshot_engine_capture`.  The frames are those consumed since
the call began. -/
inductive CapturePoint (Frame : Type)
  | idle
  /-- In `g_cond_wait_until`. -/
  | waiting (consumed : List Frame)
  /-- Woken, before the lock is taken again. -/
  | woken (consumed : List Frame)
  /-- The deadline has passed, before the lock is taken again. -/
  | timedOut (consumed : List Frame)
  /-- The stored frame was copied. -/
  | copied (memfd : Option Frame) (consumed : List Frame)
  deriving DecidableEq

/-- A call that has returned: the frames consumed from its beginning until it returned or its
deadline passed, whether the system calls on a stored frame succeeded, and what it returned. -/
structure CaptureRecord (Frame : Type) where
  consumed : List Frame
  systemCalls : Bool
  result : CaptureResult Frame
  deriving DecidableEq

/-- A call was served: it did not find the stored frame closed, a picture it returned is of a
frame consumed during its waiting time, and if there was one it returned such a picture, unless
a system call failed. -/
structure CaptureRecord.Served
    {Frame : Type}
    (record : CaptureRecord Frame) : Prop where
  stored : record.result ≠ .io none
  fresh : ∀ frame, record.result = .picture frame → frame ∈ record.consumed
  answered : record.consumed ≠ [] → record.systemCalls = true →
    ∃ frame, record.result = .picture frame

/-- `sbs_snapshot_engine_t` with its clients.  `cond` are the clients that wait on the condition
variable; there is no `latest` where its descriptor is -1. -/
structure SnapshotEngine (Client Frame : Type) where
  cond : List Client
  latest : Option Frame
  capturePending : Bool
  clients : Client → CapturePoint Frame
  finished : List (CaptureRecord Frame)

/-- What the clients and the export thread do. -/
inductive SnapshotEvent (Client Frame : Type)
  /-- A client calls `sbs_snapshot_engine_capture`. -/
  | capture (client : Client)
  /-- A wait ends without a signal. -/
  | wake (client : Client)
  /-- The deadline of a wait passes. -/
  | timeOut (client : Client)
  /-- A client that left its wait takes the lock again. -/
  | relock (client : Client)
  /-- A client encodes the frame it copied. -/
  | encode (client : Client) (systemCalls : Bool)
  /-- The export thread calls `sbs_snapshot_engine_consume_frame`; its signal wakes a client. -/
  | consumeFrame (frame : Frame) (memfd : Bool) (woken : Option Client)
  deriving DecidableEq

namespace CapturePoint

variable {Frame : Type}

/-- A frame is consumed during the waiting time of a call. -/
def sees (frame : Frame) : CapturePoint Frame → CapturePoint Frame
  | .waiting consumed => .waiting (consumed ++ [frame])
  | .woken consumed => .woken (consumed ++ [frame])
  | point => point

/-- Whether a client has asked for a frame and has not looked for it yet. -/
def isAsking : CapturePoint Frame → Bool
  | .waiting _ => true
  | .woken _ => true
  | .timedOut _ => true
  | _ => false

end CapturePoint

namespace SnapshotEngine

variable {Client Frame : Type} [DecidableEq Client]

/-- `sbs_snapshot_engine_new` -/
def new : SnapshotEngine Client Frame where
  cond := []
  latest := none
  capturePending := false
  clients _ := .idle
  finished := []

/-- A client goes to another point. -/
def setClient
    (engine : SnapshotEngine Client Frame)
    (client : Client)
    (point : CapturePoint Frame) : SnapshotEngine Client Frame :=
  { engine with clients := Function.update engine.clients client point }

/-- A call of `sbs_snapshot_engine_capture` returns. -/
def finish
    (engine : SnapshotEngine Client Frame)
    (client : Client)
    (record : CaptureRecord Frame) : SnapshotEngine Client Frame :=
  { engine.setClient client .idle with finished := engine.finished ++ [record] }

@[simp] theorem clients_finish
    (engine : SnapshotEngine Client Frame)
    (client : Client)
    (record : CaptureRecord Frame) :
    (engine.finish client record).clients = Function.update engine.clients client .idle :=
  rfl

/-- A client waits on the condition variable. -/
def wait
    (engine : SnapshotEngine Client Frame)
    (client : Client)
    (consumed : List Frame) : SnapshotEngine Client Frame :=
  { engine.setClient client (.waiting consumed) with cond := engine.cond ++ [client] }

/-- The first section of `sbs_snapshot_engine_capture`, up to its wait. -/
def capture
    (engine : SnapshotEngine Client Frame)
    (client : Client) : Option (SnapshotEngine Client Frame) :=
  match engine.clients client with
  | .idle =>
      some ({ engine with
        latest := none
        capturePending := true }.wait client [])
  | _ => none

/-- A client leaves the condition variable. -/
def leave
    (engine : SnapshotEngine Client Frame)
    (client : Client)
    (point : List Frame → CapturePoint Frame) : Option (SnapshotEngine Client Frame) :=
  match engine.clients client with
  | .waiting consumed =>
      some { engine.setClient client (point consumed) with
        cond := engine.cond.filter (· ≠ client) }
  | _ => none

/-- `sbs_snapshot_engine_capture` after a wait: it waits again, gives up or copies the frame. -/
def relock
    (engine : SnapshotEngine Client Frame)
    (client : Client) : Option (SnapshotEngine Client Frame) :=
  match engine.clients client with
  | .timedOut consumed =>
      some ({ engine with capturePending := false }.finish client
        { consumed := consumed, systemCalls := true, result := .notFound })
  | .woken consumed =>
      if engine.capturePending then some (engine.wait client consumed)
      else some (engine.setClient client (.copied engine.latest consumed))
  | _ => none

/-- `sbs_snapshot_engine_capture` after its last section under the lock. -/
def encode
    (engine : SnapshotEngine Client Frame)
    (client : Client)
    (systemCalls : Bool) : Option (SnapshotEngine Client Frame) :=
  match engine.clients client with
  | .copied none consumed =>
      some (engine.finish client
        { consumed := consumed, systemCalls := systemCalls, result := .io none })
  | .copied (some frame) consumed =>
      some (engine.finish client {
        consumed := consumed
        systemCalls := systemCalls
        result := if systemCalls then .picture frame else .io (some frame) })
  | _ => none

/-- `g_cond_signal`: it wakes one of the clients that wait, if there are any. -/
def signal
    (engine : SnapshotEngine Client Frame) :
    Option Client → Option (SnapshotEngine Client Frame)
  | some client => if client ∈ engine.cond then engine.leave client .woken else none
  | none => if engine.cond = [] then some engine else none

/-- `sbs_snapshot_engine_consume_frame`, with the client that its signal wakes. -/
def consumeFrame
    (engine : SnapshotEngine Client Frame)
    (frame : Frame)
    (memfd : Bool)
    (woken : Option Client) : Option (SnapshotEngine Client Frame) :=
  if !memfd then some engine
  else
    let seen := { engine with clients := fun client => (engine.clients client).sees frame }
    if !engine.capturePending then some seen
    else
      { seen with
        latest := some frame
        capturePending := false }.signal woken

/-- The state after an event, if it can happen. -/
def next
    (engine : SnapshotEngine Client Frame) :
    SnapshotEvent Client Frame → Option (SnapshotEngine Client Frame)
  | .capture client => engine.capture client
  | .wake client => engine.leave client .woken
  | .timeOut client => engine.leave client .timedOut
  | .relock client => engine.relock client
  | .encode client systemCalls => engine.encode client systemCalls
  | .consumeFrame frame memfd woken => engine.consumeFrame frame memfd woken

/-- Runs of a snapshot engine. -/
def system : System (SnapshotEngine Client Frame) (SnapshotEvent Client Frame) :=
  .ofNext (· = new) next

/-! ## Captures one at a time -/

/-- A capture begins only while no other one is waiting for its frame. -/
def CapturesAlone
    (engine : SnapshotEngine Client Frame) :
    SnapshotEvent Client Frame → Prop
  | .capture _ => ∀ other, (engine.clients other).isAsking = false
  | _ => True

instance [Fintype Client]
    (engine : SnapshotEngine Client Frame) :
    ∀ event, Decidable (engine.CapturesAlone event)
  | .capture _ => inferInstanceAs (Decidable (∀ other, (engine.clients other).isAsking = false))
  | .wake _ => isTrue trivial
  | .timeOut _ => isTrue trivial
  | .relock _ => isTrue trivial
  | .encode .. => isTrue trivial
  | .consumeFrame .. => isTrue trivial

/-- What the point of a client says about the engine. -/
def PointSound
    (engine : SnapshotEngine Client Frame)
    (client : Client) : CapturePoint Frame → Prop
  | .idle => True
  | .waiting consumed => consumed = [] ∧ engine.capturePending = true ∧ client ∈ engine.cond
  | .woken consumed =>
      (engine.capturePending = true ∧ consumed = []) ∨
        (engine.capturePending = false ∧ ∃ frame ∈ consumed, engine.latest = some frame)
  | .timedOut consumed => consumed = []
  | .copied memfd consumed => ∃ frame ∈ consumed, memfd = some frame

/-- What holds of an engine that serves one capture at a time. -/
structure Sound (engine : SnapshotEngine Client Frame) : Prop where
  alone : ∀ first second, (engine.clients first).isAsking = true →
    (engine.clients second).isAsking = true → first = second
  points : ∀ client, engine.PointSound client (engine.clients client)
  served : ∀ record ∈ engine.finished, record.Served

variable {engine after : SnapshotEngine Client Frame} {client : Client}

omit [DecidableEq Client] in
/-- The point of a client that does not ask for a frame says nothing about the engine. -/
theorem PointSound.of_not_asking
    {point : CapturePoint Frame}
    (sound : engine.PointSound client point)
    (idle : point.isAsking = false) :
    after.PointSound client point := by
  cases point with
  | idle => trivial
  | waiting => cases idle
  | woken => cases idle
  | timedOut => cases idle
  | copied memfd consumed => exact sound

omit [DecidableEq Client] in
/-- Next to a client that asks, no other client does. -/
theorem Sound.others
    (sound : engine.Sound)
    (asks : (engine.clients client).isAsking = true) :
    ∀ other, other ≠ client → (engine.clients other).isAsking = false :=
  fun other different => Bool.eq_false_iff.mpr fun also =>
    different (sound.alone other client also asks)

/-- A client goes to another point, next to clients that do not ask. -/
theorem Sound.set
    {engine after : SnapshotEngine Client Frame}
    (sound : engine.Sound)
    {client : Client}
    (point : CapturePoint Frame)
    (clients : after.clients = Function.update engine.clients client point)
    (others : ∀ other, other ≠ client → (engine.clients other).isAsking = false)
    (pointSound : after.PointSound client point)
    (served : ∀ record ∈ after.finished, record.Served) :
    after.Sound := by
  have quiet : ∀ other, other ≠ client → (after.clients other).isAsking = false := by
    intro other different
    rw [clients, Function.update_of_ne different]
    exact others other different
  refine ⟨?_, ?_, served⟩
  · have only : ∀ other, (after.clients other).isAsking = true → other = client :=
      fun other asks => by_contra fun different =>
        absurd (asks.symm.trans (quiet other different)) (by decide)
    intro first second firstAsks secondAsks
    rw [only first firstAsks, only second secondAsks]
  · intro other
    rw [clients]
    by_cases same : other = client
    · rw [same, Function.update_self]
      exact pointSound
    · rw [Function.update_of_ne same]
      exact (sound.points other).of_not_asking (others other same)

section

variable (sound : engine.Sound)
include sound

omit [DecidableEq Client] in
/-- A call returns and was served. -/
theorem Sound.finish
    {record : CaptureRecord Frame}
    (recorded : record.Served) :
    ∀ other ∈ engine.finished ++ [record], other.Served := by
  intro other member
  rcases List.mem_append.mp member with old | new
  · exact sound.served other old
  · exact List.mem_singleton.mp new ▸ recorded

theorem Sound.capture
    (alone : ∀ other, (engine.clients other).isAsking = false)
    (stepped : engine.capture client = some after) :
    after.Sound := by
  unfold SnapshotEngine.capture at stepped
  split at stepped
  next =>
    cases stepped
    refine sound.set (.waiting []) rfl (fun other _ => alone other) ⟨rfl, rfl, ?_⟩ sound.served
    exact List.mem_append_right _ (List.mem_singleton_self client)
  next => cases stepped

/-- A wait that ends without a signal. -/
theorem Sound.leave
    {point : List Frame → CapturePoint Frame}
    (ends : point = .woken ∨ point = .timedOut)
    (stepped : engine.leave client point = some after) :
    after.Sound := by
  unfold SnapshotEngine.leave at stepped
  split at stepped
  next consumed waits =>
    cases stepped
    have asks : (engine.clients client).isAsking = true := by
      rw [waits]
      rfl
    obtain ⟨rfl, pending, _⟩ : engine.PointSound client (.waiting consumed) :=
      waits ▸ sound.points client
    refine sound.set (point []) rfl (sound.others asks) ?_ sound.served
    rcases ends with rfl | rfl
    · exact .inl ⟨pending, rfl⟩
    · exact rfl
  next => cases stepped

theorem Sound.relock
    (stepped : engine.relock client = some after) :
    after.Sound := by
  have point := sound.points client
  unfold SnapshotEngine.relock at stepped
  split at stepped
  next consumed timedOut =>
    cases stepped
    rw [timedOut] at point
    have asks : (engine.clients client).isAsking = true := by
      rw [timedOut]
      rfl
    refine sound.set .idle rfl (sound.others asks) trivial (sound.finish ?_)
    exact ⟨nofun, nofun, fun some => absurd point some⟩
  next consumed woken =>
    rw [woken] at point
    have asks : (engine.clients client).isAsking = true := by
      rw [woken]
      rfl
    split at stepped
    next pending =>
      cases stepped
      rcases point with ⟨_, rfl⟩ | ⟨not, _⟩
      · refine sound.set (.waiting []) rfl (sound.others asks) ⟨rfl, pending, ?_⟩ sound.served
        exact List.mem_append_right _ (List.mem_singleton_self client)
      · rw [not] at pending
        cases pending
    next stored =>
      cases stepped
      rcases point with ⟨pending, _⟩ | ⟨_, found⟩
      · exact absurd pending stored
      · exact sound.set (.copied engine.latest consumed) rfl (sound.others asks) found sound.served
  next => cases stepped

/-- A client at a point that does not ask goes idle. -/
theorem Sound.toIdle
    {record : CaptureRecord Frame}
    (recorded : record.Served) :
    (engine.finish client record).Sound := by
  refine ⟨?_, ?_, sound.finish recorded⟩
  · have before : ∀ other, ((engine.finish client record).clients other).isAsking = true →
        (engine.clients other).isAsking = true := by
      intro other asks
      by_cases same : other = client
      · rw [clients_finish, same, Function.update_self] at asks
        cases asks
      · rwa [clients_finish, Function.update_of_ne same] at asks
    exact fun first second firstAsks secondAsks =>
      sound.alone first second (before first firstAsks) (before second secondAsks)
  · intro other
    by_cases same : other = client
    · rw [clients_finish, same, Function.update_self]
      trivial
    · rw [clients_finish, Function.update_of_ne same]
      exact sound.points other

theorem Sound.encode
    {systemCalls : Bool}
    (stepped : engine.encode client systemCalls = some after) :
    after.Sound := by
  have point := sound.points client
  unfold SnapshotEngine.encode at stepped
  split at stepped
  next consumed copied =>
    rw [copied] at point
    obtain ⟨_, _, found⟩ := point
    cases found
  next frame consumed copied =>
    cases stepped
    rw [copied] at point
    obtain ⟨_, member, same⟩ := point
    cases same
    refine sound.toIdle ?_
    cases systemCalls with
    | true => exact ⟨nofun, fun _ same => by cases same; exact member, fun _ _ => ⟨frame, rfl⟩⟩
    | false => exact ⟨nofun, nofun, fun _ failed => nomatch failed⟩
  next => cases stepped

end

omit [DecidableEq Client] in
/-- Whether a client asks does not depend on the frames consumed. -/
theorem isAsking_sees
    (point : CapturePoint Frame)
    (frame : Frame) :
    (point.sees frame).isAsking = point.isAsking := by
  cases point <;> rfl

section

variable (sound : engine.Sound)
include sound

omit [DecidableEq Client] in
/-- A frame that nobody asked for any more is dropped. -/
theorem Sound.drop
    (frame : Frame)
    (answered : engine.capturePending = false) :
    { engine with clients := fun client => (engine.clients client).sees frame }.Sound := by
  refine ⟨fun first second firstAsks secondAsks => ?_, fun client => ?_, sound.served⟩
  · dsimp only at firstAsks secondAsks
    rw [isAsking_sees] at firstAsks secondAsks
    exact sound.alone first second firstAsks secondAsks
  · have point := sound.points client
    dsimp only
    cases stands : engine.clients client with
    | idle => trivial
    | waiting consumed =>
        rw [stands] at point
        exact absurd (answered.symm.trans point.2.1) (by decide)
    | woken consumed =>
        rw [stands] at point
        rcases point with ⟨pending, _⟩ | ⟨_, stored, member, latest⟩
        · exact absurd (answered.symm.trans pending) (by decide)
        · exact .inr ⟨answered, stored, List.mem_append_left _ member, latest⟩
    | timedOut consumed =>
        rw [stands] at point
        exact point
    | copied memfd consumed =>
        rw [stands] at point
        exact point

omit [DecidableEq Client] in
/-- A frame is stored for the client that asks, which is on its way to look for it. -/
theorem Sound.store
    (frame : Frame)
    (nobodyWaits : engine.cond = []) :
    { engine with
      latest := some frame
      capturePending := false
      clients := fun client => (engine.clients client).sees frame }.Sound := by
  refine ⟨fun first second firstAsks secondAsks => ?_, fun client => ?_, sound.served⟩
  · dsimp only at firstAsks secondAsks
    rw [isAsking_sees] at firstAsks secondAsks
    exact sound.alone first second firstAsks secondAsks
  · have point := sound.points client
    dsimp only
    cases stands : engine.clients client with
    | idle => trivial
    | waiting consumed =>
        rw [stands] at point
        have member := point.2.2
        rw [nobodyWaits] at member
        cases member
    | woken consumed =>
        exact .inr ⟨rfl, frame, List.mem_append_right _ (List.mem_singleton_self frame), rfl⟩
    | timedOut consumed =>
        rw [stands] at point
        exact point
    | copied memfd consumed =>
        rw [stands] at point
        exact point

/-- A frame is stored for the client that asks, which is woken. -/
theorem Sound.storeFor
    {frame : Frame}
    (stepped : { engine with
      latest := some frame
      capturePending := false
      clients := fun client => (engine.clients client).sees frame }.leave client .woken =
        some after) :
    after.Sound := by
  unfold SnapshotEngine.leave at stepped
  dsimp only at stepped
  cases stands : engine.clients client with
  | waiting consumed =>
      rw [stands] at stepped
      cases stepped
      have asks : (engine.clients client).isAsking = true := by
        rw [stands]
        rfl
      have others := sound.others asks
      -- Nobody else asks, so nobody else sees the frame.
      have same : ∀ other, other ≠ client →
          (engine.clients other).sees frame = engine.clients other := by
        intro other different
        have quiet := others other different
        cases point : engine.clients other with
        | idle => rfl
        | waiting =>
            rw [point] at quiet
            cases quiet
        | woken =>
            rw [point] at quiet
            cases quiet
        | timedOut => rfl
        | copied => rfl
      have updated : Function.update (fun other => (engine.clients other).sees frame) client
          (.woken (consumed ++ [frame])) =
          Function.update engine.clients client (.woken (consumed ++ [frame])) := by
        funext other
        by_cases isClient : other = client
        · rw [isClient, Function.update_self, Function.update_self]
        · rw [Function.update_of_ne isClient, Function.update_of_ne isClient, same other isClient]
      refine sound.set (.woken (consumed ++ [frame])) updated others (.inr ⟨rfl, frame, ?_, rfl⟩)
        sound.served
      exact List.mem_append_right _ (List.mem_singleton_self frame)
  | idle =>
      rw [stands] at stepped
      cases stepped
  | woken consumed =>
      rw [stands] at stepped
      cases stepped
  | timedOut consumed =>
      rw [stands] at stepped
      cases stepped
  | copied memfd consumed =>
      rw [stands] at stepped
      cases stepped

theorem Sound.consumeFrame
    {frame : Frame}
    {memfd : Bool}
    {woken : Option Client}
    (stepped : engine.consumeFrame frame memfd woken = some after) :
    after.Sound := by
  unfold SnapshotEngine.consumeFrame at stepped
  split at stepped
  next =>
    cases stepped
    exact sound
  next =>
    dsimp only at stepped
    split at stepped
    next answered =>
      cases stepped
      exact sound.drop frame (Bool.not_eq_true' _ ▸ answered)
    next =>
      unfold signal at stepped
      split at stepped
      next client =>
        split at stepped
        next => exact sound.storeFor stepped
        next => cases stepped
      next =>
        split at stepped
        next nobodyWaits =>
          cases stepped
          exact sound.store frame nobodyWaits
        next => cases stepped

/-- A step after which one capture at most asks for a frame keeps the invariant. -/
theorem Sound.next
    {event : SnapshotEvent Client Frame}
    (alone : engine.CapturesAlone event)
    (stepped : engine.next event = some after) :
    after.Sound := by
  cases event with
  | capture client => exact sound.capture alone stepped
  | wake client => exact sound.leave (.inl rfl) stepped
  | timeOut client => exact sound.leave (.inr rfl) stepped
  | relock client => exact sound.relock stepped
  | encode client systemCalls => exact sound.encode stepped
  | consumeFrame frame memfd woken => exact sound.consumeFrame stepped

end

/-- In every run, with any number of clients, in which no capture begins while another one waits
for its frame, every capture that returned was served. -/
theorem served_of_reachable
    {engine : SnapshotEngine Client Frame}
    (reachable : system.ReachableWhen CapturesAlone engine) :
    ∀ record ∈ engine.finished, record.Served := by
  have sound : engine.Sound := by
    refine @System.ReachableWhen.invariant _ _ system _ Sound ?_ ?_ _ reachable
    · rintro _ rfl
      exact ⟨fun _ _ asks => (nomatch asks), fun _ => trivial, fun _ member => (nomatch member)⟩
    · intro before event after sound alone stepped
      exact sound.next alone stepped
  exact sound.served

/-- Two clients capture one after the other; the second frame comes while nobody asks. -/
def oneByOne : List (SnapshotEvent Bool Nat) :=
  [.capture false, .wake false, .relock false, .consumeFrame 1 true (some false), .relock false,
    .capture true, .encode false true, .consumeFrame 2 true (some true),
    .consumeFrame 3 true none, .relock true, .encode true true]

theorem served_oneByOne :
    ∃ engine, System.run (System.guarded CapturesAlone next) new oneByOne = some engine ∧
      engine.finished = [⟨[1], true, .picture 1⟩, ⟨[2, 3], true, .picture 2⟩] ∧
      ∀ record ∈ engine.finished, record.Served := by
  have runs : (System.run (System.guarded CapturesAlone next) new oneByOne).map
      (·.finished) = some [⟨[1], true, .picture 1⟩, ⟨[2, 3], true, .picture 2⟩] := by
    decide +kernel
  obtain ⟨engine, runs, finished⟩ := Option.map_eq_some_iff.mp runs
  exact ⟨engine, runs, finished,
    served_of_reachable (System.reachableWhen_of_run (.initial rfl) runs)⟩

/-- Two clients ask for the same frame and the signal wakes one of them. -/
def oneSignal : List (SnapshotEvent Bool Nat) :=
  [.capture false, .capture true, .consumeFrame 1 true (some false), .relock false,
    .encode false true, .timeOut true, .relock true]

/-- A client asks anew before the one that was woken has looked, and gives up. -/
def closedFirst : List (SnapshotEvent Bool Nat) :=
  [.capture false, .consumeFrame 1 true (some false), .capture true, .timeOut true, .relock true,
    .relock false, .encode false true]

/-- One client is told that there is no frame although one was consumed while it waited, and
another fails because the frame it was woken for was closed. -/
theorem captures_notServed :
    (∃ engine : SnapshotEngine Bool Nat, system.Reachable engine ∧
      ⟨[1], true, .notFound⟩ ∈ engine.finished) ∧
    (∃ engine : SnapshotEngine Bool Nat, system.Reachable engine ∧
      ⟨[1], true, .io none⟩ ∈ engine.finished) ∧
    ¬ (∀ engine : SnapshotEngine Bool Nat, system.Reachable engine →
      ∀ record ∈ engine.finished, record.Served) := by
  have starved : ∃ engine : SnapshotEngine Bool Nat, system.Reachable engine ∧
      ⟨[1], true, .notFound⟩ ∈ engine.finished := by
    have runs : (System.run next new oneSignal).map
        (fun engine => decide (⟨[1], true, .notFound⟩ ∈ engine.finished)) = some true := by
      decide +kernel
    obtain ⟨engine, runs, member⟩ := Option.map_eq_some_iff.mp runs
    exact ⟨engine, System.reachable_of_run (.initial rfl) runs, of_decide_eq_true member⟩
  have closed : ∃ engine : SnapshotEngine Bool Nat, system.Reachable engine ∧
      ⟨[1], true, .io none⟩ ∈ engine.finished := by
    have runs : (System.run next new closedFirst).map
        (fun engine => decide (⟨[1], true, .io none⟩ ∈ engine.finished)) = some true := by
      decide +kernel
    obtain ⟨engine, runs, member⟩ := Option.map_eq_some_iff.mp runs
    exact ⟨engine, System.reachable_of_run (.initial rfl) runs, of_decide_eq_true member⟩
  refine ⟨starved, closed, fun served => ?_⟩
  obtain ⟨engine, reachable, member⟩ := closed
  exact (served engine reachable _ member).stored rfl

end SnapshotEngine
end Engine
end SbsServer
