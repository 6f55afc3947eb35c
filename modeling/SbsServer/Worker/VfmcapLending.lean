import SbsServer.CLib.Table
import SbsServer.Worker.VfmcapRecovery

/-!
# What the capture worker lends

A captured frame is lent to the server with a lease, or handed back to the
driver.  Each callback of the main loop does one of few things to the leases and
the frames; what the server's releases do is said for a single one.
-/

namespace SbsServer
namespace Worker

open CLib

/-- What a capture worker has captured, lent and handed back. -/
structure Lending where
  leases : VfmcapLeases
  frameCounter : UInt64
  captured : Nat
  handedBack : List Nat
  withdrawn : List Nat

namespace Lending

/-- The active leases. -/
def active (lending : Lending) : List VfmcapLease :=
  Table.items lending.leases

/-- A frame is captured and handed back. -/
def drop (lending : Lending) : Lending :=
  { lending with
    captured := lending.captured + 1
    handedBack := lending.handedBack ++ [lending.captured] }

/-- A frame is captured and lent to the server with its lease at an index. -/
def send
    (lending : Lending)
    (index : Fin vfmcapMaxInFlight) : Lending :=
  { lending with
    leases := Function.update lending.leases index
      (some ⟨lending.frameCounter, lending.captured⟩)
    frameCounter := lending.frameCounter + 1
    captured := lending.captured + 1 }

/-- Every lease ends and its frame is handed back. -/
def withdraw (lending : Lending) : Lending :=
  { lending with
    leases := fun _ => none
    handedBack := lending.handedBack ++ lending.active.map VfmcapLease.frame
    withdrawn := lending.withdrawn ++ lending.active.map VfmcapLease.frame }

/-- The lease at an index ends and its frame is handed back. -/
def giveBack
    (lending : Lending)
    (index : Fin vfmcapMaxInFlight)
    (lease : VfmcapLease) : Lending :=
  { lending with
    leases := Function.update lending.leases index none
    handedBack := lending.handedBack ++ [lease.frame] }

/-- The lease of the frame that was sent between two points, if one was: `frame_counter`
counts the frames sent. -/
def lent (lending after : Lending) : List VfmcapLease :=
  if after.frameCounter = lending.frameCounter then []
  else [⟨lending.frameCounter, lending.captured⟩]

/-- What a callback that reads no message does. -/
inductive Step (lending : Lending) : Lending → Prop
  | kept : lending.Step lending
  | dropped : lending.Step lending.drop
  | sent (index : Fin vfmcapMaxInFlight) (free : lending.leases index = none) :
      lending.Step (lending.send index)
  | withdrawn : lending.Step lending.withdraw

/-- What the server's release of a sequence number does. -/
inductive Acknowledged (lending : Lending) (sequence : UInt64) : Lending → Prop
  | unknown (absent : ∀ lease ∈ lending.active, lease.sequence ≠ sequence) :
      lending.Acknowledged sequence lending
  | returned (index : Fin vfmcapMaxInFlight) (lease : VfmcapLease)
      (holds : lending.leases index = some lease) (same : lease.sequence = sequence) :
      lending.Acknowledged sequence (lending.giveBack index lease)

/-- Without a lease there is nothing to withdraw. -/
theorem withdraw_of_none
    {lending : Lending}
    (none : ∀ index, lending.leases index = Option.none) :
    lending.withdraw = lending := by
  have empty : lending.leases = fun _ => Option.none := funext none
  have noLease : lending.active = [] := by
    rw [active, empty, Table.items_empty]
  rw [withdraw, noLease, List.map_nil, List.append_nil, List.append_nil, ← empty]

theorem withdraw_withdraw (lending : Lending) :
    lending.withdraw.withdraw = lending.withdraw :=
  withdraw_of_none fun _ => rfl

end Lending

namespace VfmcapWorker

/-- The part of a worker that is about lending. -/
def lending (worker : VfmcapWorker) : Lending where
  leases := worker.leases
  frameCounter := worker.frameCounter
  captured := worker.captured
  handedBack := worker.handedBack
  withdrawn := worker.withdrawn

variable {worker : VfmcapWorker}

/-- A worker with a context hands the frame of a lease back. -/
theorem releaseLeaseIndex_of_some
    (context : worker.hasContext = true)
    {index : Fin vfmcapMaxInFlight}
    {lease : VfmcapLease}
    (holds : worker.leases index = some lease) :
    worker.releaseLeaseIndex index =
      { worker with
        leases := Function.update worker.leases index none
        handedBack := worker.handedBack ++ [lease.frame] } := by
  rw [releaseLeaseIndex, holds]
  simp only [context, if_true]

theorem releaseLeaseIndex_of_none
    {index : Fin vfmcapMaxInFlight}
    (free : worker.leases index = none) :
    worker.releaseLeaseIndex index = worker := by
  rw [releaseLeaseIndex, free]

/-- The frames that the loop over some indices hands back. -/
theorem foldl_releaseLeaseIndex_handedBack
    {indices : List (Fin vfmcapMaxInFlight)}
    (distinct : indices.Nodup)
    (context : worker.hasContext = true) :
    (indices.foldl releaseLeaseIndex worker).handedBack =
      worker.handedBack ++ (indices.filterMap worker.leases).map VfmcapLease.frame := by
  induction indices generalizing worker with
  | nil => simp
  | cons first rest ih =>
      obtain ⟨fresh, restDistinct⟩ := List.nodup_cons.mp distinct
      cases holds : worker.leases first with
      | none =>
          rw [List.foldl_cons, releaseLeaseIndex_of_none holds, List.filterMap_cons_none holds]
          exact ih restDistinct context
      | some lease =>
          have others : rest.filterMap (Function.update worker.leases first none) =
              rest.filterMap worker.leases := by
            refine List.filterMap_congr fun other member => ?_
            rw [Function.update_of_ne]
            rintro rfl
            exact fresh member
          rw [List.foldl_cons, releaseLeaseIndex_of_some context holds,
            List.filterMap_cons_some holds]
          refine (ih restDistinct ?_).trans ?_
          · exact context
          · simp only [others, List.map_cons, List.append_assoc, List.singleton_append]

section

variable {worker : VfmcapWorker}
variable (none : worker.hasContext = false → ∀ index, worker.leases index = none)
include none

/-- Closing the capture withdraws every lease. -/
theorem closeCurrent_lending :
    worker.closeCurrent.lending = worker.lending.withdraw := by
  unfold closeCurrent
  split
  next context =>
    obtain ⟨handedBack, same⟩ := worker.releaseAll_keeps
    have back := foldl_releaseLeaseIndex_handedBack (List.nodup_finRange _) context
    rw [← releaseAll, same] at back
    rw [same]
    simp only [lending, Lending.withdraw, Lending.active, Table.items, List.map_filterMap] at back ⊢
    rw [back]
  next noContext =>
    rw [Bool.not_eq_true] at noContext
    exact (Lending.withdraw_of_none (none noContext)).symm

theorem beginRecovery_lends :
    worker.beginRecovery.lending = worker.lending ∨
      worker.beginRecovery.lending = worker.lending.withdraw := by
  unfold beginRecovery
  split
  next => exact .inl rfl
  next =>
    right
    have closed := @closeCurrent_lending { worker with
      recovering := true
      consecutiveNosig := 0
      lowFpsWindows := 0
      stableCount := 0
      stableWidth := 0
      stableHeight := 0 }.removeCaptureSources none
    dsimp only
    rw [startRecoverTimer]
    split
    next => exact closed
    next => exact closed

theorem restartNow_lends
    (opens : Bool) :
    (worker.restartNow opens).lending = worker.lending ∨
      (worker.restartNow opens).lending = worker.lending.withdraw := by
  unfold restartNow
  split
  next => exact .inl rfl
  next =>
    right
    have closed := @closeCurrent_lending worker.removeCaptureSources none
    cases opens with
    | true => exact closed
    | false =>
        have empty : ∀ index, worker.removeCaptureSources.closeCurrent.leases index = Option.none :=
          fun index => congrFun (congrArg Lending.leases closed) index
        dsimp only [openStart]
        rcases @beginRecovery_lends { worker.removeCaptureSources.closeCurrent with
            hasContext := false } (fun _ => empty) with kept | withdrawn
        · exact kept.trans closed
        · refine withdrawn.trans ((congrArg Lending.withdraw closed).trans ?_)
          exact worker.lending.withdraw_withdraw

end

theorem afterSend_lends
    {worker : VfmcapWorker}
    {index : Fin vfmcapMaxInFlight}
    (free : worker.leases index = none)
    (context : worker.hasContext = true)
    (send : SendOutcome) :
    worker.lending.Step
      (({ worker with
        leases := Function.update worker.leases index
          (some ⟨worker.frameCounter, worker.captured⟩)
        captured := worker.captured + 1 }).afterSend index send).2.lending := by
  have returned : ∀ stored : VfmcapWorker, stored.hasContext = true →
      stored.lending = { worker.lending.send index with frameCounter := worker.frameCounter } →
      worker.lending.Step (stored.releaseLeaseIndex index).lending := by
    intro stored storedContext same
    have leases : stored.leases = Function.update worker.leases index
        (some ⟨worker.frameCounter, worker.captured⟩) := congrArg Lending.leases same
    have holds : stored.leases index = some ⟨worker.frameCounter, worker.captured⟩ := by
      rw [leases, Function.update_self]
    have restored : Function.update stored.leases index none = worker.leases := by
      rw [leases, Function.update_idem, ← free, Function.update_eq_self]
    have back : (stored.releaseLeaseIndex index).lending =
        { stored.lending with
          leases := worker.leases
          handedBack := stored.lending.handedBack ++ [worker.captured] } := by
      rw [releaseLeaseIndex_of_some storedContext holds, restored]
      rfl
    rw [back, same]
    exact .dropped
  cases send with
  | ok => exact .sent index free
  | wouldBlock => exact returned _ context rfl
  | pipe => exact returned _ context rfl
  | error => exact returned _ context rfl

theorem frameTimeout_lends
    (acquire : AcquireOutcome)
    (send : SendOutcome) :
    worker.lending.Step (worker.frameTimeout acquire send).2.lending := by
  unfold frameTimeout
  split
  next => exact .kept
  next =>
    split
    next => exact .kept
    next captures =>
      rw [Bool.or_eq_true, not_or, Bool.not_eq_true, Bool.not_eq_true,
        Bool.not_eq_false'] at captures
      have context := captures.2
      have none : worker.hasContext = false → ∀ index, worker.leases index = none :=
        fun noContext => absurd (context.symm.trans noContext) (by decide)
      split
      next => exact .kept
      next =>
        cases acquire with
        | timeout => exact .kept
        | error => exact .kept
        | nosig =>
            dsimp only
            split
            next =>
              rcases @beginRecovery_lends { worker with
                consecutiveNosig := worker.consecutiveNosig + 1
                frameTimer := 0 } none with kept | withdrawn
              · rw [kept]
                exact .kept
              · rw [withdrawn]
                exact .withdrawn
            next => exact .kept
        | frame hasDmabuf split =>
            dsimp only
            split
            next => exact .dropped
            next =>
              split
              next => exact .dropped
              next =>
                split
                next index stored kept =>
                  obtain ⟨found, first, same⟩ := Option.map_eq_some_iff.mp kept
                  obtain ⟨rfl, rfl⟩ := Prod.mk.inj same
                  have free : worker.leases found = Option.none := by
                    simpa using List.find?_some first
                  exact @afterSend_lends { worker with consecutiveNosig := 0 } found free context
                    send
                next => exact .dropped

theorem eventTimeout_lends
    (none : worker.hasContext = false → ∀ index, worker.leases index = none)
    (polled : PollOutcome) :
    worker.lending.Step (worker.eventTimeout polled).2.lending := by
  have lost : worker.lending.Step { worker with eventTimer := 0 }.beginRecovery.lending := by
    rcases @beginRecovery_lends { worker with eventTimer := 0 } none with kept | withdrawn
    · rw [kept]
      exact .kept
    · rw [withdrawn]
      exact .withdrawn
  unfold eventTimeout
  split
  next => exact .kept
  next =>
    split
    next => exact .kept
    next =>
      cases polled with
      | sourceChange => exact lost
      | nosig => exact lost
      | nothing => exact .kept
      | error => exact .kept
      | other => exact .kept

theorem statsTimeout_lends
    (none : worker.hasContext = false → ∀ index, worker.leases index = none)
    (slow opens : Bool) :
    worker.lending.Step (worker.statsTimeout slow opens).2.lending := by
  unfold statsTimeout
  split
  next => exact .kept
  next =>
    split
    next =>
      dsimp only
      split
      next =>
        rcases @restartNow_lends { worker with lowFpsWindows := worker.lowFpsWindows + 1 } none
          opens with kept | withdrawn
        · rw [kept]
          exact .kept
        · rw [withdrawn]
          exact .withdrawn
      next => exact .kept
    next => exact .kept

theorem recoverTimeout_lends
    (worker : VfmcapWorker)
    (resolution : Option Resolution)
    (opens : Bool) :
    (worker.recoverTimeout resolution opens).2.lending = worker.lending := by
  obtain ⟨count, width, height, noted⟩ := worker.noteResolution_keeps resolution
  unfold recoverTimeout
  split
  next => rfl
  next =>
    dsimp only
    rw [noted]
    split
    next => rfl
    next =>
      cases opens with
      | true => rfl
      | false => rfl

/-- What the server's release does to a worker whose leases have a context. -/
theorem releaseSequence_lends
    (none : worker.hasContext = false → ∀ index, worker.leases index = none)
    (sequence : UInt64) :
    worker.lending.Acknowledged sequence (worker.releaseSequence sequence).lending := by
  unfold releaseSequence
  split
  next index found =>
    have matching := List.find?_some found
    simp only [Option.any_eq_true, decide_eq_true_eq] at matching
    obtain ⟨lease, holds, same⟩ := matching
    have context : worker.hasContext = true := by
      cases context : worker.hasContext with
      | true => rfl
      | false => exact absurd ((none context index).symm.trans holds) (by simp)
    rw [releaseLeaseIndex_of_some context holds]
    exact .returned index lease holds same
  next missing =>
    refine .unknown fun lease member same => ?_
    obtain ⟨index, holds⟩ := Table.mem_items.mp member
    have differs := List.find?_eq_none.mp missing index (List.mem_finRange index)
    rw [show worker.leases index = some lease from holds, Option.any_some,
      decide_eq_true_eq] at differs
    exact differs same

theorem removeSource_lending
    (result : Bool × VfmcapWorker)
    (id : Nat) :
    (if result.1 then result.2 else result.2.removeSource id).lending = result.2.lending := by
  split
  next => rfl
  next => rfl

/-- A worker that reads no message does one of few things to its leases. -/
theorem next_lends
    {worker after : VfmcapWorker}
    (none : worker.hasContext = false → ∀ index, worker.leases index = none)
    {event : VfmcapEvent}
    (silent : ∀ id messages ends, event ≠ .fire id (.control false messages ends))
    (stepped : worker.next event = some after) :
    worker.lending.Step after.lending := by
  cases event with
  | serverCloses =>
      cases stepped
      exact .kept
  | signal =>
      cases stepped
      exact .kept
  | finish =>
      rw [next] at stepped
      split at stepped
      next =>
        cases stepped
        have closed := @closeCurrent_lending { worker with
          frameTimer := 0
          eventTimer := 0
          statsTimer := 0
          recoverTimer := 0
          heartbeatTimer := 0
          socketWatch := 0
          sources := [] } none
        rw [finish, closed]
        exact .withdrawn
      next => cases stepped
  | fire id input =>
      obtain ⟨callback, result, member, allowed, dispatched, rfl⟩ := next_fire stepped
      rw [removeSource_lending]
      cases callback <;> cases input <;> cases dispatched
      case fire.frame.frame.refl acquire send => exact frameTimeout_lends acquire send
      case fire.event.event.refl polled => exact eventTimeout_lends none polled
      case fire.stats.stats.refl slow opens => exact statsTimeout_lends none slow opens
      case fire.recover.recover.refl resolution opens =>
        rw [recoverTimeout_lends]
        exact .kept
      case fire.heartbeat.heartbeat.refl => exact .kept
      case fire.control.control.refl hangUp messages ends =>
        cases hangUp with
        | true => exact .kept
        | false => exact absurd rfl (silent id messages ends)

/-- A worker that reads messages does to its leases what they say. -/
theorem next_control_lends
    {worker after : VfmcapWorker}
    {id : Nat}
    {messages : List ControlMessage}
    {ends : Bool}
    (stepped : worker.next (.fire id (.control false messages ends)) = some after) :
    after.lending = (worker.controlMessages messages).lending := by
  obtain ⟨callback, result, _, _, dispatched, rfl⟩ := next_fire stepped
  rw [removeSource_lending]
  cases callback <;> cases dispatched
  cases ends with
  | true => rfl
  | false => rfl

end VfmcapWorker
end Worker
end SbsServer
