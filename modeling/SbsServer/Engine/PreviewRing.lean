import SbsServer.CLib.System
import SbsServer.Engine.NativeCanvas
import SbsServer.Engine.OutputRouter

/-!
# The ring of the native preview

`compositor.c`: the entries of the preview ring, with the mailbox that passes
them to the consumers, over reconfigurations of the ring.  The compositor thread
polls, renders, publishes and reconfigures, one atomic access or critical section
at a time; consumers acquire from the mailbox and release, each at its own pace.
A lease names an entry by its index; the model also remembers which memory the
entry had when the lease was counted.  Pictures, fences and timing queries are
left out: the outcome of a driver call comes with the step.
-/

namespace SbsServer
namespace Engine

open CLib

/-- A counted reference to an entry. -/
structure PreviewLease where
  slot : Fin nativeCanvasRingSize
  /-- A history: how often the entry had been set anew when the reference was counted. -/
  created : Nat
  deriving DecidableEq

/-- `sbs_native_canvas_entry_t` -/
structure PreviewEntry where
  state : EntryState
  refcount : UInt32
  /-- A history: how often the entry was set anew. -/
  created : Nat
  deriving DecidableEq

/-- The arguments of `sbs_compositor_configure_native_preview`. -/
structure PreviewParams where
  width : UInt32
  height : UInt32
  frameInterval : UInt32
  colorMode : ExportColorMode
  deriving DecidableEq

/-- Where a call of `sbs_compositor_native_canvas_unref` is. -/
inductive UnrefPoint
  /-- `native_canvas_lookup_entry` -/
  | lookup (lease : PreviewLease)
  /-- Load the count. -/
  | load (lease : PreviewLease)
  /-- Exchange the count. -/
  | exchange (lease : PreviewLease) (prev : UInt32)
  deriving DecidableEq

/-- The reference that a call gives back. -/
def UnrefPoint.lease : UnrefPoint → PreviewLease
  | .lookup lease => lease
  | .load lease => lease
  | .exchange lease _ => lease

/-- Where the compositor thread is.  `after` is the ring that a reconfiguration creates once the
old one is destroyed, `poll` the entry with which a publication goes on. -/
inductive CompositorPoint
  | idle
  /-- `destroy_native_preview_ring`: the loop that empties the mailbox. -/
  | draining (after : Option PreviewParams)
  /-- The same: unref of an entry of the mailbox. -/
  | dropping (unref : UnrefPoint) (after : Option PreviewParams)
  /-- `wait_native_preview_refs_released`: load the count of an entry. -/
  | waiting (attempt slot : Nat) (after : Option PreviewParams)
  /-- The same: the attempts are used up. -/
  | gaveUp (after : Option PreviewParams)
  /-- `destroy_native_preview_ring`: destroy an entry. -/
  | destroying (slot : Nat) (after : Option PreviewParams)
  /-- `create_native_preview_ring`: create an entry. -/
  | creating (slot : Nat) (params : PreviewParams)
  /-- `sbs_compositor_native_preview_poll_ready`: an entry of the loop. -/
  | polling (slot : Nat)
  /-- The same: the entry is ready. -/
  | marking (slot : Fin nativeCanvasRingSize)
  /-- `sbs_compositor_native_canvas_mailbox_publish`: look the entry up and load its state. -/
  | publishState (slot : Fin nativeCanvasRingSize) (poll : Option Nat)
  /-- The same: add the reference. -/
  | publishRef (slot : Fin nativeCanvasRingSize) (poll : Option Nat)
  /-- The same: the critical section. -/
  | posting (lease : PreviewLease) (poll : Option Nat)
  /-- The same: unref of the entry that was dropped. -/
  | replacing (unref : UnrefPoint) (poll : Option Nat)
  /-- `sbs_compositor_native_preview_acquire`: an entry of the loop. -/
  | acquiring (n : Nat)
  /-- The same: store the state of the entry that is chosen. -/
  | claiming (slot : Fin nativeCanvasRingSize)
  /-- The same: store its count. -/
  | claimingRefs (slot : Fin nativeCanvasRingSize)
  /-- `sbs_compositor_submit_native_preview_from_entry`: record and submit. -/
  | recording (slot : Fin nativeCanvasRingSize)
  deriving DecidableEq

/-- The references that the compositor thread is handling. -/
def CompositorPoint.holds : CompositorPoint → List PreviewLease
  | .dropping unref _ => [unref.lease]
  | .posting lease _ => [lease]
  | .replacing unref _ => [unref.lease]
  | _ => []

/-- A call of a consumer. -/
inductive PreviewCall
  /-- `sbs_compositor_native_canvas_mailbox_acquire`, after its critical section. -/
  | acquired (lease : PreviewLease)
  /-- `sbs_compositor_native_canvas_mailbox_release`, or an acquisition that failed. -/
  | unref (point : UnrefPoint)
  deriving DecidableEq

/-- The reference that a call is handling. -/
def PreviewCall.lease : PreviewCall → PreviewLease
  | .acquired lease => lease
  | .unref point => point.lease

/-- The preview ring, the compositor thread and the consumers. -/
structure PreviewRing where
  entries : Fin nativeCanvasRingSize → PreviewEntry
  initialized : Bool
  params : PreviewParams
  writeIdx : Nat
  lastRendered : Option (Fin nativeCanvasRingSize)
  /-- The mailbox `SBS_NATIVE_CANVAS_MAILBOX_PREVIEW`, oldest entry first. -/
  mailbox : List PreviewLease
  point : CompositorPoint
  /-- The leases of all consumers. -/
  leases : List PreviewLease
  /-- The calls of all consumers. -/
  calls : List PreviewCall
  /-- A history: the entries that were destroyed or created anew, with the references on them. -/
  ended : List (PreviewLease × Nat)
  /-- A history: the references given back, with the entry whose count was decreased. -/
  released : List (PreviewLease × Option PreviewLease)

/-- No ring. -/
def PreviewParams.zero : PreviewParams where
  width := 0
  height := 0
  frameInterval := 0
  colorMode := .sdr

/-- `sbs_compositor_configure_native_preview` and the local `interval`. -/
def PreviewParams.interval (params : PreviewParams) : UInt32 :=
  if 0 < params.frameInterval then params.frameInterval else 1

/-- An entry index as the ring has it now. -/
def PreviewRing.current
    (ring : PreviewRing)
    (slot : Fin nativeCanvasRingSize) : PreviewLease where
  slot := slot
  created := (ring.entries slot).created

namespace PreviewRing

/-- All counted references: in the mailbox, handled by the compositor thread, held by consumers
and handled by their calls. -/
def holds (ring : PreviewRing) : List PreviewLease :=
  ring.mailbox ++ ring.point.holds ++ ring.leases ++ ring.calls.map PreviewCall.lease

/-- Change an entry. -/
def modify
    (ring : PreviewRing)
    (slot : Fin nativeCanvasRingSize)
    (change : PreviewEntry → PreviewEntry) : PreviewRing :=
  { ring with entries := Function.update ring.entries slot (change (ring.entries slot)) }

/-- A reference was given back. -/
def record
    (ring : PreviewRing)
    (lease : PreviewLease)
    (decreased : Option PreviewLease) : PreviewRing :=
  { ring with released := ring.released ++ [(lease, decreased)] }

/-- One access of `sbs_compositor_native_canvas_unref`, with the point after it if the call goes
on.  The exchange may fail spuriously. -/
def unrefStep
    (ring : PreviewRing)
    (succeeds : Bool) : UnrefPoint → PreviewRing × Option UnrefPoint
  | .lookup lease =>
      if ring.initialized then (ring, some (.load lease))
      else (ring.record lease none, none)
  | .load lease =>
      let prev := (ring.entries lease.slot).refcount
      if 0 < prev then (ring, some (.exchange lease prev))
      else (ring.record lease none, none)
  | .exchange lease prev =>
      let refcount := (ring.entries lease.slot).refcount
      if succeeds && refcount == prev then
        let decreased := ring.modify lease.slot ({ · with refcount := prev - 1 })
        (decreased.record lease (some (ring.current lease.slot)), none)
      else if 0 < refcount then (ring, some (.exchange lease refcount))
      else (ring.record lease none, none)

/-- `memset` of an entry, as `destroy_native_canvas_entry` and `create_native_preview_ring` do
it. -/
def reset
    (ring : PreviewRing)
    (slot : Fin nativeCanvasRingSize) : PreviewRing :=
  let ended := ring.ended ++ [(ring.current slot, ring.holds.count (ring.current slot))]
  { ring with ended := ended }.modify slot fun entry => {
    state := .free
    refcount := 0
    created := entry.created + 1 }

/-- The compositor thread goes on at a point. -/
def goTo (ring : PreviewRing) (point : CompositorPoint) : PreviewRing :=
  { ring with point := point }

/-- The attempts of `wait_native_preview_refs_released`. -/
def waitAttempts : Nat := 500

/-- `create_native_preview_ring` is called, or the reconfiguration is over. -/
def createOrReturn
    (ring : PreviewRing) : Option PreviewParams → PreviewRing
  | some params =>
      if params.width % 2 = 1 ∨ params.height % 2 = 1 then ring.goTo .idle
      else ring.goTo (.creating 0 params)
  | none => ring.goTo .idle

/-- What follows a publication. -/
def pollOrReturn (ring : PreviewRing) : Option Nat → PreviewRing
  | some slot => ring.goTo (.polling slot)
  | none => ring.goTo .idle

/-- The next access of the compositor thread.  The flag says whether a driver call succeeds or a
fence is signalled or an exchange does not fail spuriously. -/
def goOn (ring : PreviewRing) (succeeds : Bool) : PreviewRing :=
  match ring.point with
  | .idle => ring
  | .draining after =>
      match ring.mailbox with
      | lease :: rest =>
          { ring with mailbox := rest }.goTo (.dropping (.lookup lease) after)
      | [] => ring.goTo (.waiting 0 0 after)
  | .dropping unref after =>
      match ring.unrefStep succeeds unref with
      | (ring, some unref) => ring.goTo (.dropping unref after)
      | (ring, none) => ring.goTo (.draining after)
  | .waiting attempt slot after =>
      if bound : slot < nativeCanvasRingSize then
        if 0 < (ring.entries ⟨slot, bound⟩).refcount then
          if attempt + 1 < waitAttempts then ring.goTo (.waiting (attempt + 1) 0 after)
          else ring.goTo (.gaveUp after)
        else ring.goTo (.waiting attempt (slot + 1) after)
      else ring.goTo (.destroying 0 after)
  | .gaveUp after => ring.goTo (.destroying 0 after)
  | .destroying slot after =>
      if bound : slot < nativeCanvasRingSize then
        (ring.reset ⟨slot, bound⟩).goTo (.destroying (slot + 1) after)
      else
        { ring with
          initialized := false
          params := .zero
          writeIdx := 0
          lastRendered := none }.createOrReturn after
  | .creating slot params =>
      if bound : slot < nativeCanvasRingSize then
        if succeeds then (ring.reset ⟨slot, bound⟩).goTo (.creating (slot + 1) params)
        else (ring.reset ⟨slot, bound⟩).goTo (.draining none)
      else
        { ring with
          initialized := true
          params := { params with frameInterval := params.interval }
          writeIdx := 0
          lastRendered := none }.goTo .idle
  | .polling slot =>
      if bound : slot < nativeCanvasRingSize then
        if (ring.entries ⟨slot, bound⟩).state = .rendering ∧ succeeds then
          ring.goTo (.marking ⟨slot, bound⟩)
        else ring.goTo (.polling (slot + 1))
      else ring.goTo .idle
  | .marking slot =>
      { ring.modify slot ({ · with state := .ready }) with
        lastRendered := some slot }.goTo (.publishState slot (some (slot + 1)))
  | .publishState slot poll =>
      if ring.initialized ∧ (ring.entries slot).state = .ready then
        ring.goTo (.publishRef slot poll)
      else ring.pollOrReturn poll
  | .publishRef slot poll =>
      (ring.modify slot fun entry => { entry with refcount := entry.refcount + 1 }).goTo
        (.posting (ring.current slot) poll)
  | .posting lease poll =>
      match ring.mailbox with
      | dropped :: rest =>
          -- the capacity of the mailbox is one
          { ring with mailbox := rest ++ [lease] }.goTo (.replacing (.lookup dropped) poll)
      | [] => { ring with mailbox := [lease] }.pollOrReturn poll
  | .replacing unref poll =>
      match ring.unrefStep succeeds unref with
      | (ring, some unref) => ring.goTo (.replacing unref poll)
      | (ring, none) => ring.pollOrReturn poll
  | .acquiring n =>
      if n < nativeCanvasRingSize then
        let slot := Fin.ofNat nativeCanvasRingSize (ring.writeIdx + n)
        let entry := ring.entries slot
        if entry.refcount = 0 ∧ entry.state ≠ .rendering ∧ succeeds then
          { ring with writeIdx := (slot.val + 1) % nativeCanvasRingSize }.goTo (.claiming slot)
        else ring.goTo (.acquiring (n + 1))
      else ring.goTo .idle
  | .claiming slot =>
      (ring.modify slot ({ · with state := .rendering })).goTo (.claimingRefs slot)
  | .claimingRefs slot =>
      (ring.modify slot ({ · with refcount := 0 })).goTo (.recording slot)
  | .recording slot =>
      if succeeds then ring.goTo .idle
      else (ring.modify slot ({ · with state := .free })).goTo .idle

/-- `sbs_compositor_configure_native_preview` -/
def configure (ring : PreviewRing) (params : PreviewParams) : PreviewRing :=
  if params.width = 0 ∨ params.height = 0 then
    if ring.initialized then ring.goTo (.draining none) else ring
  else if ring.initialized then
    if ring.params.width = params.width ∧ ring.params.height = params.height ∧
        ring.params.colorMode = params.colorMode then
      { ring with params := { ring.params with frameInterval := params.interval } }
    else ring.goTo (.draining (some params))
  else ring.createOrReturn (some params)

/-- A step of the compositor thread or of a consumer. -/
inductive PreviewRingEvent
  /-- `sbs_compositor_configure_native_preview` is called. -/
  | configure (params : PreviewParams)
  /-- `sbs_compositor_native_preview_poll_ready` is called. -/
  | pollReady
  /-- `sbs_compositor_submit_native_preview_from_entry` is called. -/
  | submit
  /-- `sbs_compositor_native_canvas_republish_last` publishes the last entry again. -/
  | republish
  /-- The compositor thread goes on. -/
  | goOn (succeeds : Bool)
  /-- The critical section of `sbs_compositor_native_canvas_mailbox_acquire`. -/
  | acquire
  /-- `sbs_compositor_native_canvas_mailbox_release` is called for a lease. -/
  | release (index : Nat)
  /-- A call goes on. -/
  | proceed (index : Nat) (succeeds : Bool)
  deriving DecidableEq

/-- A call of a consumer goes on. -/
def proceed
    (ring : PreviewRing)
    (index : Nat)
    (succeeds : Bool) : PreviewCall → PreviewRing
  | .acquired lease =>
      if ring.initialized then
        { ring with
          calls := ring.calls.eraseIdx index
          leases := ring.leases ++ [lease] }
      else { ring with calls := ring.calls.set index (.unref (.lookup lease)) }
  | .unref point =>
      match ring.unrefStep succeeds point with
      | (ring, some point) => { ring with calls := ring.calls.set index (.unref point) }
      | (ring, none) => { ring with calls := ring.calls.eraseIdx index }

/-- The state after a step, if it is possible. -/
def next (ring : PreviewRing) : PreviewRingEvent → Option PreviewRing
  | .configure params => if ring.point = .idle then some (ring.configure params) else none
  | .pollReady =>
      if ring.point = .idle ∧ ring.initialized then some (ring.goTo (.polling 0)) else none
  | .submit =>
      if ring.point = .idle ∧ ring.initialized then some (ring.goTo (.acquiring 0)) else none
  | .republish =>
      match ring.lastRendered with
      | some slot =>
          if ring.point = .idle ∧ ring.initialized ∧ (ring.entries slot).state = .ready then
            some (ring.goTo (.publishState slot none))
          else none
      | none => none
  | .goOn succeeds => if ring.point = .idle then none else some (ring.goOn succeeds)
  | .acquire =>
      match ring.mailbox with
      | lease :: rest => some { ring with
          mailbox := rest
          calls := ring.calls ++ [.acquired lease] }
      | [] => some ring
  | .release index =>
      (ring.leases[index]?).map fun lease => { ring with
        leases := ring.leases.eraseIdx index
        calls := ring.calls ++ [.unref (.lookup lease)] }
  | .proceed index succeeds => (ring.calls[index]?).map (ring.proceed index succeeds)

/-- A new compositor. -/
def start : PreviewRing where
  entries := fun _ => { state := .free, refcount := 0, created := 0 }
  initialized := false
  params := .zero
  writeIdx := 0
  lastRendered := none
  mailbox := []
  point := .idle
  leases := []
  calls := []
  ended := []
  released := []

/-- The compositor thread and the consumers, interleaved. -/
def system : System PreviewRing PreviewRingEvent :=
  .ofNext (· = start) next

/-- Entries are destroyed or created anew only without references, and every reference that is
given back decreases the count that it had increased. -/
structure RespectsLeases (ring : PreviewRing) : Prop where
  ended : ∀ entry ∈ ring.ended, entry.2 = 0
  released : ∀ reference ∈ ring.released, reference.2 = some reference.1

/-- When the attempts are used up no entry is referenced any more, and no count overflows. -/
def ReleasedAt (ring : PreviewRing) : CompositorPoint → Prop
  | .gaveUp _ => ∀ slot, (ring.entries slot).refcount = 0
  | .publishRef slot _ => (ring.entries slot).refcount.toNat + 1 < 2 ^ 32
  | _ => True

/-- The condition on a step. -/
def ReleasedInTime (ring : PreviewRing) : PreviewRingEvent → Prop
  | .goOn _ => ring.ReleasedAt ring.point
  | _ => True

instance (ring : PreviewRing) (point : CompositorPoint) :
    Decidable (ring.ReleasedAt point) := by
  cases point with
  | gaveUp next => exact inferInstanceAs (Decidable (∀ slot, (ring.entries slot).refcount = 0))
  | publishRef slot poll => exact inferInstanceAs (Decidable (_ < _))
  | _ => exact isTrue trivial

instance (ring : PreviewRing) (event : PreviewRingEvent) :
    Decidable (ring.ReleasedInTime event) := by
  cases event with
  | goOn succeeds => exact inferInstanceAs (Decidable (ring.ReleasedAt ring.point))
  | _ => exact isTrue trivial

end PreviewRing
end Engine
end SbsServer
