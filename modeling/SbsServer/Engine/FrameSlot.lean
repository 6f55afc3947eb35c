import SbsServer.CLib.Ring
import SbsServer.CLib.System

/-!
# The frame slot

`frame_slot.c`: a ring of four frames between a source worker's socket and the
compositor.  Frames are pointers that are not NULL; what they point to is left
to the caller.  Each call holds the lock of the slot for as long as it touches
the ring, so that calls are the steps of a run.

A call reports the frames that it passes to the release function, in order.  A
slot without release function passes none.
-/

namespace SbsServer
namespace Engine

open CLib

/-- `SBS_FRAME_SLOT_RING_SIZE`. -/
abbrev frameSlotRingSize : Nat := 4

/-- A slot of the ring. -/
structure FrameEntry (Frame : Type) where
  frame : Option Frame
  timestampUs : UInt64
  deriving DecidableEq

/-- A slot of the ring with nothing in it. -/
def FrameEntry.empty {Frame : Type} : FrameEntry Frame where
  frame := none
  timestampUs := 0

/-- `sbs_frame_slot_t`.  Of the release function it is recorded whether there
is one. -/
structure FrameSlot (Frame : Type) where
  entries : Fin frameSlotRingSize → FrameEntry Frame
  head : Nat
  count : Nat
  releaseFn : Bool
  produced : UInt64
  dropped : UInt64
  consumed : UInt64

/-- `sbs_frame_slot_stats_t`. -/
structure FrameSlotStats where
  produced : UInt64
  dropped : UInt64
  consumed : UInt64
  held : Nat
  deriving DecidableEq

namespace FrameSlot

variable {Frame : Type}

/-- `sbs_frame_slot_init` and, if a release function is given,
`sbs_frame_slot_set_release_func`. -/
def init (releaseFn : Bool) : FrameSlot Frame where
  entries := fun _ => .empty
  head := 0
  count := 0
  releaseFn := releaseFn
  produced := 0
  dropped := 0
  consumed := 0

/-- `release_frame`: the frames that the release function gets. -/
def releaseFrame
    (slot : FrameSlot Frame)
    (frame : Option Frame) : List Frame :=
  if slot.releaseFn then frame.toList else []

/-- The index of a place behind the head. -/
def indexOf
    (slot : FrameSlot Frame)
    (offset : Nat) : Fin frameSlotRingSize :=
  Ring.index frameSlotRingSize slot.head offset

/-- `clear_entry`, with the drop counted. -/
def clearEntry
    (slot : FrameSlot Frame)
    (idx : Fin frameSlotRingSize) : FrameSlot Frame × List Frame :=
  ({ slot with
      entries := Function.update slot.entries idx .empty
      dropped := slot.dropped + 1 },
    slot.releaseFrame (slot.entries idx).frame)

/-- `sbs_frame_slot_exchange`: the frame it returns and the frames it releases. -/
def exchange
    (slot : FrameSlot Frame)
    (frame : Option Frame)
    (timestampUs : UInt64) : FrameSlot Frame × Option Frame × List Frame :=
  match frame with
  | none => (slot, none, [])
  | some frame =>
      let slot := { slot with produced := slot.produced + 1 }
      let (slot, dropped, released) :=
        if slot.count = frameSlotRingSize then
          let oldest := slot.indexOf 0
          let dropped := (slot.entries oldest).frame
          let slot := { slot with
            entries := Function.update slot.entries oldest .empty
            head := (slot.head + 1) % frameSlotRingSize
            count := slot.count - 1
            dropped := slot.dropped + 1 }
          if slot.releaseFn then (slot, none, dropped.toList)
          else (slot, dropped, [])
        else (slot, none, [])
      let tail := slot.indexOf slot.count
      ({ slot with
          entries := Function.update slot.entries tail ⟨some frame, timestampUs⟩
          count := slot.count + 1 },
        dropped, released)

/-- `sbs_frame_slot_publish`. -/
def publish
    (slot : FrameSlot Frame)
    (frame : Option Frame)
    (timestampUs : UInt64) : FrameSlot Frame × List Frame :=
  let (slot, dropped, released) := slot.exchange frame timestampUs
  (slot, released ++ slot.releaseFrame dropped)

/-- `sbs_frame_slot_acquire`: the frame and its timestamp. -/
def acquire (slot : FrameSlot Frame) : Option Frame × UInt64 :=
  if 0 < slot.count then
    let newest := slot.entries (slot.indexOf (slot.count - 1))
    (newest.frame, newest.timestampUs)
  else (none, 0)

/-- The loop of `sbs_frame_slot_take` over the frames before the newest. -/
def clearOlder (slot : FrameSlot Frame) : FrameSlot Frame × List Frame :=
  let newest := slot.indexOf (slot.count - 1)
  (List.range slot.count).foldl
    (fun cleared offset =>
      let idx := slot.indexOf offset
      if idx = newest then cleared
      else
        let (after, released) := cleared.1.clearEntry idx
        (after, cleared.2 ++ released))
    (slot, [])

/-- `sbs_frame_slot_take`: the frame, its timestamp and the released frames. -/
def take (slot : FrameSlot Frame) :
    FrameSlot Frame × Option Frame × UInt64 × List Frame :=
  if slot.count = 0 then (slot, none, 0, [])
  else
    let newest := slot.indexOf (slot.count - 1)
    let (slot, released) := slot.clearOlder
    let entry := slot.entries newest
    ({ slot with
        entries := Function.update slot.entries newest .empty
        head := 0
        count := 0
        consumed := slot.consumed + 1 },
      entry.frame, entry.timestampUs, released)

/-- `sbs_frame_slot_take_oldest`: the frame and its timestamp. -/
def takeOldest (slot : FrameSlot Frame) : FrameSlot Frame × Option Frame × UInt64 :=
  if slot.count = 0 then (slot, none, 0)
  else
    let idx := slot.indexOf 0
    let entry := slot.entries idx
    let count := slot.count - 1
    ({ slot with
        entries := Function.update slot.entries idx .empty
        head := if count = 0 then 0 else (slot.head + 1) % frameSlotRingSize
        count := count
        consumed := slot.consumed + 1 },
      entry.frame, entry.timestampUs)

/-- `sbs_frame_slot_flush`: the released frames. -/
def flush (slot : FrameSlot Frame) : FrameSlot Frame × List Frame :=
  let (slot, released) := (List.range slot.count).foldl
    (fun cleared offset =>
      let (after, released) := cleared.1.clearEntry (slot.indexOf offset)
      (after, cleared.2 ++ released))
    (slot, [])
  ({ slot with head := 0, count := 0 }, released)

/-- `sbs_frame_slot_get_stats`. -/
def getStats (slot : FrameSlot Frame) : FrameSlotStats where
  produced := slot.produced
  dropped := slot.dropped
  consumed := slot.consumed
  held := slot.count

end FrameSlot
end Engine
end SbsServer
