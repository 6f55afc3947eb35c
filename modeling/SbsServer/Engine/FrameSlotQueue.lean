import Mathlib.Data.List.Forall2
import SbsServer.Engine.FrameSlot

/-!
# The frame slot as a bounded queue

What the frame slot is for: a queue of at most four frames that drops its oldest
when a new one finds it full.  Every call of the slot is a call of the queue, and
over any sequence of calls each published frame leaves once: to a caller, to the
release function, or, in a slot without one, to nobody.
-/

namespace SbsServer
namespace Engine

open CLib

/-- A published frame with its timestamp. -/
abbrev Stamped (Frame : Type) : Type := Frame × UInt64

variable {Frame : Type}

/-- The slot of the ring that holds a frame. -/
def FrameEntry.holding (item : Stamped Frame) : FrameEntry Frame where
  frame := some item.1
  timestampUs := item.2

namespace FrameSlot

/-- The slots of the ring in use, oldest first. -/
def stored (slot : FrameSlot Frame) : List (FrameEntry Frame) :=
  Ring.window slot.entries slot.head slot.count

/-- The slot stands for a queue of frames, oldest first, and its counters
account for what the queue holds. -/
structure Represents
    (slot : FrameSlot Frame)
    (held : List (Stamped Frame)) : Prop where
  stored : slot.stored = held.map .holding
  bounded : held.length ≤ frameSlotRingSize
  balanced : slot.produced = slot.dropped + slot.consumed + UInt64.ofNat held.length

/-- The frames a slot reports when it lets go of some, in order. -/
def reports
    (slot : FrameSlot Frame)
    (items : List (Stamped Frame)) : List Frame :=
  if slot.releaseFn then items.map Prod.fst else []

theorem represents_init (releaseFn : Bool) :
    (init releaseFn : FrameSlot Frame).Represents [] where
  stored := by simp [stored, init]
  bounded := by simp
  balanced := by simp [init]

namespace Represents

variable {slot : FrameSlot Frame} {held : List (Stamped Frame)}

theorem count_eq (represents : slot.Represents held) :
    slot.count = held.length := by
  have lengths := congrArg List.length represents.stored
  simpa [FrameSlot.stored] using lengths

/-- The entry at a place of the queue. -/
theorem entry_eq
    (represents : slot.Represents held)
    {offset : Nat}
    (inside : offset < held.length) :
    slot.entries (slot.indexOf offset) = .holding held[offset] := by
  have entry := congrArg (fun entries => entries[offset]?) represents.stored
  simpa [FrameSlot.stored, Ring.window, indexOf, represents.count_eq, inside]
    using entry

/-- The queue without its oldest frame. -/
theorem stored_tail
    {first : Stamped Frame}
    {rest : List (Stamped Frame)}
    (represents : slot.Represents (first :: rest)) :
    Ring.window slot.entries ((slot.head + 1) % frameSlotRingSize) rest.length =
      rest.map .holding := by
  have whole := represents.stored
  rw [FrameSlot.stored, represents.count_eq, List.length_cons,
    Ring.window_succ_head] at whole
  exact (List.cons.inj whole).2

end Represents

variable {slot : FrameSlot Frame}

variable {held : List (Stamped Frame)}

/-- A frame that finds room is appended. -/
theorem exchange_of_room
    (represents : slot.Represents held)
    (room : held.length < frameSlotRingSize)
    (item : Stamped Frame) :
    ∃ after,
      slot.exchange (some item.1) item.2 = (after, none, []) ∧
      after.Represents (held ++ [item]) ∧
      after.releaseFn = slot.releaseFn := by
  have count := represents.count_eq
  have notFull : slot.count ≠ frameSlotRingSize := by omega
  let after : FrameSlot Frame := { slot with
    entries := Function.update slot.entries (slot.indexOf slot.count) (.holding item)
    count := slot.count + 1
    produced := slot.produced + 1 }
  refine ⟨after, by simp only [exchange, notFull, if_false]; rfl, ?_, rfl⟩
  constructor
  · have whole := represents.stored
    simp only [stored, after, indexOf, count] at whole ⊢
    rw [Ring.window_push room, whole, List.map_append, List.map_singleton]
  · simp
    omega
  · have balanced := represents.balanced
    simp only [List.length_append, List.length_singleton, UInt64.ofNat_add, after]
    grind

/-- A frame that finds the slot full takes the place of the oldest. -/
theorem exchange_of_full
    {first : Stamped Frame}
    {rest : List (Stamped Frame)}
    (represents : slot.Represents (first :: rest))
    (full : rest.length + 1 = frameSlotRingSize)
    (item : Stamped Frame) :
    ∃ after,
      slot.exchange (some item.1) item.2 =
        (after, if slot.releaseFn then none else some first.1, slot.reports [first]) ∧
      after.Represents (rest ++ [item]) ∧
      after.releaseFn = slot.releaseFn := by
  have count : slot.count = rest.length + 1 := represents.count_eq
  have oldest : slot.entries (slot.indexOf 0) = .holding first :=
    represents.entry_eq (Nat.succ_pos _)
  let emptied : FrameSlot Frame := { slot with
    entries := Function.update slot.entries (slot.indexOf 0) .empty
    head := (slot.head + 1) % frameSlotRingSize
    count := rest.length
    produced := slot.produced + 1
    dropped := slot.dropped + 1 }
  let after : FrameSlot Frame := { emptied with
    entries := Function.update emptied.entries
      (emptied.indexOf rest.length) (.holding item)
    count := rest.length + 1 }
  have fullCount : slot.count = frameSlotRingSize := count.trans full
  have less : frameSlotRingSize - 1 = rest.length := by omega
  refine ⟨after, ?_, ?_, rfl⟩
  · have oldestEntry : slot.entries (Ring.index frameSlotRingSize slot.head 0) =
        .holding first := oldest
    cases releases : slot.releaseFn <;>
      simp only [exchange, fullCount, if_true, releases, indexOf, less, oldestEntry,
        reports, after, emptied, FrameEntry.holding] <;> rfl
  · constructor
    · simp only [stored, after, emptied, indexOf]
      rw [Ring.window_push (by omega), Ring.window_update_head (by omega),
        represents.stored_tail, List.map_append, List.map_singleton]
    · simp
      omega
    · have balanced := represents.balanced
      simp only [List.length_append, List.length_cons, List.length_nil, Nat.zero_add,
        UInt64.ofNat_add, after, emptied] at balanced ⊢
      grind

/-- The loop of `sbs_frame_slot_flush`, stopped after some entries. -/
def clearFirst
    (slot : FrameSlot Frame)
    (count : Nat) : FrameSlot Frame × List Frame :=
  (List.range count).foldl
    (fun cleared offset =>
      let (after, released) := cleared.1.clearEntry (slot.indexOf offset)
      (after, cleared.2 ++ released))
    (slot, [])

theorem clearFirst_succ
    (slot : FrameSlot Frame)
    (count : Nat) :
    slot.clearFirst (count + 1) =
      (((slot.clearFirst count).1.clearEntry (slot.indexOf count)).1,
        (slot.clearFirst count).2 ++
          ((slot.clearFirst count).1.clearEntry (slot.indexOf count)).2) := by
  simp [clearFirst, List.range_succ]

/-- The loop clears entries from the oldest on and keeps those behind. -/
theorem clearFirst_eq
    (represents : slot.Represents held)
    {count : Nat}
    (inside : count ≤ held.length) :
    ∃ entries,
      slot.clearFirst count =
        ({ slot with entries := entries, dropped := slot.dropped + UInt64.ofNat count },
          slot.reports (held.take count)) ∧
      ∀ (offset : Nat) (_ : count ≤ offset) (stored : offset < held.length),
        entries (slot.indexOf offset) = .holding held[offset] := by
  induction count with
  | zero =>
      refine ⟨slot.entries, by simp [clearFirst, reports], ?_⟩
      intro offset _ stored
      exact represents.entry_eq stored
  | succ count ih =>
      obtain ⟨entries, cleared, kept⟩ := ih (by omega)
      have next : entries (slot.indexOf count) = .holding held[count] :=
        kept count (le_refl _) inside
      refine ⟨Function.update entries (slot.indexOf count) .empty, ?_, ?_⟩
      · rw [clearFirst_succ, cleared, ← List.take_append_getElem (by omega)]
        have counted : slot.dropped + UInt64.ofNat count + 1 =
            slot.dropped + UInt64.ofNat (count + 1) := by
          rw [UInt64.ofNat_add]
          grind
        simp only [clearEntry, next, counted, releaseFrame, reports,
          FrameEntry.holding, Option.toList_some, List.map_append,
          List.map_singleton]
        split <;> simp
      · intro offset behind stored
        have bounded := represents.bounded
        have apart : slot.indexOf offset ≠ slot.indexOf count := by
          intro same
          have := Ring.index_injective (by omega) (by omega) same
          omega
        rw [Function.update_of_ne apart]
        exact kept offset (by omega) stored

/-- The loop of `sbs_frame_slot_take` clears all but the newest entry. -/
theorem clearOlder_eq
    {count : Nat}
    (counted : slot.count = count + 1)
    (bounded : count < frameSlotRingSize) :
    slot.clearOlder = slot.clearFirst count := by
  simp only [clearOlder, clearFirst, counted, Nat.add_sub_cancel]
  rw [List.range_succ, List.foldl_append, List.foldl_cons, if_pos rfl, List.foldl_nil]
  apply List.foldl_ext
  intro cleared offset member
  have before : offset < count := List.mem_range.mp member
  rw [if_neg]
  intro same
  have := Ring.index_injective (by omega) bounded same
  omega

/-- `take` returns the newest frame and lets go of the others. -/
theorem take_of_represents
    {older : List (Stamped Frame)}
    {newest : Stamped Frame}
    (represents : slot.Represents (older ++ [newest])) :
    ∃ after,
      slot.take = (after, some newest.1, newest.2, slot.reports older) ∧
      after.Represents [] ∧
      after.releaseFn = slot.releaseFn := by
  have count : slot.count = older.length + 1 := by
    simpa using represents.count_eq
  have bounded : older.length < frameSlotRingSize := by
    have := represents.bounded
    simp only [List.length_append, List.length_singleton] at this
    omega
  have inside : older.length ≤ (older ++ [newest]).length := by simp
  obtain ⟨entries, cleared, kept⟩ := clearFirst_eq represents inside
  have last : entries (slot.indexOf older.length) = .holding newest := by
    simpa using kept older.length (le_refl _) (by simp)
  let after : FrameSlot Frame := { slot with
    entries := Function.update entries (slot.indexOf older.length) .empty
    head := 0
    count := 0
    dropped := slot.dropped + UInt64.ofNat older.length
    consumed := slot.consumed + 1 }
  refine ⟨after, ?_, ?_, rfl⟩
  · simp only [take, count, Nat.succ_ne_zero, if_false, clearOlder_eq count bounded,
      cleared, Nat.add_sub_cancel, last, List.take_left']
    rfl
  · constructor
    · simp [stored, after]
    · simp
    · have balanced := represents.balanced
      simp only [List.length_append, List.length_singleton, UInt64.ofNat_add,
        List.length_nil, after] at balanced ⊢
      grind

theorem takeOldest_of_represents
    {first : Stamped Frame}
    {rest : List (Stamped Frame)}
    (represents : slot.Represents (first :: rest)) :
    ∃ after,
      slot.takeOldest = (after, some first.1, first.2) ∧
      after.Represents rest ∧
      after.releaseFn = slot.releaseFn := by
  have count : slot.count = rest.length + 1 := represents.count_eq
  have bounded : rest.length + 1 ≤ frameSlotRingSize := represents.bounded
  have oldest : slot.entries (slot.indexOf 0) = .holding first :=
    represents.entry_eq (Nat.succ_pos _)
  let after : FrameSlot Frame := { slot with
    entries := Function.update slot.entries (slot.indexOf 0) .empty
    head := if rest.length = 0 then 0 else (slot.head + 1) % frameSlotRingSize
    count := rest.length
    consumed := slot.consumed + 1 }
  refine ⟨after, ?_, ?_, rfl⟩
  · simp only [takeOldest, count, Nat.succ_ne_zero, if_false, Nat.add_sub_cancel, oldest]
    rfl
  · constructor
    · by_cases last : rest.length = 0
      · simp [stored, after, List.eq_nil_of_length_eq_zero last]
      · simp only [stored, after, if_neg last, indexOf]
        rw [Ring.window_update_head (by omega), represents.stored_tail]
    · omega
    · have balanced := represents.balanced
      simp only [List.length_cons, UInt64.ofNat_add, after] at balanced ⊢
      grind

/-- `flush` lets go of every frame. -/
theorem flush_of_represents
    (represents : slot.Represents held) :
    ∃ after,
      slot.flush = (after, slot.reports held) ∧
      after.Represents [] ∧
      after.releaseFn = slot.releaseFn := by
  obtain ⟨entries, cleared, -⟩ := clearFirst_eq represents (le_refl _)
  let after : FrameSlot Frame := { slot with
    entries := entries
    head := 0
    count := 0
    dropped := slot.dropped + UInt64.ofNat held.length }
  refine ⟨after, ?_, ?_, rfl⟩
  · have flushed : slot.flush =
        ({ (slot.clearFirst slot.count).1 with head := 0, count := 0 },
          (slot.clearFirst slot.count).2) := rfl
    rw [flushed, represents.count_eq, cleared, List.take_length]
  · constructor
    · simp [stored, after]
    · simp
    · have balanced := represents.balanced
      simp only [List.length_nil, after] at balanced ⊢
      grind

/-! ## The frames of a slot -/

/-- The frames in a slot, oldest first. -/
def frames (slot : FrameSlot Frame) : List Frame :=
  slot.stored.filterMap FrameEntry.frame

theorem frames_of_represents
    {items : List (Stamped Frame)}
    (represents : slot.Represents items) :
    slot.frames = items.map Prod.fst := by
  rw [frames, represents.stored, List.filterMap_map]
  have some : FrameEntry.frame ∘ FrameEntry.holding = fun item : Stamped Frame =>
      some item.1 := rfl
  rw [some, List.filterMap_eq_map']

/-- A slot that stands for some queue and releases what it drops. -/
structure Releasing (slot : FrameSlot Frame) : Prop where
  queue : ∃ items, slot.Represents items
  releases : slot.releaseFn = true

theorem releasing_init : (init true : FrameSlot Frame).Releasing where
  queue := ⟨[], represents_init true⟩
  releases := rfl

@[simp] theorem frames_init (releaseFn : Bool) :
    (init releaseFn : FrameSlot Frame).frames = [] :=
  frames_of_represents (represents_init releaseFn)

namespace Releasing

variable {slot : FrameSlot Frame}

/-- A published frame is in the slot, and what leaves the slot is released. -/
theorem publish
    (releasing : slot.Releasing)
    (frame : Frame)
    (timestampUs : UInt64) :
    (slot.publish (some frame) timestampUs).1.Releasing ∧
      ((slot.publish (some frame) timestampUs).2 ++
        (slot.publish (some frame) timestampUs).1.frames).Perm (frame :: slot.frames) := by
  obtain ⟨items, represents⟩ := releasing.queue
  by_cases room : items.length < frameSlotRingSize
  · obtain ⟨after, exchanged, afterRepresents, releaseFn⟩ :=
      FrameSlot.exchange_of_room represents room (frame, timestampUs)
    have published : slot.publish (some frame) timestampUs = (after, []) := by
      simp [FrameSlot.publish, exchanged, FrameSlot.releaseFrame]
    rw [published]
    refine ⟨⟨⟨_, afterRepresents⟩, releaseFn.trans releasing.releases⟩, ?_⟩
    rw [frames_of_represents afterRepresents, frames_of_represents represents,
      List.map_append, List.map_singleton, List.nil_append]
    exact List.perm_append_singleton _ _
  · cases items with
    | nil => exact absurd (show 0 < frameSlotRingSize by decide) room
    | cons first rest =>
        have full : rest.length + 1 = frameSlotRingSize := by
          have bounded := represents.bounded
          rw [List.length_cons] at room bounded
          omega
        obtain ⟨after, exchanged, afterRepresents, releaseFn⟩ :=
          FrameSlot.exchange_of_full represents full (frame, timestampUs)
        have published : slot.publish (some frame) timestampUs = (after, [first.1]) := by
          simp [FrameSlot.publish, exchanged, FrameSlot.releaseFrame, FrameSlot.reports,
            releasing.releases]
        rw [published]
        refine ⟨⟨⟨_, afterRepresents⟩, releaseFn.trans releasing.releases⟩, ?_⟩
        rw [frames_of_represents afterRepresents, frames_of_represents represents,
          List.map_append, List.map_singleton, List.map_cons, List.singleton_append]
        exact ((List.perm_append_singleton _ _).cons _).trans (.swap _ _ _)

theorem takeOldest (releasing : slot.Releasing) :
    slot.takeOldest.1.Releasing ∧
      slot.takeOldest.2.1.toList ++ slot.takeOldest.1.frames = slot.frames := by
  obtain ⟨items, represents⟩ := releasing.queue
  cases items with
  | nil =>
      have empty : slot.count = 0 := represents.count_eq
      have nothing : slot.takeOldest = (slot, none, 0) := by
        rw [FrameSlot.takeOldest, if_pos empty]
      rw [nothing]
      exact ⟨releasing, rfl⟩
  | cons first rest =>
      obtain ⟨after, taken, afterRepresents, releaseFn⟩ :=
        FrameSlot.takeOldest_of_represents represents
      rw [taken]
      refine ⟨⟨⟨_, afterRepresents⟩, releaseFn.trans releasing.releases⟩, ?_⟩
      rw [frames_of_represents afterRepresents, frames_of_represents represents,
        List.map_cons]
      rfl

/-- A flush releases every frame. -/
theorem flush (releasing : slot.Releasing) :
    slot.flush.1.Releasing ∧ slot.flush.2 = slot.frames ∧ slot.flush.1.frames = [] := by
  obtain ⟨items, represents⟩ := releasing.queue
  obtain ⟨after, flushed, afterRepresents, releaseFn⟩ := FrameSlot.flush_of_represents represents
  rw [flushed]
  refine ⟨⟨⟨_, afterRepresents⟩, releaseFn.trans releasing.releases⟩, ?_, ?_⟩
  · rw [FrameSlot.reports, if_pos releasing.releases, frames_of_represents represents]
  · exact frames_of_represents afterRepresents

end Releasing

end FrameSlot

/-- A call of the slot. -/
inductive FrameSlotCall (Frame : Type)
  | publish (frame : Option Frame) (timestampUs : UInt64)
  | exchange (frame : Option Frame) (timestampUs : UInt64)
  | acquire
  | take
  | takeOldest
  | flush

/-- What a call puts into the slot. -/
def FrameSlotCall.published : FrameSlotCall Frame → List (Stamped Frame)
  | .publish (some frame) timestampUs => [(frame, timestampUs)]
  | .exchange (some frame) timestampUs => [(frame, timestampUs)]
  | _ => []

/-- The calls that pass frames to the release function only. -/
def FrameSlotCall.discards : FrameSlotCall Frame → Bool
  | .publish _ _ | .take | .flush => true
  | _ => false

/-- What somebody gets out of the slot: a taken frame with its timestamp, the
frame that an exchange returns, or the frame that the release function gets. -/
inductive Receipt (Frame : Type)
  | taken (item : Stamped Frame)
  | exchanged (frame : Frame)
  | released (frame : Frame)
  deriving DecidableEq

namespace FrameSlot

/-- Serve a call, with what is got out of the slot. -/
def serve
    (slot : FrameSlot Frame) :
    FrameSlotCall Frame → FrameSlot Frame × List (Receipt Frame)
  | .publish frame timestampUs =>
      let (slot, released) := slot.publish frame timestampUs
      (slot, released.map .released)
  | .exchange frame timestampUs =>
      let (slot, dropped, released) := slot.exchange frame timestampUs
      (slot, released.map .released ++ dropped.toList.map .exchanged)
  | .acquire => (slot, [])
  | .take =>
      let (slot, frame, timestampUs, released) := slot.take
      (slot, released.map .released ++
        frame.toList.map fun frame => .taken (frame, timestampUs))
  | .takeOldest =>
      let (slot, frame, timestampUs) := slot.takeOldest
      (slot, frame.toList.map fun frame => .taken (frame, timestampUs))
  | .flush =>
      let (slot, released) := slot.flush
      (slot, released.map .released)

/-- A new slot after some calls, with all that was got out of it. -/
def afterCalls
    (releaseFn : Bool)
    (calls : List (FrameSlotCall Frame)) : FrameSlot Frame × List (Receipt Frame) :=
  calls.foldl
    (fun reached call =>
      let (slot, receipts) := reached.1.serve call
      (slot, reached.2 ++ receipts))
    (init releaseFn, [])

end FrameSlot

/-! ## The queue -/

/-- How a frame leaves the queue. -/
inductive FrameExit
  | taken
  | exchanged
  | released
  | letGo
  deriving DecidableEq

/-- A frame that left the queue. -/
structure Departure (Frame : Type) where
  item : Stamped Frame
  exit : FrameExit
  deriving DecidableEq

/-- What somebody gets when a frame leaves. -/
def Departure.receipt (departure : Departure Frame) : Option (Receipt Frame) :=
  match departure.exit with
  | .taken => some (.taken departure.item)
  | .exchanged => some (.exchanged departure.item.1)
  | .released => some (.released departure.item.1)
  | .letGo => none

@[simp] theorem Departure.item_comp_mk (exit : FrameExit) :
    (Departure.item ∘ fun item : Stamped Frame => ⟨item, exit⟩) = id := by
  funext item
  rfl

/-- A queue of frames, oldest first, with those that left it. -/
structure FrameQueue (Frame : Type) where
  held : List (Stamped Frame)
  departed : List (Departure Frame)

namespace FrameQueue

/-- The queue with nothing in it. -/
def empty : FrameQueue Frame where
  held := []
  departed := []

/-- How a frame leaves that no caller gets. -/
def discarded (releaseFn : Bool) : FrameExit :=
  if releaseFn then .released else .letGo

/-- How a frame leaves that an exchange drops. -/
def displaced (releaseFn : Bool) : FrameExit :=
  if releaseFn then .released else .exchanged

/-- Append a frame; a full queue drops its oldest. -/
def push
    (queue : FrameQueue Frame)
    (exit : FrameExit)
    (item : Stamped Frame) : FrameQueue Frame :=
  if queue.held.length < frameSlotRingSize then
    { queue with held := queue.held ++ [item] }
  else
    { held := queue.held.tail ++ [item]
      departed := queue.departed ++ (queue.held.take 1).map (⟨·, exit⟩) }

/-- Serve a call of a slot with or without release function. -/
def serve
    (releaseFn : Bool)
    (queue : FrameQueue Frame) : FrameSlotCall Frame → FrameQueue Frame
  | .publish (some frame) timestampUs =>
      queue.push (discarded releaseFn) (frame, timestampUs)
  | .exchange (some frame) timestampUs =>
      queue.push (displaced releaseFn) (frame, timestampUs)
  | .publish none _ | .exchange none _ | .acquire => queue
  | .take =>
      { held := []
        departed := queue.departed ++
          (queue.held.dropLast.map (⟨·, discarded releaseFn⟩) ++
            queue.held.getLast?.toList.map (⟨·, .taken⟩)) }
  | .takeOldest =>
      { held := queue.held.tail
        departed := queue.departed ++ (queue.held.take 1).map (⟨·, .taken⟩) }
  | .flush =>
      { held := []
        departed := queue.departed ++ queue.held.map (⟨·, discarded releaseFn⟩) }

/-- An empty queue after some calls. -/
def afterCalls
    (releaseFn : Bool)
    (calls : List (FrameSlotCall Frame)) : FrameQueue Frame :=
  calls.foldl (serve releaseFn) empty

/-- Every frame of the queue, the departed first. -/
def frames (queue : FrameQueue Frame) : List (Stamped Frame) :=
  queue.departed.map Departure.item ++ queue.held

theorem frames_push
    (queue : FrameQueue Frame)
    (exit : FrameExit)
    (item : Stamped Frame) :
    (queue.push exit item).frames = queue.frames ++ [item] := by
  unfold push
  split
  · simp [frames]
  · cases queue with
    | mk held departed => cases held <;> simp [frames]

/-- A call adds to the frames of the queue what it publishes. -/
theorem frames_serve
    (releaseFn : Bool)
    (queue : FrameQueue Frame)
    (call : FrameSlotCall Frame) :
    (queue.serve releaseFn call).frames = queue.frames ++ call.published := by
  cases call with
  | publish frame timestampUs =>
      cases frame <;> simp [serve, FrameSlotCall.published, frames_push]
  | exchange frame timestampUs =>
      cases frame <;> simp [serve, FrameSlotCall.published, frames_push]
  | acquire => simp [serve, FrameSlotCall.published]
  | take =>
      cases queue.held.eq_nil_or_concat with
      | inl nothing => simp [serve, FrameSlotCall.published, frames, nothing]
      | inr some =>
          obtain ⟨older, newest, both⟩ := some
          simp [serve, FrameSlotCall.published, frames, both]
  | takeOldest =>
      cases queue with
      | mk held departed =>
          cases held <;> simp [serve, FrameSlotCall.published, frames]
  | flush => simp [serve, FrameSlotCall.published, frames]

/-- Over any calls, what is published departed or is held, in order. -/
theorem frames_afterCalls
    (releaseFn : Bool)
    (calls : List (FrameSlotCall Frame)) :
    (afterCalls releaseFn calls).frames = calls.flatMap FrameSlotCall.published := by
  induction calls using List.reverseRecOn with
  | nil => simp [afterCalls, empty, frames]
  | append_singleton calls call ih =>
      rw [afterCalls, List.foldl_append, List.flatMap_append]
      simp only [List.foldl_cons, List.foldl_nil, List.flatMap_singleton, frames_serve]
      rw [← ih, afterCalls]

variable {queue : FrameQueue Frame} {departure : Departure Frame} {releaseFn : Bool}
variable {call : FrameSlotCall Frame}

/-- What a list of frames that leave one way adds to the departed. -/
theorem mem_append_departed
    {items : List (Stamped Frame)}
    {exit : FrameExit}
    (departed : departure ∈ queue.departed ++ items.map (⟨·, exit⟩)) :
    departure ∈ queue.departed ∨ departure.exit = exit := by
  rcases List.mem_append.mp departed with before | now
  · exact .inl before
  · obtain ⟨item, -, same⟩ := List.mem_map.mp now
    exact .inr (by rw [← same])

/-- The ways on which a call lets frames leave. -/
def exits
    (releaseFn : Bool) : FrameSlotCall Frame → List FrameExit
  | .publish _ _ | .flush => [discarded releaseFn]
  | .exchange _ _ => [displaced releaseFn]
  | .acquire => []
  | .take => [discarded releaseFn, .taken]
  | .takeOldest => [.taken]

theorem released_mem_exits
    (releases : .released ∈ exits releaseFn call) :
    releaseFn = true := by
  cases releaseFn
  · cases call <;> simp [exits, discarded, displaced] at releases
  · rfl

theorem letGo_mem_exits
    (letsGo : .letGo ∈ exits releaseFn call) :
    releaseFn = false ∧ call.discards = true := by
  cases releaseFn <;> cases call <;>
    simp [exits, discarded, displaced, FrameSlotCall.discards] at letsGo ⊢

theorem exit_of_mem_push
    {exit : FrameExit}
    {item : Stamped Frame}
    (departed : departure ∈ (queue.push exit item).departed) :
    departure ∈ queue.departed ∨ departure.exit = exit := by
  unfold push at departed
  split at departed
  · exact .inl departed
  · exact mem_append_departed departed

theorem exit_of_mem_departed
    (departed : departure ∈ (queue.serve releaseFn call).departed) :
    departure ∈ queue.departed ∨ departure.exit ∈ exits releaseFn call := by
  cases call with
  | publish frame timestampUs =>
      cases frame with
      | none => exact .inl departed
      | some frame => simpa [exits] using exit_of_mem_push departed
  | exchange frame timestampUs =>
      cases frame with
      | none => exact .inl departed
      | some frame => simpa [exits] using exit_of_mem_push departed
  | acquire => exact .inl departed
  | take =>
      simp only [serve, ← List.append_assoc] at departed
      rcases List.mem_append.mp departed with before | now
      · have := mem_append_departed before
        simp only [exits, List.mem_cons]
        tauto
      · obtain ⟨item, -, same⟩ := List.mem_map.mp now
        exact .inr (by simp [exits, ← same])
  | takeOldest => simpa [exits] using mem_append_departed departed
  | flush => simpa [exits] using mem_append_departed departed

/-- Only a release function is passed frames, and frames are let go only in a
call that would pass them to it. -/
theorem exit_of_mem_afterCalls
    {calls : List (FrameSlotCall Frame)}
    (departed : departure ∈ (afterCalls releaseFn calls).departed) :
    (departure.exit = .released → releaseFn = true) ∧
      (departure.exit = .letGo →
        releaseFn = false ∧ ∃ call ∈ calls, call.discards = true) := by
  induction calls using List.reverseRecOn with
  | nil => simp [afterCalls, empty] at departed
  | append_singleton calls call ih =>
      rw [afterCalls, List.foldl_append] at departed
      rcases exit_of_mem_departed departed with before | now
      · obtain ⟨released, letGo⟩ := ih before
        refine ⟨released, fun exit => ?_⟩
        obtain ⟨absent, earlier, member, discards⟩ := letGo exit
        exact ⟨absent, earlier, List.mem_append_left _ member, discards⟩
      · refine ⟨fun exit => released_mem_exits (exit ▸ now), fun exit => ?_⟩
        obtain ⟨absent, discards⟩ := letGo_mem_exits (exit ▸ now)
        exact ⟨absent, call, List.mem_append_right _ (List.mem_singleton_self _), discards⟩

end FrameQueue

namespace FrameSlot

/-- The release function gets the discarded frames. -/
theorem filterMap_receipt_discarded
    (slot : FrameSlot Frame)
    (items : List (Stamped Frame)) :
    (items.map (⟨·, FrameQueue.discarded slot.releaseFn⟩)).filterMap
        Departure.receipt =
      (slot.reports items).map .released := by
  cases releases : slot.releaseFn <;>
    simp [FrameQueue.discarded, reports, releases, Departure.receipt,
      List.filterMap_map, Function.comp_def]

/-- Callers get the taken frames. -/
theorem filterMap_receipt_taken (items : List (Stamped Frame)) :
    (items.map (⟨·, FrameExit.taken⟩)).filterMap Departure.receipt =
      items.map .taken := by
  simp [Departure.receipt, List.filterMap_map, Function.comp_def]

variable {slot : FrameSlot Frame}

/-- A published frame is pushed onto the queue; if another has to leave, an
exchange passes it on. -/
theorem exchange_represents
    {queue : FrameQueue Frame}
    (represents : slot.Represents queue.held)
    (exit : FrameExit)
    (item : Stamped Frame) :
    ∃ after dropped released,
      slot.exchange (some item.1) item.2 = (after, dropped, released) ∧
      after.Represents (queue.push exit item).held ∧
      after.releaseFn = slot.releaseFn ∧
      ∃ items : List (Stamped Frame),
        (queue.push exit item).departed = queue.departed ++ items.map (⟨·, exit⟩) ∧
        released = slot.reports items ∧
        dropped.toList = if slot.releaseFn then [] else items.map Prod.fst := by
  by_cases room : queue.held.length < frameSlotRingSize
  · obtain ⟨after, exchanged, appended, same⟩ := exchange_of_room represents room item
    refine ⟨after, none, [], exchanged, ?_, same, [], ?_⟩
    · simpa [FrameQueue.push, room] using appended
    · simp [FrameQueue.push, room, reports]
  · cases queue with
    | mk held departed =>
        cases held with
        | nil => simp at room
        | cons first rest =>
            have full : rest.length + 1 = frameSlotRingSize :=
              le_antisymm represents.bounded (not_lt.mp room)
            obtain ⟨after, exchanged, replaced, same⟩ :=
              exchange_of_full represents full item
            refine ⟨after, _, _, exchanged, ?_, same, [first], ?_, rfl, ?_⟩
            · simpa only [FrameQueue.push, if_neg room, List.tail_cons] using replaced
            · simp only [FrameQueue.push, if_neg room]
              rfl
            · split <;> rfl

/-- A slot serves a call as the queue it stands for does. -/
theorem serve_represents
    {queue : FrameQueue Frame}
    (represents : slot.Represents queue.held)
    (call : FrameSlotCall Frame) :
    (slot.serve call).1.Represents (queue.serve slot.releaseFn call).held ∧
      (slot.serve call).1.releaseFn = slot.releaseFn ∧
      (queue.serve slot.releaseFn call).departed.filterMap Departure.receipt =
        queue.departed.filterMap Departure.receipt ++ (slot.serve call).2 := by
  cases call with
  | publish frame timestampUs =>
      cases frame with
      | none =>
          refine ⟨represents, rfl, ?_⟩
          cases releases : slot.releaseFn <;>
            simp [serve, publish, exchange, FrameQueue.serve, releaseFrame, releases]
      | some frame =>
          obtain ⟨after, dropped, released, exchanged, pushed, same, items, left,
              reported, passed⟩ :=
            exchange_represents represents (FrameQueue.discarded slot.releaseFn)
              (frame, timestampUs)
          have passedOn : after.releaseFrame dropped = [] := by
            unfold releaseFrame
            rw [same, passed]
            cases slot.releaseFn <;> rfl
          refine ⟨by simpa [serve, publish, exchanged, FrameQueue.serve] using pushed,
            by simpa [serve, publish, exchanged] using same, ?_⟩
          simp only [FrameQueue.serve, left, List.filterMap_append,
            filterMap_receipt_discarded, serve, publish, exchanged, reported,
            passedOn, List.append_nil]
  | exchange frame timestampUs =>
      cases frame with
      | none =>
          refine ⟨represents, rfl, ?_⟩
          simp [serve, exchange, FrameQueue.serve]
      | some frame =>
          obtain ⟨after, dropped, released, exchanged, pushed, same, items, left,
              reported, passed⟩ :=
            exchange_represents represents (FrameQueue.displaced slot.releaseFn)
              (frame, timestampUs)
          refine ⟨by simpa [serve, exchanged, FrameQueue.serve] using pushed,
            by simpa [serve, exchanged] using same, ?_⟩
          simp only [FrameQueue.serve, left, List.filterMap_append, serve, exchanged,
            reported, passed, reports]
          cases slot.releaseFn <;>
            simp [FrameQueue.displaced, Departure.receipt, List.filterMap_map,
              Function.comp_def]
  | acquire =>
      refine ⟨represents, rfl, ?_⟩
      simp [serve, FrameQueue.serve]
  | take =>
      rcases queue.held.eq_nil_or_concat with nothing | ⟨older, newest, both⟩
      · have none := represents.count_eq
        rw [nothing, List.length_nil] at none
        rw [nothing] at represents
        simpa [serve, take, none, FrameQueue.serve, nothing] using represents
      · rw [List.concat_eq_append] at both
        rw [both] at represents
        obtain ⟨after, taken, emptied, same⟩ := take_of_represents represents
        refine ⟨by simpa [serve, taken, FrameQueue.serve] using emptied,
          by simpa [serve, taken] using same, ?_⟩
        simp only [FrameQueue.serve, both, List.dropLast_concat, List.getLast?_concat,
          Option.toList_some, List.filterMap_append, filterMap_receipt_discarded,
          serve, taken, List.map_singleton]
        rfl
  | takeOldest =>
      cases queue with
      | mk held departed =>
          cases held with
          | nil =>
              have none : slot.count = 0 := represents.count_eq
              simpa [serve, takeOldest, none, FrameQueue.serve] using represents
          | cons first rest =>
              obtain ⟨after, taken, left, same⟩ := takeOldest_of_represents represents
              refine ⟨by simpa [serve, taken, FrameQueue.serve] using left,
                by simpa [serve, taken] using same, ?_⟩
              simp only [FrameQueue.serve, List.filterMap_append,
                filterMap_receipt_taken, serve, taken]
              rfl
  | flush =>
      obtain ⟨after, flushed, emptied, same⟩ := flush_of_represents represents
      refine ⟨by simpa [serve, flushed, FrameQueue.serve] using emptied,
        by simpa [serve, flushed] using same, ?_⟩
      simp only [FrameQueue.serve, List.filterMap_append, filterMap_receipt_discarded,
        serve, flushed]

/-- Over any calls, a slot stands for the queue that serves them. -/
theorem afterCalls_represents
    (releaseFn : Bool)
    (calls : List (FrameSlotCall Frame)) :
    (afterCalls releaseFn calls).1.Represents
        (FrameQueue.afterCalls releaseFn calls).held ∧
      (afterCalls releaseFn calls).1.releaseFn = releaseFn ∧
      (FrameQueue.afterCalls releaseFn calls).departed.filterMap Departure.receipt =
        (afterCalls releaseFn calls).2 := by
  induction calls using List.reverseRecOn with
  | nil => exact ⟨represents_init releaseFn, rfl, rfl⟩
  | append_singleton calls call ih =>
      obtain ⟨represents, same, receipts⟩ := ih
      obtain ⟨served, kept, received⟩ := serve_represents represents call
      rw [same] at served kept received
      rw [receipts] at received
      simp only [afterCalls, FrameQueue.afterCalls, List.foldl_append, List.foldl_cons,
        List.foldl_nil]
      exact ⟨served, kept, received⟩

/-- `acquire` shows the newest frame. -/
theorem acquire_of_represents
    {held : List (Stamped Frame)}
    (represents : slot.Represents held) :
    slot.acquire =
      (held.getLast?.map Prod.fst, (held.getLast?.map Prod.snd).getD 0) := by
  have count := represents.count_eq
  rcases held.eq_nil_or_concat with rfl | ⟨older, newest, rfl⟩
  · rw [List.length_nil] at count
    simp [acquire, count]
  · rw [List.concat_eq_append] at represents ⊢
    rw [List.concat_eq_append, List.length_append, List.length_singleton] at count
    have inside : older.length < (older ++ [newest]).length := by simp
    have last : slot.entries (slot.indexOf older.length) = .holding newest := by
      simpa using represents.entry_eq inside
    simp [acquire, count, last, FrameEntry.holding]

/-- After any calls the slot stores what the drop-oldest queue holds: the
published frames that did not depart, in order.  Callers and the release
function got every departed frame once; only without release function are frames
let go that a call discards. -/
theorem afterCalls_refines_frameQueue
    (releaseFn : Bool)
    (calls : List (FrameSlotCall Frame)) :
    let slot := (afterCalls releaseFn calls).1
    let receipts := (afterCalls releaseFn calls).2
    let queue := FrameQueue.afterCalls releaseFn calls
    let stats := slot.getStats
    calls.flatMap FrameSlotCall.published =
        queue.departed.map Departure.item ++ queue.held ∧
      slot.stored = queue.held.map .holding ∧
      queue.held.length ≤ frameSlotRingSize ∧
      slot.acquire =
        (queue.held.getLast?.map Prod.fst, (queue.held.getLast?.map Prod.snd).getD 0) ∧
      receipts = queue.departed.filterMap Departure.receipt ∧
      (∀ departure ∈ queue.departed,
        (departure.exit = .released → releaseFn = true) ∧
          (departure.exit = .letGo →
            releaseFn = false ∧ ∃ call ∈ calls, call.discards = true)) ∧
      stats.held = queue.held.length ∧
      stats.produced = stats.dropped + stats.consumed + UInt64.ofNat stats.held := by
  obtain ⟨represents, -, receipts⟩ := afterCalls_represents releaseFn calls
  refine ⟨?_, represents.stored, represents.bounded, acquire_of_represents represents,
    receipts.symm, fun _ departed => FrameQueue.exit_of_mem_afterCalls departed,
    represents.count_eq, ?_⟩
  · exact (FrameQueue.frames_afterCalls releaseFn calls).symm
  · simp only [getStats, represents.count_eq]
    exact represents.balanced

/-- Without release function, `take` leaves the older frame to nobody. -/
theorem take_letsGo_of_not_releaseFn :
    let calls : List (FrameSlotCall Nat) :=
      [.publish (some 1) 10, .publish (some 2) 20, .take]
    calls.flatMap FrameSlotCall.published = [(1, 10), (2, 20)] ∧
      (afterCalls false calls).1.stored = [] ∧
      (afterCalls false calls).2 = [.taken (2, 20)] := by
  decide +kernel

end FrameSlot
end Engine
end SbsServer
