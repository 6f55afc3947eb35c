import SbsServer.CLib.Ring

/-!
# The native canvas

The state of `compositor.c` that the compositor thread shares with the consumers
of its pictures: the entries of the canvas ring and of the preview ring, with
their states, reference counts and fences, and the three mailboxes that pass
entries on.  Planes, buffers and timing queries are left out.
-/

namespace SbsServer
namespace Engine

open CLib

/-- `SBS_NATIVE_CANVAS_RING_SIZE`. -/
abbrev nativeCanvasRingSize : Nat := 16

/-- The two rings of entries.  `native_canvas_lookup_entry` tells them apart by
the range of the entry index. -/
inductive CanvasRing
  | canvas
  | preview
  deriving DecidableEq

/-- An entry index: a ring and a slot of it. -/
structure EntryIdx where
  ring : CanvasRing
  slot : Fin nativeCanvasRingSize
  deriving DecidableEq

/-- `SBS_NATIVE_CANVAS_ENTRY_FREE`, `_RENDERING` and `_READY`. -/
inductive EntryState
  | free
  | rendering
  | ready
  deriving DecidableEq

/-- `sbs_native_canvas_entry_t`.  Of the fence it is recorded whether it is
signalled and whether a submission that names it is under way. -/
structure CanvasEntry where
  state : EntryState
  refcount : UInt32
  frameNumber : UInt64
  fence : Bool
  submitted : Bool

/-- An entry of a new ring; its fence is created signalled. -/
def CanvasEntry.new : CanvasEntry where
  state := .free
  refcount := 0
  frameNumber := 0
  fence := true
  submitted := false

/-- `sbs_native_canvas_mailbox_type_t`. -/
inductive MailboxType
  | preview
  | output
  | snapshot
  deriving DecidableEq

/-- `sbs_native_canvas_mailbox_entry_t`. -/
structure MailboxEntry where
  entryIdx : EntryIdx
  frameNumber : UInt64
  deriving DecidableEq

/-- `sbs_native_canvas_mailbox_t`, without the copy of its oldest entry that only
statistics read. -/
structure Mailbox where
  entries : Fin nativeCanvasRingSize → MailboxEntry
  readIdx : Nat
  writeIdx : Nat
  count : Nat
  published : UInt64
  dropped : UInt64
  consumed : UInt64
  late : UInt64

namespace Mailbox

/-- A mailbox of a new ring. -/
def new : Mailbox where
  entries := fun _ => ⟨⟨.canvas, 0⟩, 0⟩
  readIdx := 0
  writeIdx := 0
  count := 0
  published := 0
  dropped := 0
  consumed := 0
  late := 0

/-- The local `capacity` of `sbs_compositor_native_canvas_mailbox_publish`. -/
def capacity : Nat := 1

/-- The oldest entry. -/
def oldest (mailbox : Mailbox) : MailboxEntry :=
  mailbox.entries (Fin.ofNat nativeCanvasRingSize mailbox.readIdx)

/-- The critical section of `sbs_compositor_native_canvas_mailbox_publish`, with
the entry that it drops. -/
def publish
    (mailbox : Mailbox)
    (entry : MailboxEntry) : Mailbox × Option MailboxEntry :=
  let (mailbox, dropped) :=
    if capacity ≤ mailbox.count then
      ({ mailbox with
          readIdx := (mailbox.readIdx + 1) % nativeCanvasRingSize
          count := mailbox.count - 1
          dropped := mailbox.dropped + 1 },
        some mailbox.oldest)
    else (mailbox, none)
  ({ mailbox with
      entries := Function.update mailbox.entries
        (Fin.ofNat nativeCanvasRingSize mailbox.writeIdx) entry
      writeIdx := (mailbox.writeIdx + 1) % nativeCanvasRingSize
      count := mailbox.count + 1
      published := mailbox.published + 1 },
    dropped)

/-- The critical section of `sbs_compositor_native_canvas_mailbox_acquire`. -/
def acquire (mailbox : Mailbox) : Mailbox × Option MailboxEntry :=
  if mailbox.count = 0 then
    ({ mailbox with late := mailbox.late + 1 }, none)
  else
    ({ mailbox with
        readIdx := (mailbox.readIdx + 1) % nativeCanvasRingSize
        count := mailbox.count - 1
        consumed := mailbox.consumed + 1 },
      some mailbox.oldest)

/-- The entries in the mailbox, oldest first. -/
def contents (mailbox : Mailbox) : List MailboxEntry :=
  Ring.window mailbox.entries mailbox.readIdx mailbox.count

/-- The write index stands behind the contents, the mailbox holds no more than
its capacity and its counters agree with what it holds. -/
structure Valid (mailbox : Mailbox) : Prop where
  behind :
    Fin.ofNat nativeCanvasRingSize mailbox.writeIdx =
      Ring.index nativeCanvasRingSize mailbox.readIdx mailbox.count
  bounded : mailbox.count ≤ capacity
  balanced :
    mailbox.published =
      mailbox.consumed + mailbox.dropped + UInt64.ofNat mailbox.count

theorem valid_new : new.Valid where
  behind := rfl
  bounded := Nat.zero_le _
  balanced := rfl

@[simp] theorem contents_new : new.contents = [] := rfl

variable {mailbox : Mailbox}

/-- A mailbox has room for one entry. -/
theorem count_eq_zero_or_one
    (valid : mailbox.Valid) :
    mailbox.count = 0 ∨ mailbox.count = 1 := by
  have := valid.bounded
  simp only [capacity] at this
  omega

/-- A mailbox contains its oldest entry or nothing. -/
theorem contents_eq
    (valid : mailbox.Valid) :
    mailbox.contents = mailbox.contents.head?.toList := by
  unfold contents
  rcases count_eq_zero_or_one valid with empty | one
  · rw [empty]
    rfl
  · rw [one]
    rfl

/-- What is published takes the place of the contents. -/
theorem publish_of_valid
    (valid : mailbox.Valid)
    (entry : MailboxEntry) :
    (mailbox.publish entry).1.Valid ∧
      (mailbox.publish entry).1.contents = [entry] ∧
      (mailbox.publish entry).2 = mailbox.contents.head? := by
  have counts := count_eq_zero_or_one valid
  obtain ⟨behind, -, balanced⟩ := valid
  obtain ⟨entries, readIdx, writeIdx, count, published, dropped, consumed, late⟩ := mailbox
  rcases counts with rfl | rfl
  · refine ⟨⟨Ring.ofNat_succ behind, le_refl _, ?_⟩, ?_, rfl⟩
    · simp [publish, capacity] at balanced ⊢
      grind
    · change Ring.window (Function.update entries (Fin.ofNat _ writeIdx) entry) readIdx 1 = _
      rw [behind]
      exact Ring.window_push (Nat.succ_pos _) entry
  · have tail : Fin.ofNat nativeCanvasRingSize writeIdx =
        Ring.index nativeCanvasRingSize ((readIdx + 1) % nativeCanvasRingSize) 0 := by
      rw [Ring.index_succ]
      exact behind
    refine ⟨⟨Ring.ofNat_succ tail, le_refl _, ?_⟩, ?_, rfl⟩
    · simp [publish, capacity] at balanced ⊢
      grind
    · change Ring.window (Function.update entries (Fin.ofNat _ writeIdx) entry)
        ((readIdx + 1) % nativeCanvasRingSize) 1 = _
      rw [tail]
      exact Ring.window_push (Nat.succ_pos _) entry

/-- The oldest entry is taken out. -/
theorem acquire_of_valid
    (valid : mailbox.Valid) :
    mailbox.acquire.1.Valid ∧
      mailbox.acquire.1.contents = mailbox.contents.tail ∧
      mailbox.acquire.2 = mailbox.contents.head? := by
  have counts := count_eq_zero_or_one valid
  obtain ⟨behind, -, balanced⟩ := valid
  obtain ⟨entries, readIdx, writeIdx, count, published, dropped, consumed, late⟩ := mailbox
  rcases counts with rfl | rfl
  · exact ⟨⟨behind, Nat.zero_le _, balanced⟩, rfl, rfl⟩
  · refine ⟨⟨?_, Nat.zero_le _, ?_⟩, rfl, rfl⟩
    · change Fin.ofNat nativeCanvasRingSize writeIdx =
        Ring.index nativeCanvasRingSize ((readIdx + 1) % nativeCanvasRingSize) 0
      rw [Ring.index_succ]
      exact behind
    · simp [acquire] at balanced ⊢
      grind

end Mailbox
end Engine
end SbsServer
