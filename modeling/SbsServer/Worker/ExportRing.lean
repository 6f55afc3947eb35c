import Mathlib.Data.Fin.Basic
import Mathlib.Data.UInt
import SbsServer.CLib.System

/-!
# Buffers of a worker without acknowledgements

A worker that captures no HDMI signal sends each frame in a buffer of a ring of
eight, in a memfd of its own, or in the buffer of the sample that a decoder hands
out.  The server does not tell it when it is done with a frame.  A buffer of the
ring is filled again at the eighth acquisition, and a sample goes back to the
decoder right after the send.
-/

namespace SbsServer
namespace Worker

open CLib

/-- `SBS_CPU_EXPORT_RING_SIZE` -/
def cpuExportRingSize : Nat := 8

/-- A buffer that the worker has made, or one of the pool of a decoder. -/
inductive FrameBuffer
  | made (number : Nat)
  | pooled (number : Nat)
  deriving DecidableEq

/-- Where a frame has its buffer from; acquisitions and samples are counted. -/
inductive FrameOrigin
  | ring (acquisition : Nat)
  | memfd
  | sample (number : Nat)
  deriving DecidableEq

/-- A frame, by its buffer. -/
structure ExportedBuffer where
  buffer : FrameBuffer
  origin : FrameOrigin
  deriving DecidableEq

/-- An element of `cpu_export_ring`. -/
structure CpuExportSlot where
  /-- The buffer, if `backing.fd` and `mapped` are set. -/
  backing : Option Nat
  size : Nat
  /-- The acquisition that set them. -/
  since : Nat

/-- What the system answers when a slot is acquired. -/
structure SlotAnswers where
  /-- One of the two allocators makes a buffer that is no memfd. -/
  allocates : Bool
  maps : Bool
  dups : Bool

/-- Where the thread that sends frames stands. -/
inductive ExportPoint
  | idle
  /-- Before `sbs_ipc_send_frame`. -/
  | exported (frame : ExportedBuffer)
  /-- Before `gst_sample_unref`, for a sample whose own buffer was sent. -/
  | holding (frame : ExportedBuffer)
  deriving DecidableEq

/-- A worker, the socket and the server's side of the source.  The last three fields are a
history. -/
structure ExportRun where
  dmabufAvailable : Bool
  cpuExportRing : Fin cpuExportRingSize → CpuExportSlot
  cpuExportRingIdx : UInt32
  point : ExportPoint
  /-- The buffers made so far. -/
  made : Nat
  /-- The frames in the socket. -/
  socket : List ExportedBuffer
  /-- The frames that the server has received and not dropped. -/
  held : List ExportedBuffer
  /-- The frames that renders read whose fence is not signalled. -/
  reads : List ExportedBuffer
  acquired : Nat
  sampled : Nat
  /-- The frames in use whose buffer the worker has filled again or returned. -/
  overwritten : List ExportedBuffer

namespace ExportRun

/-- `source_worker_run` at its start. -/
def start (dmabufAvailable : Bool) : ExportRun where
  dmabufAvailable := dmabufAvailable
  cpuExportRing _ := ⟨none, 0, 0⟩
  cpuExportRingIdx := 0
  point := .idle
  made := 0
  socket := []
  held := []
  reads := []
  acquired := 0
  sampled := 0
  overwritten := []

/-- The frames that were sent and that the server is not done with. -/
def inUse (run : ExportRun) : List ExportedBuffer :=
  run.socket ++ (run.held ++ run.reads)

/-- A buffer is filled, or returned to its producer. -/
def touch
    (run : ExportRun)
    (buffer : FrameBuffer) : ExportRun :=
  { run with
    overwritten := run.overwritten ++
      run.inUse.filter fun frame => frame.buffer = buffer }

/-- The element that the next acquisition takes. -/
def nextSlot (run : ExportRun) : Fin cpuExportRingSize :=
  ⟨run.cpuExportRingIdx.toNat % cpuExportRingSize, Nat.mod_lt _ (by decide)⟩

/-- The next element of the ring is set. -/
def setSlot
    (run : ExportRun)
    (backing : Option Nat)
    (size : Nat) : ExportRun :=
  { run with
    cpuExportRing :=
      Function.update run.cpuExportRing run.nextSlot ⟨backing, size, run.acquired⟩ }

/-- The next element gets a new buffer. -/
def makeBacking
    (run : ExportRun)
    (size : Nat) : ExportRun :=
  { run.setSlot (some run.made) size with made := run.made + 1 }

/-- `cpu_export_ring_idx++` -/
def count (run : ExportRun) : ExportRun :=
  { run with
    cpuExportRingIdx := run.cpuExportRingIdx + 1
    acquired := run.acquired + 1 }

/-- `source_worker_acquire_cpu_export_slot`, which the callers call with an allocator only. -/
def acquireCpuExportSlot
    (run : ExportRun)
    (size : Nat)
    (answers : SlotAnswers) : Option Nat × ExportRun :=
  let slot := run.cpuExportRing run.nextSlot
  let duplicate := fun backing : Nat => if answers.dups then some backing else none
  match if slot.size = size then slot.backing else none with
  | some backing => (duplicate backing, run.count)
  | none =>
      if answers.allocates && answers.maps then
        (duplicate run.made, (run.makeBacking size).count)
      else (none, (run.setSlot none slot.size).count)

/-- The fallback to a memfd of the frame's own. -/
def exportMemfd
    (run : ExportRun)
    (creates : Bool) : ExportRun :=
  if creates then
    { run with
      made := run.made + 1
      point := .exported ⟨.made run.made, .memfd⟩ }
  else run

/-- `export_cpu_buffer`, `export_linear_nv21` and the first half of `on_text_frame_timeout`. -/
def exportFrame
    (run : ExportRun)
    (size : Nat)
    (answers : SlotAnswers)
    (creates : Bool) : ExportRun :=
  if run.dmabufAvailable then
    match run.acquireCpuExportSlot size answers with
    | (some backing, after) =>
        { after.touch (.made backing) with
          point := .exported ⟨.made backing, .ring run.acquired⟩ }
    | (none, after) => after.exportMemfd creates
  else run.exportMemfd creates

/-- What happens. -/
inductive ExportEvent
  /-- A frame is copied into a buffer of the worker. -/
  | exportFrame (size : Nat) (answers : SlotAnswers) (creates : Bool)
  /-- A sample in a DMA-BUF of the decoder is pulled and its descriptor duplicated. -/
  | pullSample (number : Nat) (dups : Bool)
  /-- A text frame is skipped, since it cannot be rendered. -/
  | skip
  /-- `sbs_ipc_send_frame`, and whether the message goes out. -/
  | send (sent : Bool)
  /-- `gst_sample_unref` -/
  | unref
  /-- The server receives a frame. -/
  | receive
  /-- The server drops a frame. -/
  | drop (index : Nat)
  /-- A render that reads a frame directly is submitted. -/
  | render (index : Nat)
  /-- The fence of a render is signalled. -/
  | signal (index : Nat)

/-- The point after a send: the sample of a copied frame is of no account. -/
def afterSend (frame : ExportedBuffer) : ExportPoint :=
  match frame.origin with
  | .sample _ => .holding frame
  | _ => .idle

/-- The state after an event.  The server may do with a frame what it likes when it likes. -/
def next (run : ExportRun) : ExportEvent → Option ExportRun
  | .exportFrame size answers creates =>
      if run.point = .idle then some (run.exportFrame size answers creates) else none
  | .pullSample number dups =>
      if run.point = .idle then
        let frame : ExportedBuffer := ⟨.pooled number, .sample run.sampled⟩
        some { run with
          sampled := run.sampled + 1
          point := if dups then .exported frame else .holding frame }
      else none
  | .skip =>
      match run.point with
      | .exported ⟨_, .ring _⟩ | .exported ⟨_, .memfd⟩ => some { run with point := .idle }
      | _ => none
  | .send sent =>
      match run.point with
      | .exported frame =>
          some { run with
            socket := if sent then run.socket ++ [frame] else run.socket
            point := afterSend frame }
      | _ => none
  | .unref =>
      match run.point with
      | .holding frame => some { run.touch frame.buffer with point := .idle }
      | _ => none
  | .receive =>
      match run.socket with
      | frame :: rest => some { run with socket := rest, held := run.held ++ [frame] }
      | [] => none
  | .drop index =>
      if index < run.held.length then some { run with held := run.held.eraseIdx index } else none
  | .render index =>
      run.held[index]?.map fun frame => { run with reads := run.reads ++ [frame] }
  | .signal index =>
      if index < run.reads.length then some { run with reads := run.reads.eraseIdx index }
      else none

/-- The runs of a worker and the server. -/
def exportSystem : System ExportRun ExportEvent :=
  System.ofNext (fun run => ∃ dmabufAvailable, run = start dmabufAvailable) next

/-- A frame that an event comes too early for.  An acquisition that keeps the buffer of its
slot comes too early for a frame that was sent from it, which is one of the eighth, the
sixteenth or another such acquisition before; a sample is returned too early for its frame. -/
def tooEarlyFor
    (run : ExportRun)
    (event : ExportEvent)
    (frame : ExportedBuffer) : Bool :=
  match event, frame.origin with
  | .exportFrame size answers _, .ring acquisition =>
      run.dmabufAvailable && answers.dups &&
        decide (acquisition % cpuExportRingSize = run.acquired % cpuExportRingSize) &&
        decide ((run.cpuExportRing run.nextSlot).size = size) &&
        decide ((run.cpuExportRing run.nextSlot).since ≤ acquisition)
  | .unref, .sample _ => true
  | _, _ => false

/-- The server is done with a frame of the ring by the next acquisition of its slot, and with
the frame of a sample when the sample is returned. -/
def DoneInTime
    (run : ExportRun)
    (event : ExportEvent) : Prop :=
  ∀ frame ∈ run.inUse, run.tooEarlyFor event frame = false

instance (run : ExportRun) (event : ExportEvent) : Decidable (run.DoneInTime event) :=
  inferInstanceAs (Decidable (∀ frame ∈ run.inUse, run.tooEarlyFor event frame = false))

end ExportRun
end Worker
end SbsServer
