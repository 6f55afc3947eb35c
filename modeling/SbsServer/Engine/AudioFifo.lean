import Mathlib.Algebra.Ring.Nat
import SbsServer.CLib.Fifo
import SbsServer.CLib.System

/-!
# The FIFO of the audio mixer

The appsink callback appends a buffer and drops the oldest one of a full queue; the output
router takes buffers from the head; a stop frees what is left.  Counters beside the queue
say how many buffers came and left.  The history keeps what came, and what left in order.
-/

namespace SbsServer
namespace Engine

open CLib

/-- A mapped buffer of the appsink. -/
structure PulledSample where
  pts : UInt64
  duration : UInt64
  data : List UInt8
  deriving DecidableEq

/-- `sbs_audio_buffer_t` -/
structure AudioBuffer where
  payloadSize : UInt32
  ptsNs : UInt64
  durationNs : UInt64
  sampleRate : UInt32
  channels : UInt32
  format : UInt32
  nSamples : UInt32
  dataSize : UInt32
  data : List UInt8
  deriving DecidableEq

namespace AudioBuffer

/-- The buffer that `on_audio_sample` fills: 40 bytes of the message follow its header. -/
def ofSample (sample : PulledSample) : AudioBuffer where
  payloadSize := .ofNat (40 + sample.data.length)
  ptsNs := sample.pts
  durationNs := sample.duration
  sampleRate := 48000
  channels := 2
  format := 0
  nSamples := .ofNat (sample.data.length / 4)
  dataSize := .ofNat sample.data.length
  data := sample.data

/-- The times and bytes of a buffer. -/
def sample (buffer : AudioBuffer) : PulledSample where
  pts := buffer.ptsNs
  duration := buffer.durationNs
  data := buffer.data

end AudioBuffer

/-- `SBS_AUDIO_PENDING_MAX` -/
def audioPendingMax : Nat := 256

/-- The queue of a mixer with its counters. -/
structure AudioFifo where
  /-- `audio->pipeline` -/
  pipeline : Bool
  pendingBuffers : List AudioBuffer
  pendingSamples : UInt64
  queuedBuffers : UInt64
  poppedBuffers : UInt64
  droppedBuffers : UInt64
  droppedSamples : UInt64
  lastQueueLogUs : Int64
  deriving DecidableEq

namespace AudioFifo

/-- `sbs_audio_mixer_new` -/
def new : AudioFifo where
  pipeline := false
  pendingBuffers := []
  pendingSamples := 0
  queuedBuffers := 0
  poppedBuffers := 0
  droppedBuffers := 0
  droppedSamples := 0
  lastQueueLogUs := 0

/-- The count without the samples of a buffer that leaves the queue, never below zero. -/
def lessSamples
    (pendingSamples : UInt64)
    (buffer : AudioBuffer) : UInt64 :=
  let nSamples := buffer.nSamples.toUInt64
  pendingSamples - if pendingSamples < nSamples then pendingSamples else nSamples

/-- The drop of `on_audio_sample`. -/
def countDropped
    (fifo : AudioFifo)
    (dropped : AudioBuffer) : AudioFifo :=
  { fifo with
    pendingSamples := lessSamples fifo.pendingSamples dropped
    droppedBuffers := fifo.droppedBuffers + 1
    droppedSamples := fifo.droppedSamples + dropped.nSamples.toUInt64 }

/-- The time of the last warning about an overrun. -/
def logOverrun
    (fifo : AudioFifo)
    (nowUs : Int64) : AudioFifo :=
  if 0 < fifo.droppedBuffers ∧
      (fifo.lastQueueLogUs = 0 ∨ nowUs - fifo.lastQueueLogUs ≥ 1000000) then
    { fifo with lastQueueLogUs := nowUs }
  else fifo

/-- `on_audio_sample` for a mapped buffer, with the buffer that it drops. -/
def onAudioSample
    (fifo : AudioFifo)
    (sample : PulledSample)
    (nowUs : Int64) : Option AudioBuffer × AudioFifo :=
  let buffer := AudioBuffer.ofSample sample
  let (dropped, pending) := Fifo.push audioPendingMax fifo.pendingBuffers buffer
  let fifo := (dropped.map fifo.countDropped).getD fifo
  let fifo := { fifo with
    pendingBuffers := pending
    pendingSamples := fifo.pendingSamples + buffer.nSamples.toUInt64
    queuedBuffers := fifo.queuedBuffers + 1 }
  (dropped, fifo.logOverrun nowUs)

/-- `sbs_audio_mixer_take_latest_buffer` -/
def takeLatestBuffer (fifo : AudioFifo) : Option AudioBuffer × AudioFifo :=
  match fifo.pendingBuffers with
  | [] => (none, fifo)
  | buffer :: pending =>
      (some buffer, { fifo with
        pendingBuffers := pending
        pendingSamples := lessSamples fifo.pendingSamples buffer
        poppedBuffers := fifo.poppedBuffers + 1 })

/-- `sbs_audio_mixer_start`, as far as a pipeline is made. -/
def start
    (fifo : AudioFifo)
    (made : Bool) : AudioFifo :=
  { fifo with pipeline := made }

/-- `sbs_audio_mixer_stop`, with the buffers that it frees. -/
def stop (fifo : AudioFifo) : List AudioBuffer × AudioFifo :=
  if fifo.pipeline then
    (fifo.pendingBuffers, { fifo with pipeline := false, pendingBuffers := [] })
  else ([], fifo)

end AudioFifo

/-- A call that takes the lock of the mixer. -/
inductive FifoEvent
  /-- The callback of the appsink; without a sample, or with one that cannot be mapped, it
  returns. -/
  | sample (pulled : Option PulledSample) (nowUs : Int64)
  | take
  | start (made : Bool)
  | stop

/-- The queue with its history. -/
structure FifoRun where
  fifo : AudioFifo
  /-- What came. -/
  arrived : List PulledSample
  /-- What left: taken, dropped or freed. -/
  left : List AudioBuffer
  deriving DecidableEq

namespace FifoRun

/-- The queue after an event. -/
def next (run : FifoRun) : FifoEvent → FifoRun
  | .sample none _ => run
  | .sample (some pulled) nowUs =>
      let (dropped, fifo) := run.fifo.onAudioSample pulled nowUs
      { fifo := fifo
        arrived := run.arrived ++ [pulled]
        left := run.left ++ dropped.toList }
  | .take =>
      let (taken, fifo) := run.fifo.takeLatestBuffer
      { run with fifo := fifo, left := run.left ++ taken.toList }
  | .start made => { run with fifo := run.fifo.start made }
  | .stop =>
      let (freed, fifo) := run.fifo.stop
      { run with fifo := fifo, left := run.left ++ freed }

/-- A new mixer. -/
def new : FifoRun where
  fifo := .new
  arrived := []
  left := []

/-- The runs of a mixer. -/
def fifoSystem : System FifoRun FifoEvent where
  initial run := run = new
  step run event after := after = run.next event

/-- What came has left or is queued, in the order in which it came and with its times; the queue
is bounded. -/
structure Ordered (run : FifoRun) : Prop where
  order : (run.left ++ run.fifo.pendingBuffers).map AudioBuffer.sample = run.arrived
  depth : run.fifo.pendingBuffers.length ≤ audioPendingMax

/-- The counters say what is queued. -/
structure Accounted (run : FifoRun) : Prop extends Ordered run where
  counts : run.fifo.queuedBuffers =
    run.fifo.poppedBuffers + run.fifo.droppedBuffers + .ofNat run.fifo.pendingBuffers.length
  samples : run.fifo.pendingSamples.toNat =
    (run.fifo.pendingBuffers.map fun buffer => buffer.nSamples.toNat).sum

/-- A stop of a running mixer finds an empty queue. -/
def StopsEmpty (run : FifoRun) : FifoEvent → Prop
  | .stop => run.fifo.pipeline = true → run.fifo.pendingBuffers = []
  | _ => True

/-! ## Order and depth -/

variable {run : FifoRun}

/-- A warning changes the time of the last one only. -/
theorem logOverrun_eq
    (fifo : AudioFifo)
    (nowUs : Int64) :
    fifo.logOverrun nowUs =
      { fifo with lastQueueLogUs := (fifo.logOverrun nowUs).lastQueueLogUs } := by
  unfold AudioFifo.logOverrun
  split
  · rfl
  · rfl

theorem Ordered.sample
    (ordered : run.Ordered)
    (pulled : PulledSample)
    (nowUs : Int64) :
    (run.next (.sample (some pulled) nowUs)).Ordered := by
  constructor
  · change (run.left ++ _ ++ (AudioFifo.logOverrun _ nowUs).pendingBuffers).map _ = _
    rw [logOverrun_eq]
    dsimp only
    rw [List.append_assoc]
    change (run.left ++ (Option.toList (Fifo.push _ _ _).1 ++ (Fifo.push _ _ _).2)).map _ = _
    rw [Fifo.push_order, ← List.append_assoc, List.map_append, ordered.order]
    rfl
  · change (AudioFifo.logOverrun _ nowUs).pendingBuffers.length ≤ _
    rw [logOverrun_eq]
    exact Fifo.length_push_le (by decide) ordered.depth _

/-- A take removes the head, if there is one. -/
theorem next_take (run : FifoRun) :
    run.next .take =
      match run.fifo.pendingBuffers with
      | [] => run
      | buffer :: pending =>
          { run with
            fifo := { run.fifo with
              pendingBuffers := pending
              pendingSamples := AudioFifo.lessSamples run.fifo.pendingSamples buffer
              poppedBuffers := run.fifo.poppedBuffers + 1 }
            left := run.left ++ [buffer] } := by
  have take : run.next .take = { run with
      fifo := run.fifo.takeLatestBuffer.2
      left := run.left ++ run.fifo.takeLatestBuffer.1.toList } := rfl
  rw [take]
  unfold AudioFifo.takeLatestBuffer
  cases run.fifo.pendingBuffers with
  | nil => simp
  | cons buffer pending => rfl

theorem Ordered.take (ordered : run.Ordered) :
    (run.next .take).Ordered := by
  obtain ⟨order, depth⟩ := ordered
  rw [next_take]
  cases pending : run.fifo.pendingBuffers with
  | nil => exact ⟨order, depth⟩
  | cons buffer rest =>
      rw [pending] at order depth
      constructor
      · simpa using order
      · exact Nat.le_of_succ_le depth

/-- A stop frees the queue of a running mixer. -/
theorem next_stop (run : FifoRun) :
    run.next .stop =
      if run.fifo.pipeline then
        { run with
          fifo := { run.fifo with pipeline := false, pendingBuffers := [] }
          left := run.left ++ run.fifo.pendingBuffers }
      else run := by
  have stop : run.next .stop = { run with
      fifo := run.fifo.stop.2
      left := run.left ++ run.fifo.stop.1 } := rfl
  rw [stop]
  unfold AudioFifo.stop
  split
  · rfl
  · simp

theorem Ordered.stop (ordered : run.Ordered) :
    (run.next .stop).Ordered := by
  rw [next_stop]
  split
  · constructor
    · simpa using ordered.order
    · exact Nat.zero_le _
  · exact ordered

theorem Ordered.next
    (ordered : run.Ordered)
    (event : FifoEvent) :
    (run.next event).Ordered := by
  cases event with
  | sample pulled nowUs =>
      cases pulled with
      | none => exact ordered
      | some pulled => exact ordered.sample pulled nowUs
  | take => exact ordered.take
  | start made => exact ⟨ordered.order, ordered.depth⟩
  | stop => exact ordered.stop

/-- In every run buffers leave in the order in which they came, and the queue is bounded. -/
theorem ordered_of_reachable
    (reachable : fifoSystem.Reachable run) :
    run.Ordered := by
  apply reachable.invariant
  · rintro _ rfl
    exact ⟨rfl, Nat.zero_le _⟩
  · rintro run event _ ordered _ rfl
    exact ordered.next event

/-- Stereo pairs that come one after the other. -/
def pairs (count : Nat) : List FifoEvent :=
  (List.range count).map fun index =>
    .sample (some { pts := .ofNat (20833 * index), duration := 20833, data := [0, 0, 1, 0] }) 0

/-- A new mixer after some events. -/
def newAfter (events : List FifoEvent) : FifoRun :=
  events.foldl FifoRun.next new

/-- The queue is full when two more samples come, and the mixer stops after a take. -/
theorem ordered_of_reachable_stopped :
    let run := newAfter ([.start true] ++ pairs 258 ++ [.take, .stop])
    (run.left.length = 258 ∧ run.fifo.droppedBuffers = 2) ∧ run.Ordered :=
  ⟨by decide +kernel,
    ordered_of_reachable (System.reachable_foldl (fun _ _ => rfl) (.initial rfl) _)⟩

theorem ofNat_succ (length : Nat) :
    UInt64.ofNat (length + 1) = UInt64.ofNat length + 1 :=
  UInt64.ofNat_add length 1

/-- The sum of the samples of a queue. -/
def queuedSamples (buffers : List AudioBuffer) : Nat :=
  (buffers.map fun buffer => buffer.nSamples.toNat).sum

theorem queuedSamples_cons
    (buffer : AudioBuffer)
    (rest : List AudioBuffer) :
    queuedSamples (buffer :: rest) = buffer.nSamples.toNat + queuedSamples rest :=
  List.sum_cons

theorem queuedSamples_le (buffers : List AudioBuffer) :
    queuedSamples buffers ≤ buffers.length * 2 ^ 32 := by
  induction buffers with
  | nil => exact Nat.zero_le _
  | cons buffer rest ih =>
      have below := buffer.nSamples.toNat_lt
      rw [queuedSamples_cons, List.length_cons]
      omega

/-- A buffer that leaves takes its samples along. -/
theorem toNat_lessSamples
    {pendingSamples : UInt64}
    {buffer : AudioBuffer}
    {rest : List AudioBuffer}
    (samples : pendingSamples.toNat = queuedSamples (buffer :: rest)) :
    (AudioFifo.lessSamples pendingSamples buffer).toNat = queuedSamples rest := by
  rw [queuedSamples_cons] at samples
  have enough : buffer.nSamples.toUInt64 ≤ pendingSamples := by
    rw [UInt64.le_iff_toNat_le, UInt32.toNat_toUInt64]
    omega
  unfold AudioFifo.lessSamples
  dsimp only
  rw [if_neg (UInt64.not_lt.mpr enough), UInt64.toNat_sub_of_le _ _ enough,
    UInt32.toNat_toUInt64]
  omega

/-- A buffer that comes brings its samples along. -/
theorem toNat_addSamples
    {pendingSamples : UInt64}
    {buffers : List AudioBuffer}
    (depth : buffers.length ≤ audioPendingMax)
    (samples : pendingSamples.toNat = queuedSamples buffers)
    (buffer : AudioBuffer) :
    (pendingSamples + buffer.nSamples.toUInt64).toNat = queuedSamples (buffers ++ [buffer]) := by
  have bound := queuedSamples_le buffers
  have below := buffer.nSamples.toNat_lt
  have few : buffers.length ≤ 256 := depth
  have appended : queuedSamples (buffers ++ [buffer]) =
      queuedSamples buffers + buffer.nSamples.toNat := by
    simp [queuedSamples]
  rw [appended, UInt64.toNat_add, UInt32.toNat_toUInt64, samples]
  exact Nat.mod_eq_of_lt (by omega)

/-- What a buffer that comes changes. -/
theorem next_sample
    (run : FifoRun)
    (pulled : PulledSample)
    (nowUs : Int64) :
    let buffer := AudioBuffer.ofSample pulled
    let pushed := Fifo.push audioPendingMax run.fifo.pendingBuffers buffer
    let counted := (pushed.1.map run.fifo.countDropped).getD run.fifo
    ∃ logUs, (run.next (.sample (some pulled) nowUs)).fifo =
      { counted with
        pendingBuffers := pushed.2
        pendingSamples := counted.pendingSamples + buffer.nSamples.toUInt64
        queuedBuffers := counted.queuedBuffers + 1
        lastQueueLogUs := logUs } :=
  ⟨_, logOverrun_eq _ _⟩

theorem Accounted.sample
    (accounted : run.Accounted)
    (pulled : PulledSample)
    (nowUs : Int64) :
    (run.next (.sample (some pulled) nowUs)).Accounted := by
  obtain ⟨logUs, isNext⟩ := run.next_sample pulled nowUs
  have counts := accounted.counts
  have samples := accounted.samples
  obtain ⟨room, pushed⟩ | ⟨head, rest, pending, pushed⟩ :=
    Fifo.push_cases (by decide : 0 < audioPendingMax) run.fifo.pendingBuffers
      (AudioBuffer.ofSample pulled)
  · rw [pushed] at isNext
    refine ⟨accounted.toOrdered.sample pulled nowUs, ?_, ?_⟩
    · rw [isNext]
      dsimp only [Option.map_none, Option.getD_none]
      rw [counts, List.length_append, List.length_singleton, ofNat_succ]
      grind only
    · rw [isNext]
      exact toNat_addSamples (Nat.le_of_lt room) samples _
  · rw [pushed] at isNext
    rw [pending] at counts samples
    have depth := accounted.depth
    rw [pending] at depth
    refine ⟨accounted.toOrdered.sample pulled nowUs, ?_, ?_⟩
    · rw [isNext]
      dsimp only [Option.map_some, Option.getD_some, AudioFifo.countDropped]
      rw [counts, List.length_append, List.length_singleton, List.length_cons, ofNat_succ]
      grind only
    · rw [isNext]
      exact toNat_addSamples (Nat.le_of_succ_le depth) (toNat_lessSamples samples) _

theorem Accounted.take (accounted : run.Accounted) :
    (run.next .take).Accounted := by
  refine ⟨accounted.toOrdered.take, ?_, ?_⟩
  · have counts := accounted.counts
    rw [next_take]
    cases pending : run.fifo.pendingBuffers with
    | nil => exact counts
    | cons buffer rest =>
        rw [pending, List.length_cons, ofNat_succ] at counts
        dsimp only
        rw [counts]
        grind only
  · have samples := accounted.samples
    rw [next_take]
    cases pending : run.fifo.pendingBuffers with
    | nil => exact samples
    | cons buffer rest =>
        rw [pending] at samples
        exact toNat_lessSamples samples

/-- A stop that frees nothing keeps the account. -/
theorem Accounted.stop
    (accounted : run.Accounted)
    (empty : run.StopsEmpty .stop) :
    (run.next .stop).Accounted := by
  refine ⟨accounted.toOrdered.stop, ?_, ?_⟩
  · rw [next_stop]
    split
    next running =>
      have counts := accounted.counts
      rwa [empty running] at counts
    next => exact accounted.counts
  · rw [next_stop]
    split
    next running =>
      have samples := accounted.samples
      rwa [empty running] at samples
    next => exact accounted.samples

/-- A stop that frees a buffer leaves the counters wrong. -/
theorem Accounted.not_stop
    (accounted : run.Accounted)
    (frees : ¬ run.StopsEmpty .stop) :
    ¬ (run.next .stop).Accounted := by
  obtain ⟨running, nonempty⟩ : run.fifo.pipeline = true ∧ run.fifo.pendingBuffers ≠ [] := by
    simpa [StopsEmpty] using frees
  intro after
  have counts := after.counts
  rw [next_stop, if_pos running] at counts
  dsimp only at counts
  rw [accounted.counts, List.length_nil] at counts
  have length : (UInt64.ofNat run.fifo.pendingBuffers.length).toNat = 0 :=
    congrArg UInt64.toNat ((UInt64.add_right_inj _).mp counts)
  have depth : run.fifo.pendingBuffers.length ≤ 256 := accounted.depth
  rw [UInt64.toNat_ofNat_of_lt' (Nat.lt_of_le_of_lt depth (by decide))] at length
  exact nonempty (List.eq_nil_of_length_eq_zero length)

/-- In a run whose stops find an empty queue, the counters say what is queued. -/
theorem accounted_of_reachable
    (reachable : fifoSystem.ReachableWhen StopsEmpty run) :
    run.Accounted := by
  apply reachable.invariant
  · rintro _ rfl
    exact ⟨⟨rfl, Nat.zero_le _⟩, rfl, rfl⟩
  · rintro run event _ accounted meets rfl
    cases event with
    | sample pulled nowUs =>
        cases pulled with
        | none => exact accounted
        | some pulled => exact accounted.sample pulled nowUs
    | take => exact accounted.take
    | start made => exact ⟨accounted.toOrdered.next (.start made), accounted.counts,
        accounted.samples⟩
    | stop => exact accounted.stop meets

instance (run : FifoRun) (event : FifoEvent) : Decidable (run.StopsEmpty event) :=
  match event with
  | .stop => inferInstanceAs (Decidable (_ → _))
  | .sample _ _ | .take | .start _ => inferInstanceAs (Decidable True)

/-- Buffers are taken before and after a third one comes, and then the mixer stops. -/
theorem accounted_of_reachable_taken :
    let run := newAfter ([.start true] ++ pairs 2 ++ [.take] ++ pairs 1 ++ [.take, .take, .stop])
    run.fifo.queuedBuffers = 3 ∧ run.fifo.poppedBuffers = 3 ∧ run.Accounted :=
  ⟨by decide +kernel, by decide +kernel,
    accounted_of_reachable (System.reachableWhen_foldl (fun _ _ => rfl) (.initial rfl)
      (by decide +kernel))⟩

/-- A buffer that is queued when the mixer stops is never counted. -/
theorem stop_loses_count :
    fifoSystem.Reachable
        (newAfter ([.start true] ++ pairs 1 ++ [.stop])) ∧
      ¬ (newAfter ([.start true] ++ pairs 1 ++ [.stop])).Accounted := by
  constructor
  · exact System.reachable_foldl (fun _ _ => rfl) (.initial rfl) _
  · intro accounted
    exact absurd accounted.counts (by decide +kernel)

end FifoRun

end Engine
end SbsServer
