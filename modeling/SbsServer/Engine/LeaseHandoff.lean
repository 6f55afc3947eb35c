import Mathlib.Data.List.ReduceOption
import SbsServer.CLib.Ring
import SbsServer.CLib.System

/-!
# The leases of the output router

The export thread acquires leases and hands some of them to the encoder thread,
through a queue, and to the preview thread, through a slot.  The encoder thread
may retain leases for reordering.  Threads meet in the sections under the locks
of the queue and of the slot, so each thread is a program with a counter, and one
step of it contains at most one such section or one release.
-/

namespace SbsServer
namespace Engine

open CLib

/-- A lease got from `sbs_compositor_thread_native_mailbox_acquire`, which is valid.
The number counts the leases acquired before it. -/
structure HeldLease where
  number : Nat
  entryIdx : UInt32
  deriving DecidableEq

/-- `SBS_NATIVE_ENCODER_QUEUE_CAPACITY` -/
abbrev nativeEncoderQueueCapacity : Nat := 2

/-- `SBS_NATIVE_ENCODER_RETAIN_CAPACITY` -/
abbrev nativeEncoderRetainCapacity : Nat := 16

/-- `SBS_NATIVE_ENCODER_BFRAME_RETAIN_COUNT` -/
def nativeEncoderBframeRetainCount : Nat := 8

/-- A lease variable or slot; a cleared one has no valid lease. -/
abbrev LeaseVar := Option HeldLease

/-- The mailboxes in the order in which a frame visits them. -/
inductive FrameStage
  | output
  | snapshot
  | preview
  /-- Between two frames. -/
  | frameEnd
  deriving DecidableEq

/-- The stage after one. -/
def FrameStage.next : FrameStage → FrameStage
  | .output => .snapshot
  | .snapshot => .preview
  | .preview => .frameEnd
  | .frameEnd => .output

/-- `export_thread_func`, as far as leases are concerned. -/
inductive ExportThread
  /-- Before the mailbox of a stage. -/
  | reaching (stage : FrameStage)
  /-- With a lease from the mailbox of a stage. -/
  | holding (stage : FrameStage) (lease : HeldLease)
  /-- Before the release of a lease, its own or one that gave way in the queue. -/
  | releasing (lease : LeaseVar) (after : FrameStage)
  | exited
  deriving DecidableEq

/-- `native_encoder_thread_func` -/
inductive EncoderThread
  | waiting
  /-- With a lease from the queue and whether a manager was set. -/
  | holding (lease : LeaseVar) (manager : Bool)
  /-- After the attempt to encode. -/
  | handled (lease : LeaseVar) (submitted : Bool)
  /-- In `native_encoder_retain_lease`, before its loop. -/
  | retaining (lease : LeaseVar)
  /-- In the loop of `native_encoder_retain_lease`. -/
  | trimming
  /-- In `native_encoder_release_retained_leases`, with a lease to release after it. -/
  | flushing (lease : LeaseVar)
  /-- In the last `native_encoder_release_retained_leases`. -/
  | leaving
  | exited
  deriving DecidableEq

/-- `native_preview_thread_func` -/
inductive PreviewThread
  | waiting
  | holding (lease : LeaseVar)
  | exited
  deriving DecidableEq

/-- `sbs_output_router_free` -/
inductive RouterFree
  | notCalled
  | joiningExport
  | stoppingPreview
  | releasingPreview (pending : LeaseVar)
  | joiningPreview
  | stoppingEncoder
  | releasingQueue (pending : List LeaseVar)
  | joiningEncoder
  | freed
  deriving DecidableEq

/-- The lease local to the export thread. -/
def ExportThread.held : ExportThread → LeaseVar
  | .holding _ lease => some lease
  | .releasing lease _ => lease
  | _ => none

/-- The lease local to the encoder thread. -/
def EncoderThread.held : EncoderThread → LeaseVar
  | .holding lease _ => lease
  | .handled lease _ => lease
  | .retaining lease => lease
  | .flushing lease => lease
  | _ => none

/-- The lease local to the preview thread. -/
def PreviewThread.held : PreviewThread → LeaseVar
  | .holding lease => lease
  | _ => none

/-- The leases local to `sbs_output_router_free`. -/
def RouterFree.held : RouterFree → List LeaseVar
  | .releasingPreview pending => [pending]
  | .releasingQueue pending => pending
  | _ => []

/-- The lease that the encoder thread has still to encode. -/
def EncoderThread.pending : EncoderThread → List LeaseVar
  | .holding lease _ => [lease]
  | _ => []

/-- The lease that the export thread may still offer to the encoder. -/
def ExportThread.offered : ExportThread → List LeaseVar
  | .holding .output lease => [some lease]
  | _ => []

/-- How many leases may be retained at a point of the encoder thread. -/
def EncoderThread.retainLimit : EncoderThread → Nat
  | .trimming => nativeEncoderBframeRetainCount + 1
  | .exited => 0
  | _ => nativeEncoderBframeRetainCount

/-- The router's threads and what they share, with the history of the leases. -/
structure RouterThreads where
  exportThread : ExportThread
  exportRunning : Bool
  encoderThread : EncoderThread
  encoderThreadRunning : Bool
  hasEncoderManager : Bool
  encoderQueue : Ring.Buffer LeaseVar nativeEncoderQueueCapacity
  encoderRetained : Ring.Buffer LeaseVar nativeEncoderRetainCapacity
  previewThread : PreviewThread
  previewThreadRunning : Bool
  hasPreviewEngine : Bool
  previewPending : LeaseVar
  freeing : RouterFree
  /-- The leases acquired so far. -/
  acquired : List HeldLease
  /-- The leases encoded so far. -/
  encoded : List HeldLease
  /-- The leases released so far. -/
  released : List HeldLease

namespace RouterThreads

/-- `sbs_output_router_new` -/
def init : RouterThreads where
  exportThread := .reaching .frameEnd
  exportRunning := true
  encoderThread := .waiting
  encoderThreadRunning := true
  hasEncoderManager := false
  encoderQueue := .empty none
  encoderRetained := .empty none
  previewThread := .waiting
  previewThreadRunning := true
  hasPreviewEngine := false
  previewPending := none
  freeing := .notCalled
  acquired := []
  encoded := []
  released := []

/-- `native_encoder_release_lease` -/
def releaseLease
    (router : RouterThreads)
    (lease : LeaseVar) : RouterThreads :=
  { router with released := router.released ++ lease.toList }

/-- The section of `native_encoder_enqueue_lease` under the lock: the queue after it, and
the lease that has to be released after it. -/
def nativeEncoderEnqueueLease
    (router : RouterThreads)
    (lease : HeldLease) : Ring.Buffer LeaseVar nativeEncoderQueueCapacity × LeaseVar :=
  if router.hasEncoderManager && router.encoderThreadRunning then
    if room : router.encoderQueue.count < nativeEncoderQueueCapacity then
      (router.encoderQueue.push room (some lease), none)
    else
      ((router.encoderQueue.pop none).push (router.encoderQueue.room_pop none) (some lease),
        router.encoderQueue.first)
  else (router.encoderQueue, some lease)

/-- The section of `native_preview_enqueue_lease` under the lock: the slot after it, and
the lease that has to be released after it. -/
def nativePreviewEnqueueLease
    (router : RouterThreads)
    (lease : HeldLease) : LeaseVar × LeaseVar :=
  if router.hasPreviewEngine && router.previewThreadRunning then
    (some lease, router.previewPending)
  else (router.previewPending, some lease)

/-- What the export thread meets: what the mailbox gives, whether the lease is offered to
the encoder, and whether its loop ends. -/
structure ExportChoice where
  entryIdx : Option UInt32
  offers : Bool
  leaves : Bool
  selectFails : Bool

/-- One step of the export thread. -/
def exportStep
    (router : RouterThreads)
    (choice : ExportChoice) : Option RouterThreads :=
  match router.exportThread with
  | .reaching .frameEnd =>
      if choice.selectFails || choice.leaves && !router.exportRunning then
        some { router with exportThread := .exited }
      else some { router with exportThread := .reaching .output }
  | .reaching stage =>
      match choice.entryIdx with
      | some entryIdx =>
          let lease : HeldLease := ⟨router.acquired.length, entryIdx⟩
          some { router with
            acquired := router.acquired ++ [lease]
            exportThread := .holding stage lease }
      | none => some { router with exportThread := .reaching stage.next }
  | .holding .output lease =>
      if choice.offers then
        let enqueued := router.nativeEncoderEnqueueLease lease
        some { router with
          encoderQueue := enqueued.1
          exportThread := .releasing enqueued.2 .snapshot }
      else some { router with exportThread := .releasing (some lease) .snapshot }
  | .holding .preview lease =>
      let enqueued := router.nativePreviewEnqueueLease lease
      some { router with
        previewPending := enqueued.1
        exportThread := .releasing enqueued.2 .frameEnd }
  | .holding stage lease =>
      some { router with exportThread := .releasing (some lease) stage.next }
  | .releasing lease after =>
      some { router.releaseLease lease with exportThread := .reaching after }
  | .exited => none

/-- Release the oldest retained lease. -/
def releaseOldestRetained (router : RouterThreads) : RouterThreads :=
  { router.releaseLease router.encoderRetained.first with
    encoderRetained := router.encoderRetained.pop none }

/-- `native_encoder_retain_lease` before its loop. -/
def nativeEncoderRetainLease
    (router : RouterThreads)
    (lease : LeaseVar) : RouterThreads :=
  if room : router.encoderRetained.count < nativeEncoderRetainCapacity then
    { router with encoderRetained := router.encoderRetained.push room lease }
  else
    { router.releaseLease router.encoderRetained.first with
      encoderRetained := (router.encoderRetained.pop none).push
        (router.encoderRetained.room_pop none) lease }

/-- One step of the encoder thread, for the outcome of `dup` and what
`native_encoder_bframes_enabled` says. -/
def encoderStep
    (router : RouterThreads)
    (dups bframes : Bool) : Option RouterThreads :=
  match router.encoderThread with
  | .waiting =>
      if router.encoderQueue.count = 0 then
        if router.encoderThreadRunning then none
        else some { router with encoderThread := .leaving }
      else
        some { router with
          encoderThread := .holding router.encoderQueue.first router.hasEncoderManager
          encoderQueue := router.encoderQueue.pop none }
  | .holding lease manager =>
      if manager && lease.isSome then
        some { router with
          encoded := if dups then router.encoded ++ lease.toList else router.encoded
          encoderThread := .handled lease dups }
      else some { router.releaseLease lease with encoderThread := .waiting }
  | .handled lease submitted =>
      some { router with
        encoderThread := if submitted && bframes then .retaining lease else .flushing lease }
  | .retaining lease =>
      if lease.isSome then
        some { router.nativeEncoderRetainLease lease with encoderThread := .trimming }
      else some { router with encoderThread := .waiting }
  | .trimming =>
      if nativeEncoderBframeRetainCount < router.encoderRetained.count then
        some router.releaseOldestRetained
      else some { router with encoderThread := .waiting }
  | .flushing lease =>
      if 0 < router.encoderRetained.count then some router.releaseOldestRetained
      else
        some { router.releaseLease lease with
          encoderRetained := router.encoderRetained.rewind
          encoderThread := .waiting }
  | .leaving =>
      if 0 < router.encoderRetained.count then some router.releaseOldestRetained
      else
        some { router with
          encoderRetained := router.encoderRetained.rewind
          encoderThread := .exited }
  | .exited => none

/-- One step of the preview thread; the encoding has no part in the leases. -/
def previewStep (router : RouterThreads) : Option RouterThreads :=
  match router.previewThread with
  | .waiting =>
      if router.previewPending.isSome then
        some { router with
          previewThread := .holding router.previewPending
          previewPending := none }
      else if router.previewThreadRunning then none
      else some { router with previewThread := .exited }
  | .holding lease => some { router.releaseLease lease with previewThread := .waiting }
  | .exited => none

/-- One step of `sbs_output_router_free`. -/
def freeStep (router : RouterThreads) : Option RouterThreads :=
  match router.freeing with
  | .notCalled => some { router with exportRunning := false, freeing := .joiningExport }
  | .joiningExport =>
      if router.exportThread = .exited then some { router with freeing := .stoppingPreview }
      else none
  | .stoppingPreview =>
      some { router with
        previewThreadRunning := false
        previewPending := none
        freeing := .releasingPreview router.previewPending }
  | .releasingPreview pending =>
      some { router.releaseLease pending with freeing := .joiningPreview }
  | .joiningPreview =>
      if router.previewThread = .exited then some { router with freeing := .stoppingEncoder }
      else none
  | .stoppingEncoder =>
      let taken := router.encoderQueue.takeUpTo none nativeEncoderQueueCapacity
      some { router with
        encoderThreadRunning := false
        encoderQueue := taken.2
        freeing := .releasingQueue taken.1 }
  | .releasingQueue (lease :: rest) =>
      some { router.releaseLease lease with freeing := .releasingQueue rest }
  | .releasingQueue [] => some { router with freeing := .joiningEncoder }
  | .joiningEncoder =>
      if router.encoderThread = .exited then some { router with freeing := .freed } else none
  | .freed => none

/-- A step of one of the threads, or a call of the main thread. -/
inductive RouterAction
  | exportThread (choice : ExportChoice)
  | encoderThread (dups bframes : Bool)
  | previewThread
  | free
  | setEncoderManager (present : Bool)
  | setPreviewEngine (present : Bool)

/-- One step of the router. -/
def next
    (router : RouterThreads) : RouterAction → Option RouterThreads
  | .exportThread choice => router.exportStep choice
  | .encoderThread dups bframes => router.encoderStep dups bframes
  | .previewThread => router.previewStep
  | .free => router.freeStep
  | .setEncoderManager present => some { router with hasEncoderManager := present }
  | .setPreviewEngine present => some { router with hasPreviewEngine := present }

/-- Runs of the router's threads in any order. -/
def system : System RouterThreads RouterAction :=
  .ofNext (· = init) next

/-- The places in which a lease can be. -/
inductive LeasePlace
  | exportThread
  | encoderThread
  | previewThread
  | freeing
  | encoderQueue
  | retainedRing
  | previewSlot
  deriving DecidableEq

/-- What is in a place. -/
def inPlace
    (router : RouterThreads) : LeasePlace → List LeaseVar
  | .exportThread => [router.exportThread.held]
  | .encoderThread => [router.encoderThread.held]
  | .previewThread => [router.previewThread.held]
  | .freeing => router.freeing.held
  | .encoderQueue => router.encoderQueue.contents
  | .retainedRing => router.encoderRetained.contents
  | .previewSlot => [router.previewPending]

/-- How often a lease is held. -/
def held
    (router : RouterThreads)
    (lease : HeldLease) : Nat :=
  ([.exportThread, .encoderThread, .previewThread, .freeing, .encoderQueue, .retainedRing,
    .previewSlot].map fun place => (router.inPlace place).count (some lease)).sum

/-- How often a lease was released. -/
def timesReleased
    (router : RouterThreads)
    (lease : HeldLease) : Nat :=
  router.released.count lease

/-- Every lease that was acquired is in one place or was released once; no other is. -/
def Balanced (router : RouterThreads) : Prop :=
  ∀ lease, router.held lease + router.timesReleased lease = router.acquired.count lease

theorem count_toList
    (lease : HeldLease)
    (slot : LeaseVar) :
    slot.toList.count lease = [slot].count (some lease) := by
  cases slot <;> simp [List.count_singleton]

variable (router : RouterThreads)

theorem held_eq
    (lease : HeldLease) :
    router.held lease =
      [router.exportThread.held].count (some lease) +
        [router.encoderThread.held].count (some lease) +
        [router.previewThread.held].count (some lease) + router.freeing.held.count (some lease) +
        router.encoderQueue.contents.count (some lease) +
        router.encoderRetained.contents.count (some lease) +
        [router.previewPending].count (some lease) := by
  simp only [held, inPlace, List.map_cons, List.map_nil, List.sum_cons, List.sum_nil]
  omega

theorem count_some
    (lease other : HeldLease) :
    [some other].count (some lease) = [other].count lease := by
  simp [List.count_singleton]

/-! ## No lease is lost or doubled -/

theorem balanced_init : init.Balanced := by
  intro lease
  rw [held_eq]
  simp [init, timesReleased, ExportThread.held, EncoderThread.held, PreviewThread.held,
    RouterFree.held]

/-- What the queue takes in, it holds or gives back. -/
theorem nativeEncoderEnqueueLease_count
    (taken lease : HeldLease) :
    (router.nativeEncoderEnqueueLease taken).1.contents.count (some lease) +
        [(router.nativeEncoderEnqueueLease taken).2].count (some lease) =
      router.encoderQueue.contents.count (some lease) + [taken].count lease := by
  rw [← count_some lease taken]
  unfold nativeEncoderEnqueueLease
  split
  next =>
    split
    next room => simp [List.count_append]
    next full =>
      have some : 0 < router.encoderQueue.count := by
        unfold nativeEncoderQueueCapacity at full
        omega
      rw [Ring.Buffer.contents_pop some none, Ring.Buffer.contents_push, List.count_append,
        List.count_append]
      dsimp only
      omega
  next => rfl

/-- What the preview slot takes in, it holds or gives back. -/
theorem nativePreviewEnqueueLease_count
    (taken lease : HeldLease) :
    [(router.nativePreviewEnqueueLease taken).1].count (some lease) +
        [(router.nativePreviewEnqueueLease taken).2].count (some lease) =
      [router.previewPending].count (some lease) + [taken].count lease := by
  rw [← count_some lease taken]
  unfold nativePreviewEnqueueLease
  split
  next => exact Nat.add_comm _ _
  next => rfl

variable {router after : RouterThreads} {action : RouterAction}

variable {choice : ExportChoice} {dups bframes : Bool}

theorem balanced_exportStep
    (balanced : router.Balanced)
    (stepped : router.exportStep choice = some after) :
    after.Balanced := by
  intro lease
  have before := balanced lease
  rw [held_eq] at before ⊢
  unfold RouterThreads.exportStep at stepped
  unfold timesReleased at before ⊢
  split at stepped
  next pc =>
    split at stepped <;> cases stepped <;> simpa [ExportThread.held, pc] using before
  next stage _ pc =>
    split at stepped
    next =>
      cases stepped
      simp [ExportThread.held, pc, List.count_append, count_some] at before ⊢
      omega
    next => cases stepped; simpa [ExportThread.held, pc] using before
  next leased pc =>
    split at stepped
    next =>
      cases stepped
      have queued := router.nativeEncoderEnqueueLease_count leased lease
      simp [ExportThread.held, pc, count_some] at before ⊢
      omega
    next => cases stepped; simpa [ExportThread.held, pc] using before
  next leased pc =>
    cases stepped
    have offered := router.nativePreviewEnqueueLease_count leased lease
    simp [ExportThread.held, pc, count_some] at before ⊢
    omega
  next stage leased _ _ pc => cases stepped; simpa [ExportThread.held, pc] using before
  next leased after pc =>
    cases stepped
    simp [ExportThread.held, pc, releaseLease, List.count_append, count_toList] at before ⊢
    omega
  next => cases stepped

theorem releaseOldestRetained_count
    (some_retained : 0 < router.encoderRetained.count)
    (lease : HeldLease) :
    (router.encoderRetained.pop none).contents.count (some lease) +
        (router.released ++ router.encoderRetained.first.toList).count lease =
      router.encoderRetained.contents.count (some lease) + router.released.count lease := by
  rw [Ring.Buffer.contents_pop some_retained none, List.count_append, count_toList,
    List.count_append]
  omega

/-- A retained lease is added to the ring; one that gives way is released. -/
theorem nativeEncoderRetainLease_count
    (kept : LeaseVar)
    (lease : HeldLease) :
    (router.nativeEncoderRetainLease kept).encoderRetained.contents.count (some lease) +
        (router.nativeEncoderRetainLease kept).released.count lease =
      router.encoderRetained.contents.count (some lease) + [kept].count (some lease) +
        router.released.count lease := by
  unfold nativeEncoderRetainLease
  split
  next room => simp [List.count_append]
  next full =>
    have some : 0 < router.encoderRetained.count := by
      unfold nativeEncoderRetainCapacity at full
      omega
    have oldest := releaseOldestRetained_count some lease
    simp only [Ring.Buffer.contents_push, List.count_append, releaseLease] at oldest ⊢
    omega

theorem nativeEncoderRetainLease_keeps
    (kept : LeaseVar) :
    ∃ ring released, router.nativeEncoderRetainLease kept =
      { router with encoderRetained := ring, released := released } := by
  unfold nativeEncoderRetainLease
  split
  next room => exact ⟨_, _, rfl⟩
  next full => exact ⟨_, _, rfl⟩

theorem balanced_encoderStep
    (balanced : router.Balanced)
    (stepped : router.encoderStep dups bframes = some after) :
    after.Balanced := by
  intro lease
  have before := balanced lease
  rw [held_eq] at before ⊢
  unfold RouterThreads.encoderStep at stepped
  unfold timesReleased at before ⊢
  split at stepped
  next pc =>
    split at stepped
    next =>
      split at stepped
      next => cases stepped
      next => cases stepped; simpa [EncoderThread.held, pc] using before
    next queued =>
      cases stepped
      rw [Ring.Buffer.contents_pop (Nat.pos_of_ne_zero queued) none,
        List.count_append] at before
      simp [EncoderThread.held, pc] at before ⊢
      omega
  next taken manager pc =>
    split at stepped
    next => cases stepped; simpa [EncoderThread.held, pc] using before
    next =>
      cases stepped
      simp [EncoderThread.held, pc, releaseLease, List.count_append, count_toList] at before ⊢
      omega
  next taken submitted pc =>
    cases stepped
    simp only [EncoderThread.held, pc] at before
    dsimp only
    split <;> simpa only [EncoderThread.held] using before
  next taken pc =>
    split at stepped
    next =>
      cases stepped
      have retained := router.nativeEncoderRetainLease_count taken lease
      obtain ⟨ring, released, same⟩ := router.nativeEncoderRetainLease_keeps taken
      rw [same] at retained ⊢
      simp [EncoderThread.held, pc] at before retained ⊢
      omega
    next invalid =>
      cases stepped
      rw [Option.not_isSome_iff_eq_none] at invalid
      simpa [EncoderThread.held, pc, invalid] using before
  next pc =>
    split at stepped
    next many =>
      cases stepped
      have released := releaseOldestRetained_count (Nat.zero_lt_of_lt many) lease
      simp [EncoderThread.held, pc, releaseOldestRetained, releaseLease] at before released ⊢
      omega
    next => cases stepped; simpa [EncoderThread.held, pc] using before
  next taken pc =>
    split at stepped
    next some =>
      cases stepped
      have released := releaseOldestRetained_count some lease
      simp [EncoderThread.held, pc, releaseOldestRetained, releaseLease] at before released ⊢
      omega
    next none =>
      cases stepped
      simp only [EncoderThread.held, pc, releaseLease, List.count_append, count_toList,
        Ring.Buffer.contents_rewind (Nat.eq_zero_of_not_pos none)] at before ⊢
      simp only [List.count_singleton] at before ⊢
      simp at before ⊢
      omega
  next pc =>
    split at stepped
    next some =>
      cases stepped
      have released := releaseOldestRetained_count some lease
      simp [EncoderThread.held, pc, releaseOldestRetained, releaseLease] at before released ⊢
      omega
    next none =>
      cases stepped
      simp only [EncoderThread.held, pc,
        Ring.Buffer.contents_rewind (Nat.eq_zero_of_not_pos none)] at before ⊢
      exact before
  next => cases stepped

theorem balanced_previewStep
    (balanced : router.Balanced)
    (stepped : router.previewStep = some after) :
    after.Balanced := by
  intro lease
  have before := balanced lease
  rw [held_eq] at before ⊢
  unfold RouterThreads.previewStep at stepped
  unfold timesReleased at before ⊢
  split at stepped
  next pc =>
    split at stepped
    next =>
      cases stepped
      simp [PreviewThread.held, pc] at before ⊢
      omega
    next =>
      split at stepped
      next => cases stepped
      next => cases stepped; simpa [PreviewThread.held, pc] using before
  next taken pc =>
    cases stepped
    simp [PreviewThread.held, pc, releaseLease, List.count_append, count_toList] at before ⊢
    omega
  next => cases stepped

theorem balanced_freeStep
    (balanced : router.Balanced)
    (stepped : router.freeStep = some after) :
    after.Balanced := by
  intro lease
  have before := balanced lease
  rw [held_eq] at before ⊢
  unfold RouterThreads.freeStep at stepped
  unfold timesReleased at before ⊢
  split at stepped
  next pc => cases stepped; simpa [RouterFree.held, pc] using before
  next pc =>
    split at stepped
    next => cases stepped; simpa [RouterFree.held, pc] using before
    next => cases stepped
  next pc =>
    cases stepped
    simp [RouterFree.held, pc] at before ⊢
    omega
  next pending pc =>
    cases stepped
    simp [RouterFree.held, pc, releaseLease, List.count_append, count_toList] at before ⊢
    omega
  next pc =>
    split at stepped
    next => cases stepped; simpa [RouterFree.held, pc] using before
    next => cases stepped
  next pc =>
    cases stepped
    obtain ⟨taken, none⟩ := Ring.Buffer.takeUpTo_all (none : LeaseVar) router.encoderQueue.fits
    have empty := Ring.Buffer.contents_eq_nil none
    simp only [RouterFree.held, pc, taken, empty, List.count_nil] at before ⊢
    omega
  next first rest pc =>
    cases stepped
    simp only [RouterFree.held, pc, releaseLease, List.count_append, count_toList] at before ⊢
    have parts : (first :: rest).count (some lease) =
        [first].count (some lease) + rest.count (some lease) :=
      @List.count_append _ _ (some lease) [first] rest
    omega
  next pc => cases stepped; simpa [RouterFree.held, pc] using before
  next pc =>
    split at stepped
    next => cases stepped; simpa [RouterFree.held, pc] using before
    next => cases stepped
  next => cases stepped

theorem balanced_next
    (balanced : router.Balanced)
    (stepped : router.next action = some after) :
    after.Balanced := by
  cases action with
  | exportThread choice => exact balanced_exportStep balanced stepped
  | encoderThread dups bframes => exact balanced_encoderStep balanced stepped
  | previewThread => exact balanced_previewStep balanced stepped
  | free => exact balanced_freeStep balanced stepped
  | setEncoderManager present =>
      cases stepped
      exact balanced
  | setPreviewEngine present =>
      cases stepped
      exact balanced

/-- Leases are numbered in the order of their acquisition. -/
def Numbered (router : RouterThreads) : Prop :=
  router.acquired.map HeldLease.number = List.range router.acquired.length

theorem Numbered.nodup
    (numbered : router.Numbered) :
    router.acquired.Nodup := by
  apply List.Nodup.of_map HeldLease.number
  rw [numbered]
  exact List.nodup_range

/-- What a step may do to the leases that were acquired. -/
theorem acquired_next
    (stepped : router.next action = some after) :
    after.acquired = router.acquired ∨
      ∃ entryIdx,
        after.acquired = router.acquired ++ [⟨router.acquired.length, entryIdx⟩] := by
  cases action with
  | exportThread choice =>
      simp only [RouterThreads.next, exportStep] at stepped
      split at stepped
      next => split at stepped <;> cases stepped <;> exact .inl rfl
      next =>
        split at stepped
        next =>
          cases stepped
          exact .inr ⟨_, rfl⟩
        next => cases stepped; exact .inl rfl
      next => split at stepped <;> cases stepped <;> exact .inl rfl
      next => cases stepped; exact .inl rfl
      next => cases stepped; exact .inl rfl
      next => cases stepped; exact .inl rfl
      next => cases stepped
  | encoderThread dups bframes =>
      left
      simp only [RouterThreads.next, encoderStep] at stepped
      split at stepped
      next =>
        split at stepped
        next => split at stepped <;> cases stepped; rfl
        next => cases stepped; rfl
      next => split at stepped <;> cases stepped <;> rfl
      next => cases stepped; rfl
      next =>
        split at stepped
        next taken _ _ =>
          cases stepped
          obtain ⟨_, _, same⟩ := router.nativeEncoderRetainLease_keeps taken
          rw [same]
        next => cases stepped; rfl
      next => split at stepped <;> cases stepped <;> rfl
      next => split at stepped <;> cases stepped <;> rfl
      next => split at stepped <;> cases stepped <;> rfl
      next => cases stepped
  | previewThread =>
      left
      simp only [RouterThreads.next, previewStep] at stepped
      split at stepped
      next =>
        split at stepped
        next => cases stepped; rfl
        next => split at stepped <;> cases stepped; rfl
      next => cases stepped; rfl
      next => cases stepped
  | free =>
      left
      simp only [RouterThreads.next, freeStep] at stepped
      split at stepped <;> first
        | (cases stepped; rfl)
        | (split at stepped <;> cases stepped; rfl)
        | cases stepped
  | setEncoderManager present =>
      cases stepped
      exact .inl rfl
  | setPreviewEngine present =>
      cases stepped
      exact .inl rfl

theorem numbered_next
    (numbered : router.Numbered)
    (stepped : router.next action = some after) :
    after.Numbered := by
  unfold Numbered at numbered ⊢
  rcases acquired_next stepped with same | ⟨entryIdx, more⟩
  · rw [same, numbered]
  · rw [more, List.map_append, numbered, List.length_append, List.length_singleton,
      List.range_succ]
    rfl

/-! ## Leases are encoded in the order of their acquisition -/

/-- The leases on the way to the encoder, oldest first. -/
def toEncode (router : RouterThreads) : List HeldLease :=
  (router.encoderThread.pending ++ router.encoderQueue.contents ++
    router.exportThread.offered).reduceOption

/-- Leases were encoded, and are on the way to the encoder, in the order of acquisition. -/
def InOrder (router : RouterThreads) : Prop :=
  (router.encoded ++ router.toEncode).Sublist router.acquired

/-- A step that encodes nothing, acquires nothing and sends no more leases on the way. -/
theorem InOrder.of_fewer
    (inOrder : router.InOrder)
    (encoded : after.encoded = router.encoded)
    (acquired : router.acquired.Sublist after.acquired)
    (fewer : (after.encoderThread.pending ++ after.encoderQueue.contents ++
        after.exportThread.offered).Sublist
      (router.encoderThread.pending ++ router.encoderQueue.contents ++
        router.exportThread.offered)) :
    after.InOrder := by
  unfold InOrder toEncode at inOrder ⊢
  rw [encoded]
  refine (List.Sublist.append_left ?_ _).trans (inOrder.trans acquired)
  exact fewer.filterMap _

theorem nativeEncoderEnqueueLease_sublist
    (lease : HeldLease) :
    (router.nativeEncoderEnqueueLease lease).1.contents.Sublist
      (router.encoderQueue.contents ++ [some lease]) := by
  unfold nativeEncoderEnqueueLease
  split
  next =>
    split
    next room =>
      rw [Ring.Buffer.contents_push]
    next full =>
      have some : 0 < router.encoderQueue.count := by
        unfold nativeEncoderQueueCapacity at full
        omega
      rw [Ring.Buffer.contents_push, Ring.Buffer.contents_pop some none, List.append_assoc]
      exact List.sublist_append_right _ _
  next => exact List.sublist_append_left _ _

theorem inOrder_exportStep
    (inOrder : router.InOrder)
    (stepped : router.exportStep choice = some after) :
    after.InOrder := by
  unfold exportStep at stepped
  split at stepped
  next pc =>
    split at stepped <;> cases stepped <;>
      exact inOrder.of_fewer rfl (.refl _) (by simp [ExportThread.offered, pc])
  next stage _ pc =>
    split at stepped
    next entryIdx _ =>
      cases stepped
      cases stage with
      | output =>
          unfold InOrder toEncode at inOrder ⊢
          simp only [pc, ExportThread.offered, List.append_nil] at inOrder ⊢
          rw [List.reduceOption_append, ← List.append_assoc]
          exact inOrder.append (.refl _)
      | snapshot =>
          exact inOrder.of_fewer rfl (List.sublist_append_left _ _)
            (by simp [ExportThread.offered, pc])
      | preview =>
          exact inOrder.of_fewer rfl (List.sublist_append_left _ _)
            (by simp [ExportThread.offered, pc])
      | frameEnd =>
          exact inOrder.of_fewer rfl (List.sublist_append_left _ _)
            (by simp [ExportThread.offered, pc])
    next =>
      cases stepped
      exact inOrder.of_fewer rfl (.refl _) (by simp [ExportThread.offered, pc])
  next leased pc =>
    split at stepped
    next =>
      cases stepped
      refine inOrder.of_fewer rfl (.refl _) ?_
      simp only [ExportThread.offered, pc, List.append_nil, List.append_assoc]
      exact (router.nativeEncoderEnqueueLease_sublist leased).append_left _
    next =>
      cases stepped
      exact inOrder.of_fewer rfl (.refl _) (by simp [ExportThread.offered, pc])
  next leased pc =>
    cases stepped
    exact inOrder.of_fewer rfl (.refl _) (by simp [ExportThread.offered, pc])
  next stage leased notOutput _ pc =>
    cases stepped
    exact inOrder.of_fewer rfl (.refl _) (by simp [ExportThread.offered, pc])
  next leased after pc =>
    cases stepped
    exact inOrder.of_fewer rfl (.refl _) (by simp [ExportThread.offered, pc, releaseLease])
  next => cases stepped

theorem inOrder_encoderStep
    (inOrder : router.InOrder)
    (stepped : router.encoderStep dups bframes = some after) :
    after.InOrder := by
  unfold encoderStep at stepped
  split at stepped
  next pc =>
    split at stepped
    next =>
      split at stepped
      next => cases stepped
      next =>
        cases stepped
        exact inOrder.of_fewer rfl (.refl _) (by simp [EncoderThread.pending, pc])
    next queued =>
      cases stepped
      refine inOrder.of_fewer rfl (.refl _) ?_
      rw [Ring.Buffer.contents_pop (Nat.pos_of_ne_zero queued) none]
      simp [EncoderThread.pending, pc]
  next taken manager pc =>
    split at stepped
    next =>
      cases stepped
      unfold InOrder toEncode at inOrder ⊢
      simp only [pc, EncoderThread.pending, List.nil_append] at inOrder ⊢
      rw [List.append_assoc, List.reduceOption_append] at inOrder
      refine List.Sublist.trans ?_ inOrder
      rw [← List.append_assoc]
      refine List.Sublist.append ?_ (.refl _)
      split
      next => cases taken <;> simp [List.reduceOption]
      next => exact List.sublist_append_left _ _
    next =>
      cases stepped
      exact inOrder.of_fewer rfl (.refl _) (by simp [EncoderThread.pending, pc, releaseLease])
  next taken submitted pc =>
    cases stepped
    refine inOrder.of_fewer rfl (.refl _) ?_
    dsimp only
    split <;> simp [EncoderThread.pending, pc]
  next taken pc =>
    split at stepped
    next =>
      cases stepped
      obtain ⟨ring, released, same⟩ := router.nativeEncoderRetainLease_keeps taken
      rw [same]
      exact inOrder.of_fewer rfl (.refl _) (by simp [EncoderThread.pending, pc])
    next =>
      cases stepped
      exact inOrder.of_fewer rfl (.refl _) (by simp [EncoderThread.pending, pc])
  next pc =>
    split at stepped <;> cases stepped <;>
      exact inOrder.of_fewer rfl (.refl _)
        (by simp [EncoderThread.pending, pc, releaseOldestRetained, releaseLease])
  next taken pc =>
    split at stepped <;> cases stepped <;>
      exact inOrder.of_fewer rfl (.refl _)
        (by simp [EncoderThread.pending, pc, releaseOldestRetained, releaseLease])
  next pc =>
    split at stepped <;> cases stepped <;>
      exact inOrder.of_fewer rfl (.refl _)
        (by simp [EncoderThread.pending, pc, releaseOldestRetained, releaseLease])
  next => cases stepped

theorem inOrder_freeStep
    (inOrder : router.InOrder)
    (stepped : router.freeStep = some after) :
    after.InOrder := by
  unfold freeStep at stepped
  split at stepped
  next => cases stepped; exact inOrder
  next => split at stepped <;> cases stepped; exact inOrder
  next => cases stepped; exact inOrder
  next => cases stepped; exact inOrder
  next => split at stepped <;> cases stepped; exact inOrder
  next =>
    cases stepped
    obtain ⟨_, none⟩ := Ring.Buffer.takeUpTo_all (none : LeaseVar) router.encoderQueue.fits
    refine inOrder.of_fewer rfl (.refl _) ?_
    rw [Ring.Buffer.contents_eq_nil none]
    exact ((List.nil_sublist _).append_left _).append_right _
  next => cases stepped; exact inOrder
  next => cases stepped; exact inOrder
  next => split at stepped <;> cases stepped; exact inOrder
  next => cases stepped

theorem inOrder_next
    (inOrder : router.InOrder)
    (stepped : router.next action = some after) :
    after.InOrder := by
  cases action with
  | exportThread choice => exact inOrder_exportStep inOrder stepped
  | encoderThread dups bframes => exact inOrder_encoderStep inOrder stepped
  | previewThread =>
      simp only [next, previewStep] at stepped
      split at stepped
      next =>
        split at stepped
        next => cases stepped; exact inOrder
        next => split at stepped <;> cases stepped; exact inOrder
      next => cases stepped; exact inOrder
      next => cases stepped
  | free => exact inOrder_freeStep inOrder stepped
  | setEncoderManager present =>
      cases stepped
      exact inOrder
  | setPreviewEngine present =>
      cases stepped
      exact inOrder

/-- The threads that have ended at a point of `sbs_output_router_free`. -/
def Joined
    (exportThread : ExportThread)
    (previewThread : PreviewThread)
    (encoderThread : EncoderThread) : RouterFree → Prop
  | .notCalled | .joiningExport => True
  | .stoppingPreview | .releasingPreview _ | .joiningPreview => exportThread = .exited
  | .stoppingEncoder | .releasingQueue _ | .joiningEncoder =>
      exportThread = .exited ∧ previewThread = .exited
  | .freed => exportThread = .exited ∧ previewThread = .exited ∧ encoderThread = .exited

/-- How many leases the encoder thread retains, and what is left when a thread ends. -/
structure Settled (router : RouterThreads) : Prop where
  retained : router.encoderRetained.count ≤ router.encoderThread.retainLimit
  encoderLeft : router.encoderThread = .leaving ∨ router.encoderThread = .exited →
    router.encoderThreadRunning = false ∧ router.encoderQueue.count = 0
  previewLeft : router.previewThread = .exited →
    router.previewThreadRunning = false ∧ router.previewPending = none
  joined : Joined router.exportThread router.previewThread router.encoderThread router.freeing

theorem settled_init : init.Settled := by
  refine ⟨?_, ?_, ?_, trivial⟩ <;> simp [init, Ring.Buffer.empty]

theorem settled_exportStep
    (settled : router.Settled)
    (stepped : router.exportStep choice = some after) :
    after.Settled := by
  have running : router.exportThread ≠ .exited := by
    intro exited
    simp [exportStep, exited] at stepped
  have joined : ∀ exportThread,
      Joined exportThread router.previewThread router.encoderThread router.freeing := by
    intro exportThread
    have before := settled.joined
    cases freeing : router.freeing <;> simp_all [Joined]
  unfold exportStep at stepped
  split at stepped
  next =>
    split at stepped <;> cases stepped <;>
      exact ⟨settled.retained, settled.encoderLeft, settled.previewLeft, joined _⟩
  next =>
    split at stepped <;> cases stepped <;>
      exact ⟨settled.retained, settled.encoderLeft, settled.previewLeft, joined _⟩
  next leased _ =>
    split at stepped
    next =>
      cases stepped
      refine ⟨settled.retained, ?_, settled.previewLeft, joined _⟩
      intro left
      have stopped := settled.encoderLeft left
      simpa [nativeEncoderEnqueueLease, stopped.1] using stopped
    next =>
      cases stepped
      exact ⟨settled.retained, settled.encoderLeft, settled.previewLeft, joined _⟩
  next leased _ =>
    cases stepped
    refine ⟨settled.retained, settled.encoderLeft, ?_, joined _⟩
    intro left
    have stopped := settled.previewLeft left
    simpa [nativePreviewEnqueueLease, stopped.1] using stopped
  next =>
    cases stepped
    exact ⟨settled.retained, settled.encoderLeft, settled.previewLeft, joined _⟩
  next =>
    cases stepped
    exact ⟨settled.retained, settled.encoderLeft, settled.previewLeft, joined _⟩
  next => cases stepped

theorem nativeEncoderRetainLease_grows
    (kept : LeaseVar) :
    (router.nativeEncoderRetainLease kept).encoderRetained.count ≤
      router.encoderRetained.count + 1 := by
  unfold nativeEncoderRetainLease
  split
  next room => simp
  next full =>
    simp only [Ring.Buffer.count_push, Ring.Buffer.count_pop]
    omega

theorem settled_encoderStep
    (settled : router.Settled)
    (stepped : router.encoderStep dups bframes = some after) :
    after.Settled := by
  have retained := settled.retained
  have left := settled.encoderLeft
  have joined : ∀ encoderThread,
      Joined router.exportThread router.previewThread encoderThread router.freeing := by
    intro encoderThread
    have running : router.encoderThread ≠ .exited := by
      intro exited
      simp [encoderStep, exited] at stepped
    have before := settled.joined
    cases freeing : router.freeing <;> simp_all [Joined]
  unfold encoderStep at stepped
  split at stepped
  next pc =>
    rw [pc] at retained
    split at stepped
    next noneQueued =>
      split at stepped
      next => cases stepped
      next stopped =>
        cases stepped
        exact ⟨retained, fun _ => ⟨by simpa using stopped, noneQueued⟩, settled.previewLeft,
          joined _⟩
    next =>
      cases stepped
      exact ⟨retained, by simp, settled.previewLeft, joined _⟩
  next pc =>
    rw [pc] at retained
    split at stepped <;> cases stepped <;>
      exact ⟨retained, by simp, settled.previewLeft, joined _⟩
  next pc =>
    rw [pc] at retained
    cases stepped
    refine ⟨?_, ?_, settled.previewLeft, joined _⟩
    · dsimp only
      split <;> exact retained
    · dsimp only
      split <;> simp
  next taken pc =>
    rw [pc] at retained
    split at stepped
    next =>
      cases stepped
      have grows := router.nativeEncoderRetainLease_grows taken
      obtain ⟨ring, released, same⟩ := router.nativeEncoderRetainLease_keeps taken
      rw [same] at grows ⊢
      refine ⟨?_, by simp, settled.previewLeft, joined _⟩
      simp only [EncoderThread.retainLimit] at retained grows ⊢
      omega
    next =>
      cases stepped
      exact ⟨retained, by simp, settled.previewLeft, joined _⟩
  next pc =>
    rw [pc] at retained left
    split at stepped
    next =>
      cases stepped
      refine ⟨?_, by simp [releaseOldestRetained, releaseLease, pc], settled.previewLeft, ?_⟩
      · simp only [releaseOldestRetained, releaseLease, pc, Ring.Buffer.count_pop]
        omega
      · exact joined _
    next few =>
      cases stepped
      refine ⟨?_, by simp, settled.previewLeft, joined _⟩
      exact Nat.le_of_not_lt few
  next taken pc =>
    rw [pc] at retained
    split at stepped
    next =>
      cases stepped
      refine ⟨?_, by simp [releaseOldestRetained, releaseLease, pc], settled.previewLeft, ?_⟩
      · simp only [releaseOldestRetained, releaseLease, pc, Ring.Buffer.count_pop]
        omega
      · exact joined _
    next =>
      cases stepped
      exact ⟨retained, by simp, settled.previewLeft, joined _⟩
  next pc =>
    rw [pc] at retained
    split at stepped
    next =>
      cases stepped
      refine ⟨?_, fun _ => left (.inl pc), settled.previewLeft, ?_⟩
      · simp only [releaseOldestRetained, releaseLease, pc, Ring.Buffer.count_pop]
        omega
      · exact joined _
    next none =>
      cases stepped
      refine ⟨?_, fun _ => left (.inl pc), settled.previewLeft, joined _⟩
      exact Nat.le_of_not_lt none
  next => cases stepped

theorem settled_previewStep
    (settled : router.Settled)
    (stepped : router.previewStep = some after) :
    after.Settled := by
  have joined : ∀ previewThread,
      Joined router.exportThread previewThread router.encoderThread router.freeing := by
    intro previewThread
    have running : router.previewThread ≠ .exited := by
      intro exited
      simp [previewStep, exited] at stepped
    have before := settled.joined
    cases freeing : router.freeing <;> simp_all [Joined]
  unfold previewStep at stepped
  split at stepped
  next =>
    split at stepped
    next =>
      cases stepped
      exact ⟨settled.retained, settled.encoderLeft, by simp, joined _⟩
    next nonePending =>
      split at stepped
      next => cases stepped
      next stopped =>
        cases stepped
        rw [Option.not_isSome_iff_eq_none] at nonePending
        exact ⟨settled.retained, settled.encoderLeft,
          fun _ => ⟨by simpa using stopped, nonePending⟩, joined _⟩
  next =>
    cases stepped
    exact ⟨settled.retained, settled.encoderLeft, by simp, joined _⟩
  next => cases stepped

theorem settled_freeStep
    (settled : router.Settled)
    (stepped : router.freeStep = some after) :
    after.Settled := by
  have joined := settled.joined
  unfold freeStep at stepped
  split at stepped
  next =>
    cases stepped
    exact ⟨settled.retained, settled.encoderLeft, settled.previewLeft, trivial⟩
  next =>
    split at stepped
    next exited =>
      cases stepped
      exact ⟨settled.retained, settled.encoderLeft, settled.previewLeft, exited⟩
    next => cases stepped
  next pc =>
    cases stepped
    rw [pc] at joined
    exact ⟨settled.retained, settled.encoderLeft, fun _ => ⟨rfl, rfl⟩, joined⟩
  next pc =>
    cases stepped
    rw [pc] at joined
    exact ⟨settled.retained, settled.encoderLeft, settled.previewLeft, joined⟩
  next pc =>
    rw [pc] at joined
    split at stepped
    next exited =>
      cases stepped
      exact ⟨settled.retained, settled.encoderLeft, settled.previewLeft, joined, exited⟩
    next => cases stepped
  next pc =>
    cases stepped
    rw [pc] at joined
    obtain ⟨_, none⟩ := Ring.Buffer.takeUpTo_all (none : LeaseVar) router.encoderQueue.fits
    exact ⟨settled.retained, fun _ => ⟨rfl, none⟩, settled.previewLeft, joined⟩
  next pc =>
    cases stepped
    rw [pc] at joined
    exact ⟨settled.retained, settled.encoderLeft, settled.previewLeft, joined⟩
  next pc =>
    cases stepped
    rw [pc] at joined
    exact ⟨settled.retained, settled.encoderLeft, settled.previewLeft, joined⟩
  next pc =>
    rw [pc] at joined
    split at stepped
    next exited =>
      cases stepped
      exact ⟨settled.retained, settled.encoderLeft, settled.previewLeft, joined.1, joined.2,
        exited⟩
    next => cases stepped
  next => cases stepped

theorem settled_next
    (settled : router.Settled)
    (stepped : router.next action = some after) :
    after.Settled := by
  cases action with
  | exportThread choice => exact settled_exportStep settled stepped
  | encoderThread dups bframes => exact settled_encoderStep settled stepped
  | previewThread => exact settled_previewStep settled stepped
  | free => exact settled_freeStep settled stepped
  | setEncoderManager present =>
      cases stepped
      exact ⟨settled.retained, settled.encoderLeft, settled.previewLeft, settled.joined⟩
  | setPreviewEngine present =>
      cases stepped
      exact ⟨settled.retained, settled.encoderLeft, settled.previewLeft, settled.joined⟩

/-- What holds of the leases at every point. -/
structure LeasesKept (router : RouterThreads) : Prop where
  /-- A lease that was acquired is in exactly one place, or was released exactly once. -/
  accounted : ∀ lease ∈ router.acquired, router.held lease + router.timesReleased lease = 1
  /-- No other lease is held or was released. -/
  noOther : ∀ lease, lease ∉ router.acquired →
    router.held lease = 0 ∧ router.timesReleased lease = 0
  /-- Leases are encoded in the order of their acquisition, each at most once. -/
  inOrder : router.encoded.Sublist router.acquired
  /-- Between two iterations of the encoder thread few leases are retained. -/
  fewRetained : router.encoderThread = .waiting →
    router.encoderRetained.contents.length ≤ nativeEncoderBframeRetainCount
  /-- After the threads were joined no lease is held. -/
  noneHeld : router.freeing = .freed → ∀ lease, router.held lease = 0

theorem Settled.noneHeld
    (settled : router.Settled)
    (freed : router.freeing = .freed)
    (lease : HeldLease) :
    router.held lease = 0 := by
  have joined := settled.joined
  rw [freed] at joined
  obtain ⟨exportExited, previewExited, encoderExited⟩ := joined
  have retained := settled.retained
  rw [encoderExited] at retained
  rw [held_eq, freed, exportExited, encoderExited, previewExited,
    (settled.previewLeft previewExited).2,
    Ring.Buffer.contents_eq_nil (settled.encoderLeft (.inr encoderExited)).2,
    Ring.Buffer.contents_eq_nil (Nat.le_zero.mp retained)]
  simp [ExportThread.held, EncoderThread.held, PreviewThread.held, RouterFree.held]

/-- In every run of the router's threads each lease is released exactly once and is until
then in exactly one place. -/
theorem leasesKept_of_reachable
    {router : RouterThreads}
    (reachable : system.Reachable router) :
    router.LeasesKept := by
  have holds : router.Balanced ∧ router.Numbered ∧ router.InOrder ∧ router.Settled := by
    refine @System.ReachableWhen.invariant _ _ system _
      (fun router => router.Balanced ∧ router.Numbered ∧ router.InOrder ∧ router.Settled)
      ?_ ?_ _ reachable
    · rintro _ rfl
      exact ⟨balanced_init, rfl, by simp [InOrder, toEncode, init, EncoderThread.pending,
        ExportThread.offered], settled_init⟩
    · rintro router action after ⟨balanced, numbered, inOrder, settled⟩ _ stepped
      exact ⟨balanced_next balanced stepped, numbered_next numbered stepped,
        inOrder_next inOrder stepped, settled_next settled stepped⟩
  obtain ⟨balanced, numbered, inOrder, settled⟩ := holds
  refine ⟨?_, ?_, ?_, ?_, settled.noneHeld⟩
  · intro lease member
    rw [balanced lease]
    exact List.count_eq_one_of_mem numbered.nodup member
  · intro lease notMember
    have none := balanced lease
    rw [List.count_eq_zero_of_not_mem notMember] at none
    omega
  · exact (List.sublist_append_left _ _).trans inOrder
  · intro waiting
    have retained := settled.retained
    rw [waiting] at retained
    rw [Ring.Buffer.length_contents]
    exact retained

/-- A run in which a picture is encoded with reordering and one waits for the preview
when the router is freed. -/
def shortRun : List RouterAction :=
  let finds : RouterAction := .exportThread ⟨some 3, true, false, false⟩
  let leaves : RouterAction := .exportThread ⟨none, false, true, false⟩
  let encodes : RouterAction := .encoderThread true true
  [.setEncoderManager true, .setPreviewEngine true, finds, finds, finds, finds, encodes, leaves,
    finds, finds, encodes, encodes, encodes, encodes, finds, .free, leaves, .free, .free, .free,
    .previewThread, .free, .free, .free, encodes, encodes, encodes, .free]

/-- After a run to the end of the router both leases were released, each once. -/
theorem leasesKept_shortRun :
    ((System.run next init shortRun).map fun router =>
      (router.freeing, router.encoded, router.released)) =
        some (.freed, [⟨0, 3⟩], [⟨1, 3⟩, ⟨0, 3⟩]) ∧
    ∀ router, System.run next init shortRun = some router → router.LeasesKept :=
  ⟨by decide +kernel, fun _ runs =>
    leasesKept_of_reachable (System.reachable_of_run (.initial rfl) runs)⟩

end RouterThreads
end Engine
end SbsServer
