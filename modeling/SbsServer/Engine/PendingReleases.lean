import Mathlib.Algebra.BigOperators.Group.Finset.Piecewise
import Mathlib.Tactic.Abel
import SbsServer.CLib.Compaction
import SbsServer.Engine.SourceLifetime

/-!
# Pending releases of source frames

The parallel arrays in which `compositor_thread.c` keeps the frames that a ring
entry still reads, with the loops that compact and extend them in place.  They are
the lists of pending releases that the model of the render loop works with.
-/

namespace SbsServer
namespace Engine

open CLib

/-- A frame with its texture slot and its import.  A frame may be `NULL`. -/
structure PendingRelease where
  frame : Option Nat
  slot : UInt32
  importIdx : Int32
  importInode : UInt64
  deriving DecidableEq

/-- `source_release_pending`, `source_release_pending_slot`,
`source_release_pending_import_idx`, `source_release_pending_import_inode` and
`source_release_pending_count` of an entry. -/
structure PendingArrays where
  frame : Nat → Option Nat
  slot : Nat → UInt32
  importIdx : Nat → Int32
  importInode : Nat → UInt64
  count : UInt32

namespace PendingArrays

/-- The arrays as they are allocated. -/
def zero : PendingArrays where
  frame := fun _ => none
  slot := fun _ => 0
  importIdx := fun _ => 0
  importInode := fun _ => 0
  count := 0

/-- What the arrays hold at an index. -/
def record
    (arrays : PendingArrays)
    (i : Nat) : PendingRelease where
  frame := arrays.frame i
  slot := arrays.slot i
  importIdx := arrays.importIdx i
  importInode := arrays.importInode i

/-- What the arrays hold at the first `count` indices. -/
def records (arrays : PendingArrays) : List PendingRelease :=
  Compaction.front arrays.record arrays.count.toNat

/-- Copy what one index holds to another one. -/
def move
    (arrays : PendingArrays)
    (kept i : Nat) : PendingArrays :=
  { arrays with
    frame := Function.update arrays.frame kept (arrays.frame i)
    slot := Function.update arrays.slot kept (arrays.slot i)
    importIdx := Function.update arrays.importIdx kept (arrays.importIdx i)
    importInode := Function.update arrays.importInode kept (arrays.importInode i) }

/-- The frame at an index is given up. -/
def forget
    (arrays : PendingArrays)
    (i : Nat) : PendingArrays :=
  { arrays with frame := Function.update arrays.frame i none }

/-- An index is cleared. -/
def clear
    (arrays : PendingArrays)
    (i : Nat) : PendingArrays :=
  { arrays with
    frame := Function.update arrays.frame i none
    slot := Function.update arrays.slot i 0
    importIdx := Function.update arrays.importIdx i (-1)
    importInode := Function.update arrays.importInode i 0 }

/-- A frame is put at an index. -/
def put
    (arrays : PendingArrays)
    (dst : Nat)
    (frame : PendingRelease) : PendingArrays :=
  { arrays with
    frame := Function.update arrays.frame dst frame.frame
    slot := Function.update arrays.slot dst frame.slot
    importIdx := Function.update arrays.importIdx dst frame.importIdx
    importInode := Function.update arrays.importInode dst frame.importInode }

end PendingArrays

/-- `pending_source_import_still_active`; the last argument is what the comparison with
the cache of the texture yields. -/
def PendingRelease.stillActive
    (pending : PendingRelease)
    (answer : Bool) : Bool :=
  if 32 ≤ pending.slot ∨ pending.importIdx < 0 ∨ 16 ≤ pending.importIdx then false
  else answer

/-- The loop of `release_pending_source_frames_for_entry`: the arrays, `kept`, and the
frames that were released, each with the import that was given up before it. -/
structure ReleaseLoop where
  arrays : PendingArrays
  kept : Nat
  released : List PendingRelease

/-- The body of the loop. -/
def ReleaseLoop.visit
    (force : Bool)
    (answers : Nat → Bool)
    (loop : ReleaseLoop)
    (i : Nat) : ReleaseLoop :=
  if !force && (loop.arrays.record i).stillActive (answers i) then
    { loop with
      arrays := if loop.kept ≠ i then loop.arrays.move loop.kept i else loop.arrays
      kept := loop.kept + 1 }
  else
    { loop with
      arrays := loop.arrays.forget i
      released := loop.released ++ [loop.arrays.record i] }

/-- `release_pending_source_frames_for_entry` on the arrays of the entry: the arrays
afterwards and the frames that were released. -/
def PendingArrays.release
    (force : Bool)
    (answers : Nat → Bool)
    (arrays : PendingArrays) : PendingArrays × List PendingRelease :=
  let count := arrays.count.toNat
  let loop := (List.range count).foldl (ReleaseLoop.visit force answers) ⟨arrays, 0, []⟩
  let cleared := (List.range' loop.kept (count - loop.kept)).foldl PendingArrays.clear loop.arrays
  ({ cleared with count := UInt32.ofNat loop.kept }, loop.released)

/-- The frames of a call of `attach_source_releases_to_entry`.  Its callers hand over
arrays of `SBS_COMP_SCENE_MAX_ITEMS` elements. -/
structure HandedFrames where
  frames : List (Option Nat)
  slots : Option (Nat → UInt32)
  importIdxs : Option (Nat → Int32)
  importInodes : Option (Nat → UInt64)
  fits : frames.length + maxSourceTextures < 2 ^ 32

namespace HandedFrames

/-- What is handed over at an index. -/
def record
    (handed : HandedFrames)
    (i : Nat) : PendingRelease where
  frame := (handed.frames[i]?).join
  slot := handed.slots.elim 0 (· i)
  importIdx := handed.importIdxs.elim (-1) (· i)
  importInode := handed.importInodes.elim 0 (· i)

/-- All that is handed over. -/
def records (handed : HandedFrames) : List PendingRelease :=
  Compaction.front handed.record handed.frames.length

end HandedFrames

/-- The loop of `attach_source_releases_to_entry`: the arrays and the frames that were
released at once. -/
structure AttachLoop where
  arrays : PendingArrays
  dropped : List PendingRelease

/-- The body of the loop. -/
def AttachLoop.visit
    (start : UInt32)
    (handed : HandedFrames)
    (loop : AttachLoop)
    (i : Nat) : AttachLoop :=
  let dst := start + UInt32.ofNat i
  if 32 ≤ dst then { loop with dropped := loop.dropped ++ [handed.record i] }
  else { loop with arrays := loop.arrays.put dst.toNat (handed.record i) }

/-- `attach_source_releases_to_entry` on the arrays of the entry, once they are released. -/
def PendingArrays.append
    (handed : HandedFrames)
    (arrays : PendingArrays) : PendingArrays × List PendingRelease :=
  let start := arrays.count
  let count := UInt32.ofNat handed.frames.length
  let loop := (List.range handed.frames.length).foldl (AttachLoop.visit start handed) ⟨arrays, []⟩
  let total := start + count
  ({ loop.arrays with count := if 32 < total then 32 else total }, loop.dropped)

/-- The arrays of all entries.  The other fields are a history: what was handed over,
what was released from the arrays, and what was released when it was handed over. -/
structure PendingState where
  entries : Fin nativeCanvasRingSize → PendingArrays
  handed : List PendingRelease
  released : List PendingRelease
  dropped : List PendingRelease

namespace PendingState

/-- The compositor thread is created. -/
def init : PendingState where
  entries := fun _ => .zero
  handed := []
  released := []
  dropped := []

/-- `release_pending_source_frames_for_entry` -/
def releasePending
    (state : PendingState)
    (entryIdx : UInt32)
    (force : Bool)
    (answers : Nat → Bool) : PendingState :=
  if bound : entryIdx.toNat < nativeCanvasRingSize then
    let result := (state.entries ⟨entryIdx.toNat, bound⟩).release force answers
    { state with
      entries := Function.update state.entries ⟨entryIdx.toNat, bound⟩ result.1
      released := state.released ++ result.2 }
  else state

/-- `attach_source_releases_to_entry` -/
def attach
    (state : PendingState)
    (entryIdx : UInt32)
    (handed : HandedFrames)
    (answers : Nat → Bool) : PendingState :=
  let state := { state with handed := state.handed ++ handed.records }
  if bound : entryIdx.toNat < nativeCanvasRingSize then
    let state := state.releasePending entryIdx false answers
    let result := (state.entries ⟨entryIdx.toNat, bound⟩).append handed
    { state with
      entries := Function.update state.entries ⟨entryIdx.toNat, bound⟩ result.1
      dropped := state.dropped ++ result.2 }
  else { state with dropped := state.dropped ++ handed.records }

/-- `release_all_pending_source_frames` -/
def releaseAll (state : PendingState) : PendingState :=
  (List.range nativeCanvasRingSize).foldl
    (fun state i => state.releasePending (UInt32.ofNat i) true fun _ => false) state

end PendingState

/-- A call, with what the comparisons in it yield. -/
inductive PendingCall
  | release (entryIdx : UInt32) (force : Bool) (answers : Nat → Bool)
  | attach (entryIdx : UInt32) (handed : HandedFrames) (answers : Nat → Bool)

/-- The effect of a call. -/
def PendingState.call
    (state : PendingState) : PendingCall → PendingState
  | .release entryIdx force answers => state.releasePending entryIdx force answers
  | .attach entryIdx handed answers => state.attach entryIdx handed answers

/-- The frames that a call hands over. -/
def PendingCall.handed : PendingCall → List PendingRelease
  | .release _ _ _ => []
  | .attach _ handed _ => handed.records

/-- The state after some calls. -/
def PendingState.after (calls : List PendingCall) : PendingState :=
  calls.foldl PendingState.call .init

/-! ## One array of frames -/

namespace PendingArrays

theorem record_move
    (arrays : PendingArrays)
    (kept i : Nat) :
    (arrays.move kept i).record = Function.update arrays.record kept (arrays.record i) := by
  funext j
  by_cases same : j = kept
  · subst same
    simp [record, move]
  · simp [record, move, Function.update_of_ne same]

theorem record_forget
    (arrays : PendingArrays)
    (i : Nat) :
    (arrays.forget i).record =
      Function.update arrays.record i { arrays.record i with frame := none } := by
  funext j
  by_cases same : j = i
  · subst same
    simp [record, forget]
  · simp [record, forget, Function.update_of_ne same]

theorem record_put
    (arrays : PendingArrays)
    (dst : Nat)
    (frame : PendingRelease) :
    (arrays.put dst frame).record = Function.update arrays.record dst frame := by
  funext j
  by_cases same : j = dst
  · subst same
    simp [record, put]
  · simp [record, put, Function.update_of_ne same]

/-- Clearing indices leaves the others. -/
theorem foldl_clear
    (start count : Nat)
    (arrays : PendingArrays) :
    (∀ i, i < start ∨ start + count ≤ i →
      ((List.range' start count).foldl clear arrays).record i = arrays.record i) ∧
      ∀ i, start ≤ i → i < start + count →
        ((List.range' start count).foldl clear arrays).frame i = none := by
  induction count with
  | zero => exact ⟨fun i _ => rfl, fun i least most => absurd least (by omega)⟩
  | succ count ih =>
      rw [List.range'_1_concat, List.foldl_append, List.foldl_cons, List.foldl_nil]
      constructor
      · intro i outside
        rw [← ih.1 i (by omega)]
        simp [record, clear, Function.update_of_ne (show i ≠ start + count by omega)]
      · intro i least most
        by_cases same : i = start + count
        · subst same
          simp [clear]
        · simp only [clear, Function.update_of_ne same]
          exact ih.2 i least (by omega)

/-- The count is within the arrays, and behind it there is no frame. -/
structure Tidy (arrays : PendingArrays) : Prop where
  bounded : arrays.count.toNat ≤ maxSourceTextures
  blank : ∀ i, arrays.count.toNat ≤ i → arrays.frame i = none

theorem tidy_zero : zero.Tidy :=
  ⟨Nat.zero_le _, fun _ _ => rfl⟩

/-- The frames that a release keeps. -/
def keeps
    (force : Bool)
    (answers : Nat → Bool)
    (i : Nat)
    (pending : PendingRelease) : Bool :=
  !force && pending.stillActive (answers i)

/-- The loop of a release compacts the arrays. -/
theorem visit_eq
    (force : Bool)
    (answers : Nat → Bool)
    (arrays : PendingArrays)
    (count : Nat) :
    let loop := (List.range count).foldl (ReleaseLoop.visit force answers) ⟨arrays, 0, []⟩
    (⟨loop.arrays.record, loop.kept, loop.released⟩ : Compaction.State PendingRelease) =
      Compaction.run (keeps force answers) (fun pending => { pending with frame := none })
        arrays.record count := by
  induction count with
  | zero => rfl
  | succ count ih =>
      unfold Compaction.run at ih ⊢
      dsimp only at ih ⊢
      rw [List.range_succ, List.foldl_append, List.foldl_append, ← ih]
      simp only [List.foldl_cons, List.foldl_nil]
      generalize (List.range count).foldl (ReleaseLoop.visit force answers)
        ⟨arrays, 0, []⟩ = loop
      unfold ReleaseLoop.visit Compaction.visit keeps
      dsimp only
      cases !force && (loop.arrays.record count).stillActive (answers count) with
      | true =>
          rw [if_pos rfl, if_pos rfl]
          by_cases same : loop.kept = count
          · rw [if_neg (not_not.mpr same), same, Function.update_eq_self]
          · rw [if_pos same, record_move]
      | false =>
          rw [if_neg Bool.false_ne_true, if_neg Bool.false_ne_true, record_forget]

/-- What a release of tidy arrays does. -/
structure Releases
    (force : Bool)
    (answers : Nat → Bool)
    (arrays : PendingArrays)
    (result : PendingArrays × List PendingRelease) : Prop where
  records : result.1.records =
    Compaction.survivors (keeps force answers) arrays.record arrays.count.toNat
  released : result.2 =
    Compaction.leavers (keeps force answers) arrays.record arrays.count.toNat
  tidy : result.1.Tidy

theorem releases_release
    {arrays : PendingArrays}
    (tidy : arrays.Tidy)
    (force : Bool)
    (answers : Nat → Bool) :
    arrays.Releases force answers (arrays.release force answers) := by
  have loop := visit_eq force answers arrays arrays.count.toNat
  have compacted := Compaction.compacted_run (keeps force answers)
    (fun pending => { pending with frame := none }) arrays.record arrays.count.toNat
  dsimp only at loop
  rw [← loop] at compacted
  unfold release
  dsimp only
  generalize (List.range arrays.count.toNat).foldl (ReleaseLoop.visit force answers)
    ⟨arrays, 0, []⟩ = loop at compacted ⊢
  have few : loop.kept ≤ arrays.count.toNat := compacted.kept_le
  have bounded : arrays.count.toNat ≤ 32 := tidy.bounded
  have exact : (UInt32.ofNat loop.kept).toNat = loop.kept :=
    UInt32.toNat_ofNat_of_lt' (show loop.kept < 4294967296 by omega)
  obtain ⟨kept, cleared⟩ :=
    foldl_clear loop.kept (arrays.count.toNat - loop.kept) loop.arrays
  constructor
  · unfold PendingArrays.records
    dsimp only
    rw [exact, ← compacted.front]
    exact Compaction.front_congr fun i less => kept i (.inl less)
  · exact compacted.removed
  · constructor
    · dsimp only
      rw [exact]
      exact le_trans few tidy.bounded
    · dsimp only
      rw [exact]
      intro i behind
      by_cases used : i < arrays.count.toNat
      · exact cleared i behind (by omega)
      · have rest : loop.arrays.record i = arrays.record i := compacted.rest i (by omega)
        exact (congrArg PendingRelease.frame ((kept i (.inr (by omega))).trans rest)).trans
          (tidy.blank i (by omega))

/-- The loop of an attachment extends the arrays. -/
theorem visit_attach_eq
    (handed : HandedFrames)
    (arrays : PendingArrays)
    (count : Nat)
    (small : arrays.count.toNat + count < 2 ^ 32) :
    let loop := (List.range count).foldl (AttachLoop.visit arrays.count handed) ⟨arrays, []⟩
    (loop.arrays.record, loop.dropped) =
      Compaction.fill maxSourceTextures arrays.count.toNat handed.record arrays.record count := by
  induction count with
  | zero => rfl
  | succ count ih =>
      have ih := ih (by omega)
      unfold Compaction.fill at ih ⊢
      dsimp only at ih ⊢
      rw [List.range_succ, List.foldl_append, List.foldl_append, ← ih]
      simp only [List.foldl_cons, List.foldl_nil]
      generalize (List.range count).foldl (AttachLoop.visit arrays.count handed)
        ⟨arrays, []⟩ = loop
      have dst : (arrays.count + UInt32.ofNat count).toNat = arrays.count.toNat + count := by
        rw [UInt32.toNat_add, UInt32.toNat_ofNat']
        omega
      unfold AttachLoop.visit Compaction.store
      dsimp only
      have full : 32 ≤ arrays.count + UInt32.ofNat count ↔
          maxSourceTextures ≤ arrays.count.toNat + count := by
        rw [UInt32.le_iff_toNat_le, dst]
        rfl
      by_cases room : maxSourceTextures ≤ arrays.count.toNat + count
      · rw [if_pos (full.2 room), if_pos room]
      · rw [if_neg (mt full.1 room), if_neg room, record_put, dst]

/-- What an attachment to tidy arrays does. -/
structure Appends
    (handed : HandedFrames)
    (arrays : PendingArrays)
    (result : PendingArrays × List PendingRelease) : Prop where
  records : result.1.records = arrays.records ++
    handed.records.take (maxSourceTextures - arrays.count.toNat)
  dropped : result.2 = handed.records.drop (maxSourceTextures - arrays.count.toNat)
  tidy : result.1.Tidy

theorem appends_append
    {arrays : PendingArrays}
    (tidy : arrays.Tidy)
    (handed : HandedFrames) :
    arrays.Appends handed (arrays.append handed) := by
  have bounded : arrays.count.toNat ≤ 32 := tidy.bounded
  have fits : handed.frames.length + 32 < 2 ^ 32 := handed.fits
  have loop := visit_attach_eq handed arrays handed.frames.length (by omega)
  have filled := Compaction.filled_fill tidy.bounded handed.record arrays.record
    handed.frames.length
  dsimp only at loop
  rw [← loop] at filled
  unfold append
  dsimp only
  generalize (List.range handed.frames.length).foldl (AttachLoop.visit arrays.count handed)
    ⟨arrays, []⟩ = loop at filled ⊢
  have total : (arrays.count + UInt32.ofNat handed.frames.length).toNat =
      arrays.count.toNat + handed.frames.length := by
    rw [UInt32.toNat_add, UInt32.toNat_ofNat']
    omega
  have count : (if 32 < arrays.count + UInt32.ofNat handed.frames.length then (32 : UInt32)
      else arrays.count + UInt32.ofNat handed.frames.length).toNat =
      min (arrays.count.toNat + handed.frames.length) maxSourceTextures := by
    split
    next more =>
      rw [UInt32.lt_iff_toNat_lt, total] at more
      change 32 < _ at more
      rw [Nat.min_eq_right (show 32 ≤ _ by omega)]
      rfl
    next few =>
      rw [UInt32.lt_iff_toNat_lt, total] at few
      change ¬32 < _ at few
      rw [total, Nat.min_eq_left (show _ ≤ 32 by omega)]
  constructor
  · unfold PendingArrays.records HandedFrames.records
    dsimp only
    rw [count]
    exact filled.front
  · exact filled.overflow
  · constructor
    · dsimp only
      rw [count]
      exact Nat.min_le_right _ _
    · dsimp only
      rw [count]
      intro i behind
      have rest : loop.arrays.record i = arrays.record i := filled.rest i behind
      refine (congrArg PendingRelease.frame rest).trans (tidy.blank i ?_)
      change min _ 32 ≤ i at behind
      omega

end PendingArrays

/-- How the arrays hold a pending release. -/
def SourceRelease.pendingFrame (release : SourceRelease) : PendingRelease where
  frame := some release.frame
  slot := UInt32.ofNat release.slot
  importIdx :=
    match release.dmabufImport with
    | some (idx, _) => Int32.ofNat idx
    | none => -1
  importInode :=
    match release.dmabufImport with
    | some (_, inode) => UInt64.ofNat inode
    | none => 0

theorem PendingRelease.stillActive_false (pending : PendingRelease) :
    pending.stillActive false = false := by
  unfold stillActive
  split <;> rfl

/-- The slot and the import index of an import are within their arrays. -/
theorem SourceRelease.stillActive_pendingFrame
    {release : SourceRelease}
    {idx : Fin dmabufBufCacheSize}
    {inode : Nat}
    (imported : release.dmabufImport = some (idx, inode)) :
    release.pendingFrame.stillActive true = true := by
  have slots : ∀ slot : Fin 32, ¬32 ≤ UInt32.ofNat slot := by decide
  have indices : ∀ idx : Fin 16, ¬Int32.ofNat idx < 0 ∧ ¬16 ≤ Int32.ofNat idx := by decide
  unfold PendingRelease.stillActive pendingFrame
  rw [imported, if_neg]
  rintro (far | negative | large)
  · exact slots release.slot far
  · exact (indices idx).1 negative
  · exact (indices idx).2 large

/-- The answer at the first index and those behind it. -/
def answersFrom
    (first : Bool)
    (answers : Nat → Bool) : Nat → Bool
  | 0 => first
  | i + 1 => answers i

theorem PendingArrays.keeps_answersFrom
    (force first : Bool)
    (answers : Nat → Bool) :
    (fun i => keeps force (answersFrom first answers) (i + 1)) = keeps force answers := rfl

theorem PendingArrays.keeps_answersFrom_false
    (force : Bool)
    (answers : Nat → Bool)
    (pending : PendingRelease) :
    keeps force (answersFrom false answers) 0 pending = false := by
  unfold keeps
  rw [answersFrom, PendingRelease.stillActive_false, Bool.and_false]

namespace ReleaseState

/-- What stays in the list stays in the arrays. -/
theorem keeps_of_stays
    {force : Bool}
    {state : ReleaseState}
    {release : SourceRelease}
    (stays : (!force && state.stillActive release) = true)
    (answers : Nat → Bool) :
    PendingArrays.keeps force (answersFrom true answers) 0 release.pendingFrame = true := by
  rw [Bool.and_eq_true] at stays
  cases imported : release.dmabufImport with
  | none => simp [ReleaseState.stillActive, imported] at stays
  | some pair =>
      unfold PendingArrays.keeps
      rw [Bool.and_eq_true]
      exact ⟨stays.1, SourceRelease.stillActive_pendingFrame imported⟩

theorem released_releaseOne
    (state : ReleaseState)
    (entry : Fin nativeCanvasRingSize)
    (kept : List SourceRelease)
    (release : SourceRelease)
    (rest : List SourceRelease) :
    (state.releaseOne entry kept release rest).released = release.frame :: state.released := by
  unfold releaseOne
  rcases releaseImport_cases state release with ⟨-, same⟩ | ⟨idx, inode, -, -, idled⟩
  · rw [same]
    rfl
  · rw [idled]
    rfl

/-- The loop over the list of an entry keeps and releases what the loop over its arrays
does, when the comparisons yield what they yield for the textures. -/
theorem releaseLoop_eq_release
    (force : Bool)
    (entry : Fin nativeCanvasRingSize)
    (list : List SourceRelease)
    (kept : List SourceRelease)
    (state : ReleaseState)
    (cells : Nat → PendingRelease)
    (pending : state.pending entry = kept ++ list)
    (held : Compaction.front cells list.length = list.map SourceRelease.pendingFrame) :
    ∃ answers,
      ((releaseLoop force entry kept state list).pending entry).map SourceRelease.pendingFrame =
          kept.map SourceRelease.pendingFrame ++
            Compaction.survivors (PendingArrays.keeps force answers) cells list.length ∧
        (releaseLoop force entry kept state list).released.map some =
          ((Compaction.leavers (PendingArrays.keeps force answers) cells list.length).map
              PendingRelease.frame).reverse ++
            state.released.map some := by
  induction list generalizing kept state cells with
  | nil =>
      refine ⟨fun _ => false, ?_, rfl⟩
      rw [releaseLoop, pending]
      simp [Compaction.survivors]
  | cons release rest ih =>
      rw [List.length_cons, Compaction.front_cons, List.map_cons, List.cons.injEq] at held
      obtain ⟨head, tail⟩ := held
      by_cases stays : (!force && state.stillActive release) = true
      · have loop : releaseLoop force entry kept state (release :: rest) =
            releaseLoop force entry (kept ++ [release]) state rest := by
          rw [releaseLoop, if_pos stays]
        obtain ⟨answers, survivors, released⟩ :=
          ih (kept ++ [release]) state (fun i => cells (i + 1)) (by simp [pending]) tail
        have keep : PendingArrays.keeps force (answersFrom true answers) 0 (cells 0) = true := by
          rw [head]
          exact keeps_of_stays stays answers
        refine ⟨answersFrom true answers, ?_, ?_⟩
        · rw [loop, survivors, List.length_cons, Compaction.survivors_cons, if_pos keep, head,
            PendingArrays.keeps_answersFrom]
          simp
        · rw [loop, released, List.length_cons, Compaction.leavers_cons, if_pos keep,
            PendingArrays.keeps_answersFrom]
      · have loop : releaseLoop force entry kept state (release :: rest) =
            releaseLoop force entry kept (state.releaseOne entry kept release rest) rest := by
          rw [releaseLoop, if_neg stays]
          rfl
        obtain ⟨answers, survivors, released⟩ :=
          ih kept (state.releaseOne entry kept release rest) (fun i => cells (i + 1))
            (by simp [releaseOne]) tail
        have leaves := PendingArrays.keeps_answersFrom_false force answers (cells 0)
        refine ⟨answersFrom false answers, ?_, ?_⟩
        · rw [loop, survivors, List.length_cons, Compaction.survivors_cons, leaves,
            if_neg Bool.false_ne_true, PendingArrays.keeps_answersFrom]
        · rw [loop, released, List.length_cons, Compaction.leavers_cons, leaves,
            if_neg Bool.false_ne_true, head, released_releaseOne, PendingArrays.keeps_answersFrom]
          simp [SourceRelease.pendingFrame]

/-- A release of pending frames is one on arrays that hold them. -/
theorem releasePending_eq_release
    (force : Bool)
    (state : ReleaseState)
    (entry : Fin nativeCanvasRingSize)
    {arrays : PendingArrays}
    (tidy : arrays.Tidy)
    (held : arrays.records = (state.pending entry).map SourceRelease.pendingFrame) :
    ∃ answers,
      (arrays.release force answers).1.records =
          ((state.releasePending force entry).pending entry).map SourceRelease.pendingFrame ∧
        (state.releasePending force entry).released.map some =
          ((arrays.release force answers).2.map PendingRelease.frame).reverse ++
            state.released.map some := by
  have count : arrays.count.toNat = (state.pending entry).length := by
    have lengths := congrArg List.length held
    rwa [PendingArrays.records, Compaction.length_front, List.length_map] at lengths
  unfold PendingArrays.records at held
  rw [count] at held
  obtain ⟨answers, survivors, released⟩ :=
    releaseLoop_eq_release force entry (state.pending entry) [] state arrays.record rfl held
  have releases := PendingArrays.releases_release tidy force answers
  refine ⟨answers, ?_, ?_⟩
  · rw [releases.records, count]
    exact survivors.symm
  · rw [releases.released, count]
    exact released

end ReleaseState

/-! ## Runs -/

namespace PendingState

/-- The frames in the arrays of all entries. -/
def pending (state : PendingState) : Multiset PendingRelease :=
  ∑ entry, ((state.entries entry).records : Multiset PendingRelease)

/-- Every frame that was handed over was released once, from the arrays or at once, or is
in the arrays once, with its own slot and import. -/
structure Exact (state : PendingState) : Prop where
  accounted : (state.handed : Multiset PendingRelease) =
    (state.released : Multiset PendingRelease) + (state.dropped : Multiset PendingRelease) +
      state.pending
  tidy : ∀ entry, (state.entries entry).Tidy

theorem exact_init : init.Exact where
  accounted := by
    simp [init, pending, PendingArrays.zero, PendingArrays.records, Compaction.front]
  tidy := fun _ => PendingArrays.tidy_zero

/-- The frames of the arrays when those of one entry change. -/
theorem pending_update
    (state : PendingState)
    (entry : Fin nativeCanvasRingSize)
    (arrays : PendingArrays) :
    { state with entries := Function.update state.entries entry arrays }.pending +
        ((state.entries entry).records : Multiset PendingRelease) =
      state.pending + (arrays.records : Multiset PendingRelease) := by
  have updated : (fun other =>
      ((Function.update state.entries entry arrays other).records : Multiset PendingRelease)) =
      Function.update (fun other => ((state.entries other).records : Multiset PendingRelease))
        entry (arrays.records : Multiset PendingRelease) := by
    funext other
    by_cases same : other = entry
    · rw [same, Function.update_self, Function.update_self]
    · rw [Function.update_of_ne same, Function.update_of_ne same]
  unfold pending
  dsimp only
  rw [updated, Finset.sum_update_of_mem (Finset.mem_univ entry),
    Finset.sum_eq_add_sum_sdiff_singleton_of_mem (Finset.mem_univ entry)
      (fun other => ((state.entries other).records : Multiset PendingRelease))]
  abel

variable {state : PendingState}

/-- The arrays of one entry change to tidy ones. -/
theorem tidy_update
    {arrays : PendingArrays}
    (tidy : ∀ entry, (state.entries entry).Tidy)
    (entry : Fin nativeCanvasRingSize)
    (tidyArrays : arrays.Tidy)
    (other : Fin nativeCanvasRingSize) :
    (Function.update state.entries entry arrays other).Tidy := by
  by_cases same : other = entry
  · rw [same, Function.update_self]
    exact tidyArrays
  · rw [Function.update_of_ne same]
    exact tidy other

theorem Exact.releasePending
    (exact : state.Exact)
    (entryIdx : UInt32)
    (force : Bool)
    (answers : Nat → Bool) :
    (state.releasePending entryIdx force answers).Exact := by
  unfold PendingState.releasePending
  split
  next bound =>
    have releases := PendingArrays.releases_release (exact.tidy ⟨entryIdx.toNat, bound⟩) force
      answers
    constructor
    · have moved := state.pending_update ⟨entryIdx.toNat, bound⟩
        ((state.entries ⟨entryIdx.toNat, bound⟩).release force answers).1
      have split : ((state.entries ⟨entryIdx.toNat, bound⟩).records : Multiset PendingRelease) =
          (((state.entries ⟨entryIdx.toNat, bound⟩).release force answers).1.records :
              Multiset PendingRelease) +
            (((state.entries ⟨entryIdx.toNat, bound⟩).release force answers).2 :
              Multiset PendingRelease) := by
        rw [releases.records, releases.released, Multiset.coe_add]
        exact (Multiset.coe_eq_coe.mpr
          (Compaction.survivors_append_leavers_perm _ _ _)).symm
      rw [split, add_comm state.pending, add_left_comm, add_right_inj] at moved
      have accounted := exact.accounted
      rw [← moved] at accounted
      dsimp only
      rw [accounted, ← Multiset.coe_add]
      simp only [pending]
      abel
    · exact tidy_update exact.tidy _ releases.tidy
  next => exact exact

theorem Exact.attach
    (exact : state.Exact)
    (entryIdx : UInt32)
    (handed : HandedFrames)
    (answers : Nat → Bool) :
    (state.attach entryIdx handed answers).Exact := by
  unfold PendingState.attach
  dsimp only
  split
  next bound =>
    have released := exact.releasePending entryIdx false answers
    have same (frames : List PendingRelease) :
        ({ state with handed := state.handed ++ frames }.releasePending entryIdx false answers) =
          { state.releasePending entryIdx false answers with
            handed := (state.releasePending entryIdx false answers).handed ++ frames } := by
      unfold PendingState.releasePending
      rw [dif_pos bound, dif_pos bound]
    rw [same]
    generalize state.releasePending entryIdx false answers = after at released ⊢
    have appends := PendingArrays.appends_append (released.tidy ⟨entryIdx.toNat, bound⟩) handed
    constructor
    · have moved := after.pending_update ⟨entryIdx.toNat, bound⟩
        ((after.entries ⟨entryIdx.toNat, bound⟩).append handed).1
      have parts := List.take_append_drop
        (maxSourceTextures - (after.entries ⟨entryIdx.toNat, bound⟩).count.toNat)
        handed.records
      rw [appends.records, ← Multiset.coe_add, ← add_assoc, add_right_comm,
        add_left_inj] at moved
      have accounted := released.accounted
      dsimp only
      rw [← Multiset.coe_add, accounted, ← Multiset.coe_add, appends.dropped, ← parts,
        ← Multiset.coe_add]
      simp only [pending] at moved ⊢
      rw [moved, parts]
      abel
    · exact tidy_update released.tidy _ appends.tidy
  next =>
    refine ⟨?_, exact.tidy⟩
    dsimp only
    rw [← Multiset.coe_add, ← Multiset.coe_add, exact.accounted]
    simp only [pending]
    abel

theorem exact_after (calls : List PendingCall) : (after calls).Exact := by
  unfold after
  induction calls using List.reverseRecOn with
  | nil => exact exact_init
  | append_singleton calls call ih =>
      rw [List.foldl_append, List.foldl_cons, List.foldl_nil]
      cases call with
      | release entryIdx force answers => exact ih.releasePending entryIdx force answers
      | attach entryIdx handed answers => exact ih.attach entryIdx handed answers

@[simp] theorem handed_releasePending
    (state : PendingState)
    (entryIdx : UInt32)
    (force : Bool)
    (answers : Nat → Bool) :
    (state.releasePending entryIdx force answers).handed = state.handed := by
  unfold PendingState.releasePending
  split <;> rfl

theorem handed_call
    (state : PendingState)
    (call : PendingCall) :
    (state.call call).handed = state.handed ++ call.handed := by
  cases call with
  | release entryIdx force answers =>
      simp [PendingState.call, PendingCall.handed]
  | attach entryIdx handed answers =>
      simp only [PendingState.call, PendingCall.handed, PendingState.attach]
      split <;> simp

/-- The history of what was handed over is what the calls hand over. -/
theorem handed_after (calls : List PendingCall) :
    (after calls).handed = calls.flatMap PendingCall.handed := by
  unfold after
  induction calls using List.reverseRecOn with
  | nil => rfl
  | append_singleton calls call ih =>
      rw [List.foldl_append, List.foldl_cons, List.foldl_nil, handed_call, ih,
        List.flatMap_append, List.flatMap_singleton]

theorem handed_releaseAll (state : PendingState) : state.releaseAll.handed = state.handed := by
  unfold releaseAll
  induction List.range nativeCanvasRingSize generalizing state with
  | nil => rfl
  | cons i rest ih => rw [List.foldl_cons, ih, handed_releasePending]

theorem toNat_ofNat_entry (entry : Fin nativeCanvasRingSize) :
    (UInt32.ofNat entry.val).toNat = entry.val := by
  have small : entry.val < 16 := entry.isLt
  exact UInt32.toNat_ofNat_of_lt' (show entry.val < 4294967296 by omega)

theorem releasePending_ofNat
    (state : PendingState)
    (entry : Fin nativeCanvasRingSize)
    (force : Bool)
    (answers : Nat → Bool) :
    state.releasePending (UInt32.ofNat entry) force answers =
      { state with
        entries := Function.update state.entries entry
          ((state.entries entry).release force answers).1
        released := state.released ++ ((state.entries entry).release force answers).2 } := by
  unfold PendingState.releasePending
  simp only [toNat_ofNat_entry, dif_pos entry.isLt]

theorem attach_ofNat
    (state : PendingState)
    (entry : Fin nativeCanvasRingSize)
    (handed : HandedFrames)
    (answers : Nat → Bool) :
    ((state.attach (UInt32.ofNat entry) handed answers).entries entry).records =
      (((state.entries entry).release false answers).1.append handed).1.records := by
  unfold PendingState.attach
  simp only [toNat_ofNat_entry, dif_pos entry.isLt]
  rw [releasePending_ofNat]
  dsimp only
  rw [Function.update_self, Function.update_self]

/-- Releases that are forced keep nothing. -/
theorem exact_releaseAll
    (exact : state.Exact)
    (count : Nat)
    (few : count ≤ nativeCanvasRingSize) :
    let after := (List.range count).foldl
      (fun state i => state.releasePending (UInt32.ofNat i) true fun _ => false) state
    after.Exact ∧ ∀ entry, entry.val < count → (after.entries entry).records = [] := by
  induction count with
  | zero => exact ⟨exact, fun entry before => absurd before (Nat.not_lt_zero _)⟩
  | succ count ih =>
      obtain ⟨exactBefore, empty⟩ := ih (by omega)
      dsimp only
      rw [List.range_succ, List.foldl_append, List.foldl_cons, List.foldl_nil]
      generalize (List.range count).foldl (fun state i =>
        state.releasePending (UInt32.ofNat i) true fun _ => false) state = before
          at exactBefore empty ⊢
      refine ⟨exactBefore.releasePending _ _ _, fun entry less => ?_⟩
      have released := releasePending_ofNat before ⟨count, few⟩ true fun _ => false
      dsimp only at released
      rw [released]
      dsimp only
      by_cases same : entry = ⟨count, few⟩
      · rw [same, Function.update_self]
        refine (PendingArrays.releases_release (exactBefore.tidy _) _ _).records.trans ?_
        simp [Compaction.survivors, PendingArrays.keeps]
      · rw [Function.update_of_ne same]
        have apart : entry.val ≠ count := fun equal => same (Fin.ext equal)
        exact empty entry (by omega)

/-- A release that is not forced, also the one that an attachment begins with, keeps the
frames whose import is still active and no others, in their order. -/
structure KeepsActive (state : PendingState) : Prop where
  release : ∀ (entry : Fin nativeCanvasRingSize) (answers : Nat → Bool),
    ((state.releasePending (UInt32.ofNat entry) false answers).entries entry).records =
      ((List.range (state.entries entry).count.toNat).filter fun i =>
        ((state.entries entry).record i).stillActive (answers i)).map
          (state.entries entry).record
  attach : ∀ (entry : Fin nativeCanvasRingSize) (answers : Nat → Bool)
      (handed : HandedFrames),
    ∃ stored dropped, handed.records = stored ++ dropped ∧
      ((state.attach (UInt32.ofNat entry) handed answers).entries entry).records =
        ((List.range (state.entries entry).count.toNat).filter fun i =>
          ((state.entries entry).record i).stillActive (answers i)).map
            (state.entries entry).record ++ stored

theorem Exact.keepsActive
    (exact : state.Exact) :
    state.KeepsActive where
  release := by
    intro entry answers
    rw [releasePending_ofNat]
    dsimp only
    rw [Function.update_self]
    exact (PendingArrays.releases_release (exact.tidy entry) false answers).records
  attach := by
    intro entry answers handed
    have releases := PendingArrays.releases_release (exact.tidy entry) false answers
    have appends := PendingArrays.appends_append releases.tidy handed
    let room := maxSourceTextures - ((state.entries entry).release false answers).1.count.toNat
    refine ⟨_, _, (List.take_append_drop room handed.records).symm, ?_⟩
    rw [attach_ofNat, appends.records, releases.records]
    rfl

/-- Pending releases are exact, whatever is handed over and released in which order and
whatever imports are active: the history is the frames of the calls, and each of them was
released once or is pending once.  Once all are released, every frame of the calls was
released once. -/
theorem releases_exact (calls : List PendingCall) :
    (after calls).handed = calls.flatMap PendingCall.handed ∧
      (after calls).Exact ∧ (after calls).KeepsActive ∧
      (calls.flatMap PendingCall.handed : Multiset PendingRelease) =
        ((after calls).releaseAll.released : Multiset PendingRelease) +
          ((after calls).releaseAll.dropped : Multiset PendingRelease) := by
  have exact := exact_after calls
  obtain ⟨released, empty⟩ := exact_releaseAll exact nativeCanvasRingSize le_rfl
  refine ⟨handed_after calls, exact, exact.keepsActive, ?_⟩
  have accounted := released.accounted
  have none : (after calls).releaseAll.pending = 0 :=
    Finset.sum_eq_zero fun entry _ => congrArg _ (empty entry entry.isLt)
  change (((after calls).releaseAll.handed : List PendingRelease) : Multiset PendingRelease) =
    _ + (after calls).releaseAll.pending at accounted
  rw [none, add_zero, handed_releaseAll, handed_after] at accounted
  exact accounted

/-- Frames with the import of their own index in the cache of a slot. -/
def ofSlot
    (slot : UInt32)
    (frames : List (Option Nat))
    (few : frames.length + maxSourceTextures < 2 ^ 32) : HandedFrames where
  frames := frames
  slots := some fun _ => slot
  importIdxs := some fun i => Int32.ofNat i
  importInodes := none
  fits := few

/-- Two attachments to an entry, of which the second finds the import of frame 2 active,
one to an entry that the ring does not have, and a release that keeps frames 2 and 4. -/
def overlappingFrames : List PendingCall :=
  [.attach 3 (ofSlot 1 [some 1, some 2, none] (by decide)) fun _ => false,
    .attach 3 (ofSlot 4 [some 3, some 4] (by decide)) (· == 1),
    .attach 16 (ofSlot 1 [some 5] (by decide)) fun _ => true,
    .release 3 false (· != 1)]

theorem releases_exact_overlappingFrames :
    (after overlappingFrames).released.map PendingRelease.frame = [some 1, none, some 3] ∧
      (after overlappingFrames).dropped.map PendingRelease.frame = [some 5] ∧
      ((after overlappingFrames).entries 3).records.map PendingRelease.frame =
        [some 2, some 4] ∧
      ((after overlappingFrames).releaseAll.released ++
        (after overlappingFrames).releaseAll.dropped).Perm
          (overlappingFrames.flatMap PendingCall.handed) ∧
      (overlappingFrames.flatMap PendingCall.handed).map PendingRelease.frame =
        [some 1, some 2, none, some 3, some 4, some 5] := by
  obtain ⟨-, -, -, accounted⟩ := releases_exact overlappingFrames
  rw [Multiset.coe_add, Multiset.coe_eq_coe] at accounted
  exact ⟨by decide +kernel, by decide +kernel, by decide +kernel, accounted.symm,
    by decide +kernel⟩

end PendingState

end Engine
end SbsServer
