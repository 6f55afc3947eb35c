import SbsServer.Worker.ExportRing

/-!
# Which buffers are filled again in use

A buffer of the ring stays in its slot until the slot gets one of another size, so
an acquisition that keeps it meets the frames that were sent from it since.  The
history of a run is empty as long as the server is done with those frames by then,
and with the frame of a sample when the sample is returned.
-/

namespace SbsServer
namespace Worker

open CLib

namespace ExportRun

/-- The buffer of a frame: one of the ring stays in its slot until the slot gets another, one
of a memfd is in no slot, and one of a sample belongs to a pool. -/
def Placed
    (run : ExportRun)
    (frame : ExportedBuffer) : Prop :=
  match frame.origin with
  | .ring acquisition =>
      ∃ number < run.made, frame.buffer = .made number ∧ acquisition < run.acquired ∧
        ∀ slot : Fin cpuExportRingSize,
          (run.cpuExportRing slot).backing = some number ↔
            slot.val = acquisition % cpuExportRingSize ∧
              (run.cpuExportRing slot).since ≤ acquisition
  | .memfd =>
      ∃ number < run.made, frame.buffer = .made number ∧
        ∀ slot, (run.cpuExportRing slot).backing ≠ some number
  | .sample _ => ∃ number, frame.buffer = .pooled number

/-- What holds as long as no buffer in use was touched. -/
structure Sound (run : ExportRun) : Prop where
  counter : run.cpuExportRingIdx = UInt32.ofNat run.acquired
  made : ∀ slot number, (run.cpuExportRing slot).backing = some number → number < run.made
  apart : ∀ slot other number, (run.cpuExportRing slot).backing = some number →
    (run.cpuExportRing other).backing = some number → slot = other
  since : ∀ slot, (run.cpuExportRing slot).since ≤ run.acquired
  placed : ∀ frame ∈ run.inUse, run.Placed frame
  exported : ∀ frame, run.point = .exported frame → run.Placed frame
  /-- A sample is held until its frame is done with. -/
  samples : ∀ frame ∈ run.inUse, ∀ number, frame.origin = .sample number →
    run.point = .holding frame
  holding : ∀ frame, run.point = .holding frame → ∃ number, frame.buffer = .pooled number

variable {run after : ExportRun}

theorem nextSlot_val (sound : run.Sound) :
    run.nextSlot.val = run.acquired % cpuExportRingSize := by
  have divides : cpuExportRingSize ∣ 2 ^ 32 := by decide
  change run.cpuExportRingIdx.toNat % cpuExportRingSize = _
  rw [sound.counter]
  exact Nat.mod_mod_of_dvd _ divides

variable {frame : ExportedBuffer}

/-- A buffer stays where it is if slots get new buffers only. -/
theorem Placed.replace
    (placed : run.Placed frame)
    (made : run.made ≤ after.made)
    (acquired : run.acquired ≤ after.acquired)
    (ring : ∀ slot, after.cpuExportRing slot = run.cpuExportRing slot ∨
      (∀ number, (after.cpuExportRing slot).backing = some number → run.made ≤ number) ∧
        (after.cpuExportRing slot).since = run.acquired) :
    after.Placed frame := by
  unfold Placed at placed ⊢
  cases origin : frame.origin with
  | ring acquisition =>
      rw [origin] at placed
      obtain ⟨number, isMade, buffer, before, stays⟩ := placed
      refine ⟨number, isMade.trans_le made, buffer, before.trans_le acquired, fun slot => ?_⟩
      rcases ring slot with same | ⟨new, since⟩
      · rw [same]
        exact stays slot
      · constructor
        · intro backing
          exact absurd (new number backing) (not_le.mpr isMade)
        · rintro ⟨_, early⟩
          rw [since] at early
          exact absurd before (not_lt.mpr early)
  | memfd =>
      rw [origin] at placed
      obtain ⟨number, isMade, buffer, outside⟩ := placed
      refine ⟨number, isMade.trans_le made, buffer, fun slot backing => ?_⟩
      rcases ring slot with same | ⟨new, _⟩
      · rw [same] at backing
        exact outside slot backing
      · exact absurd (new number backing) (not_le.mpr isMade)
  | sample number =>
      rw [origin] at placed
      exact placed

/-- An acquisition keeps the invariant if only the next slot gets a buffer, and a new one. -/
theorem Sound.acquire
    (sound : run.Sound)
    (counter : after.cpuExportRingIdx = run.cpuExportRingIdx + 1)
    (acquired : after.acquired = run.acquired + 1)
    (made : run.made ≤ after.made)
    (ring : ∀ slot, after.cpuExportRing slot = run.cpuExportRing slot ∨
      slot = run.nextSlot ∧
        (∀ number, (after.cpuExportRing slot).backing = some number →
          run.made ≤ number ∧ number < after.made) ∧
        (after.cpuExportRing slot).since = run.acquired)
    (idle : run.point = .idle)
    (point : after.point = .idle)
    (inUse : after.inUse = run.inUse) :
    after.Sound where
  counter := by
    rw [counter, acquired, sound.counter, UInt32.ofNat_add]
    rfl
  made slot number backing := by
    rcases ring slot with same | ⟨_, new, _⟩
    · rw [same] at backing
      exact (sound.made slot number backing).trans_le made
    · exact (new number backing).2
  apart slot other number backing otherBacking := by
    rcases ring slot with same | ⟨isNext, new, _⟩
    · rw [same] at backing
      rcases ring other with otherSame | ⟨_, otherNew, _⟩
      · rw [otherSame] at otherBacking
        exact sound.apart slot other number backing otherBacking
      · have old := sound.made slot number backing
        exact absurd (otherNew number otherBacking).1 (not_le.mpr old)
    · rcases ring other with otherSame | ⟨otherIsNext, _, _⟩
      · rw [otherSame] at otherBacking
        have old := sound.made other number otherBacking
        exact absurd (new number backing).1 (not_le.mpr old)
      · rw [isNext, otherIsNext]
  since slot := by
    rw [acquired]
    rcases ring slot with same | ⟨_, _, since⟩
    · rw [same]
      exact (sound.since slot).trans (Nat.le_succ _)
    · rw [since]
      exact Nat.le_succ _
  placed frame used := by
    rw [inUse] at used
    refine (sound.placed frame used).replace made (by omega) fun slot => ?_
    rcases ring slot with same | ⟨_, new, since⟩
    · exact .inl same
    · exact .inr ⟨fun number backing => (new number backing).1, since⟩
  exported frame isExported := by
    rw [point] at isExported
    cases isExported
  samples frame used number origin := by
    rw [inUse] at used
    have held := sound.samples frame used number origin
    rw [idle] at held
    cases held
  holding frame isHeld := by
    rw [point] at isHeld
    cases isHeld

/-- What an acquisition does: it keeps the buffer of its slot, makes another one or fails. -/
inductive Acquires
    (run : ExportRun)
    (size : Nat)
    (dups : Bool) : Option Nat × ExportRun → Prop where
  | keeps
      {number : Nat}
      (backing : (run.cpuExportRing run.nextSlot).backing = some number)
      (same : (run.cpuExportRing run.nextSlot).size = size) :
      Acquires run size dups (if dups then some number else none, run.count)
  | makes
      (replaced : (run.cpuExportRing run.nextSlot).size = size →
        (run.cpuExportRing run.nextSlot).backing = none) :
      Acquires run size dups
        (if dups then some run.made else none, (run.makeBacking size).count)
  | fails
      (replaced : (run.cpuExportRing run.nextSlot).size = size →
        (run.cpuExportRing run.nextSlot).backing = none)
      {kept : Nat} :
      Acquires run size dups (none, (run.setSlot none kept).count)

theorem acquires
    (run : ExportRun)
    (size : Nat)
    (answers : SlotAnswers) :
    run.Acquires size answers.dups (run.acquireCpuExportSlot size answers) := by
  unfold acquireCpuExportSlot
  dsimp only
  split
  next number kept =>
    split at kept
    next same => exact .keeps kept same
    next => cases kept
  next kept =>
    have replaced : (run.cpuExportRing run.nextSlot).size = size →
        (run.cpuExportRing run.nextSlot).backing = none := by
      intro same
      rwa [if_pos same] at kept
    split
    next => exact .makes replaced
    next => exact .fails replaced

variable {size : Nat}

/-- After an acquisition the invariant holds, and the buffer that it gives is in its slot. -/
theorem Sound.acquired
    (sound : run.Sound)
    (idle : run.point = .idle)
    {dups : Bool}
    {result : Option Nat × ExportRun}
    (acquires : run.Acquires size dups result) :
    result.2.Sound ∧ ∀ number, result.1 = some number →
      result.2.Placed ⟨.made number, .ring run.acquired⟩ := by
  cases acquires with
  | @keeps kept backing same =>
      have after : run.count.Sound :=
        sound.acquire rfl rfl (Nat.le_refl _) (fun _ => .inl rfl) idle idle rfl
      refine ⟨after, fun number given => ?_⟩
      dsimp only at given
      split at given
      next =>
        cases given
        refine ⟨kept, sound.made _ _ backing, rfl, Nat.lt_succ_self _, fun slot => ?_⟩
        constructor
        · intro there
          rw [sound.apart slot run.nextSlot kept there backing]
          exact ⟨nextSlot_val sound, sound.since _⟩
        · rintro ⟨isNext, _⟩
          rw [Fin.ext (isNext.trans (nextSlot_val sound).symm)]
          exact backing
      next => cases given
  | makes replaced =>
      have ring (slot : Fin cpuExportRingSize) :
          (run.makeBacking size).count.cpuExportRing slot = run.cpuExportRing slot ∨
            slot = run.nextSlot ∧
              (run.makeBacking size).count.cpuExportRing slot =
                ⟨some run.made, size, run.acquired⟩ := by
        by_cases isNext : slot = run.nextSlot
        · rw [isNext]
          exact .inr ⟨rfl, Function.update_self _ _ _⟩
        · exact .inl (Function.update_of_ne isNext _ _)
      have after : (run.makeBacking size).count.Sound := by
        refine sound.acquire rfl rfl (Nat.le_succ _) (fun slot => ?_) idle idle rfl
        rcases ring slot with same | ⟨isNext, new⟩
        · exact .inl same
        · refine .inr ⟨isNext, fun number backing => ?_, by rw [new]⟩
          rw [new] at backing
          cases backing
          exact ⟨Nat.le_refl _, Nat.lt_succ_self _⟩
      refine ⟨after, fun number given => ?_⟩
      dsimp only at given
      split at given
      next =>
        cases given
        refine ⟨run.made, Nat.lt_succ_self _, rfl, Nat.lt_succ_self _, fun slot => ?_⟩
        rcases ring slot with same | ⟨isNext, new⟩
        · rw [same]
          constructor
          · intro backing
            exact absurd (sound.made slot _ backing) (lt_irrefl _)
          · rintro ⟨isNext, _⟩
            have next := Fin.ext (isNext.trans (nextSlot_val sound).symm)
            rw [next] at same
            have new : (run.makeBacking size).count.cpuExportRing run.nextSlot =
                ⟨some run.made, size, run.acquired⟩ := Function.update_self _ _ _
            rw [next, ← same, new]
        · rw [new, isNext]
          exact iff_of_true rfl ⟨nextSlot_val sound, Nat.le_refl _⟩
      next => cases given
  | @fails replaced kept =>
      refine ⟨?_, fun number given => by cases given⟩
      refine sound.acquire rfl rfl (Nat.le_refl _) (fun slot => ?_) idle idle rfl
      by_cases isNext : slot = run.nextSlot
      · rw [isNext]
        have new : (run.setSlot none kept).count.cpuExportRing run.nextSlot =
            ⟨none, kept, run.acquired⟩ := Function.update_self _ _ _
        refine .inr ⟨rfl, fun number backing => ?_, by rw [new]⟩
        rw [new] at backing
        cases backing
      · exact .inl (Function.update_of_ne isNext _ _)

/-! ## What is touched -/

/-- Nothing in use is touched exactly if no frame in use has the buffer. -/
theorem overwritten_touch
    (run : ExportRun)
    (buffer : FrameBuffer) :
    (run.touch buffer).overwritten = run.overwritten ↔
      ∀ frame ∈ run.inUse, frame.buffer ≠ buffer := by
  unfold touch
  dsimp only
  rw [List.append_right_eq_self, List.filter_eq_nil_iff]
  simp only [decide_eq_true_eq, ne_eq]

/-- An acquisition comes too early for the frames whose buffer it keeps. -/
theorem tooEarlyFor_exportFrame_iff
    (sound : run.Sound)
    {answers : SlotAnswers}
    {creates : Bool}
    (used : frame ∈ run.inUse) :
    run.tooEarlyFor (.exportFrame size answers creates) frame = true ↔
      run.dmabufAvailable = true ∧ answers.dups = true ∧
        (run.cpuExportRing run.nextSlot).size = size ∧
        ∃ number, (run.cpuExportRing run.nextSlot).backing = some number ∧
          frame.buffer = .made number := by
  have placed := sound.placed frame used
  unfold Placed at placed
  unfold tooEarlyFor
  cases origin : frame.origin with
  | ring acquisition =>
      rw [origin] at placed
      obtain ⟨number, _, buffer, _, stays⟩ := placed
      have there := stays run.nextSlot
      rw [nextSlot_val sound] at there
      simp only [Bool.and_eq_true, decide_eq_true_eq]
      constructor
      · rintro ⟨⟨⟨⟨available, dups⟩, slot⟩, same⟩, since⟩
        exact ⟨available, dups, same, number, there.mpr ⟨slot.symm, since⟩, buffer⟩
      · rintro ⟨available, dups, same, other, backing, isOther⟩
        have equal : number = other := FrameBuffer.made.inj (buffer.symm.trans isOther)
        obtain ⟨slot, since⟩ := there.mp (equal ▸ backing)
        exact ⟨⟨⟨⟨available, dups⟩, slot.symm⟩, same⟩, since⟩
  | memfd =>
      rw [origin] at placed
      obtain ⟨number, _, buffer, outside⟩ := placed
      refine iff_of_false Bool.false_ne_true ?_
      rintro ⟨_, _, _, other, backing, isOther⟩
      have equal : number = other := FrameBuffer.made.inj (buffer.symm.trans isOther)
      exact outside run.nextSlot (equal ▸ backing)
  | sample number =>
      rw [origin] at placed
      obtain ⟨pooled, buffer⟩ := placed
      refine iff_of_false Bool.false_ne_true ?_
      rintro ⟨_, _, _, other, _, isOther⟩
      rw [buffer] at isOther
      cases isOther

/-- What an event leaves: the invariant if it comes in time, and then nothing more is touched;
otherwise something is. -/
structure Leaves
    (run : ExportRun)
    (event : ExportEvent)
    (after : ExportRun) : Prop where
  sound : run.DoneInTime event → after.Sound
  touched : after.overwritten = run.overwritten ↔ run.DoneInTime event

variable {event : ExportEvent}

/-- An event that no frame in use can be too early for. -/
theorem doneInTime_of_quiet
    (quiet : ∀ frame, run.tooEarlyFor event frame = false) :
    run.DoneInTime event :=
  fun frame _ => quiet frame

/-- An event that touches no buffer. -/
theorem Leaves.of_quiet
    (sound : after.Sound)
    (same : after.overwritten = run.overwritten)
    (quiet : ∀ frame, run.tooEarlyFor event frame = false) :
    run.Leaves event after where
  sound _ := sound
  touched := iff_of_true same (doneInTime_of_quiet quiet)

theorem Sound.exportMemfd
    (sound : run.Sound)
    (idle : run.point = .idle)
    (creates : Bool) :
    (run.exportMemfd creates).Sound := by
  unfold ExportRun.exportMemfd
  split
  next =>
    have kept : ∀ frame : ExportedBuffer, run.Placed frame →
        Placed { run with
          made := run.made + 1
          point := .exported ⟨.made run.made, .memfd⟩ } frame := fun frame placed =>
      placed.replace (Nat.le_succ _) (Nat.le_refl _) fun _ => .inl rfl
    refine ⟨sound.counter, fun slot number backing => ?_, sound.apart, sound.since,
      fun frame used => kept frame (sound.placed frame used), ?_, ?_, ?_⟩
    · exact (sound.made slot number backing).trans (Nat.lt_succ_self _)
    · intro frame isExported
      cases isExported
      refine ⟨run.made, Nat.lt_succ_self _, rfl, fun slot backing => ?_⟩
      exact lt_irrefl _ (sound.made slot _ backing)
    · intro frame used number origin
      have held := sound.samples frame used number origin
      rw [idle] at held
      cases held
    · intro frame isHeld
      cases isHeld
  next => exact sound

theorem overwritten_exportMemfd
    (run : ExportRun)
    (creates : Bool) :
    (run.exportMemfd creates).overwritten = run.overwritten := by
  unfold exportMemfd
  split
  next => rfl
  next => rfl

/-- The history does not matter to the invariant. -/
theorem Sound.exports
    (sound : run.Sound)
    (idle : run.point = .idle)
    (placed : run.Placed frame)
    (overwritten : List ExportedBuffer) :
    Sound { run with overwritten := overwritten, point := .exported frame } := by
  refine ⟨sound.counter, sound.made, sound.apart, sound.since, sound.placed, ?_, ?_, ?_⟩
  · intro other isExported
    cases isExported
    exact placed
  · intro other used number origin
    have held := sound.samples other used number origin
    rw [idle] at held
    cases held
  · intro other isHeld
    cases isHeld

/-- What an acquisition leaves alone. -/
theorem Acquires.unchanged
    {dups : Bool}
    {result : Option Nat × ExportRun}
    (acquires : run.Acquires size dups result) :
    result.2.inUse = run.inUse ∧ result.2.overwritten = run.overwritten ∧
      result.2.point = run.point := by
  cases acquires with
  | keeps => exact ⟨rfl, rfl, rfl⟩
  | makes => exact ⟨rfl, rfl, rfl⟩
  | fails => exact ⟨rfl, rfl, rfl⟩

/-- The frames whose buffer an acquisition gives are those that it comes too early for. -/
theorem Acquires.touches_iff
    (sound : run.Sound)
    (available : run.dmabufAvailable = true)
    {size : Nat}
    {answers : SlotAnswers}
    {creates : Bool}
    {result : Option Nat × ExportRun}
    (acquires : run.Acquires size answers.dups result)
    {frame : ExportedBuffer}
    (used : frame ∈ run.inUse) :
    run.tooEarlyFor (.exportFrame size answers creates) frame = true ↔
      ∃ number, result.1 = some number ∧ frame.buffer = .made number := by
  rw [tooEarlyFor_exportFrame_iff sound used]
  cases acquires with
  | @keeps number backing same =>
      constructor
      · rintro ⟨_, dups, _, other, isOther, buffer⟩
        refine ⟨other, ?_, buffer⟩
        dsimp only
        rw [if_pos dups, ← backing, isOther]
      · rintro ⟨other, given, buffer⟩
        dsimp only at given
        split at given
        next dups =>
          cases given
          exact ⟨available, dups, same, number, backing, buffer⟩
        next => cases given
  | makes replaced =>
      refine iff_of_false ?_ ?_
      · rintro ⟨_, _, same, other, backing, _⟩
        rw [replaced same] at backing
        cases backing
      · rintro ⟨other, given, buffer⟩
        dsimp only at given
        split at given
        next =>
          cases given
          have placed := sound.placed frame used
          unfold Placed at placed
          cases origin : frame.origin with
          | ring acquisition =>
              rw [origin] at placed
              obtain ⟨number, isMade, isNumber, _⟩ := placed
              rw [buffer] at isNumber
              cases isNumber
              exact lt_irrefl _ isMade
          | memfd =>
              rw [origin] at placed
              obtain ⟨number, isMade, isNumber, _⟩ := placed
              rw [buffer] at isNumber
              cases isNumber
              exact lt_irrefl _ isMade
          | sample =>
              rw [origin] at placed
              obtain ⟨number, isNumber⟩ := placed
              rw [buffer] at isNumber
              cases isNumber
        next => cases given
  | fails replaced =>
      refine iff_of_false ?_ ?_
      · rintro ⟨_, _, same, other, backing, _⟩
        rw [replaced same] at backing
        cases backing
      · rintro ⟨other, given, _⟩
        cases given

section

variable (sound : run.Sound)
include sound

theorem leaves_exportFrame
    (idle : run.point = .idle)
    (size : Nat)
    (answers : SlotAnswers)
    (creates : Bool) :
    run.Leaves (.exportFrame size answers creates) (run.exportFrame size answers creates) := by
  unfold exportFrame
  split
  next available =>
    have acquired := run.acquires size answers
    have early := fun frame used =>
      @Acquires.touches_iff run sound available size answers creates _ acquired frame used
    obtain ⟨inUse, overwritten, point⟩ := acquired.unchanged
    obtain ⟨kept, placed⟩ := sound.acquired idle acquired
    rw [idle] at point
    generalize run.acquireCpuExportSlot size answers = result at *
    obtain ⟨given, next⟩ := result
    dsimp only at early inUse overwritten point kept placed
    cases given with
    | none =>
        have inTime : run.DoneInTime (.exportFrame size answers creates) := by
          intro frame used
          rw [← Bool.not_eq_true, early frame used]
          rintro ⟨_, given, _⟩
          cases given
        have same := (next.overwritten_exportMemfd creates).trans overwritten
        exact ⟨fun _ => kept.exportMemfd point creates, iff_of_true same inTime⟩
    | some number =>
        refine ⟨fun _ => kept.exports point (placed number rfl) _, ?_⟩
        have touched := next.overwritten_touch (.made number)
        rw [overwritten, inUse] at touched
        refine touched.trans (forall₂_congr fun frame used => ?_)
        rw [← Bool.not_eq_true, early frame used]
        constructor
        · rintro other ⟨_, given, buffer⟩
          cases given
          exact other buffer
        · intro other buffer
          exact other ⟨number, rfl, buffer⟩
  next unavailable =>
    refine .of_quiet (sound.exportMemfd idle creates) (run.overwritten_exportMemfd creates) ?_
    intro frame
    unfold tooEarlyFor
    rw [Bool.not_eq_true] at unavailable
    cases frame.origin with
    | ring =>
        dsimp only
        rw [unavailable, Bool.false_and, Bool.false_and, Bool.false_and, Bool.false_and]
    | memfd => rfl
    | sample => rfl

/-- No sample is in use while no sample is held. -/
theorem Sound.not_sample
    (unheld : ∀ frame, run.point ≠ .holding frame)
    (used : frame ∈ run.inUse)
    {number : Nat} :
    frame.origin ≠ .sample number :=
  fun origin => unheld frame (sound.samples frame used number origin)

/-- The server keeps no more frames than before. -/
theorem Sound.fewer
    {socket held reads : List ExportedBuffer}
    (fewer : ∀ frame ∈ socket ++ (held ++ reads), frame ∈ run.inUse) :
    Sound { run with socket := socket, held := held, reads := reads } where
  counter := sound.counter
  made := sound.made
  apart := sound.apart
  since := sound.since
  placed frame used := sound.placed frame (fewer frame used)
  exported := sound.exported
  samples frame used := sound.samples frame (fewer frame used)
  holding := sound.holding

theorem leaves_pullSample
    (idle : run.point = .idle)
    (number : Nat)
    (dups : Bool) :
    run.Leaves (.pullSample number dups) { run with
      sampled := run.sampled + 1
      point := if dups then .exported ⟨.pooled number, .sample run.sampled⟩
        else .holding ⟨.pooled number, .sample run.sampled⟩ } := by
  have unheld : ∀ frame, run.point ≠ .holding frame := by
    intro frame isHeld
    rw [idle] at isHeld
    cases isHeld
  refine .of_quiet ?_ rfl fun _ => rfl
  refine ⟨sound.counter, sound.made, sound.apart, sound.since, sound.placed, ?_, ?_, ?_⟩
  · intro frame isExported
    cases dups with
    | true =>
        cases isExported
        exact ⟨number, rfl⟩
    | false => cases isExported
  · intro frame used other origin
    exact absurd origin (sound.not_sample unheld used)
  · intro frame isHeld
    cases dups with
    | true => cases isHeld
    | false =>
        cases isHeld
        exact ⟨number, rfl⟩

theorem leaves_skip
    (exported : run.point = .exported frame) :
    run.Leaves .skip { run with point := .idle } := by
  have unheld : ∀ frame, run.point ≠ .holding frame := by
    intro frame isHeld
    rw [exported] at isHeld
    cases isHeld
  refine .of_quiet ?_ rfl fun _ => rfl
  refine ⟨sound.counter, sound.made, sound.apart, sound.since, sound.placed, ?_, ?_, ?_⟩
  · intro frame isExported
    cases isExported
  · intro frame used number origin
    exact absurd origin (sound.not_sample unheld used)
  · intro frame isHeld
    cases isHeld

theorem leaves_send
    (exported : run.point = .exported frame)
    (sent : Bool) :
    run.Leaves (.send sent) { run with
      socket := if sent then run.socket ++ [frame] else run.socket
      point := afterSend frame } := by
  have unheld : ∀ frame, run.point ≠ .holding frame := by
    intro frame isHeld
    rw [exported] at isHeld
    cases isHeld
  have placed := sound.exported frame exported
  have one : ∀ other ∈ (if sent then run.socket ++ [frame] else run.socket) ++
      (run.held ++ run.reads), other ∈ run.inUse ∨ other = frame := by
    intro other used
    rcases List.mem_append.mp used with used | used
    · split at used
      · rcases List.mem_append.mp used with used | used
        · exact .inl (List.mem_append_left _ used)
        · exact .inr (List.mem_singleton.mp used)
      · exact .inl (List.mem_append_left _ used)
    · exact .inl (List.mem_append_right _ used)
  refine .of_quiet ?_ rfl fun _ => rfl
  refine ⟨sound.counter, sound.made, sound.apart, sound.since, ?_, ?_, ?_, ?_⟩
  · intro other used
    rcases one other used with used | rfl
    · exact sound.placed other used
    · exact placed
  · intro other isExported
    unfold afterSend at isExported
    cases origin : frame.origin <;> rw [origin] at isExported <;> cases isExported
  · intro other used number origin
    rcases one other used with used | rfl
    · exact absurd origin (sound.not_sample unheld used)
    · dsimp only [afterSend]
      rw [origin]
  · intro other isHeld
    unfold afterSend at isHeld
    unfold Placed at placed
    cases origin : frame.origin with
    | ring => rw [origin] at isHeld; cases isHeld
    | memfd => rw [origin] at isHeld; cases isHeld
    | sample =>
        rw [origin] at isHeld placed
        cases isHeld
        exact placed

theorem leaves_unref
    (held : run.point = .holding frame) :
    run.Leaves .unref { run.touch frame.buffer with point := .idle } where
  sound inTime := by
    refine ⟨sound.counter, sound.made, sound.apart, sound.since, sound.placed, ?_, ?_, ?_⟩
    · intro other isExported
      cases isExported
    · intro other used number origin
      have early := inTime other used
      unfold tooEarlyFor at early
      rw [origin] at early
      cases early
    · intro other isHeld
      cases isHeld
  touched := by
    refine (run.overwritten_touch frame.buffer).trans (forall₂_congr fun other used => ?_)
    obtain ⟨number, pooled⟩ := sound.holding frame held
    have placed := sound.placed other used
    unfold Placed at placed
    unfold tooEarlyFor
    cases origin : other.origin with
    | ring =>
        rw [origin] at placed
        obtain ⟨made, _, buffer, _⟩ := placed
        refine iff_of_true ?_ rfl
        rw [buffer, pooled]
        intro same
        cases same
    | memfd =>
        rw [origin] at placed
        obtain ⟨made, _, buffer, _⟩ := placed
        refine iff_of_true ?_ rfl
        rw [buffer, pooled]
        intro same
        cases same
    | sample sampled =>
        have isHeld := sound.samples other used sampled origin
        rw [held] at isHeld
        cases isHeld
        exact iff_of_false (fun different => different rfl) (fun early => by cases early)

/-- Every event. -/
theorem leaves_next
    (stepped : run.next event = some after) :
    run.Leaves event after := by
  cases event with
  | exportFrame size answers creates =>
      rw [next] at stepped
      split at stepped
      next idle =>
        cases stepped
        exact leaves_exportFrame sound idle size answers creates
      next => cases stepped
  | pullSample number dups =>
      rw [next] at stepped
      split at stepped
      next idle =>
        cases stepped
        exact leaves_pullSample sound idle number dups
      next => cases stepped
  | skip =>
      rw [next] at stepped
      split at stepped
      next point =>
        cases stepped
        exact leaves_skip sound point
      next point =>
        cases stepped
        exact leaves_skip sound point
      next => cases stepped
  | send sent =>
      rw [next] at stepped
      split at stepped
      next frame exported =>
        cases stepped
        exact leaves_send sound exported sent
      next => cases stepped
  | unref =>
      rw [next] at stepped
      split at stepped
      next frame held =>
        cases stepped
        exact leaves_unref sound held
      next => cases stepped
  | receive =>
      rw [next] at stepped
      split at stepped
      next frame rest socket =>
        cases stepped
        refine .of_quiet (sound.fewer fun other used => ?_) rfl fun _ => rfl
        unfold inUse
        rw [socket]
        simp only [List.mem_append, List.mem_cons, List.not_mem_nil, or_false] at used ⊢
        tauto
      next => cases stepped
  | drop index =>
      rw [next] at stepped
      split at stepped
      next =>
        cases stepped
        refine .of_quiet (sound.fewer fun other used => ?_) rfl fun _ => rfl
        unfold inUse
        simp only [List.mem_append] at used ⊢
        exact used.imp id (Or.imp List.mem_of_mem_eraseIdx id)
      next => cases stepped
  | render index =>
      rw [next] at stepped
      obtain ⟨frame, isHeld, rfl⟩ := Option.map_eq_some_iff.mp stepped
      have present := List.mem_of_getElem? isHeld
      refine .of_quiet (sound.fewer fun other used => ?_) rfl fun _ => rfl
      unfold inUse
      simp only [List.mem_append, List.mem_singleton] at used ⊢
      rcases used with used | used | used | rfl
      · exact .inl used
      · exact .inr (.inl used)
      · exact .inr (.inr used)
      · exact .inr (.inl present)
  | signal index =>
      rw [next] at stepped
      split at stepped
      next =>
        cases stepped
        refine .of_quiet (sound.fewer fun other used => ?_) rfl fun _ => rfl
        unfold inUse
        simp only [List.mem_append] at used ⊢
        exact used.imp id (Or.imp id List.mem_of_mem_eraseIdx)
      next => cases stepped

end

/-! ## Runs -/

theorem sound_start (dmabufAvailable : Bool) : (start dmabufAvailable).Sound where
  counter := rfl
  made _ _ backing := by cases backing
  apart _ _ _ backing := by cases backing
  since _ := Nat.le_refl _
  placed _ used := by cases used
  exported _ isExported := by cases isExported
  samples _ used := by cases used
  holding _ isHeld := by cases isHeld

/-- In the runs whose events come in time. -/
theorem sound_of_reachableWhen
    (reachable : exportSystem.ReachableWhen DoneInTime run) :
    run.Sound ∧ run.overwritten = [] := by
  refine @System.ReachableWhen.invariant _ _ exportSystem _
    (fun run => run.Sound ∧ run.overwritten = []) ?_ ?_ _ reachable
  · rintro _ ⟨dmabufAvailable, rfl⟩
    exact ⟨sound_start dmabufAvailable, rfl⟩
  · rintro run event after ⟨sound, nothing⟩ inTime stepped
    have leaves := leaves_next sound stepped
    exact ⟨leaves.sound inTime, (leaves.touched.mpr inTime).trans nothing⟩

/-- What was touched is not forgotten. -/
theorem overwritten_next
    (stepped : run.next event = some after) :
    run.overwritten <+: after.overwritten := by
  cases event with
  | exportFrame size answers creates =>
      rw [next] at stepped
      split at stepped
      next =>
        cases stepped
        unfold exportFrame
        split
        next =>
          have kept := (run.acquires size answers).unchanged.2.1
          split
          next given taken result =>
            rw [result] at kept
            dsimp only at kept
            rw [← kept]
            exact List.prefix_append _ _
          next taken result =>
            rw [result] at kept
            rw [overwritten_exportMemfd, kept]
        next => rw [overwritten_exportMemfd]
      next => cases stepped
  | unref =>
      rw [next] at stepped
      split at stepped
      next =>
        cases stepped
        exact List.prefix_append _ _
      next => cases stepped
  | skip =>
      rw [next] at stepped
      split at stepped
      next =>
        cases stepped
        exact List.prefix_rfl
      next =>
        cases stepped
        exact List.prefix_rfl
      next => cases stepped
  | render index =>
      rw [next] at stepped
      obtain ⟨_, _, rfl⟩ := Option.map_eq_some_iff.mp stepped
      exact List.prefix_rfl
  | pullSample | send | receive | drop | signal =>
      rw [next] at stepped
      split at stepped
      next =>
        cases stepped
        exact List.prefix_rfl
      next => cases stepped

/-- No buffer is filled again or returned to its producer while the server uses a frame in it
exactly in the runs in which the server is done with every frame in time. -/
theorem untouched_iff_doneInTime
    (reachable : exportSystem.Reachable run) :
    run.overwritten = [] ↔ exportSystem.ReachableWhen DoneInTime run := by
  refine ⟨fun nothing => ?_, fun inTime => (sound_of_reachableWhen inTime).2⟩
  induction reachable with
  | initial starts => exact .initial starts
  | step _ _ stepped ih =>
      have grows := overwritten_next stepped
      rw [nothing] at grows
      have before := List.prefix_nil.mp grows
      have inTime := ih before
      have leaves := leaves_next (sound_of_reachableWhen inTime).1 stepped
      exact .step inTime (leaves.touched.mp (nothing.trans before.symm)) stepped

/-- Nine frames of a size, each of which the server renders and drops before the next. -/
def promptRun : List ExportEvent :=
  (List.replicate 9 [.exportFrame 4 ⟨true, true, true⟩ true, .send true, .receive, .render 0,
    .signal 0, .drop 0]).flatten

theorem promptRun_untouched :
    ∃ run, exportSystem.Reachable run ∧ run.acquired = 9 ∧ run.overwritten = [] := by
  have computed : (System.run (System.guarded DoneInTime next) (start true) promptRun).map
      acquired = some 9 := by
    decide +kernel
  obtain ⟨run, runs, nine⟩ := Option.map_eq_some_iff.mp computed
  have inTime : exportSystem.ReachableWhen DoneInTime run :=
    System.reachableWhen_of_run (.initial ⟨true, rfl⟩) runs
  have reachable : exportSystem.Reachable run :=
    inTime.invariant (fun _ starts => .initial starts)
      fun _ _ _ reached _ stepped => .step reached trivial stepped
  exact ⟨run, reachable, nine, (untouched_iff_doneInTime reachable).mpr inTime⟩

/-- Eight frames, the first of which the server has received and not dropped when the ninth
is exported. -/
def overtakingRun : List ExportEvent :=
  [.exportFrame 4 ⟨true, true, true⟩ true, .send true, .receive] ++
    (List.replicate 7 [.exportFrame 4 ⟨true, true, true⟩ true, .send true]).flatten ++
    [.exportFrame 4 ⟨true, true, true⟩ true]

/-- A sample that is returned while a render reads it. -/
def returningRun : List ExportEvent :=
  [.pullSample 0 true, .send true, .receive, .render 0, .unref]

/-- A buffer of the ring is filled again while the server has its frame, and one of a decoder
is returned while a render reads it. -/
theorem touches_buffers_in_use :
    (∃ run frame, exportSystem.Reachable run ∧ frame ∈ run.held ∧ frame ∈ run.overwritten ∧
        frame.buffer = .made 0) ∧
      ∃ run frame, exportSystem.Reachable run ∧ frame ∈ run.reads ∧ frame ∈ run.overwritten ∧
        frame.buffer = .pooled 0 := by
  have ring : (System.run next (start true) overtakingRun).map
      (fun run => (run.held, run.overwritten)) =
        some ([⟨.made 0, .ring 0⟩], [⟨.made 0, .ring 0⟩]) := by
    decide +kernel
  have sample : (System.run next (start true) returningRun).map
      (fun run => (run.reads, run.overwritten)) =
        some ([⟨.pooled 0, .sample 0⟩], [⟨.pooled 0, .sample 0⟩, ⟨.pooled 0, .sample 0⟩]) := by
    decide +kernel
  obtain ⟨filled, fills, both⟩ := Option.map_eq_some_iff.mp ring
  obtain ⟨returned, returns, two⟩ := Option.map_eq_some_iff.mp sample
  have isHeld := congrArg Prod.fst both
  have isFilled := congrArg Prod.snd both
  have isRead := congrArg Prod.fst two
  have isReturned := congrArg Prod.snd two
  dsimp only at isHeld isFilled isRead isReturned
  constructor
  · refine ⟨filled, ⟨.made 0, .ring 0⟩, ?_, ?_, ?_, rfl⟩
    · exact System.reachable_of_run (.initial ⟨true, rfl⟩) fills
    · rw [isHeld]
      exact List.mem_singleton_self _
    · rw [isFilled]
      exact List.mem_singleton_self _
  · refine ⟨returned, ⟨.pooled 0, .sample 0⟩, ?_, ?_, ?_, rfl⟩
    · exact System.reachable_of_run (.initial ⟨true, rfl⟩) returns
    · rw [isRead]
      exact List.mem_singleton_self _
    · rw [isReturned]
      exact List.mem_cons_self

end ExportRun
end Worker
end SbsServer
