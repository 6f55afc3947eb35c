import SbsServer.Engine.SourceLifetime

/-!
# The use of source frames

A render reads a buffer of a frame that is held, if its tick uploaded the buffer or
the buffer is one of the AMLY format.  Buffers of the other formats that a later
tick reads again are not held any more.
-/

namespace SbsServer
namespace Engine

open CLib

namespace ReleaseState

variable {state after : ReleaseState} {entry : Fin nativeCanvasRingSize}

/-- A frame that is read stays held where no place loses a frame. -/
theorem Keeps.mono
    {read : SourceRead}
    (keeps : state.Keeps entry read)
    (places : ∀ place, ∀ release ∈ state.held place, release ∈ after.held place)
    (imports : ∀ release, state.Backed release → after.Backed release) :
    after.Keeps entry read := by
  obtain ⟨place, release, member, frame, imported, near⟩ := keeps
  exact ⟨place, release, places place release member, frame,
    fun amly => imports release (imported amly), near⟩

/-- A frame that a render in flight reads was taken before. -/
theorem Held.frame_lt_taken
    {read : SourceRead}
    (held : state.Held)
    (submitted : (state.entries entry).submitted = true)
    (member : read ∈ (state.entries entry).reads) :
    read.frame < state.taken := by
  obtain ⟨place, release, releaseMember, frame, -, -⟩ := held.reads entry submitted read member
  rw [← frame]
  exact held.fresh place release releaseMember

/-- The frames of the tick are attached to an entry. -/
def adopt
    (state : ReleaseState)
    (entry : Fin nativeCanvasRingSize) : ReleaseState :=
  { state with
    pending := Function.update state.pending entry (state.pending entry ++ state.releases)
    releases := [] }

theorem held_adopt
    {place : Option (Fin nativeCanvasRingSize)}
    {release : SourceRelease} :
    release ∈ (state.adopt entry).held place ↔
      place ≠ none ∧ (release ∈ state.held place ∨
        place = some entry ∧ release ∈ state.held none) := by
  cases place with
  | none => simp [held, adopt]
  | some place =>
      by_cases same : place = entry
      · subst same
        simp [held, adopt]
      · simp [held, adopt, same]

theorem held_adopt_of_held
    {place : Option (Fin nativeCanvasRingSize)}
    {release : SourceRelease}
    (entry : Fin nativeCanvasRingSize)
    (member : release ∈ state.held place) :
    release ∈ (state.adopt entry).held (some (place.getD entry)) := by
  rw [held_adopt]
  refine ⟨by simp, ?_⟩
  cases place with
  | none => exact .inr ⟨rfl, member⟩
  | some place => exact .inl member

theorem Held.adopt
    (held : state.Held)
    (settled : state.SettledBut (some entry)) :
    (state.adopt entry).Held := by
  -- Where a frame was held before.
  have origin : ∀ place, ∀ release ∈ (state.adopt entry).held place,
      ∃ before, release ∈ state.held before ∧ place = some (before.getD entry) := by
    intro place release member
    obtain ⟨attached, before | ⟨rfl, before⟩⟩ := held_adopt.mp member
    · cases place with
      | none => exact absurd rfl attached
      | some place => exact ⟨some place, before, rfl⟩
    · exact ⟨none, before, rfl⟩
  refine
    { inFlight := held.inFlight, sound := held.sound, fresh := ?_, spent := held.spent,
      nodup := ?_, unique := ?_, unreleased := ?_, reads := ?_, current := ?_ }
  · intro place release member
    obtain ⟨before, member, -⟩ := origin place release member
    exact held.fresh before release member
  · intro place
    cases place with
    | none => simp [ReleaseState.held, ReleaseState.adopt]
    | some place =>
        by_cases same : place = entry
        · subst same
          simp only [ReleaseState.held, ReleaseState.adopt, Function.update_self, List.map_append]
          apply (held.nodup (some place)).append (held.nodup none)
          intro frame first second
          obtain ⟨release, member, rfl⟩ := List.mem_map.mp first
          obtain ⟨double, doubleMember, frame⟩ := List.mem_map.mp second
          have elsewhere := held.unique (some place) none release member double doubleMember
            frame.symm
          cases elsewhere
        · simp only [ReleaseState.held, ReleaseState.adopt, Function.update_of_ne same]
          exact held.nodup (some place)
  · intro place other release member double doubleMember frame
    obtain ⟨before, here, rfl⟩ := origin place release member
    obtain ⟨doubleBefore, doubleHere, rfl⟩ := origin other double doubleMember
    rw [held.unique before doubleBefore release here double doubleHere frame]
  · intro place release member
    obtain ⟨before, member, -⟩ := origin place release member
    exact held.unreleased before release member
  · intro other submitted read readMember
    obtain ⟨place, release, member, frame, imported, near⟩ :=
      held.reads other submitted read readMember
    refine ⟨some (place.getD entry), release, held_adopt_of_held entry member, frame, imported, ?_⟩
    intro plain
    left
    rcases near plain with rfl | rfl
    · rfl
    · by_contra apart
      exact settled other (fun same => apart (by simp [same])) submitted read readMember release
        member frame
  · intro running slot imported amly supplied
    obtain ⟨place, release, member, frame, at_slot, active, backed⟩ :=
      held.current running slot imported amly supplied
    exact ⟨some (place.getD entry), release, held_adopt_of_held entry member, frame, at_slot,
      active, backed⟩

/-- The frames that were not attached are read by no render in flight. -/
theorem Held.dropReleases
    (held : state.Held)
    (settled : state.SettledBut none) :
    state.dropReleases.Held := by
  have origin : ∀ place, ∀ release ∈ state.dropReleases.held place,
      place ≠ none ∧ release ∈ state.held place := by
    intro place release member
    cases place with
    | none => simp [ReleaseState.held, ReleaseState.dropReleases] at member
    | some place => exact ⟨by simp, member⟩
  have stays : ∀ place, place ≠ none → ∀ release ∈ state.held place,
      release ∈ state.dropReleases.held place := by
    intro place attached release member
    cases place with
    | none => exact absurd rfl attached
    | some place => exact member
  refine
    { inFlight := held.inFlight, sound := held.sound, fresh := ?_, spent := ?_,
      nodup := ?_, unique := ?_, unreleased := ?_, reads := ?_, current := ?_ }
  · intro place release member
    exact held.fresh place release (origin place release member).2
  · intro frame gone
    simp only [ReleaseState.dropReleases, List.mem_append, List.mem_map] at gone
    rcases gone with ⟨release, member, rfl⟩ | gone
    · exact held.fresh none release member
    · exact held.spent frame gone
  · intro place
    cases place with
    | none => simp [ReleaseState.held, ReleaseState.dropReleases]
    | some place => exact held.nodup (some place)
  · intro place other release member double doubleMember
    exact held.unique place other release (origin place release member).2 double
      (origin other double doubleMember).2
  · intro place release member gone
    obtain ⟨attached, member⟩ := origin place release member
    simp only [ReleaseState.dropReleases, List.mem_append, List.mem_map] at gone
    rcases gone with ⟨double, doubleMember, frame⟩ | gone
    · exact attached (held.unique place none release member double doubleMember frame.symm)
    · exact held.unreleased place release member gone
  · intro entry submitted read readMember
    obtain ⟨place, release, member, frame, imported, near⟩ :=
      held.reads entry submitted read readMember
    have attached : place ≠ none := by
      rintro rfl
      exact settled entry (by simp) submitted read readMember release member frame
    exact ⟨place, release, stays place attached release member, frame, imported, near⟩
  · intro running slot imported amly supplied
    simp only [ReleaseState.dropReleases, Bool.or_eq_false_iff] at supplied
    obtain ⟨place, release, member, frame, at_slot, active, backed⟩ :=
      held.current running slot imported amly supplied.1
    have attached : place ≠ none := by
      rintro rfl
      have none_of_slot := List.any_eq_false.mp supplied.2 release member
      simp [at_slot] at none_of_slot
    exact ⟨place, release, stays place attached release member, frame, at_slot, active, backed⟩

/-- A frame is taken; it is released or it joins the frames of the tick. -/
theorem Held.take
    (held : state.Held)
    (entries : ∀ entry, (after.entries entry).submitted = true →
      after.entries entry = state.entries entry)
    (pending : after.pending = state.pending)
    (taken : after.taken = state.taken + 1)
    (sound : ∀ slot, (after.sources slot).Sound)
    (imports : ∀ entry, (after.entries entry).submitted = true →
      ∀ release, state.Backed release → after.Backed release)
    (frames : after.releases = state.releases ∧
        after.released = state.taken :: state.released ∨
      ∃ release, release.frame = state.taken ∧
        after.releases = state.releases ++ [release] ∧ after.released = state.released)
    (current : after.stopped = false → ∀ slot,
      (after.sources slot).dmabufImported = true → (after.sources slot).drmFormat = .amly →
        after.orphaned slot = false → after.Offers slot) :
    after.Held := by
  have stays : ∀ place, ∀ release ∈ state.held place, release ∈ after.held place := by
    intro place release member
    cases place with
    | none =>
        simp only [ReleaseState.held] at member ⊢
        rcases frames with ⟨releases, -⟩ | ⟨_, -, releases, -⟩
        · rwa [releases]
        · rw [releases]
          exact List.mem_append_left _ member
    | some place =>
        simp only [ReleaseState.held, pending] at member ⊢
        exact member
  have origin : ∀ place, ∀ release ∈ after.held place,
      release ∈ state.held place ∨ place = none ∧ release.frame = state.taken ∧
        after.released = state.released := by
    intro place release member
    cases place with
    | none =>
        simp only [ReleaseState.held] at member ⊢
        rcases frames with ⟨releases, -⟩ | ⟨new, frame, releases, released⟩
        · rw [releases] at member
          exact .inl member
        · rw [releases] at member
          simp only [List.mem_append, List.mem_singleton] at member
          rcases member with member | rfl
          · exact .inl member
          · exact .inr ⟨trivial, frame, released⟩
    | some place =>
        simp only [ReleaseState.held, pending] at member ⊢
        exact .inl member
  refine
    { inFlight := ?_, sound := sound, fresh := ?_, spent := ?_, nodup := ?_, unique := ?_,
      unreleased := ?_, reads := ?_, current := current }
  · intro entry submitted
    have same := entries entry submitted
    rw [same] at submitted ⊢
    exact held.inFlight entry submitted
  · intro place release member
    rw [taken]
    rcases origin place release member with member | ⟨-, frame, -⟩
    · exact Nat.lt_succ_of_lt (held.fresh place release member)
    · omega
  · intro frame gone
    rw [taken]
    rcases frames with ⟨-, released⟩ | ⟨_, -, -, released⟩
    · rw [released] at gone
      rcases List.mem_cons.mp gone with rfl | gone
      · omega
      · exact Nat.lt_succ_of_lt (held.spent frame gone)
    · rw [released] at gone
      exact Nat.lt_succ_of_lt (held.spent frame gone)
  · intro place
    cases place with
    | none =>
        simp only [ReleaseState.held]
        rcases frames with ⟨releases, -⟩ | ⟨new, frame, releases, -⟩
        · rw [releases]
          exact held.nodup none
        · rw [releases, List.map_append]
          apply (held.nodup none).append (by simp)
          intro double first second
          obtain ⟨release, member, rfl⟩ := List.mem_map.mp first
          simp only [List.map_cons, List.map_nil, List.mem_singleton] at second
          have old := held.fresh none release member
          omega
    | some place =>
        simp only [ReleaseState.held, pending]
        exact held.nodup (some place)
  · intro place other release member double doubleMember frame
    rcases origin place release member with old | ⟨place, new, -⟩ <;>
      rcases origin other double doubleMember with doubleOld | ⟨otherPlace, doubleNew, -⟩
    · exact held.unique place other release old double doubleOld frame
    · have before := held.fresh place release old
      omega
    · have before := held.fresh other double doubleOld
      omega
    · rw [place, otherPlace]
  · intro place release member gone
    rcases origin place release member with old | ⟨-, new, released⟩
    · have before := held.fresh place release old
      rcases frames with ⟨-, released⟩ | ⟨_, -, -, released⟩
      · rw [released] at gone
        rcases List.mem_cons.mp gone with same | gone
        · omega
        · exact held.unreleased place release old gone
      · rw [released] at gone
        exact held.unreleased place release old gone
    · rw [released] at gone
      have before := held.spent release.frame gone
      omega
  · intro entry submitted read readMember
    have same := entries entry submitted
    have before := submitted
    rw [same] at before readMember
    exact (held.reads entry before read readMember).mono stays (imports entry submitted)

/-- A wait changes nothing but entries. -/
theorem waitIdle_eq
    (state : ReleaseState)
    (idle : Bool) :
    state.waitIdle idle = { state with entries := (state.waitIdle idle).entries } := by
  cases idle with
  | false => rfl
  | true => rfl

theorem Backed.mono
    {release : SourceRelease}
    (backed : state.Backed release)
    (keeps : ∀ slot, (state.sources slot).Keeps (after.sources slot)) :
    after.Backed release := by
  obtain ⟨idx, inode, imported, backs⟩ := backed
  exact ⟨idx, inode, imported, backs.keeps (keeps release.slot)⟩

/-- A slot that keeps its active import offers what it offered. -/
theorem Offers.mono
    {slot : Fin maxSourceTextures}
    (offers : state.Offers slot)
    (places : ∀ place, ∀ release ∈ state.held place, release ∈ after.held place)
    (supplier : after.supplier slot = state.supplier slot)
    (active : (after.sources slot).activeIdx = (state.sources slot).activeIdx)
    (keeps : (state.sources slot).Keeps (after.sources slot)) :
    after.Offers slot := by
  obtain ⟨place, release, member, frame, rfl, current, backed⟩ := offers
  obtain ⟨idx, inode, imported, activeIdx, backs⟩ := activeIdx_of_stillActive current backed
  have after_backs := backs.keeps keeps
  refine ⟨place, release, places place release member, frame.trans supplier.symm, rfl, ?_,
    idx, inode, imported, after_backs⟩
  exact stillActive_of_activeIdx imported (active.trans activeIdx) after_backs.valid
    after_backs.inode

/-- The textures after an upload to a slot. -/
theorem sources_upload
    {slot : Fin maxSourceTextures}
    {result : TextureResult}
    (held : state.Held)
    (uploads : (state.sources slot).Uploads result) :
    (∀ other, (Function.update state.sources slot result.texture other).Sound) ∧
      (result.idle = false → ∀ other,
        (state.sources other).Keeps (Function.update state.sources slot result.texture other)) := by
  constructor
  · exact (Function.forall_update_iff state.sources fun _ texture => texture.Sound).mpr
      ⟨uploads.sound, fun other _ => held.sound other⟩
  · intro busy
    exact (Function.forall_update_iff state.sources
      fun other texture => (state.sources other).Keeps texture).mpr
        ⟨uploads.imports busy, fun _ _ => .refl _⟩

variable {config : UploadConfig} {reads : List (Fin maxSourceTextures)}

/-- The upload of a frame that a source delivers. -/
theorem Held.uploadFrame
    {delivery : Delivery}
    (held : state.Held) :
    (state.uploadFrame config delivery).Held := by
  obtain ⟨fd, slot, request⟩ := delivery
  unfold ReleaseState.uploadFrame
  simp only
  split
  · exact held.take (fun _ _ => rfl) rfl rfl held.sound (fun _ _ _ => id) (.inl ⟨rfl, rfl⟩)
      held.current
  · have uploads := SourceTexture.uploads_upload config request (held.sound slot)
    generalize (state.sources slot).upload config request = result at uploads ⊢
    obtain ⟨sound, keeps⟩ := sources_upload held uploads
    rw [waitIdle_eq]
    split
    next failed =>
      have retains := uploads.failed (by simpa using failed)
      refine held.take ?_ rfl rfl sound ?_ (.inl ⟨rfl, rfl⟩) ?_
      · intro entry submitted
        exact (entries_waitIdle submitted).2
      · intro entry submitted release backed
        exact backed.mono (keeps (entries_waitIdle submitted).1)
      · intro running other imported amly supplied
        change (Function.update state.sources slot result.texture other).dmabufImported = true
          at imported
        change (Function.update state.sources slot result.texture other).drmFormat = .amly
          at amly
        by_cases same : other = slot
        · subst same
          rw [Function.update_self] at imported amly
          obtain ⟨before, active, format, kept⟩ := retains.active imported
          refine (held.current running other before (format ▸ amly) supplied).mono
            (fun _ _ => id) rfl ?_ ?_
          · simpa [releaseFrame] using active
          · simpa [releaseFrame] using kept
        · rw [Function.update_of_ne same] at imported amly
          refine (held.current running other imported amly supplied).mono (fun _ _ => id) rfl
            ?_ ?_
          · simp [releaseFrame, Function.update_of_ne same]
          · simpa [releaseFrame, Function.update_of_ne same] using .refl _
    next succeeded =>
      have records := uploads.records (by simpa using succeeded)
      refine held.take ?_ rfl rfl sound ?_ (.inr ⟨_, rfl, rfl, rfl⟩) ?_
      · intro entry submitted
        exact (entries_waitIdle submitted).2
      · intro entry submitted release backed
        exact backed.mono (keeps (entries_waitIdle submitted).1)
      · intro running other imported amly supplied
        change (Function.update state.sources slot result.texture other).dmabufImported = true
          at imported
        change (Function.update state.sources slot result.texture other).drmFormat = .amly
          at amly
        by_cases same : other = slot
        · subst same
          rw [Function.update_self] at imported amly
          obtain ⟨idx, inode, recorded, active, backs⟩ := records imported amly
          refine ⟨none, ⟨state.taken, other, result.texture.amlyImport⟩, ?_, ?_, rfl, ?_,
            idx, inode, recorded, ?_⟩
          · simp [ReleaseState.held]
          · simp
          · apply stillActive_of_activeIdx recorded
            · simpa using active
            · simpa using backs.valid
            · simpa using backs.inode
          · simpa using backs
        · rw [Function.update_of_ne same] at imported amly
          have orphaned : state.orphaned other = false := by
            simpa [Function.update_of_ne same] using supplied
          refine (held.current running other imported amly orphaned).mono ?_ ?_ ?_ ?_
          · intro place release member
            cases place with
            | none =>
                simp only [ReleaseState.held] at member ⊢
                exact List.mem_append_left _ member
            | some place => exact member
          · simp [Function.update_of_ne same]
          · simp [Function.update_of_ne same]
          · simpa [Function.update_of_ne same] using .refl _

/-! ## What is in flight -/

/-- Nothing but entries and the instructions changes, and what is in flight was. -/
theorem Held.entries
    {entries : Fin nativeCanvasRingSize → RenderEntry}
    (held : state.Held)
    (same : ∀ entry, (entries entry).submitted = true → entries entry = state.entries entry) :
    ({ state with entries := entries } : ReleaseState).Held := by
  refine ⟨?_, held.sound, held.fresh, held.spent, held.nodup, held.unique, held.unreleased,
    ?_, held.current⟩
  · intro entry submitted
    change (entries entry).submitted = true at submitted
    change (entries entry).state = .rendering ∧ (entries entry).fence = false
    have kept := same entry submitted
    rw [kept] at submitted ⊢
    exact held.inFlight entry submitted
  · intro entry submitted read member
    change (entries entry).submitted = true at submitted
    change read ∈ (entries entry).reads at member
    have kept := same entry submitted
    rw [kept] at submitted member
    exact held.reads entry submitted read member

theorem Held.program
    (held : state.Held)
    (program : List TickInstr)
    (uploaded : Bool) :
    ({ state with program := program, uploaded := uploaded } : ReleaseState).Held :=
  ⟨held.inFlight, held.sound, held.fresh, held.spent, held.nodup, held.unique, held.unreleased,
    held.reads, held.current⟩

/-- What is in flight after a poll was in flight, and the poll left it alone. -/
theorem entries_pollReady
    (held : state.Held)
    (submitted : (state.pollReady.entries entry).submitted = true) :
    state.pollReady.entries entry = state.entries entry := by
  simp only [pollReady] at submitted ⊢
  split
  next ready =>
    rw [if_pos ready] at submitted
    have waits := (held.inFlight entry submitted).2
    rw [ready.2] at waits
    cases waits
  · rfl

theorem entries_giveUp
    {state : ReleaseState}
    {entry other : Fin nativeCanvasRingSize}
    {reset : Bool}
    (held : state.Held)
    (chosen : state.canAcquire entry = true)
    (submitted : ((state.giveUp entry reset).entries other).submitted = true) :
    (state.giveUp entry reset).entries other = state.entries other := by
  simp only [giveUp] at submitted ⊢
  by_cases same : other = entry
  · subst same
    rw [Function.update_self] at submitted
    have waits := (held.inFlight other submitted).1
    simp [canAcquire, waits] at chosen
  · rw [Function.update_of_ne same]

/-- A render reads buffers of its tick, and AMLY buffers that are offered. -/
def ReadsHeld
    (state : ReleaseState)
    (reads : List (Fin maxSourceTextures)) : Prop :=
  ∀ slot ∈ reads,
    ((state.sources slot).drmFormat = .amly → state.orphaned slot = false) ∧
      ((state.sources slot).drmFormat ≠ .amly →
        ∃ release ∈ state.releases, release.frame = state.supplier slot)

/-- A render is submitted. -/
theorem Held.submit
    {state : ReleaseState}
    {entry : Fin nativeCanvasRingSize}
    {reads : List (Fin maxSourceTextures)}
    (held : state.Held)
    (running : state.stopped = false)
    (imported : ∀ slot ∈ reads, (state.sources slot).dmabufImported = true)
    (covered : state.ReadsHeld reads) :
    (state.submit entry reads).Held := by
  refine ⟨?_, held.sound, held.fresh, held.spent, held.nodup, held.unique, held.unreleased,
    ?_, held.current⟩
  · intro other submitted
    simp only [ReleaseState.submit] at submitted ⊢
    by_cases same : other = entry
    · subst same
      simp
    · rw [Function.update_of_ne same] at submitted ⊢
      exact held.inFlight other submitted
  · intro other submitted read member
    simp only [ReleaseState.submit] at submitted member
    by_cases same : other = entry
    · subst same
      rw [Function.update_self] at member
      obtain ⟨slot, slotMember, rfl⟩ := List.mem_map.mp member
      obtain ⟨current, uploaded⟩ := covered slot slotMember
      by_cases amly : (state.sources slot).drmFormat = .amly
      · obtain ⟨place, release, here, frame, -, -, backed⟩ :=
          held.current running slot (imported slot slotMember) amly (current amly)
        refine ⟨place, release, here, frame, fun _ => backed, ?_⟩
        intro plain
        simp [readOf, amly] at plain
      · obtain ⟨release, here, frame⟩ := uploaded amly
        refine ⟨none, release, here, frame, ?_, fun _ => .inr rfl⟩
        intro isAmly
        simp [readOf, amly] at isAmly
    · rw [Function.update_of_ne same] at submitted member
      exact held.reads other submitted read member

theorem own_submit
    (covered : state.ReadsHeld reads) :
    (state.submit entry reads).Own entry := by
  intro submitted read member plain
  simp only [submit, Function.update_self] at member
  obtain ⟨slot, slotMember, rfl⟩ := List.mem_map.mp member
  apply (covered slot slotMember).2
  simpa [readOf] using plain

theorem settledBut_submit
    (settled : state.SettledBut none) :
    (state.submit entry reads).SettledBut (some entry) := by
  intro other apart submitted read member
  have different : other ≠ entry := fun same => apart (by rw [same])
  simp only [submit, Function.update_of_ne different] at submitted member
  exact settled other (by simp) submitted read member

/-- The frames of the tick are attached if there is room. -/
theorem attach_eq_adopt
    (room : ((state.pending entry).filter state.stillActive).length + state.releases.length ≤
      maxSourceTextures)
    (releases : (state.releasePending false entry).releases = state.releases) :
    state.attach entry = (state.releasePending false entry).adopt entry := by
  have shorter : ((state.releasePending false entry).pending entry).length ≤ _ :=
    length_releaseLoop (state.pending entry) rfl
  simp only [List.length_nil, Nat.zero_add] at shorter
  have fits : (state.releasePending false entry).releases.length ≤
      maxSourceTextures - ((state.releasePending false entry).pending entry).length := by
    rw [releases]
    omega
  simp only [attach, adopt, List.take_of_length_le fits, List.drop_of_length_le fits]
  rfl

/-- What a submitted render reads is held when the frames of the tick are attached. -/
theorem Held.attach
    (held : state.Held)
    (settled : state.SettledBut (some entry))
    (own : state.Own entry)
    (room : ((state.pending entry).filter state.stillActive).length + state.releases.length ≤
      maxSourceTextures) :
    (state.attach entry).Held ∧ (state.attach entry).releases = [] ∧
      (state.attach entry).program = state.program ∧
      (state.attach entry).stopped = state.stopped := by
  obtain ⟨after, leaves⟩ := @held_releasePending false entry state held (fun _ => rfl) own
  rw [attach_eq_adopt room leaves.releases]
  exact ⟨after.adopt (settled.leaves leaves), rfl, leaves.program, leaves.stopped⟩

/-! ## Runs -/

theorem SettledBut.mono
    {except : Option (Fin nativeCanvasRingSize)}
    (settled : state.SettledBut except)
    (entries : ∀ entry, (after.entries entry).submitted = true →
      after.entries entry = state.entries entry)
    (releases : ∀ release ∈ after.releases, release ∈ state.releases) :
    after.SettledBut except := by
  intro entry other submitted read member release releaseMember
  have same := entries entry submitted
  rw [same] at submitted member
  exact settled entry other submitted read member release (releases release releaseMember)

theorem settledBut_of_releases
    {except : Option (Fin nativeCanvasRingSize)}
    (none : state.releases = []) :
    state.SettledBut except := by
  intro entry _ _ read _ release member
  rw [none] at member
  cases member

/-- The frame that a tick takes is new. -/
theorem settledBut_uploadFrame
    {delivery : Delivery}
    (held : state.Held)
    (settled : state.SettledBut none) :
    (state.uploadFrame config delivery).SettledBut none := by
  obtain ⟨fd, slot, request⟩ := delivery
  unfold uploadFrame
  simp only
  split
  · exact settled
  · generalize (state.sources slot).upload config request = result
    rw [waitIdle_eq]
    split
    · exact settled.mono (fun _ submitted => (entries_waitIdle submitted).2) fun _ => id
    · intro entry other submitted read member release releaseMember
      have same := (entries_waitIdle submitted).2
      change (waitIdle _ _).entries entry = state.entries entry at same
      change ((waitIdle _ _).entries entry).submitted = true at submitted
      change read ∈ ((waitIdle _ _).entries entry).reads at member
      rw [same] at submitted member
      change release ∈ state.releases ++ [_] at releaseMember
      simp only [List.mem_append, List.mem_singleton] at releaseMember
      rcases releaseMember with old | rfl
      · exact settled entry other submitted read member release old
      · exact (held.frame_lt_taken submitted member).ne'

theorem program_uploadFrame
    (config : UploadConfig)
    (state : ReleaseState)
    (delivery : Delivery) :
    (state.uploadFrame config delivery).program = state.program ∧
      (state.uploadFrame config delivery).stopped = state.stopped := by
  unfold uploadFrame
  simp only
  split
  · exact ⟨rfl, rfl⟩
  · rw [waitIdle_eq]
    split
    · exact ⟨rfl, rfl⟩
    · exact ⟨rfl, rfl⟩

/-- What an instruction keeps. -/
structure Carries (state after : ReleaseState) : Prop where
  held : after.Held
  settled : after.SettledBut none
  program : after.program = state.program
  stopped : after.stopped = state.stopped

theorem carries_pollReady
    (held : state.Held)
    (settled : state.SettledBut none) :
    state.Carries state.pollReady where
  held := held.entries fun _ => entries_pollReady held
  settled := settled.mono (fun _ => entries_pollReady held) fun _ => id
  program := rfl
  stopped := rfl

theorem carries_releaseReady
    (entry : Fin nativeCanvasRingSize)
    (held : state.Held)
    (settled : state.SettledBut none) :
    state.Carries (state.releaseReady entry) := by
  unfold releaseReady
  split
  next done =>
    have own : state.Own entry := by
      intro submitted
      obtain ⟨rendering, fence⟩ := held.inFlight entry submitted
      simp [rendering, fence] at done
    obtain ⟨after, leaves⟩ := @held_releasePending false entry state held (fun _ => rfl) own
    exact ⟨after, settled.leaves leaves, leaves.program, leaves.stopped⟩
  · exact ⟨held, settled, rfl, rfl⟩

theorem carries_submit
    (held : state.Held)
    (settled : state.SettledBut none)
    (running : state.stopped = false)
    (imported : ∀ slot ∈ reads, (state.sources slot).dmabufImported = true)
    (covered : state.ReadsHeld reads)
    (room : ((state.pending entry).filter state.stillActive).length + state.releases.length ≤
      maxSourceTextures) :
    state.Carries ((state.pollReady.submit entry reads).attach entry) := by
  have polled := carries_pollReady held settled
  have submitted := @Held.submit _ entry _ polled.held running imported covered
  obtain ⟨after, releases, program, stopped⟩ :=
    submitted.attach (settledBut_submit polled.settled) (own_submit covered) room
  exact ⟨after, settledBut_of_releases releases, program, stopped⟩

/-- Frames are held, and the thread that stops has AMLY buffers in flight only. -/
structure Safe (state : ReleaseState) : Prop where
  held : state.Held
  settled : state.SettledBut none
  running : state.stopped = false → ∀ entry, TickInstr.releaseAll entry ∉ state.program
  stopping : state.stopped = true →
    (∀ instr ∈ state.program, ∃ entry, instr = .releaseAll entry) ∧
      ∀ entry, (state.entries entry).submitted = true →
        ∀ read ∈ (state.entries entry).reads, read.amly = true

/-- A step that gives up no frame that is read directly: a render reads buffers of its
tick and AMLY buffers whose frame is held, the entry has room for the frames of the
tick, and the thread stops with AMLY buffers in flight only. -/
def Covered
    (state : ReleaseState) : ReleaseStep → Prop
  | .exec (.submit entry reads) =>
      state.ReadsHeld reads ∧
        ((state.pending entry).filter state.stillActive).length + state.releases.length ≤
          maxSourceTextures
  | .stop =>
      ∀ entry, (state.entries entry).submitted = true →
        ∀ read ∈ (state.entries entry).reads, read.amly = true
  | _ => True

/-- An instruction of a tick. -/
theorem Carries.safe
    (carries : state.Carries after)
    (running : state.stopped = false)
    (program : ∀ entry, TickInstr.releaseAll entry ∉ state.program) :
    after.Safe := by
  refine ⟨carries.held, carries.settled, ?_, ?_⟩
  · intro _
    rw [carries.program]
    exact program
  · intro stopped
    rw [carries.stopped, running] at stopped
    cases stopped

theorem safe_exec
    {instr : TickInstr}
    {choice : TickChoice}
    (held : state.Held)
    (settled : state.SettledBut none)
    (running : state.stopped = false)
    (program : ∀ entry, TickInstr.releaseAll entry ∉ instr :: state.program)
    (covered : state.Covered (.exec choice))
    (stepped : state.exec config instr choice = some after) :
    after.Safe := by
  have rest : ∀ entry, TickInstr.releaseAll entry ∉ state.program :=
    fun entry member => program entry (List.mem_cons_of_mem _ member)
  suffices carries : state.Carries after from carries.safe running rest
  have polled := carries_pollReady held settled
  cases instr with
  | releaseReady entry =>
      cases choice with
      | proceed =>
          rw [← Option.some.inj stepped]
          exact carries_releaseReady entry held settled
      | _ => cases stepped
  | item =>
      cases choice with
      | proceed =>
          rw [← Option.some.inj stepped]
          exact ⟨held, settled, rfl, rfl⟩
      | frame delivery =>
          rw [← Option.some.inj stepped]
          obtain ⟨program, stopped⟩ := program_uploadFrame config state delivery
          exact ⟨held.uploadFrame, settledBut_uploadFrame held settled, program, stopped⟩
      | _ => cases stepped
  | render =>
      cases choice with
      | republish =>
          simp only [exec] at stepped
          split at stepped
          · cases stepped
          · rw [← Option.some.inj stepped]
            exact polled
      | noEntry =>
          rw [← Option.some.inj stepped]
          exact polled
      | giveUp entry reset =>
          simp only [exec] at stepped
          split at stepped
          next chosen =>
            rw [← Option.some.inj stepped]
            have same := fun other => @entries_giveUp _ entry other reset polled.held chosen
            exact ⟨polled.held.entries same, polled.settled.mono same fun _ => id, rfl, rfl⟩
          · cases stepped
      | submit entry reads =>
          simp only [exec] at stepped
          split at stepped
          next chosen =>
            rw [← Option.some.inj stepped]
            simp only [Bool.and_eq_true, List.all_eq_true] at chosen
            apply carries_submit held settled running _ covered.1 covered.2
            intro slot member
            have readable := chosen.2 slot member
            simp only [SourceTexture.readable, Bool.and_eq_true] at readable
            exact readable.1.1.2
          · cases stepped
      | _ => cases stepped
  | dropReleases =>
      cases choice with
      | proceed =>
          rw [← Option.some.inj stepped]
          exact ⟨held.dropReleases settled, settledBut_of_releases rfl, rfl, rfl⟩
      | _ => cases stepped
  | releaseAll entry => exact absurd List.mem_cons_self (program entry)

/-- An instruction of the thread that stops. -/
theorem safe_releaseAll
    {state : ReleaseState}
    (entry : Fin nativeCanvasRingSize)
    (safe : state.Safe)
    (stopped : state.stopped = true) :
    (state.releasePending true entry).Safe := by
  obtain ⟨program, reads⟩ := safe.stopping stopped
  have own : state.Own entry := by
    intro submitted read member plain
    rw [reads entry submitted read member] at plain
    cases plain
  have forced : state.stopped = false → true = false := by
    rw [stopped]
    exact Bool.noConfusion
  obtain ⟨held, leaves⟩ := held_releasePending safe.held forced own
  refine ⟨held, safe.settled.leaves leaves, ?_, ?_⟩
  · intro running
    rw [leaves.stopped, stopped] at running
    cases running
  · intro _
    rw [leaves.program]
    refine ⟨program, ?_⟩
    intro other submitted read member
    have same := leaves.entries other submitted
    rw [same] at submitted member
    exact reads other submitted read member

/-- The thread goes on with another tick. -/
theorem safe_goOn
    {program : List TickInstr}
    (safe : state.Safe)
    (ticks : ∀ entry, TickInstr.releaseAll entry ∉ program)
    (stepped : state.goOn program = some after) :
    after.Safe := by
  unfold goOn at stepped
  split at stepped
  next done =>
    rw [← Option.some.inj stepped]
    refine ⟨safe.held.program _ _, safe.settled, fun _ => ticks, ?_⟩
    intro stopped
    change state.stopped = true at stopped
    rw [done.2] at stopped
    cases stopped
  · cases stepped

theorem safe_stop
    {state between : ReleaseState}
    (safe : state.Safe)
    (covered : state.Covered .stop)
    (stepped : state.goOn (ringEntries.map .releaseAll) = some between) :
    ({ between with stopped := true } : ReleaseState).Safe := by
  unfold goOn at stepped
  split at stepped
  · rw [← Option.some.inj stepped]
    have held := safe.held.program (ringEntries.map .releaseAll) false
    refine ⟨?_, safe.settled, ?_, ?_⟩
    · refine ⟨held.inFlight, held.sound, held.fresh, held.spent, held.nodup, held.unique,
        held.unreleased, held.reads, ?_⟩
      intro running
      cases running
    · intro running
      cases running
    · intro _
      refine ⟨?_, covered⟩
      intro instr member
      obtain ⟨entry, -, rfl⟩ := List.mem_map.mp member
      exact ⟨entry, rfl⟩
  · cases stepped

theorem safe_complete
    (safe : state.Safe)
    (stepped : state.complete entry = some after) :
    after.Safe := by
  unfold complete at stepped
  split at stepped
  · rw [← Option.some.inj stepped]
    have same : ∀ other, (Function.update state.entries entry
          { state.entries entry with fence := true, submitted := false } other).submitted = true →
        Function.update state.entries entry
          { state.entries entry with fence := true, submitted := false } other =
            state.entries other := by
      intro other submitted
      by_cases at_entry : other = entry
      · subst at_entry
        simp at submitted
      · rw [Function.update_of_ne at_entry]
    refine ⟨safe.held.entries same, safe.settled.mono same fun _ => id, safe.running, ?_⟩
    intro stopped
    obtain ⟨program, reads⟩ := safe.stopping stopped
    refine ⟨program, ?_⟩
    intro other submitted read member
    change (Function.update state.entries entry _ other).submitted = true at submitted
    change read ∈ (Function.update state.entries entry _ other).reads at member
    have kept := same other submitted
    rw [kept] at submitted member
    exact reads other submitted read member
  · cases stepped

/-- Every step that is covered keeps what is read directly held. -/
theorem Safe.next
    {step : ReleaseStep}
    (safe : state.Safe)
    (covered : state.Covered step)
    (stepped : state.next config step = some after) :
    after.Safe := by
  cases step with
  | lateTick =>
      apply safe_goOn safe _ stepped
      simp
  | tick items =>
      apply safe_goOn safe _ stepped
      simp
  | exec choice =>
      change state.execNext config choice = some after at stepped
      unfold execNext at stepped
      split at stepped
      · cases stepped
      next instr rest program =>
        have running := safe.running
        have stopping := safe.stopping
        rw [program] at running stopping
        cases stopped : state.stopped with
        | false =>
            exact safe_exec (safe.held.program rest state.uploaded) safe.settled stopped
              (running stopped) covered stepped
        | true =>
            obtain ⟨entry, rfl⟩ := (stopping stopped).1 instr List.mem_cons_self
            cases choice with
            | proceed =>
                rw [← Option.some.inj stepped]
                refine @safe_releaseAll { state with program := rest } entry ?_ stopped
                refine ⟨safe.held.program rest state.uploaded, safe.settled, ?_, ?_⟩
                · intro runs
                  change state.stopped = false at runs
                  rw [stopped] at runs
                  cases runs
                · intro _
                  obtain ⟨releases, reads⟩ := stopping stopped
                  exact ⟨fun instr member => releases instr (List.mem_cons_of_mem _ member), reads⟩
            | _ => cases stepped
  | stop =>
      obtain ⟨between, gone, rfl⟩ := Option.map_eq_some_iff.mp stepped
      exact safe_stop safe covered gone
  | complete entry => exact safe_complete safe stepped

theorem safe_init : init.Safe where
  held :=
    { inFlight := by simp [init]
      sound := by
        intro slot imported
        cases imported
      fresh := by
        intro place
        cases place <;> simp [ReleaseState.held, init]
      spent := by simp [init]
      nodup := by
        intro place
        cases place <;> simp [ReleaseState.held, init]
      unique := by
        intro place
        cases place <;> simp [ReleaseState.held, init]
      unreleased := by simp [init]
      reads := by simp [init]
      current := by
        intro _ slot imported
        cases imported }
  settled := settledBut_of_releases rfl
  running := by simp [init]
  stopping := by simp [init]

/-- In every run whose steps are covered, no frame that a submitted render reads
directly is released before its fence signals. -/
theorem read_frame_not_released
    {config : UploadConfig}
    {state : ReleaseState}
    (reachable : (releaseSystem config).ReachableWhen Covered state)
    {entry : Fin nativeCanvasRingSize}
    (submitted : (state.entries entry).submitted = true)
    {read : SourceRead}
    (member : read ∈ (state.entries entry).reads) :
    read.frame ∉ state.released := by
  have safe : state.Safe := by
    refine reachable.invariant ?_ ?_
    · rintro _ rfl
      exact safe_init
    · intro before step after safe covered stepped
      exact safe.next covered stepped
  obtain ⟨place, release, here, frame, -, -⟩ := safe.held.reads entry submitted read member
  rw [← frame]
  exact safe.held.unreleased place release here

/-- A compositor that uploads every format for direct layers. -/
def directConfig : UploadConfig where
  computePipeline := true
  ycbcrAvailable := false
  ycbcrDirectImport := false
  canDirectUpload := fun _ => true

/-- The first texture slot. -/
def firstSlot : Fin maxSourceTextures := ⟨0, by decide⟩

/-- The first two entries of the ring. -/
def ringEntry (second : Bool) : Fin nativeCanvasRingSize :=
  if second then 1 else 0

/-- A source delivers a frame of a format to the first slot. -/
def delivery (drmFormat : DrmFormat) : Delivery where
  fd := true
  slot := firstSlot
  request :=
    { sourceId := some "camera"
      width := 1920
      height := 1080
      drmFormat := drmFormat
      drmModifier := 0
      forceSampleable := false
      inode := some 7
      createsImage := true
      allocatesImage := true
      createsView := true
      sizeValid := true
      duplicates := true
      importsYcbcr := true
      importsBuffer := true }

/-- One tick uploads a frame and renders it; after that render has completed, a second
tick, without a new frame, renders the same buffer. -/
def twoTicks (drmFormat : DrmFormat) : List ReleaseStep :=
  List.flatten
    [[.tick 1], ringEntries.map fun _ => .exec .proceed,
      [.exec (.frame (delivery drmFormat)), .exec (.submit (ringEntry false) [firstSlot]),
        .exec .proceed, .complete (ringEntry false), .tick 1],
      ringEntries.map fun _ => .exec .proceed,
      [.exec .proceed, .exec (.submit (ringEntry true) [firstSlot])]]

instance (state : ReleaseState) (reads : List (Fin maxSourceTextures)) :
    Decidable (state.ReadsHeld reads) :=
  inferInstanceAs (Decidable (∀ slot ∈ reads,
    ((state.sources slot).drmFormat = .amly → state.orphaned slot = false) ∧
      ((state.sources slot).drmFormat ≠ .amly →
        ∃ release ∈ state.releases, release.frame = state.supplier slot)))

instance (state : ReleaseState) (step : ReleaseStep) : Decidable (state.Covered step) :=
  match step with
  | .exec (.submit entry reads) =>
      inferInstanceAs (Decidable (state.ReadsHeld reads ∧
        ((state.pending entry).filter state.stillActive).length + state.releases.length ≤
          maxSourceTextures))
  | .stop =>
      inferInstanceAs (Decidable (∀ entry, (state.entries entry).submitted = true →
        ∀ read ∈ (state.entries entry).reads, read.amly = true))
  | .lateTick | .tick _ | .complete _ | .exec .proceed | .exec (.frame _) | .exec .republish
  | .exec .noEntry | .exec (.giveUp _ _) => inferInstanceAs (Decidable True)

/-- A buffer of the AMLY format may be read again: its frame is held while the buffer is
the active one. -/
theorem read_frame_not_released_amly :
    ∃ state, (releaseSystem directConfig).ReachableWhen Covered state ∧
      ∃ read ∈ (state.entries (ringEntry true)).reads, read.amly = true ∧
        read.frame ∉ state.released := by
  have computed :
      (System.run (System.guarded Covered (ReleaseState.next directConfig)) init
          (twoTicks .amly)).map
          (fun state => decide ((state.entries (ringEntry true)).submitted = true ∧
            ⟨0, true⟩ ∈ (state.entries (ringEntry true)).reads)) =
        some true := by
    decide +kernel
  obtain ⟨state, runs, fields⟩ := Option.map_eq_some_iff.mp computed
  obtain ⟨submitted, member⟩ := of_decide_eq_true fields
  have reachable :=
    @System.reachableWhen_of_run _ _ Covered _ (· = init) _ _ _ _ (.initial rfl) runs
  exact ⟨state, reachable, _, member, rfl, read_frame_not_released reachable submitted member⟩

/-- A buffer of another format is read again after its frame was released with the first
render. -/
theorem second_tick_reads_released_frame :
    ∃ state, (releaseSystem directConfig).Reachable state ∧
      ∃ entry, (state.entries entry).submitted = true ∧
        ∃ read ∈ (state.entries entry).reads, read.frame ∈ state.released := by
  have computed :
      (System.run (ReleaseState.next directConfig) init (twoTicks .p010)).map
          (fun state => decide ((state.entries (ringEntry true)).submitted = true ∧
            ⟨0, false⟩ ∈ (state.entries (ringEntry true)).reads ∧ 0 ∈ state.released)) =
        some true := by
    decide +kernel
  obtain ⟨state, runs, fields⟩ := Option.map_eq_some_iff.mp computed
  obtain ⟨submitted, member, released⟩ := of_decide_eq_true fields
  exact ⟨state, System.reachable_of_run (.initial rfl) runs, ringEntry true, submitted, _,
    member, released⟩

end ReleaseState
end Engine
end SbsServer
