import SbsServer.Engine.SourceRelease

/-!
# The lifetime of source frames

The frame of a buffer that a submitted render reads directly is held until the
fence signals: with the entry of the render if the tick of the render uploaded it,
and else, for AMLY buffers only, because its import is kept while it is active and
given up only when the device is idle.
-/

namespace SbsServer
namespace Engine

open CLib

namespace ReleaseState

/-- The frames that are held: those that are attached to an entry and those of the
tick that are not attached yet. -/
def held (state : ReleaseState) : Option (Fin nativeCanvasRingSize) → List SourceRelease
  | some entry => state.pending entry
  | none => state.releases

/-- The import of a frame is in the cache. -/
def Backed
    (state : ReleaseState)
    (release : SourceRelease) : Prop :=
  ∃ idx inode, release.dmabufImport = some (idx, inode) ∧
    (state.sources release.slot).Backs idx inode

/-- A frame that the render of an entry reads is held: with its import, or with the
entry or the tick. -/
def Keeps
    (state : ReleaseState)
    (entry : Fin nativeCanvasRingSize)
    (read : SourceRead) : Prop :=
  ∃ place, ∃ release ∈ state.held place, release.frame = read.frame ∧
    (read.amly = true → state.Backed release) ∧
    (read.amly = false → place = some entry ∨ place = none)

/-- The AMLY buffer that a slot offers to be read is held with its import. -/
def Offers
    (state : ReleaseState)
    (slot : Fin maxSourceTextures) : Prop :=
  ∃ place, ∃ release ∈ state.held place, release.frame = state.supplier slot ∧
    release.slot = slot ∧ state.stillActive release = true ∧ state.Backed release

/-- Frames are held in one place each and not released; what is in flight reads held
frames; and what a slot offers is held. -/
structure Held (state : ReleaseState) : Prop where
  inFlight : ∀ entry, (state.entries entry).submitted = true →
    (state.entries entry).state = .rendering ∧ (state.entries entry).fence = false
  sound : ∀ slot, (state.sources slot).Sound
  fresh : ∀ place, ∀ release ∈ state.held place, release.frame < state.taken
  spent : ∀ frame ∈ state.released, frame < state.taken
  nodup : ∀ place, ((state.held place).map SourceRelease.frame).Nodup
  unique : ∀ place other, ∀ release ∈ state.held place, ∀ double ∈ state.held other,
    release.frame = double.frame → place = other
  unreleased : ∀ place, ∀ release ∈ state.held place, release.frame ∉ state.released
  reads : ∀ entry, (state.entries entry).submitted = true →
    ∀ read ∈ (state.entries entry).reads, state.Keeps entry read
  current : state.stopped = false → ∀ slot,
    (state.sources slot).dmabufImported = true → (state.sources slot).drmFormat = .amly →
      state.orphaned slot = false → state.Offers slot

/-- No render in flight, but for that of an entry, reads a frame of the tick. -/
def SettledBut
    (state : ReleaseState)
    (except : Option (Fin nativeCanvasRingSize)) : Prop :=
  ∀ entry, some entry ≠ except → (state.entries entry).submitted = true →
    ∀ read ∈ (state.entries entry).reads, ∀ release ∈ state.releases,
      release.frame ≠ read.frame

/-- The render of an entry reads only AMLY buffers and buffers of the tick. -/
def Own
    (state : ReleaseState)
    (entry : Fin nativeCanvasRingSize) : Prop :=
  (state.entries entry).submitted = true →
    ∀ read ∈ (state.entries entry).reads, read.amly = false →
      ∃ release ∈ state.releases, release.frame = read.frame

theorem waitIdle_false (state : ReleaseState) : state.waitIdle false = state := rfl

theorem submitted_waitIdle
    (state : ReleaseState)
    (entry : Fin nativeCanvasRingSize) :
    ((state.waitIdle true).entries entry).submitted = false := by
  simp only [waitIdle, if_true]
  split
  · rfl
  next idle => simpa using idle

variable {state after : ReleaseState} {entry : Fin nativeCanvasRingSize}
variable {kept rest : List SourceRelease} {release : SourceRelease}

/-- What a wait leaves in flight was in flight and is unchanged. -/
theorem entries_waitIdle
    {idle : Bool}
    (submitted : ((state.waitIdle idle).entries entry).submitted = true) :
    idle = false ∧ (state.waitIdle idle).entries entry = state.entries entry := by
  cases idle with
  | false => exact ⟨rfl, rfl⟩
  | true =>
      rw [submitted_waitIdle] at submitted
      cases submitted

/-! ## The release of a frame -/

/-- The import of a frame is in the cache and is given up when the device is idle, or
nothing happens. -/
theorem releaseImport_cases
    (state : ReleaseState)
    (release : SourceRelease) :
    ¬ state.Backed release ∧ state.releaseImport release = state ∨
      ∃ idx inode, release.dmabufImport = some (idx, inode) ∧
        (state.sources release.slot).Backs idx inode ∧
        state.releaseImport release =
          ({ state with
            sources := Function.update state.sources release.slot
              ((state.sources release.slot).releaseDmabufImport idx inode).texture } :
            ReleaseState).waitIdle true := by
  obtain ⟨frame, slot, dmabufImport⟩ := release
  cases dmabufImport with
  | none =>
      left
      refine ⟨?_, rfl⟩
      rintro ⟨idx, inode, imported, -⟩
      cases imported
  | some pair =>
      obtain ⟨idx, inode⟩ := pair
      by_cases backs : (state.sources slot).Backs idx inode
      · right
        refine ⟨idx, inode, rfl, backs, ?_⟩
        have idle := (SourceTexture.releaseDmabufImport_of_backs backs).1
        simp only [releaseImport, idle]
      · left
        constructor
        · rintro ⟨otherIdx, otherInode, imported, other⟩
          cases imported
          exact backs other
        · simp only [releaseImport, SourceTexture.releaseDmabufImport_of_not_backs backs,
            Function.update_eq_self, waitIdle_false]

/-- A frame taken out of the list of an entry and released. -/
def releaseOne
    (state : ReleaseState)
    (entry : Fin nativeCanvasRingSize)
    (kept : List SourceRelease)
    (release : SourceRelease)
    (rest : List SourceRelease) : ReleaseState :=
  let after := (state.releaseImport release).releaseFrame release.frame
  { after with pending := Function.update after.pending entry (kept ++ rest) }

/-- What the release of frames leaves alone. -/
structure Leaves (state after : ReleaseState) : Prop where
  releases : after.releases = state.releases
  program : after.program = state.program
  stopped : after.stopped = state.stopped
  taken : after.taken = state.taken
  supplier : after.supplier = state.supplier
  orphaned : after.orphaned = state.orphaned
  entries : ∀ entry, (after.entries entry).submitted = true →
    after.entries entry = state.entries entry

theorem Leaves.refl (state : ReleaseState) : state.Leaves state :=
  ⟨rfl, rfl, rfl, rfl, rfl, rfl, fun _ _ => rfl⟩

theorem Leaves.trans
    {state between after : ReleaseState}
    (first : state.Leaves between)
    (second : between.Leaves after) :
    state.Leaves after := by
  refine ⟨second.releases.trans first.releases, second.program.trans first.program,
    second.stopped.trans first.stopped, second.taken.trans first.taken,
    second.supplier.trans first.supplier, second.orphaned.trans first.orphaned, ?_⟩
  intro entry submitted
  have same := second.entries entry submitted
  rw [same] at submitted
  exact same.trans (first.entries entry submitted)

theorem Own.leaves
    (own : state.Own entry)
    (leaves : state.Leaves after) :
    after.Own entry := by
  intro submitted read member plain
  have same := leaves.entries entry submitted
  rw [same] at submitted member
  rw [leaves.releases]
  exact own submitted read member plain

theorem SettledBut.leaves
    {except : Option (Fin nativeCanvasRingSize)}
    (settled : state.SettledBut except)
    (leaves : state.Leaves after) :
    after.SettledBut except := by
  intro entry other submitted read member release
  have same := leaves.entries entry submitted
  rw [same] at submitted member
  rw [leaves.releases]
  exact settled entry other submitted read member release

theorem leaves_releaseOne
    (state : ReleaseState)
    (entry : Fin nativeCanvasRingSize)
    (kept : List SourceRelease)
    (release : SourceRelease)
    (rest : List SourceRelease) :
    state.Leaves (state.releaseOne entry kept release rest) := by
  unfold releaseOne
  rcases releaseImport_cases state release with ⟨-, same⟩ | ⟨idx, inode, -, -, idled⟩
  · rw [same]
    exact ⟨rfl, rfl, rfl, rfl, rfl, rfl, fun _ _ => rfl⟩
  · rw [idled]
    refine ⟨rfl, rfl, rfl, rfl, rfl, rfl, ?_⟩
    intro other submitted
    have idle := submitted_waitIdle
      ({ state with
        sources := Function.update state.sources release.slot
          ((state.sources release.slot).releaseDmabufImport idx inode).texture }) other
    exact absurd (idle.symm.trans submitted) (by simp)

/-- The places other than the list of the entry stay; from that list the frame is
taken. -/
theorem held_releaseOne
    (pending : state.pending entry = kept ++ release :: rest)
    (place : Option (Fin nativeCanvasRingSize)) :
    ((state.releaseOne entry kept release rest).held place).Sublist (state.held place) ∧
      ∀ other ∈ state.held place,
        other ∈ (state.releaseOne entry kept release rest).held place ∨
          place = some entry ∧ other = release := by
  have pendingAfter : (state.releaseImport release).pending = state.pending := by
    rcases releaseImport_cases state release with ⟨-, same⟩ | ⟨idx, inode, -, -, idled⟩
    · rw [same]
    · rw [idled]
      rfl
  have releases : (state.releaseOne entry kept release rest).releases = state.releases :=
    (leaves_releaseOne state entry kept release rest).releases
  cases place with
  | none =>
      simp only [held, releases]
      exact ⟨List.Sublist.refl _, fun other member => .inl member⟩
  | some place =>
      have lists : (state.releaseOne entry kept release rest).pending place =
          Function.update state.pending entry (kept ++ rest) place := by
        simp only [releaseOne, releaseFrame, pendingAfter]
      simp only [held, lists]
      by_cases same : place = entry
      · subst same
        rw [Function.update_self, pending]
        constructor
        · exact (List.Sublist.refl kept).append (List.sublist_cons_self _ _)
        · intro other member
          simp only [List.mem_append, List.mem_cons] at member ⊢
          rcases member with front | rfl | back
          · exact .inl (.inl front)
          · exact .inr ⟨trivial, rfl⟩
          · exact .inl (.inr back)
      · rw [Function.update_of_ne same]
        exact ⟨List.Sublist.refl _, fun other member => .inl member⟩

/-- What is still held in the list of the entry has another frame. -/
theorem frame_ne_of_held_releaseOne
    {entry place : Fin nativeCanvasRingSize}
    {release other : SourceRelease}
    (held : state.Held)
    (pending : state.pending entry = kept ++ release :: rest)
    (member : other ∈ (state.releaseOne entry kept release rest).held (some place)) :
    other.frame ≠ release.frame := by
  intro same
  have before : other ∈ state.held (some place) :=
    (held_releaseOne pending (some place)).1.mem member
  have own : release ∈ state.held (some entry) := by
    simp [ReleaseState.held, pending]
  obtain rfl : place = entry := Option.some.inj (held.unique _ _ other before release own same)
  have distinct := held.nodup (some place)
  simp only [ReleaseState.held, pending, List.map_append, List.map_cons] at distinct
  have left : other ∈ kept ++ rest := by
    have lists : (state.releaseOne place kept release rest).pending place = kept ++ rest := by
      simp [releaseOne]
    rwa [ReleaseState.held, lists] at member
  have apart := (List.nodup_middle.mp distinct)
  simp only [List.nodup_cons] at apart
  apply apart.1
  rw [← List.map_append, ← same]
  exact List.mem_map_of_mem left

/-- A frame with another import than the one that is given up keeps it. -/
theorem backs_releaseImport
    {texture : SourceTexture}
    {idx other : Fin dmabufBufCacheSize}
    {inode : Nat}
    (apart : other ≠ idx)
    (backs : texture.Backs other inode) :
    ({ texture with cache := Function.update texture.cache idx .zero } :
      SourceTexture).Backs other inode := by
  obtain ⟨valid, same, plain, amly⟩ := backs
  refine ⟨?_, ?_, ?_, ?_⟩ <;> simpa [Function.update_of_ne apart]

/-- The import of an active frame that has one is that of the active entry. -/
theorem activeIdx_of_stillActive
    (active : state.stillActive release = true)
    (backed : state.Backed release) :
    ∃ idx inode, release.dmabufImport = some (idx, inode) ∧
      (state.sources release.slot).activeIdx = some idx ∧
      (state.sources release.slot).Backs idx inode := by
  obtain ⟨idx, inode, imported, backs⟩ := backed
  simp only [stillActive, imported, Bool.and_eq_true, beq_iff_eq] at active
  exact ⟨idx, inode, imported, active.1.1, backs⟩

theorem stillActive_of_activeIdx
    {idx : Fin dmabufBufCacheSize}
    {inode : Nat}
    (imported : release.dmabufImport = some (idx, inode))
    (active : (state.sources release.slot).activeIdx = some idx)
    (valid : ((state.sources release.slot).cache idx).valid = true)
    (same : ((state.sources release.slot).cache idx).inode = inode) :
    state.stillActive release = true := by
  simp [stillActive, imported, active, valid, same]

/-- The frame's import is not in the cache and all textures stay; or it is given up and
nothing is in flight. -/
theorem releaseOne_cases
    (state : ReleaseState)
    (entry : Fin nativeCanvasRingSize)
    (kept : List SourceRelease)
    (release : SourceRelease)
    (rest : List SourceRelease) :
    ¬ state.Backed release ∧
        (state.releaseOne entry kept release rest).sources = state.sources ∨
      ∃ idx inode, release.dmabufImport = some (idx, inode) ∧
        (state.sources release.slot).Backs idx inode ∧
        (state.releaseOne entry kept release rest).sources =
          Function.update state.sources release.slot
            ((state.sources release.slot).releaseDmabufImport idx inode).texture ∧
        ∀ other,
          ((state.releaseOne entry kept release rest).entries other).submitted = false := by
  unfold releaseOne
  rcases releaseImport_cases state release with ⟨unbacked, same⟩ |
    ⟨idx, inode, imported, backs, idled⟩
  · left
    rw [same]
    exact ⟨unbacked, rfl⟩
  · right
    refine ⟨idx, inode, imported, backs, ?_, ?_⟩
    · rw [idled]
      rfl
    · intro other
      rw [idled]
      exact submitted_waitIdle _ other

/-- A frame that is not active leaves the active entries alone. -/
theorem sources_releaseOne
    (entry : Fin nativeCanvasRingSize)
    (kept rest : List SourceRelease)
    (inactive : state.stillActive release = false) :
    (state.releaseOne entry kept release rest).sources = state.sources ∨
      ∃ idx, (state.sources release.slot).activeIdx ≠ some idx ∧
        (state.releaseOne entry kept release rest).sources =
          Function.update state.sources release.slot
            { state.sources release.slot with
              cache := Function.update (state.sources release.slot).cache idx .zero } := by
  rcases releaseOne_cases state entry kept release rest with ⟨-, sources⟩ |
    ⟨idx, inode, imported, backs, sources, -⟩
  · exact .inl sources
  · right
    have elsewhere : (state.sources release.slot).activeIdx ≠ some idx := by
      intro current
      rw [stillActive_of_activeIdx imported current backs.valid backs.inode] at inactive
      cases inactive
    rw [(SourceTexture.releaseDmabufImport_of_backs backs).2.2.2 elsewhere] at sources
    exact ⟨idx, elsewhere, sources⟩

/-- No frame becomes active. -/
theorem stillActive_releaseOne
    {release other : SourceRelease}
    (inactive : state.stillActive release = false)
    (active : (state.releaseOne entry kept release rest).stillActive other = true) :
    state.stillActive other = true := by
  rcases sources_releaseOne entry kept rest inactive with sources | ⟨idx, -, sources⟩
  · simpa only [stillActive, sources] using active
  · cases imported : other.dmabufImport with
    | none => simp [stillActive, imported] at active
    | some pair =>
        simp only [stillActive, imported, sources] at active ⊢
        by_cases at_slot : other.slot = release.slot
        · rw [at_slot] at active ⊢
          rw [Function.update_self] at active
          by_cases at_idx : pair.1 = idx
          · subst at_idx
            simp [BufCacheEntry.zero] at active
          · simpa only [Function.update_of_ne at_idx] using active
        · simpa only [Function.update_of_ne at_slot] using active

/-- What a slot offers is not a frame that is not active. -/
theorem Offers.releaseOne
    {slot : Fin maxSourceTextures}
    (offers : state.Offers slot)
    (pending : state.pending entry = kept ++ release :: rest)
    (inactive : state.stillActive release = false) :
    (state.releaseOne entry kept release rest).Offers slot := by
  obtain ⟨place, double, doubleMember, frame, rfl, active, backed⟩ := offers
  have here : double ∈ (state.releaseOne entry kept release rest).held place := by
    rcases (held_releaseOne pending place).2 double doubleMember with here | ⟨-, rfl⟩
    · exact here
    · rw [inactive] at active
      cases active
  have supplied : double.frame =
      (state.releaseOne entry kept release rest).supplier double.slot := by
    rw [(leaves_releaseOne state entry kept release rest).supplier]
    exact frame
  rcases sources_releaseOne entry kept rest inactive with sources | ⟨idx, elsewhere, sources⟩
  · refine ⟨place, double, here, supplied, rfl, ?_, ?_⟩
    · simpa only [stillActive, sources] using active
    · simpa only [Backed, sources] using backed
  · obtain ⟨doubleIdx, doubleInode, doubleImport, current, doubleBacks⟩ :=
      activeIdx_of_stillActive active backed
    have still : ((state.releaseOne entry kept release rest).sources double.slot).activeIdx =
          some doubleIdx ∧
        ((state.releaseOne entry kept release rest).sources double.slot).Backs doubleIdx
          doubleInode := by
      rw [sources]
      by_cases at_slot : double.slot = release.slot
      · rw [at_slot] at current doubleBacks ⊢
        rw [Function.update_self]
        refine ⟨current, backs_releaseImport ?_ doubleBacks⟩
        rintro rfl
        exact elsewhere current
      · rw [Function.update_of_ne at_slot]
        exact ⟨current, doubleBacks⟩
    refine ⟨place, double, here, supplied, rfl, ?_, doubleIdx, doubleInode, doubleImport,
      still.2⟩
    exact stillActive_of_activeIdx doubleImport still.1 still.2.valid still.2.inode

/-- A frame that a render reads is not that of the list of its entry, if the entry has
read only what is held elsewhere. -/
theorem Keeps.releaseOne
    {entry other : Fin nativeCanvasRingSize}
    {read : SourceRead}
    (keeps : state.Keeps other read)
    (held : state.Held)
    (pending : state.pending entry = kept ++ release :: rest)
    (unbacked : ¬ state.Backed release)
    (sources : (state.releaseOne entry kept release rest).sources = state.sources)
    (own : other = entry → read.amly = false →
      ∃ tick ∈ state.releases, tick.frame = read.frame) :
    (state.releaseOne entry kept release rest).Keeps other read := by
  obtain ⟨place, double, doubleMember, frame, imported, near⟩ := keeps
  rcases (held_releaseOne pending place).2 double doubleMember with here | ⟨rfl, rfl⟩
  · refine ⟨place, double, here, frame, ?_, near⟩
    simpa only [Backed, sources] using imported
  · cases amly : read.amly with
    | true => exact absurd (imported amly) unbacked
    | false =>
        rcases near amly with place | place
        · obtain ⟨tick, tickMember, tickFrame⟩ := own (Option.some.inj place).symm amly
          have elsewhere := held.unique none (some entry) tick tickMember double doubleMember
            (tickFrame.trans frame.symm)
          cases elsewhere
        · cases place

/-- The release of a frame that is not active, whose entry is not in flight or reads
only what is held elsewhere. -/
theorem Held.releaseOne
    (held : state.Held)
    (pending : state.pending entry = kept ++ release :: rest)
    (inactive : state.stopped = false → state.stillActive release = false)
    (own : state.Own entry) :
    (state.releaseOne entry kept release rest).Held := by
  have leaves := leaves_releaseOne state entry kept release rest
  have sub := fun place => (held_releaseOne pending place).1
  have member : release ∈ state.held (some entry) := by
    simp [ReleaseState.held, pending]
  have released : (state.releaseOne entry kept release rest).released =
      release.frame :: state.released := by
    unfold ReleaseState.releaseOne
    rcases releaseImport_cases state release with ⟨-, same⟩ | ⟨idx, inode, -, -, idled⟩
    · rw [same]
      rfl
    · rw [idled]
      rfl
  refine
    { inFlight := ?_, sound := ?_, fresh := ?_, spent := ?_, nodup := ?_, unique := ?_,
      unreleased := ?_, reads := ?_, current := ?_ }
  · intro other submitted
    have same := leaves.entries other submitted
    rw [same] at submitted ⊢
    exact held.inFlight other submitted
  · intro slot
    rcases releaseOne_cases state entry kept release rest with ⟨-, sources⟩ |
      ⟨idx, inode, -, backs, sources, -⟩
    · rw [sources]
      exact held.sound slot
    · rw [sources]
      by_cases at_slot : slot = release.slot
      · subst at_slot
        rw [Function.update_self]
        obtain ⟨-, allocated, imports, -⟩ := SourceTexture.releaseDmabufImport_of_backs backs
        intro imported
        rw [allocated]
        exact held.sound _ (imports imported)
      · rw [Function.update_of_ne at_slot]
        exact held.sound slot
  · intro place other here
    rw [leaves.taken]
    exact held.fresh place other ((sub place).mem here)
  · intro frame gone
    rw [leaves.taken]
    rw [released] at gone
    rcases List.mem_cons.mp gone with rfl | gone
    · exact held.fresh _ release member
    · exact held.spent frame gone
  · intro place
    exact (held.nodup place).sublist ((sub place).map _)
  · intro place other first firstMember second secondMember
    exact held.unique place other first ((sub place).mem firstMember) second
      ((sub other).mem secondMember)
  · intro place other here gone
    rw [released] at gone
    rcases List.mem_cons.mp gone with same | gone
    · cases place with
      | some place => exact frame_ne_of_held_releaseOne held pending here same
      | none =>
          have elsewhere := held.unique none (some entry) other ((sub none).mem here) release
            member same
          cases elsewhere
    · exact held.unreleased place other ((sub place).mem here) gone
  · intro other submitted read readMember
    rcases releaseOne_cases state entry kept release rest with ⟨unbacked, sources⟩ |
      ⟨_, _, -, -, -, idle⟩
    · have same := leaves.entries other submitted
      rw [same] at submitted readMember
      apply (held.reads other submitted read readMember).releaseOne held pending unbacked sources
      rintro rfl plain
      exact own submitted read readMember plain
    · rw [idle other] at submitted
      cases submitted
  · intro running slot imported amly supplied
    rw [leaves.stopped] at running
    rw [leaves.orphaned] at supplied
    have inactive := inactive running
    have fields : ((state.releaseOne entry kept release rest).sources slot).dmabufImported =
          (state.sources slot).dmabufImported ∧
        ((state.releaseOne entry kept release rest).sources slot).drmFormat =
          (state.sources slot).drmFormat := by
      rcases sources_releaseOne entry kept rest inactive with sources | ⟨idx, -, sources⟩
      · rw [sources]
        exact ⟨rfl, rfl⟩
      · rw [sources]
        by_cases at_slot : slot = release.slot
        · subst at_slot
          simp
        · simp [Function.update_of_ne at_slot]
    rw [fields.1] at imported
    rw [fields.2] at amly
    exact (held.current running slot imported amly supplied).releaseOne pending inactive

/-- The loop over the frames of an entry, with the frames kept at the end. -/
theorem held_releaseLoop
    {force : Bool}
    (rest : List SourceRelease)
    (held : state.Held)
    (pending : state.pending entry = kept ++ rest)
    (forced : state.stopped = false → force = false)
    (own : state.Own entry) :
    (releaseLoop force entry kept state rest).Held ∧
      state.Leaves (releaseLoop force entry kept state rest) := by
  induction rest generalizing kept state with
  | nil => exact ⟨held, .refl state⟩
  | cons release rest ih =>
      unfold releaseLoop
      split
      · apply ih held _ forced own
        simp [pending]
      next gone =>
        have inactive : state.stopped = false → state.stillActive release = false := by
          intro running
          simpa [forced running] using gone
        have leaves := leaves_releaseOne state entry kept release rest
        have after := @ih _ kept (held.releaseOne pending inactive own)
          (by simp [releaseOne]) (fun running => forced (leaves.stopped ▸ running))
          (own.leaves leaves)
        exact ⟨after.1, leaves.trans after.2⟩

/-- At most the active frames are kept. -/
theorem length_releaseLoop
    (rest : List SourceRelease)
    (pending : state.pending entry = kept ++ rest) :
    ((releaseLoop false entry kept state rest).pending entry).length ≤
      kept.length + (rest.filter state.stillActive).length := by
  induction rest generalizing kept state with
  | nil => simp [releaseLoop, pending]
  | cons release rest ih =>
      unfold releaseLoop
      by_cases active : state.stillActive release = true
      · have shorter := @ih state (kept ++ [release]) (by simp [pending])
        simp only [active, Bool.not_false, Bool.and_self, if_true, List.filter_cons,
          List.length_append, List.length_cons, List.length_nil] at shorter ⊢
        omega
      · simp only [Bool.not_eq_true] at active
        have shorter := @ih (state.releaseOne entry kept release rest) kept
          (by simp [releaseOne])
        have fewer : (rest.filter (state.releaseOne entry kept release rest).stillActive).length ≤
            (rest.filter state.stillActive).length := by
          apply List.Sublist.length_le
          apply List.monotone_filter_right
          intro other
          exact stillActive_releaseOne active
        simp only [active, Bool.not_false, Bool.and_false, Bool.false_eq_true, if_false,
          List.filter_cons]
        exact shorter.trans (Nat.add_le_add_left fewer _)

/-- The frames of an entry are released. -/
theorem held_releasePending
    {force : Bool}
    {entry : Fin nativeCanvasRingSize}
    {state : ReleaseState}
    (held : state.Held)
    (forced : state.stopped = false → force = false)
    (own : state.Own entry) :
    (state.releasePending force entry).Held ∧
      state.Leaves (state.releasePending force entry) :=
  held_releaseLoop (state.pending entry) held rfl forced own

end ReleaseState
end Engine
end SbsServer
