import SbsServer.Engine.ImportCache

/-!
# Whether the import cache can be seen

An upload on a slot is compared with the same upload on the slot with its cache
emptied.  The cache goes unnoticed exactly when the entry that the lookup finds
is the import that the frame would get now.
-/

namespace SbsServer
namespace Engine
namespace ImportCache

/-- The import that is active, with what it reads. -/
inductive ImportPath
  | inactive
  | ycbcr (view : Option ImportedView)
  | buffer (buf : Option ImportedBuffer)
  deriving DecidableEq

/-- The active import parameters of a slot. -/
structure ImportParams where
  path : ImportPath
  drmFormat : DrmFormat
  layout : PlaneLayout
  alpha : AlphaBounds
  deriving DecidableEq

namespace Slot

/-- The active import of a slot. -/
def path (slot : Slot) : ImportPath :=
  if slot.ycbcrImported then .ycbcr slot.ycbcrActiveView
  else if slot.dmabufImported then .buffer slot.yBuf
  else .inactive

/-- The active import parameters of a slot. -/
def params (slot : Slot) : ImportParams where
  path := slot.path
  drmFormat := slot.drmFormat
  layout := slot.layout
  alpha := slot.alpha

/-- The slot with an empty cache. -/
def emptied (slot : Slot) : Slot :=
  { slot with cache := fun _ => .zero }

end Slot

/-- An upload: the compositor that makes it and its arguments. -/
abbrev Upload := UploadConfig × Request

/-- The upload leaves the parameters that it would leave without the cache. -/
def TransparentAt
    (slot : Slot)
    (upload : Upload) : Prop :=
  (slot.upload upload.1 upload.2).outcome ≠ .undefined ∧
    ((slot.upload upload.1 upload.2).outcome = .accepted →
      (slot.upload upload.1 upload.2).slot.params =
        (slot.emptied.upload upload.1 upload.2).slot.params)

namespace Request

/-- The frame is imported as a YCbCr image when it is not in the cache. -/
def ImportsYcbcr
    (config : UploadConfig)
    (request : Request) : Prop :=
  request.expectedSize.toNat ≤ request.buffer.size ∧ request.triesYcbcr config ∧
    request.duplicates ∧ request.importsYcbcr

/-- The frame is imported as a buffer when it is not in the cache. -/
def ImportsBuffer
    (config : UploadConfig)
    (request : Request) : Prop :=
  request.expectedSize.toNat ≤ request.buffer.size ∧
    (request.triesYcbcr config → request.duplicates ∧ !request.importsYcbcr) ∧
    (request.drmFormat.isRgba ∨ config.computePipeline) ∧ request.importsBuffer

end Request

/-- An entry is the import that a frame would get now: as large a part of the
same buffer, with the same layout, for the same path, and with the alpha
rectangle of what the buffer holds. -/
def Entry.Describes
    (entry : Entry)
    (upload : Upload) : Prop :=
  if entry.isYcbcr then
    upload.2.ImportsYcbcr upload.1 ∧
      entry.ycbcrView = some ⟨upload.2.buffer.id, upload.2.layout⟩
  else
    upload.2.ImportsBuffer upload.1 ∧
      entry.buf = some ⟨upload.2.buffer.id, upload.2.expectedSize⟩ ∧
      entry.layout = upload.2.layout ∧ entry.alpha = upload.2.alphaBounds

/-- A frame that the compositor can read at all. -/
def Request.Supported
    (config : UploadConfig)
    (request : Request) : Prop :=
  request.drmFormat.isRgba ∨ config.computePipeline ∨ config.ycbcrAvailable

/-- The entry that an import finds describes the frame; where it finds none,
there is one to evict. -/
def Slot.FreshFor
    (slot : Slot)
    (upload : Upload)
    (inode : Nat) : Prop :=
  match slot.hit upload.2 inode with
  | some idx => (slot.cache idx).Describes upload
  | none => slot.target.isSome

/-- The import finds the cache fresh, if the upload gets to the import. -/
def FreshAt
    (slot : Slot)
    (upload : Upload) : Prop :=
  (slot.prepare upload.1 upload.2).outcome = .accepted →
    upload.2.Supported upload.1 →
      ∀ inode, upload.2.buffer.inode = some inode →
        (slot.prepare upload.1 upload.2).slot.FreshFor upload inode

namespace Slot

variable (slot : Slot)

@[simp] theorem fits_emptied
    (width height : UInt32)
    (sampleable : Bool) :
    slot.emptied.fits width height sampleable = slot.fits width height sampleable :=
  rfl

theorem emptied_discard (slot : Slot) :
    slot.emptied.discard = slot.discard.emptied := by
  unfold discard
  rw [show slot.emptied.allocated = slot.allocated from rfl]
  split <;> rfl

theorem emptied_allocDirect
    (width height : UInt32) :
    slot.emptied.allocDirect width height = (slot.allocDirect width height).emptied := by
  unfold allocDirect
  rw [emptied_discard, fits_emptied]
  split <;> rfl

theorem emptied_alloc
    (request : Request) :
    slot.emptied.alloc request =
      ⟨(slot.alloc request).slot.emptied, (slot.alloc request).outcome⟩ := by
  unfold alloc
  rw [emptied_discard, fits_emptied]
  split_ifs <;> rfl

theorem emptied_reassign
    (sourceId : Option CLib.CStr) :
    slot.emptied.reassign sourceId = (slot.reassign sourceId).emptied := by
  unfold reassign
  rw [emptied_discard, show slot.emptied.holdsOther sourceId = slot.holdsOther sourceId from rfl]
  split <;> rfl

variable (config : UploadConfig)

/-- Nothing before the import looks into the cache. -/
theorem emptied_prepare
    (slot : Slot)
    (request : Request) :
    slot.emptied.prepare config request =
      ⟨(slot.prepare config request).slot.emptied,
        (slot.prepare config request).outcome⟩ := by
  unfold prepare
  dsimp only
  rw [emptied_reassign, emptied_alloc, emptied_allocDirect]
  split_ifs <;> rfl

theorem prepare_ne_undefined
    (slot : Slot)
    (request : Request) :
    (slot.prepare config request).outcome ≠ .undefined := by
  unfold prepare alloc
  dsimp only
  split_ifs <;> simp_all

/-- A new import, by what it brings. -/
theorem importAt_cases
    (slot : Slot)
    (request : Request)
    (inode : Nat)
    (idx : Fin dmabufBufCacheSize) :
    (request.ImportsYcbcr config ∧ ¬request.ImportsBuffer config ∧
      slot.importAt config request inode idx =
        ⟨(slot.evict idx).storeYcbcr request inode idx, .accepted⟩) ∨
    (request.ImportsBuffer config ∧ ¬request.ImportsYcbcr config ∧
      slot.importAt config request inode idx =
        ⟨(slot.evict idx).storeBuffer request inode idx, .accepted⟩) ∨
    (¬request.ImportsYcbcr config ∧ ¬request.ImportsBuffer config ∧
      slot.importAt config request inode idx = ⟨slot.evict idx, .refused⟩) := by
  unfold importAt Request.ImportsYcbcr Request.ImportsBuffer
  dsimp only
  by_cases small : request.buffer.size < request.expectedSize.toNat
  · have tooSmall : ¬(request.expectedSize.toNat : ℤ) ≤ request.buffer.size := by omega
    simp [small, tooSmall]
  · have large : (request.expectedSize.toNat : ℤ) ≤ request.buffer.size := by omega
    rw [if_neg small]
    cases request.triesYcbcr config <;> cases request.duplicates <;>
      cases request.importsYcbcr <;> cases request.drmFormat.isRgba <;>
      cases config.computePipeline <;> cases request.importsBuffer <;> simp [large]

theorem params_evict
    (idx : Fin dmabufBufCacheSize) :
    (slot.evict idx).params = ⟨.inactive, slot.drmFormat, slot.layout, slot.alpha⟩ :=
  rfl

theorem params_storeYcbcr
    (request : Request)
    (inode : Nat)
    (idx : Fin dmabufBufCacheSize) :
    ((slot.evict idx).storeYcbcr request inode idx).params =
      ⟨.ycbcr (some ⟨request.buffer.id, request.layout⟩), slot.drmFormat, slot.layout,
        slot.alpha⟩ :=
  rfl

theorem params_storeBuffer
    (request : Request)
    (inode : Nat)
    (idx : Fin dmabufBufCacheSize) :
    ((slot.evict idx).storeBuffer request inode idx).params =
      ⟨.buffer (some ⟨request.buffer.id, request.expectedSize⟩), request.drmFormat,
        request.layout, request.alphaBounds⟩ :=
  rfl

/-- What a new import leaves does not depend on the cache. -/
theorem params_importAt_emptied
    (slot : Slot)
    (request : Request)
    (inode : Nat)
    (idx other : Fin dmabufBufCacheSize) :
    (slot.emptied.importAt config request inode other).slot.params =
      (slot.importAt config request inode idx).slot.params := by
  obtain ⟨ycbcr, notBuffer, stored⟩ | ⟨buffer, notYcbcr, stored⟩ |
      ⟨notYcbcr, notBuffer, evicted⟩ :=
    slot.importAt_cases config request inode idx
  all_goals
    obtain ⟨_, _, stored'⟩ | ⟨_, _, stored'⟩ | ⟨_, _, stored'⟩ :=
      slot.emptied.importAt_cases config request inode other
  all_goals first | contradiction | skip
  · rw [stored, stored', params_storeYcbcr, params_storeYcbcr]
    rfl
  · rw [stored, stored', params_storeBuffer, params_storeBuffer]
  · rw [evicted, stored', params_evict, params_evict]
    rfl

theorem params_activate
    (request : Request)
    (idx : Fin dmabufBufCacheSize) :
    (slot.activate request idx).params =
      if (slot.cache idx).isYcbcr then
        ⟨.ycbcr (slot.cache idx).ycbcrView, slot.drmFormat, slot.layout, slot.alpha⟩
      else
        ⟨.buffer (slot.cache idx).buf, request.drmFormat, (slot.cache idx).layout,
          (slot.cache idx).alpha⟩ := by
  unfold activate
  dsimp only
  split <;> rfl

/-- A hit leaves what a new import would leave exactly when the entry describes
the frame. -/
theorem params_activate_eq_iff
    (slot : Slot)
    (request : Request)
    (inode : Nat)
    (idx other : Fin dmabufBufCacheSize) :
    (slot.activate request idx).params =
        (slot.emptied.importAt config request inode other).slot.params ↔
      (slot.cache idx).Describes (config, request) := by
  rw [params_activate]
  unfold Entry.Describes
  obtain ⟨ycbcr, notBuffer, stored⟩ | ⟨buffer, notYcbcr, stored⟩ |
      ⟨notYcbcr, notBuffer, stored⟩ :=
    slot.emptied.importAt_cases config request inode other
  all_goals
    rw [stored]
    split
  · simp [params_storeYcbcr, ycbcr, emptied]
  · simp [params_storeYcbcr, notBuffer]
  · simp [params_storeBuffer, notYcbcr]
  · simp [params_storeBuffer, buffer]
  · simp [params_evict, notYcbcr]
  · simp [params_evict, notBuffer]

/-- An empty cache holds nothing that could be found, and its first entry is
free. -/
theorem hit_emptied
    (request : Request)
    (inode : Nat) :
    slot.emptied.hit request inode = none := by
  unfold hit
  rw [List.find?_eq_none]
  intro idx _
  exact Bool.false_ne_true

theorem target_emptied (slot : Slot) :
    slot.emptied.target = some 0 :=
  rfl

theorem importAt_ne_undefined
    (slot : Slot)
    (request : Request)
    (inode : Nat)
    (idx : Fin dmabufBufCacheSize) :
    (slot.importAt config request inode idx).outcome ≠ .undefined := by
  obtain ⟨_, _, stored⟩ | ⟨_, _, stored⟩ | ⟨_, _, stored⟩ :=
    slot.importAt_cases config request inode idx <;> simp [stored]

end Slot

/-! ## Uploads -/

namespace Slot

variable {config : UploadConfig} {request : Request}

variable {slot : Slot}

theorem upload_of_unprepared
    (unprepared : (slot.prepare config request).outcome ≠ .accepted) :
    slot.upload config request = slot.prepare config request := by
  unfold upload
  rw [if_pos unprepared]

theorem outcome_upload
    (prepared : (slot.prepare config request).outcome = .accepted) :
    (slot.upload config request).outcome =
      ((slot.prepare config request).slot.importDmabuf config request).outcome := by
  unfold upload
  dsimp only
  rw [if_neg (by simpa using prepared)]
  split_ifs <;> simp_all

theorem params_upload
    (prepared : (slot.prepare config request).outcome = .accepted) :
    (slot.upload config request).slot.params =
      ((slot.prepare config request).slot.importDmabuf config request).slot.params := by
  unfold upload
  dsimp only
  rw [if_neg (by simpa using prepared)]
  split_ifs <;> rfl

theorem importDmabuf_of_unsupported
    (slot : Slot)
    (unsupported : ¬request.Supported config) :
    slot.importDmabuf config request = ⟨slot, .refused⟩ := by
  unfold importDmabuf
  rw [if_pos]
  simpa [Request.Supported, and_assoc] using unsupported

theorem importDmabuf_of_noInode
    (config : UploadConfig)
    (slot : Slot)
    (absent : request.buffer.inode = none) :
    slot.importDmabuf config request = ⟨slot, .refused⟩ := by
  unfold importDmabuf
  rw [absent]
  split <;> rfl

/-- An import that gets to the cache. -/
theorem importDmabuf_eq
    {inode : Nat}
    (slot : Slot)
    (supported : request.Supported config)
    (present : request.buffer.inode = some inode) :
    slot.importDmabuf config request = slot.counted.importCached config request inode := by
  unfold importDmabuf
  rw [if_neg, present]
  obtain rgba | compute | available := supported <;> simp [*]

/-- A lookup goes unnoticed exactly when the cache is fresh. -/
theorem importCached_transparent_iff
    (config : UploadConfig)
    (slot : Slot)
    (request : Request)
    (inode : Nat) :
    ((slot.importCached config request inode).outcome ≠ .undefined ∧
        ((slot.importCached config request inode).outcome = .accepted →
          (slot.importCached config request inode).slot.params =
            (slot.emptied.importCached config request inode).slot.params)) ↔
      slot.FreshFor (config, request) inode := by
  have reference : slot.emptied.importCached config request inode =
      slot.emptied.importAt config request inode 0 := by
    unfold importCached
    rw [hit_emptied, target_emptied]
  rw [reference]
  unfold importCached FreshFor
  dsimp only
  cases found : slot.hit request inode with
  | some idx => simpa using slot.params_activate_eq_iff config request inode idx 0
  | none =>
      cases free : slot.target with
      | none => simp
      | some idx =>
          have defined := slot.importAt_ne_undefined config request inode idx
          have same := slot.params_importAt_emptied config request inode idx 0
          simpa using ⟨defined, fun _ => same.symm⟩

end Slot

/-- One upload goes unnoticed by the cache exactly when it finds the cache
fresh. -/
theorem transparentAt_iff
    (slot : Slot)
    (upload : Upload) :
    TransparentAt slot upload ↔ FreshAt slot upload := by
  obtain ⟨config, request⟩ := upload
  unfold TransparentAt FreshAt
  dsimp only
  have before := Slot.emptied_prepare config slot request
  by_cases prepared : (slot.prepare config request).outcome = .accepted
  · have prepared' : (slot.emptied.prepare config request).outcome = .accepted := by
      rw [before]
      exact prepared
    rw [Slot.outcome_upload prepared, Slot.params_upload prepared, Slot.params_upload prepared',
      before]
    generalize (slot.prepare config request).slot = slot at *
    by_cases supported : request.Supported config
    · cases present : request.buffer.inode with
      | none => simp [Slot.importDmabuf_of_noInode config slot present]
      | some inode =>
          rw [slot.importDmabuf_eq supported present,
            slot.emptied.importDmabuf_eq supported present]
          have same := slot.counted.importCached_transparent_iff config request inode
          constructor
          · intro transparent _ _ inode' equal
            obtain rfl : inode = inode' := by simpa using equal
            exact same.mp transparent
          · intro fresh
            exact same.mpr (fresh prepared supported inode rfl)
    · simp [Slot.importDmabuf_of_unsupported slot supported, supported]
  · rw [Slot.upload_of_unprepared prepared]
    simp [prepared, slot.prepare_ne_undefined config request]

/-- An entry is found for a frame by its inode, its size and its format. -/
def Entry.Keyed
    (entry : Entry)
    (request : Request) : Prop :=
  request.buffer.inode = some entry.inode ∧ entry.width = request.width ∧
    entry.height = request.height ∧ entry.drmFormat = request.drmFormat

/-- An entry is the import of a frame that was uploaded before, or is free. -/
structure Entry.RecordedIn
    (before : List Upload)
    (entry : Entry) : Prop where
  uploaded : entry.valid → ∃ upload ∈ before, entry.Keyed upload.2 ∧ entry.Describes upload
  free : entry.valid = false → entry.isYcbcr = false
  age : entry.age.toNat ≤ before.length

theorem Entry.recordedIn_zero (before : List Upload) : Entry.zero.RecordedIn before where
  uploaded := fun valid => absurd valid Bool.false_ne_true
  free := fun _ => rfl
  age := Nat.zero_le _

/-- Every entry of the cache is recorded, and no more frames were counted than
were uploaded. -/
structure Recorded
    (before : List Upload)
    (slot : Slot) : Prop where
  entries : ∀ idx, (slot.cache idx).RecordedIn before
  counter : slot.frameCounter.toNat ≤ before.length

namespace Recorded

variable {before : List Upload} {slot : Slot}

theorem congr
    {slot slot' : Slot}
    (recorded : Recorded before slot)
    (cache : slot'.cache = slot.cache)
    (counter : slot'.frameCounter = slot.frameCounter) :
    Recorded before slot' where
  entries := by
    rw [cache]
    exact recorded.entries
  counter := by
    rw [counter]
    exact recorded.counter

theorem destroyed (before : List Upload) : Recorded before .destroyed where
  entries := fun _ => Entry.recordedIn_zero before
  counter := Nat.zero_le _

theorem new : Recorded [] .new :=
  (destroyed []).congr rfl rfl

theorem discard
    (recorded : Recorded before slot) :
    Recorded before slot.discard := by
  unfold Slot.discard
  split
  · exact destroyed before
  · exact recorded

theorem prepare
    (recorded : Recorded before slot)
    (upload : Upload) :
    Recorded before (slot.prepare upload.1 upload.2).slot := by
  have reassigned : Recorded before (slot.reassign upload.2.sourceId) := by
    unfold Slot.reassign
    split
    · exact recorded.discard
    · exact recorded
  unfold Slot.prepare Slot.allocDirect Slot.alloc
  dsimp only
  generalize slot.reassign upload.2.sourceId = slot' at *
  have discarded := reassigned.discard
  split_ifs <;>
    first | exact recorded | exact reassigned.congr rfl rfl | exact discarded.congr rfl rfl

theorem more
    (recorded : Recorded before slot)
    (upload : Upload) :
    Recorded (before ++ [upload]) slot where
  entries := by
    intro idx
    have entry := recorded.entries idx
    refine ⟨?_, entry.free, ?_⟩
    · intro valid
      obtain ⟨earlier, member, described⟩ := entry.uploaded valid
      exact ⟨earlier, List.mem_append_left _ member, described⟩
    · have := entry.age
      rw [List.length_append]
      omega
  counter := by
    have := recorded.counter
    rw [List.length_append]
    omega

/-- The frame that is uploaded is counted. -/
theorem counted
    (recorded : Recorded before slot)
    (upload : Upload) :
    Recorded (before ++ [upload]) slot.counted := by
  refine ⟨(recorded.more upload).entries, ?_⟩
  have least : (slot.frameCounter + 1).toNat ≤ slot.frameCounter.toNat + 1 := by
    rw [UInt32.toNat_add]
    exact Nat.mod_le _ _
  have := recorded.counter
  rw [List.length_append, List.length_singleton]
  exact le_trans least (by omega)

/-- A change of one entry. -/
theorem update
    {slot slot' : Slot}
    (recorded : Recorded before slot)
    (idx : Fin dmabufBufCacheSize)
    {entry : Entry}
    (recordedIn : entry.RecordedIn before)
    (cache : slot'.cache = Function.update slot.cache idx entry)
    (counter : slot'.frameCounter = slot.frameCounter) :
    Recorded before slot' where
  entries := by
    rw [cache, Function.forall_update_iff slot.cache fun _ entry => entry.RecordedIn before]
    exact ⟨recordedIn, fun other _ => recorded.entries other⟩
  counter := by
    rw [counter]
    exact recorded.counter

section

variable (recorded : Recorded before slot)
include recorded

theorem evict
    (idx : Fin dmabufBufCacheSize) :
    Recorded before (slot.evict idx) := by
  by_cases valid : (slot.cache idx).valid
  · exact recorded.update idx (Entry.recordedIn_zero before) (if_pos valid) rfl
  · exact recorded.congr (if_neg valid) rfl

/-- The entry that was evicted is free. -/
theorem isYcbcr_evict
    (idx : Fin dmabufBufCacheSize) :
    ((slot.evict idx).cache idx).isYcbcr = false := by
  unfold Slot.evict
  dsimp only
  split
  · rw [Function.update_self]
    rfl
  · next invalid => exact (recorded.entries idx).free (by simpa using invalid)

theorem activate
    (request : Request)
    (idx : Fin dmabufBufCacheSize) :
    Recorded before (slot.activate request idx) := by
  have entry := recorded.entries idx
  have recordedIn : Entry.RecordedIn before
      { slot.cache idx with age := slot.frameCounter } :=
    ⟨entry.uploaded, entry.free, recorded.counter⟩
  unfold Slot.activate
  dsimp only
  split
  · exact recorded.update idx recordedIn rfl rfl
  · exact recorded.update idx recordedIn rfl rfl

theorem importAt
    {upload : Upload}
    {inode : Nat}
    (member : upload ∈ before)
    (present : upload.2.buffer.inode = some inode)
    (idx : Fin dmabufBufCacheSize) :
    Recorded before (slot.importAt upload.1 upload.2 inode idx).slot := by
  have evicted := recorded.evict idx
  have notYcbcr := recorded.isYcbcr_evict idx
  obtain ⟨ycbcr, _, stored⟩ | ⟨buffer, _, stored⟩ | ⟨_, _, stored⟩ :=
    slot.importAt_cases upload.1 upload.2 inode idx
  · rw [stored]
    refine evicted.update idx ⟨?_, by simp, evicted.counter⟩ rfl rfl
    intro _
    exact ⟨upload, member, ⟨present, rfl, rfl, rfl⟩, ycbcr, rfl⟩
  · rw [stored]
    refine evicted.update idx ⟨?_, by simp, evicted.counter⟩ rfl rfl
    intro _
    refine ⟨upload, member, ⟨present, rfl, rfl, rfl⟩, ?_⟩
    unfold Entry.Describes
    rw [if_neg (by simp [notYcbcr])]
    exact ⟨buffer, rfl, rfl, rfl⟩
  · rw [stored]
    exact evicted

/-- An upload keeps the cache recorded. -/
theorem upload
    (upload : Upload) :
    Recorded (before ++ [upload]) (slot.upload upload.1 upload.2).slot := by
  have prepared := recorded.prepare upload
  have imported : Recorded (before ++ [upload])
      ((slot.prepare upload.1 upload.2).slot.importDmabuf upload.1 upload.2).slot := by
    generalize (slot.prepare upload.1 upload.2).slot = slot' at *
    by_cases supported : upload.2.Supported upload.1
    · cases present : upload.2.buffer.inode with
      | none =>
          rw [Slot.importDmabuf_of_noInode _ _ present]
          exact prepared.more upload
      | some inode =>
          rw [slot'.importDmabuf_eq supported present]
          have counted := prepared.counted upload
          unfold Slot.importCached
          split
          · exact counted.activate _ _
          · split
            · exact counted.importAt (by simp) present _
            · exact counted
    · rw [Slot.importDmabuf_of_unsupported _ supported]
      exact prepared.more upload
  unfold Slot.upload
  dsimp only
  split_ifs
  · exact prepared.more upload
  · exact imported
  · exact imported.congr rfl rfl
  · exact imported

end

end Recorded

/-! ## Frames that come back -/

/-- A frame with the key of an earlier one is imported as that one was. -/
def ComesBack (first later : Upload) : Prop :=
  first.2.buffer.inode = later.2.buffer.inode → first.2.width = later.2.width →
    first.2.height = later.2.height → first.2.drmFormat = later.2.drmFormat →
      later.2.buffer.id = first.2.buffer.id ∧ later.2.layout = first.2.layout ∧
        later.2.alphaBounds = first.2.alphaBounds ∧
        (first.2.ImportsYcbcr first.1 → later.2.ImportsYcbcr later.1) ∧
        (first.2.ImportsBuffer first.1 → later.2.ImportsBuffer later.1)

theorem Entry.Describes.comesBack
    {entry : Entry}
    {first later : Upload}
    (describes : entry.Describes first)
    (keyed : entry.Keyed first.2)
    (keyed' : entry.Keyed later.2)
    (comesBack : ComesBack first later) :
    entry.Describes later := by
  obtain ⟨inode, width, height, drmFormat⟩ := keyed
  obtain ⟨inode', width', height', drmFormat'⟩ := keyed'
  have sameWidth := width.symm.trans width'
  have sameHeight := height.symm.trans height'
  have sameFormat := drmFormat.symm.trans drmFormat'
  obtain ⟨id, layout, alpha, ycbcr, buffer⟩ :=
    comesBack (inode.trans inode'.symm) sameWidth sameHeight sameFormat
  have size : later.2.expectedSize = first.2.expectedSize := by
    unfold Frame.expectedSize
    rw [layout, sameWidth, sameHeight, sameFormat]
  unfold Describes at *
  rw [id, layout, alpha, size]
  split
  · next isYcbcr =>
      rw [if_pos isYcbcr] at describes
      exact ⟨ycbcr describes.1, describes.2⟩
  · next isBuffer =>
      rw [if_neg isBuffer] at describes
      exact ⟨buffer describes.1, describes.2⟩

variable {slot : Slot}

theorem Slot.keyed_of_hit
    {request : Request}
    {inode : Nat}
    {idx : Fin dmabufBufCacheSize}
    (present : request.buffer.inode = some inode)
    (found : slot.hit request inode = some idx) :
    (slot.cache idx).valid ∧ (slot.cache idx).Keyed request := by
  have answers := List.find?_some found
  obtain ⟨valid, sameInode, keyed⟩ := BufCacheEntry.of_answers answers
  exact ⟨valid, by rw [present, sameInode], keyed⟩

theorem Slot.isSome_foldl_older
    (slot : Slot)
    (indices : List (Fin dmabufBufCacheSize))
    (best : Option (Fin dmabufBufCacheSize) × UInt32)
    (some_or_younger : best.1.isSome ∨ ∃ idx ∈ indices, (slot.cache idx).age < best.2) :
    (indices.foldl slot.older best).1.isSome := by
  induction indices generalizing best with
  | nil => simpa using some_or_younger
  | cons idx indices ih =>
      rw [List.foldl_cons]
      apply ih
      unfold older
      split
      · exact .inl rfl
      · next notYounger =>
          obtain present | ⟨other, member, younger⟩ := some_or_younger
          · exact .inl present
          · obtain rfl | later := List.mem_cons.mp member
            · exact absurd younger notYounger
            · exact .inr ⟨other, later, younger⟩

/-- As long as the ages are below `UINT32_MAX` an entry can be evicted. -/
theorem Recorded.isSome_target
    {before : List Upload}
    (recorded : Recorded before slot)
    (few : before.length < 4294967295) :
    slot.target.isSome := by
  unfold Slot.target
  rw [Option.isSome_or, Bool.or_eq_true]
  right
  apply slot.isSome_foldl_older
  right
  refine ⟨0, List.mem_finRange 0, ?_⟩
  rw [UInt32.lt_iff_toNat_lt]
  exact lt_of_le_of_lt (recorded.entries 0).age few

/-- A frame that comes back as it was finds the cache fresh. -/
theorem Recorded.freshAt
    {before : List Upload}
    {upload : Upload}
    (recorded : Recorded before slot)
    (few : before.length < 4294967295)
    (comesBack : ∀ first ∈ before, ComesBack first upload) :
    FreshAt slot upload := by
  intro _ _ inode present
  have prepared := recorded.prepare upload
  unfold Slot.FreshFor
  split
  · next idx found =>
      obtain ⟨valid, keyed⟩ := Slot.keyed_of_hit present found
      obtain ⟨first, member, keyedFirst, describes⟩ := (prepared.entries idx).uploaded valid
      exact describes.comesBack keyedFirst keyed (comesBack first member)
  · exact prepared.isSome_target few

/-- A slot after uploads. -/
def run (slot : Slot) (uploads : List Upload) : Slot :=
  uploads.foldl (fun slot upload => (slot.upload upload.1 upload.2).slot) slot

/-- The uploads of a run on a slot that was never used have a property in the
states that they find. -/
def Throughout
    (property : Slot → Upload → Prop)
    (uploads : List Upload) : Prop :=
  ∀ before upload after, uploads = before ++ upload :: after → property (run .new before) upload

theorem recorded_run (uploads : List Upload) : Recorded uploads (run .new uploads) := by
  induction uploads using List.reverseRecOn with
  | nil => exact .new
  | append_singleton before upload ih =>
      unfold run at *
      rw [List.foldl_append]
      exact ih.upload upload

/-- In every run the cache goes unnoticed exactly when every upload finds it
fresh.  It does so as long as frames with one key are imported alike, and the
count of the frames has not come around. -/
theorem import_cache_transparent (uploads : List Upload) :
    (Throughout TransparentAt uploads ↔ Throughout FreshAt uploads) ∧
      (uploads.Pairwise ComesBack → uploads.length ≤ 4294967295 →
        Throughout TransparentAt uploads) := by
  have same : Throughout TransparentAt uploads ↔ Throughout FreshAt uploads := by
    simp only [Throughout, transparentAt_iff]
  refine ⟨same, ?_⟩
  intro comeBack few
  rw [same]
  rintro before upload after rfl
  rw [List.length_append, List.length_cons] at few
  apply (recorded_run before).freshAt (by omega)
  intro first member
  exact (List.pairwise_append.mp comeBack).2.2 first member upload (List.mem_cons_self ..)

/-- A compositor that imports every buffer for its compute shaders. -/
def computeConfig : UploadConfig where
  computePipeline := true
  ycbcrAvailable := false
  ycbcrDirectImport := false
  canDirectUpload := fun _ => false

/-- A picture of one RGBA pixel. -/
def pixelRequest (alpha : UInt8) : Request where
  buffer := {
    id := 1
    inode := some 7
    size := 4096
    bytes := fun _ => alpha
    maps := fun _ => true }
  width := 1
  height := 1
  drmFormat := .abgr8888
  planeOffset1 := 0
  planeStride0 := 4
  planeStride1 := 0
  sourceId := some "overlay"
  drmModifier := 0
  forceSampleable := false
  filterFlags := 0
  createsImage := true
  allocatesImage := true
  createsView := true
  duplicates := true
  importsYcbcr := true
  importsBuffer := true

/-- A frame that is shown twice. -/
theorem import_cache_transparent_twice :
    Throughout TransparentAt
      [(computeConfig, pixelRequest 255), (computeConfig, pixelRequest 255)] := by
  apply (import_cache_transparent _).2
  · rw [List.pairwise_pair]
    intro _ _ _ _
    exact ⟨rfl, rfl, rfl, id, id⟩
  · decide

/-- A pixel that was transparent when its buffer was imported stays clipped when
it is drawn. -/
theorem import_cache_not_transparent :
    ¬Throughout TransparentAt
      [(computeConfig, pixelRequest 0), (computeConfig, pixelRequest 255)] := by
  intro transparent
  have drawn := (transparent [(computeConfig, pixelRequest 0)] (computeConfig, pixelRequest 255)
    [] rfl).2 (by decide +kernel)
  exact absurd drawn (by decide +kernel)

end ImportCache
end Engine
end SbsServer
