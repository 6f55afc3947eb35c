import SbsServer.CLib.Ring
import SbsServer.CLib.Str

/-!
# Source textures

The texture slots of `compositor.c` and what an upload does to them: allocation,
the cache of imported buffers with its eviction, and the release of an import.
Of a texture's Vulkan objects it is recorded whether they exist; a buffer is
named by the cache entry that owns it.  An operation says whether it waited for
the device to be idle.
-/

namespace SbsServer
namespace Engine

open CLib

/-- `SBS_MAX_SOURCE_TEXTURES`, which is `SBS_COMP_SCENE_MAX_ITEMS`. -/
abbrev maxSourceTextures : Nat := 32

/-- `SBS_DMABUF_BUF_CACHE_SIZE`. -/
abbrev dmabufBufCacheSize : Nat := 16

/-- The DRM formats that the compositor tells apart. -/
inductive DrmFormat
  | p010
  | nv12
  | nv21
  | amly
  | abgr8888
  | abgr2101010
  | other (code : UInt32)
  deriving DecidableEq

namespace DrmFormat

/-- `source_drm_format_is_rgba`. -/
def isRgba (format : DrmFormat) : Bool :=
  format == .abgr8888

/-- The formats of which `native_source_can_direct_yuv` accepts a buffer. -/
def isYuv (format : DrmFormat) : Bool :=
  format == .p010 || format == .nv12 || format == .nv21 || format == .amly

end DrmFormat

/-- `struct sbs_dmabuf_buf_cache_entry`. -/
structure BufCacheEntry where
  valid : Bool
  inode : Nat
  width : UInt32
  height : UInt32
  drmFormat : DrmFormat
  isYcbcr : Bool
  age : UInt32

/-- An entry that was cleared. -/
def BufCacheEntry.zero : BufCacheEntry where
  valid := false
  inode := 0
  width := 0
  height := 0
  drmFormat := .other 0
  isYcbcr := false
  age := 0

/-- `sbs_source_texture_t` without its buffers: whether there are an RGBA image and a view
of it, and what is the active import. -/
structure SlotState where
  image : Bool
  view : Bool
  width : UInt32
  height : UInt32
  sourceId : CharArray 128
  allocated : Bool
  activeIdx : Option (Fin dmabufBufCacheSize)
  frameCounter : UInt32
  dmabufImported : Bool
  drmFormat : DrmFormat
  ycbcrImported : Bool

namespace SlotState

/-- The id of a source has room for its terminator. -/
theorem idRoom : 0 < 128 := by decide

/-- A texture slot that was never used. -/
def new : SlotState where
  image := false
  view := false
  width := 0
  height := 0
  sourceId := .strlcpy 128 "" idRoom
  allocated := false
  activeIdx := none
  frameCounter := 0
  dmabufImported := false
  drmFormat := .other 0
  ycbcrImported := false

/-- `destroy_source_texture` clears the slot; the active index becomes 0. -/
def destroyed : SlotState :=
  { new with activeIdx := some 0 }

/-- The texture has the right size and, as is asked for, an RGBA image with a view or neither
of them. -/
def fits
    (state : SlotState)
    (width height : UInt32)
    (sampleable : Bool) : Bool :=
  state.allocated && state.width == width && state.height == height &&
    state.image == sampleable && state.view == sampleable

/-- The slot holds the texture of another source. -/
def holdsOther
    (state : SlotState)
    (sourceId : Option CStr) : Bool :=
  match given sourceId with
  | some sourceId =>
      state.allocated && state.sourceId.text != "" && state.sourceId.text != sourceId
  | none => false

end SlotState

/-- A texture slot with its cache.  `yBuf` is the buffer that direct layers read. -/
structure SourceTexture extends SlotState where
  cache : Fin dmabufBufCacheSize → BufCacheEntry
  yBuf : Option (Fin dmabufBufCacheSize)

/-- What of the compositor decides how a frame is uploaded. -/
structure UploadConfig where
  computePipeline : Bool
  ycbcrAvailable : Bool
  ycbcrDirectImport : Bool
  /-- `native_canvas_can_direct_upload_format`. -/
  canDirectUpload : DrmFormat → Bool

/-- The arguments of an upload but for the buffer, and how the calls of the system and of
the driver that it makes turn out. -/
structure UploadArguments where
  sourceId : Option CStr
  width : UInt32
  height : UInt32
  drmFormat : DrmFormat
  drmModifier : UInt64
  forceSampleable : Bool
  /-- The RGBA image is created, -/
  createsImage : Bool
  /-- its memory allocated -/
  allocatesImage : Bool
  /-- and its view created. -/
  createsView : Bool
  /-- The descriptor is duplicated for the YCbCr import. -/
  duplicates : Bool
  /-- The YCbCr image is imported. -/
  importsYcbcr : Bool
  /-- The buffer is imported. -/
  importsBuffer : Bool

/-- The entry of an inode is found by the arguments. -/
def BufCacheEntry.answers
    (entry : BufCacheEntry)
    (arguments : UploadArguments)
    (inode : Nat) : Bool :=
  entry.valid && entry.inode == inode && entry.width == arguments.width &&
    entry.height == arguments.height && entry.drmFormat == arguments.drmFormat &&
      !(arguments.forceSampleable && entry.isYcbcr)

theorem BufCacheEntry.of_answers
    {entry : BufCacheEntry}
    {arguments : UploadArguments}
    {inode : Nat}
    (answers : entry.answers arguments inode = true) :
    entry.valid = true ∧ entry.inode = inode ∧ entry.width = arguments.width ∧
      entry.height = arguments.height ∧ entry.drmFormat = arguments.drmFormat := by
  unfold BufCacheEntry.answers at answers
  simp only [Bool.and_eq_true, beq_iff_eq] at answers
  obtain ⟨⟨⟨⟨⟨valid, sameInode⟩, width⟩, height⟩, drmFormat⟩, _⟩ := answers
  exact ⟨valid, sameInode, width, height, drmFormat⟩

/-- An upload with what it finds out about the buffer. -/
structure UploadRequest extends UploadArguments where
  /-- The inode of the buffer, if `fstat` succeeds. -/
  inode : Option Nat
  /-- The buffer is as large as expected. -/
  sizeValid : Bool

/-- A texture after an operation, whether the operation succeeded and whether it
waited for the device to be idle. -/
structure TextureResult where
  texture : SourceTexture
  success : Bool
  idle : Bool

namespace SourceTexture

/-- A texture slot that was never used. -/
def new : SourceTexture where
  toSlotState := .new
  cache := fun _ => .zero
  yBuf := none

/-- `destroy_source_texture`. -/
def destroyed : SourceTexture :=
  { new with toSlotState := .destroyed }

/-- Destroy an allocated texture after the device is idle. -/
def discard (texture : SourceTexture) : TextureResult :=
  if texture.allocated then ⟨destroyed, true, true⟩ else ⟨texture, true, false⟩

/-- `sbs_compositor_alloc_direct_source`. -/
def allocDirect
    (texture : SourceTexture)
    (width height : UInt32) : TextureResult :=
  if texture.fits width height false then
    ⟨texture, true, false⟩
  else
    let discarded := texture.discard
    ⟨{ discarded.texture with
        width := width, height := height, allocated := true, activeIdx := none },
      true, discarded.idle⟩

/-- `sbs_compositor_alloc_source`. -/
def alloc
    (texture : SourceTexture)
    (request : UploadRequest) : TextureResult :=
  if texture.fits request.width request.height true then
    ⟨texture, true, false⟩
  else
    let discarded := texture.discard
    if !request.createsImage || !request.allocatesImage then
      ⟨{ discarded.texture with image := false }, false, discarded.idle⟩
    else if !request.createsView then
      ⟨{ discarded.texture with image := true, view := false }, false, discarded.idle⟩
    else
      ⟨{ discarded.texture with
          width := request.width, height := request.height, allocated := true
          image := true, view := true },
        true, discarded.idle⟩

/-- The entry that an import finds in the cache. -/
def hit
    (texture : SourceTexture)
    (request : UploadRequest)
    (inode : Nat) : Option (Fin dmabufBufCacheSize) :=
  (List.finRange dmabufBufCacheSize).find? fun idx =>
    (texture.cache idx).answers request.toUploadArguments inode

/-- The entry of the lowest age. -/
def oldest (texture : SourceTexture) : Fin dmabufBufCacheSize :=
  (List.finRange dmabufBufCacheSize).foldl
    (fun best idx =>
      if (texture.cache idx).age < (texture.cache best).age then idx else best) 0

/-- The entry that a new import takes. -/
def target (texture : SourceTexture) : Fin dmabufBufCacheSize :=
  ((List.finRange dmabufBufCacheSize).find? fun idx => !(texture.cache idx).valid).getD
    texture.oldest

/-- A hit in the cache makes the entry the active one. -/
def activate
    (texture : SourceTexture)
    (idx : Fin dmabufBufCacheSize) : SourceTexture :=
  let texture := { texture with
    cache := Function.update texture.cache idx
      { texture.cache idx with age := texture.frameCounter }
    activeIdx := some idx }
  if (texture.cache idx).isYcbcr then
    { texture with ycbcrImported := true, dmabufImported := false }
  else
    { texture with
      yBuf := some idx
      drmFormat := (texture.cache idx).drmFormat
      dmabufImported := true
      ycbcrImported := false }

/-- The entry that a new import takes is evicted and the aliases are cleared. -/
def clear
    (texture : SourceTexture)
    (idx : Fin dmabufBufCacheSize) : SourceTexture :=
  { texture with
    cache := Function.update texture.cache idx .zero
    yBuf := none
    dmabufImported := false
    ycbcrImported := false }

/-- A new import is stored and becomes the active one. -/
def store
    (texture : SourceTexture)
    (request : UploadRequest)
    (inode : Nat)
    (idx : Fin dmabufBufCacheSize)
    (isYcbcr : Bool) : SourceTexture :=
  let texture := { texture with
    cache := Function.update texture.cache idx
      { valid := true
        inode := inode
        width := request.width
        height := request.height
        drmFormat := request.drmFormat
        isYcbcr := isYcbcr
        age := texture.frameCounter }
    activeIdx := some idx }
  if isYcbcr then { texture with ycbcrImported := true, dmabufImported := false }
  else
    { texture with
      yBuf := some idx
      drmFormat := request.drmFormat
      dmabufImported := true }

/-- The import of a buffer that is not in the cache. -/
def importNew
    (config : UploadConfig)
    (texture : SourceTexture)
    (request : UploadRequest)
    (inode : Nat) : TextureResult :=
  let idx := texture.target
  let idle := (texture.cache idx).valid
  let cleared := texture.clear idx
  let ycbcr := !request.forceSampleable && config.ycbcrDirectImport &&
    config.ycbcrAvailable && (request.drmFormat == .nv12 || request.drmFormat == .nv21)
  if !request.sizeValid then ⟨cleared, false, idle⟩
  else if ycbcr && !request.duplicates then ⟨cleared, false, idle⟩
  else if ycbcr && request.importsYcbcr then
    ⟨cleared.store request inode idx true, true, idle⟩
  else if !request.drmFormat.isRgba && !config.computePipeline then ⟨cleared, false, idle⟩
  else if !request.importsBuffer then ⟨cleared, false, idle⟩
  else ⟨cleared.store request inode idx false, true, idle⟩

/-- `import_dmabuf_source`. -/
def importDmabuf
    (config : UploadConfig)
    (texture : SourceTexture)
    (request : UploadRequest) : TextureResult :=
  if !request.drmFormat.isRgba && !config.computePipeline && !config.ycbcrAvailable then
    ⟨texture, false, false⟩
  else
    match request.inode with
    | none => ⟨texture, false, false⟩
    | some inode =>
        let texture := { texture with frameCounter := texture.frameCounter + 1 }
        match texture.hit request inode with
        | some idx => ⟨texture.activate idx, true, false⟩
        | none => texture.importNew config request inode

/-- A slot that holds another source is cleared first. -/
def reassign
    (texture : SourceTexture)
    (sourceId : Option CStr) : TextureResult :=
  if texture.holdsOther sourceId then texture.discard else ⟨texture, true, false⟩

/-- `sbs_compositor_upload_source`. -/
def upload
    (config : UploadConfig)
    (texture : SourceTexture)
    (request : UploadRequest) : TextureResult :=
  if request.drmFormat = .abgr2101010 ∧ request.drmModifier ≠ 0 then
    ⟨texture, false, false⟩
  else
    let reassigned := texture.reassign request.sourceId
    let allocated :=
      if !request.forceSampleable && config.canDirectUpload request.drmFormat then
        reassigned.texture.allocDirect request.width request.height
      else reassigned.texture.alloc request
    let idle := reassigned.idle || allocated.idle
    if !allocated.success then ⟨allocated.texture, false, idle⟩
    else
      let sourceId : CharArray 128 := .strlcpy 128 (request.sourceId.getD "") SlotState.idRoom
      let imported := importDmabuf config { allocated.texture with sourceId := sourceId } request
      ⟨imported.texture, imported.success, idle || imported.idle⟩

/-- `sbs_compositor_release_source_dmabuf_import`. -/
def releaseDmabufImport
    (texture : SourceTexture)
    (idx : Fin dmabufBufCacheSize)
    (inode : Nat) : TextureResult :=
  let entry := texture.cache idx
  if !entry.valid || entry.inode != inode || entry.isYcbcr || entry.drmFormat != .amly then
    ⟨texture, false, false⟩
  else
    let wasActive := texture.activeIdx == some idx && texture.yBuf == some idx
    let released := { texture with cache := Function.update texture.cache idx .zero }
    ⟨if wasActive then
        { released with yBuf := none, dmabufImported := false, activeIdx := none }
      else released,
      true, true⟩

/-- A direct layer may read the texture's buffer. -/
def readable (texture : SourceTexture) : Bool :=
  texture.allocated && texture.dmabufImported && texture.yBuf.isSome && texture.drmFormat.isYuv

/-- The index and the inode of the active import, if it is one of an AMLY buffer. -/
def amlyImport (texture : SourceTexture) : Option (Fin dmabufBufCacheSize × Nat) :=
  match texture.activeIdx with
  | none => none
  | some idx =>
      if texture.drmFormat = .amly ∧ (texture.cache idx).valid ∧
          (texture.cache idx).drmFormat = .amly then
        some (idx, (texture.cache idx).inode)
      else none

end SourceTexture

/-! ## What an upload keeps -/

namespace SourceTexture

/-- An AMLY buffer with an inode is in the cache at an index. -/
structure Backs
    (texture : SourceTexture)
    (idx : Fin dmabufBufCacheSize)
    (inode : Nat) : Prop where
  valid : (texture.cache idx).valid = true
  inode : (texture.cache idx).inode = inode
  plain : (texture.cache idx).isYcbcr = false
  amly : (texture.cache idx).drmFormat = .amly

/-- The imports of a texture are those of another. -/
def Keeps (before after : SourceTexture) : Prop :=
  ∀ idx, (before.cache idx).valid = true →
    (after.cache idx).valid = true ∧
      (after.cache idx).inode = (before.cache idx).inode ∧
      (after.cache idx).isYcbcr = (before.cache idx).isYcbcr ∧
      (after.cache idx).drmFormat = (before.cache idx).drmFormat

theorem Keeps.refl (texture : SourceTexture) : texture.Keeps texture :=
  fun _ valid => ⟨valid, rfl, rfl, rfl⟩

theorem Keeps.trans
    {before between after : SourceTexture}
    (first : before.Keeps between)
    (second : between.Keeps after) :
    before.Keeps after := by
  intro idx valid
  obtain ⟨validBetween, inode, isYcbcr, drmFormat⟩ := first idx valid
  obtain ⟨validAfter, inodeAfter, isYcbcrAfter, drmFormatAfter⟩ := second idx validBetween
  exact ⟨validAfter, inodeAfter.trans inode, isYcbcrAfter.trans isYcbcr,
    drmFormatAfter.trans drmFormat⟩

theorem Backs.keeps
    {before after : SourceTexture}
    {idx : Fin dmabufBufCacheSize}
    {inode : Nat}
    (backs : before.Backs idx inode)
    (keeps : before.Keeps after) :
    after.Backs idx inode := by
  obtain ⟨valid, sameInode, isYcbcr, drmFormat⟩ := keeps idx backs.valid
  exact ⟨valid, sameInode.trans backs.inode, isYcbcr.trans backs.plain,
    drmFormat.trans backs.amly⟩

/-- Only an allocated texture has an import. -/
def Sound (texture : SourceTexture) : Prop :=
  texture.dmabufImported = true → texture.allocated = true

/-- What an operation keeps if it leaves a buffer to read without importing one: that
buffer; and without waiting for the device: all imports. -/
structure Retains (texture : SourceTexture) (result : TextureResult) : Prop where
  sound : result.texture.Sound
  active : result.texture.dmabufImported = true →
    texture.dmabufImported = true ∧ result.texture.activeIdx = texture.activeIdx ∧
      result.texture.drmFormat = texture.drmFormat ∧ texture.Keeps result.texture
  imports : result.idle = false → texture.Keeps result.texture

variable {after texture : SourceTexture} {idx : Fin dmabufBufCacheSize}

theorem retains_self
    {success : Bool}
    (sound : texture.Sound) :
    texture.Retains ⟨texture, success, false⟩ where
  sound := sound
  active := fun imported => ⟨imported, rfl, rfl, .refl texture⟩
  imports := fun _ => .refl texture

/-- A second operation follows. -/
theorem Retains.trans
    {first second : TextureResult}
    (retains : texture.Retains first)
    (retainsSecond : first.texture.Retains second) :
    texture.Retains ⟨second.texture, second.success, first.idle || second.idle⟩ := by
  refine ⟨retainsSecond.sound, ?_, ?_⟩
  · intro imported
    obtain ⟨between, activeSecond, drmFormatSecond, keepsSecond⟩ := retainsSecond.active imported
    obtain ⟨before, active, drmFormat, keeps⟩ := retains.active between
    exact ⟨before, activeSecond.trans active, drmFormatSecond.trans drmFormat,
      keeps.trans keepsSecond⟩
  · intro busy
    simp only [Bool.or_eq_false_iff] at busy
    exact (retains.imports busy.1).trans (retainsSecond.imports busy.2)

theorem retains_discard
    (sound : texture.Sound) :
    texture.Retains texture.discard := by
  unfold discard
  split
  · refine ⟨?_, ?_, ?_⟩
    · intro imported
      cases imported
    · intro imported
      cases imported
    · intro busy
      cases busy
  · exact retains_self sound

theorem retains_reassign
    (sound : texture.Sound)
    (sourceId : Option CStr) :
    texture.Retains (texture.reassign sourceId) := by
  unfold reassign
  split
  · exact retains_discard sound
  · exact retains_self sound

/-- A discarded texture has no buffer to read. -/
theorem dmabufImported_discard
    (sound : texture.Sound) :
    texture.discard.texture.dmabufImported = false := by
  unfold discard
  split
  · rfl
  next unallocated =>
    cases imported : texture.dmabufImported with
    | false => rfl
    | true => exact absurd (sound imported) unallocated

/-- A texture that is allocated anew. -/
theorem retains_of_discard
    {success : Bool}
    (sound : texture.Sound)
    (imported : after.dmabufImported = texture.discard.texture.dmabufImported)
    (cache : after.cache = texture.discard.texture.cache) :
    texture.Retains ⟨after, success, texture.discard.idle⟩ := by
  have none : after.dmabufImported = false := imported.trans (dmabufImported_discard sound)
  refine ⟨?_, ?_, ?_⟩
  · intro some
    rw [none] at some
    cases some
  · intro some
    change after.dmabufImported = true at some
    rw [none] at some
    cases some
  · intro busy idx valid
    have kept := (retains_discard sound).imports busy idx valid
    change (after.cache idx).valid = true ∧ _
    rw [cache]
    exact kept

theorem retains_allocDirect
    (sound : texture.Sound)
    (width height : UInt32) :
    texture.Retains (texture.allocDirect width height) := by
  unfold allocDirect
  split
  · exact retains_self sound
  · exact retains_of_discard sound rfl rfl

theorem retains_alloc
    (sound : texture.Sound)
    (request : UploadRequest) :
    texture.Retains (texture.alloc request) := by
  unfold alloc
  split
  · exact retains_self sound
  · simp only
    split
    · exact retains_of_discard sound rfl rfl
    · split
      · exact retains_of_discard sound rfl rfl
      · exact retains_of_discard sound rfl rfl

theorem allocated_of_fits
    {width height : UInt32}
    {sampleable : Bool}
    (fits : texture.fits width height sampleable = true) :
    texture.allocated = true := by
  unfold SlotState.fits at fits
  simp only [Bool.and_eq_true] at fits
  exact fits.1.1.1.1

theorem allocated_allocDirect
    (texture : SourceTexture)
    (width height : UInt32) :
    (texture.allocDirect width height).texture.allocated = true := by
  unfold allocDirect
  split
  next same => exact allocated_of_fits same
  · rfl

theorem allocated_alloc
    {request : UploadRequest}
    (success : (texture.alloc request).success = true) :
    (texture.alloc request).texture.allocated = true := by
  unfold alloc at success ⊢
  split
  next same => exact allocated_of_fits same
  next different =>
    rw [if_neg different] at success
    dsimp only at success ⊢
    split
    next fails => rw [if_pos fails] at success; cases success
    next created =>
      rw [if_neg created] at success
      split
      next fails => rw [if_pos fails] at success; cases success
      next => rfl

/-- The frame of an AMLY buffer is recorded with its import. -/
def Records (texture : SourceTexture) : Prop :=
  texture.dmabufImported = true → texture.drmFormat = .amly →
    ∃ idx inode, texture.amlyImport = some (idx, inode) ∧ texture.activeIdx = some idx ∧
      texture.Backs idx inode

/-- A texture whose active entry was imported as a buffer records it. -/
theorem records_of_active
    (active : texture.activeIdx = some idx)
    (valid : (texture.cache idx).valid = true)
    (plain : texture.dmabufImported = true → (texture.cache idx).isYcbcr = false)
    (format : texture.dmabufImported = true →
      (texture.cache idx).drmFormat = texture.drmFormat) :
    texture.Records := by
  intro imported amly
  have entryAmly : (texture.cache idx).drmFormat = .amly := (format imported).trans amly
  refine ⟨idx, (texture.cache idx).inode, ?_, active, valid, rfl, plain imported, entryAmly⟩
  simp [amlyImport, active, amly, valid, entryAmly]

theorem records_activate
    (valid : (texture.cache idx).valid = true) :
    (texture.activate idx).Records := by
  unfold activate
  simp only [Function.update_self]
  split
  · intro imported
    cases imported
  next plain =>
    apply records_of_active rfl
    · simpa using valid
    · simpa using plain
    · simp

theorem keeps_activate
    (texture : SourceTexture)
    (idx : Fin dmabufBufCacheSize) :
    texture.Keeps (texture.activate idx) := by
  have cache : (texture.activate idx).cache =
      Function.update texture.cache idx
        { texture.cache idx with age := texture.frameCounter } := by
    unfold activate
    simp only
    split <;> rfl
  intro other valid
  rw [cache]
  by_cases same : other = idx
  · subst same
    simpa using valid
  · rw [Function.update_of_ne same]
    exact ⟨valid, rfl, rfl, rfl⟩

theorem records_store
    (texture : SourceTexture)
    (request : UploadRequest)
    (inode : Nat)
    (idx : Fin dmabufBufCacheSize)
    (isYcbcr : Bool) :
    (texture.store request inode idx isYcbcr).Records := by
  unfold store
  cases isYcbcr with
  | true =>
      intro imported
      cases imported
  | false =>
      apply records_of_active rfl
      · simp
      · simp
      · simp

/-- What an import keeps and records.  One that fails leaves the buffer to read as it
was, or none. -/
structure Imports (texture : SourceTexture) (result : TextureResult) : Prop where
  allocated : result.texture.allocated = texture.allocated
  imports : result.idle = false → texture.Keeps result.texture
  failed : result.success = false → texture.Retains result
  records : result.success = true → result.texture.Records

/-- An import that takes an entry keeps the others. -/
theorem keeps_of_update
    (free : (texture.cache idx).valid = false)
    (others : ∀ other, other ≠ idx → after.cache other = texture.cache other) :
    texture.Keeps after := by
  intro other valid
  have apart : other ≠ idx := by
    rintro rfl
    rw [free] at valid
    cases valid
  rw [others other apart]
  exact ⟨valid, rfl, rfl, rfl⟩

theorem allocated_store
    (texture : SourceTexture)
    (request : UploadRequest)
    (inode : Nat)
    (idx : Fin dmabufBufCacheSize)
    (isYcbcr : Bool) :
    (texture.store request inode idx isYcbcr).allocated = texture.allocated := by
  cases isYcbcr <;> rfl

theorem cache_store
    (texture : SourceTexture)
    (request : UploadRequest)
    (inode : Nat)
    (idx : Fin dmabufBufCacheSize)
    (isYcbcr : Bool)
    {other : Fin dmabufBufCacheSize}
    (apart : other ≠ idx) :
    (texture.store request inode idx isYcbcr).cache other = texture.cache other := by
  cases isYcbcr <;> exact Function.update_of_ne apart _ _

theorem imports_importNew
    (config : UploadConfig)
    (texture : SourceTexture)
    (request : UploadRequest)
    (inode : Nat) :
    texture.Imports (importNew config texture request inode) := by
  have free : (texture.cache texture.target).valid = false →
      ∀ after : SourceTexture,
        (∀ other, other ≠ texture.target →
          after.cache other = (texture.clear texture.target).cache other) →
        texture.Keeps after := by
    intro invalid after others
    apply keeps_of_update invalid
    intro other apart
    rw [others other apart]
    exact Function.update_of_ne apart _ _
  have fails : texture.Imports
      ⟨texture.clear texture.target, false, (texture.cache texture.target).valid⟩ := by
    have kept : (texture.cache texture.target).valid = false →
        texture.Keeps (texture.clear texture.target) :=
      fun invalid => free invalid _ fun _ _ => rfl
    refine ⟨rfl, kept, ?_, ?_⟩
    · intro _
      refine ⟨?_, ?_, kept⟩
      · intro imported
        cases imported
      · intro imported
        cases imported
    · intro success
      cases success
  have stores : ∀ isYcbcr, texture.Imports
      ⟨(texture.clear texture.target).store request inode texture.target isYcbcr, true,
        (texture.cache texture.target).valid⟩ := by
    intro isYcbcr
    refine ⟨allocated_store _ _ _ _ _, ?_, ?_, ?_⟩
    · intro invalid
      exact free invalid _ fun other apart => cache_store _ _ _ _ _ apart
    · intro failed
      cases failed
    · intro _
      exact records_store _ _ _ _ _
  unfold importNew
  simp only
  split
  · exact fails
  · split
    · exact fails
    · split
      · exact stores true
      · split
        · exact fails
        · split
          · exact fails
          · exact stores false

theorem imports_importDmabuf
    {config : UploadConfig}
    {texture : SourceTexture}
    {request : UploadRequest}
    (sound : texture.Sound) :
    texture.Imports (importDmabuf config texture request) := by
  have unchanged : texture.Imports ⟨texture, false, false⟩ := by
    refine ⟨rfl, fun _ => .refl texture, fun _ => retains_self sound, ?_⟩
    intro success
    cases success
  unfold importDmabuf
  split
  · exact unchanged
  · split
    · exact unchanged
    next inode _ =>
      simp only
      split
      next idx found =>
        have answers := List.find?_some found
        have valid : (texture.cache idx).valid = true := (BufCacheEntry.of_answers answers).1
        refine ⟨?_, ?_, ?_, ?_⟩
        · unfold activate
          simp only
          split <;> rfl
        · intro _
          exact keeps_activate { texture with frameCounter := texture.frameCounter + 1 } idx
        · intro failed
          cases failed
        · intro _
          exact records_activate valid
      next =>
        have imported := imports_importNew config
          { texture with frameCounter := texture.frameCounter + 1 } request inode
        refine ⟨imported.allocated, imported.imports, ?_, imported.records⟩
        intro failed
        have retained := imported.failed failed
        exact ⟨retained.sound, retained.active, retained.imports⟩

/-- What an upload keeps and records. -/
structure Uploads (texture : SourceTexture) (result : TextureResult) : Prop where
  sound : result.texture.Sound
  imports : result.idle = false → texture.Keeps result.texture
  failed : result.success = false → texture.Retains result
  records : result.success = true → result.texture.Records

theorem Retains.uploads
    {result : TextureResult}
    (retains : texture.Retains result)
    (failed : result.success = false) :
    texture.Uploads result := by
  refine ⟨retains.sound, retains.imports, fun _ => retains, ?_⟩
  intro success
  rw [failed] at success
  cases success

theorem uploads_upload
    (config : UploadConfig)
    (request : UploadRequest)
    (sound : texture.Sound) :
    texture.Uploads (upload config texture request) := by
  unfold upload
  split
  · exact (retains_self sound).uploads rfl
  · let reassigned := texture.reassign request.sourceId
    let allocated :=
      if !request.forceSampleable && config.canDirectUpload request.drmFormat then
        reassigned.texture.allocDirect request.width request.height
      else reassigned.texture.alloc request
    have first : texture.Retains reassigned := retains_reassign sound request.sourceId
    have second : reassigned.texture.Retains allocated := by
      simp only [allocated]
      split
      · exact retains_allocDirect first.sound request.width request.height
      · exact retains_alloc first.sound request
    have both := first.trans second
    change texture.Uploads (if !allocated.success then _ else _)
    split
    · have failed : texture.Retains
          ⟨allocated.texture, false, reassigned.idle || allocated.idle⟩ :=
        ⟨both.sound, both.active, both.imports⟩
      exact failed.uploads rfl
    next succeeded =>
      have allocatedTexture : allocated.texture.allocated = true := by
        simp only [Bool.not_eq_true, Bool.not_eq_false'] at succeeded
        simp only [allocated] at succeeded ⊢
        split
        · exact allocated_allocDirect _ _ _
        next sampled =>
          rw [if_neg sampled] at succeeded
          exact allocated_alloc succeeded
      let sourceId : CharArray 128 := .strlcpy 128 (request.sourceId.getD "") SlotState.idRoom
      have third := @imports_importDmabuf config
        { allocated.texture with sourceId := sourceId } request both.sound
      refine ⟨?_, ?_, ?_, third.records⟩
      · intro _
        exact third.allocated.trans allocatedTexture
      · intro busy
        simp only [Bool.or_eq_false_iff] at busy
        have before : (reassigned.idle || allocated.idle) = false := by
          rw [Bool.or_eq_false_iff]
          exact busy.1
        exact (both.imports before).trans (third.imports busy.2)
      · intro failed
        have retained := third.failed failed
        exact both.trans ⟨retained.sound, retained.active, retained.imports⟩

/-- The release of an import that is not in the cache does nothing. -/
theorem releaseDmabufImport_of_not_backs
    {inode : Nat}
    (unbacked : ¬ texture.Backs idx inode) :
    texture.releaseDmabufImport idx inode = ⟨texture, false, false⟩ := by
  unfold releaseDmabufImport
  simp only
  split
  · rfl
  next other =>
    exfalso
    apply unbacked
    simp only [Bool.or_eq_true, Bool.not_eq_true', bne_iff_ne, not_or, not_not,
      Bool.not_eq_true, Bool.not_eq_false] at other
    exact ⟨other.1.1.1, other.1.1.2, other.1.2, other.2⟩

/-- The release of an import in the cache waits for the device and takes it away. -/
theorem releaseDmabufImport_of_backs
    {inode : Nat}
    (backs : texture.Backs idx inode) :
    (texture.releaseDmabufImport idx inode).idle = true ∧
      (texture.releaseDmabufImport idx inode).texture.allocated = texture.allocated ∧
      ((texture.releaseDmabufImport idx inode).texture.dmabufImported = true →
        texture.dmabufImported = true) ∧
      (texture.activeIdx ≠ some idx →
        (texture.releaseDmabufImport idx inode).texture =
          { texture with cache := Function.update texture.cache idx .zero }) := by
  have present : (!(texture.cache idx).valid || (texture.cache idx).inode != inode ||
      (texture.cache idx).isYcbcr || (texture.cache idx).drmFormat != .amly) = false := by
    simp [backs.valid, backs.inode, backs.plain, backs.amly]
  unfold releaseDmabufImport
  simp only [present]
  refine ⟨rfl, ?_, ?_, ?_⟩
  · simp only [Bool.false_eq_true, if_false]
    split <;> rfl
  · simp only [Bool.false_eq_true, if_false]
    split
    · intro imported
      cases imported
    · exact id
  · intro inactive
    simp [inactive]

end SourceTexture

end Engine
end SbsServer
