import Mathlib.Data.Fintype.Basic
import SbsServer.CLib.Str
import SbsServer.Engine.SourceTexture

/-!
# The cache of imported buffers

`import_dmabuf_source` keeps the last sixteen imports of a texture slot and finds
them again by the inode of the buffer, the size of the picture and its format.
This module follows what an upload leaves in the slot: the buffer or the view
that rendering reads, with its strides and its alpha rectangle.  A buffer is
known by a number of its own, which its inode need not tell.
-/

namespace SbsServer
namespace Engine
namespace ImportCache

open CLib

/-- Where the planes of a picture lie in its buffer. -/
structure PlaneLayout where
  yStride : UInt32
  uvStride : UInt32
  uvOffset : UInt32
  deriving DecidableEq

/-- The rectangle of the pixels that are not transparent. -/
structure AlphaBounds where
  x : UInt32
  y : UInt32
  w : UInt32
  h : UInt32
  rectOpaque : Bool
  deriving DecidableEq

/-- What `import_dmabuf_source` reads of a DMA-BUF. -/
structure DmaBuf where
  /-- The buffer itself. -/
  id : Nat
  /-- Its inode, if `fstat` succeeds. -/
  inode : Option Nat
  /-- What `lseek` returns for its end. -/
  size : Int
  /-- The content. -/
  bytes : Nat → UInt8
  /-- So many bytes can be mapped. -/
  maps : Nat → Bool

/-- A frame as it is given to an upload.  The offset of the first plane is never
read. -/
structure Frame where
  buffer : DmaBuf
  width : UInt32
  height : UInt32
  drmFormat : DrmFormat
  planeOffset1 : UInt32
  planeStride0 : UInt32
  planeStride1 : UInt32

/-- A field of which 0 means that it was not given. -/
def orDefault (value default : UInt32) : UInt32 :=
  if value ≠ 0 then value else default

/-- What a scan has found of the pixels that are not transparent. -/
structure AlphaScan where
  minX : UInt32
  minY : UInt32
  maxX : UInt32
  maxY : UInt32
  nonzeroCount : UInt64
  opaqueCount : UInt64

namespace AlphaScan

/-- The scan looks at one pixel. -/
def pixel
    (scan : AlphaScan)
    (x y : UInt32)
    (alpha : UInt8) : AlphaScan :=
  if alpha = 0 then scan
  else {
    minX := if x < scan.minX then x else scan.minX
    minY := if y < scan.minY then y else scan.minY
    maxX := if scan.maxX < x then x else scan.maxX
    maxY := if scan.maxY < y then y else scan.maxY
    nonzeroCount := scan.nonzeroCount + 1
    opaqueCount := if alpha = 255 then scan.opaqueCount + 1 else scan.opaqueCount }

/-- The rectangle that the scan has found. -/
def bounds (scan : AlphaScan) : AlphaBounds :=
  if scan.maxX < scan.minX ∨ scan.maxY < scan.minY then ⟨0, 0, 0, 0, false⟩
  else
    let w := scan.maxX - scan.minX + 1
    let h := scan.maxY - scan.minY + 1
    let area := w.toUInt64 * h.toUInt64
    ⟨scan.minX, scan.minY, w, h, scan.nonzeroCount == area && scan.opaqueCount == area⟩

end AlphaScan

/-- `source_alpha_bounds_scan_rgba_fd`. -/
def sourceAlphaBoundsScanRgba
    (buffer : DmaBuf)
    (width height stride : UInt32) : AlphaBounds :=
  if width = 0 ∨ height = 0 ∨ stride < width * 4 then ⟨0, 0, width, height, false⟩
  else if !buffer.maps (stride.toNat * height.toNat) then ⟨0, 0, width, height, false⟩
  else
    let row (scan : AlphaScan) (y : Nat) : AlphaScan :=
      (List.range width.toNat).foldl
        (fun scan x => scan.pixel (.ofNat x) (.ofNat y)
          (buffer.bytes (y * stride.toNat + x * 4 + 3))) scan
    ((List.range height.toNat).foldl row ⟨width, height, 0, 0, 0, 0⟩).bounds

namespace Frame

/-- The layout that an import reads from the frame. -/
def layout (frame : Frame) : PlaneLayout :=
  match frame.drmFormat with
  | .p010 =>
      let yStride := orDefault frame.planeStride0 (frame.width * 2)
      { yStride := yStride
        uvStride := orDefault frame.planeStride1 (frame.width * 2)
        uvOffset := orDefault frame.planeOffset1 (yStride * frame.height) }
  | .amly =>
      { yStride := orDefault frame.planeStride0 ((frame.width + 1) / 2 * 5)
        uvStride := 0
        uvOffset := 0 }
  | .abgr8888 =>
      { yStride := orDefault frame.planeStride0 (frame.width * 4)
        uvStride := 0
        uvOffset := 0 }
  | _ =>
      { yStride := orDefault frame.planeStride0 frame.width
        uvStride := orDefault frame.planeStride1 frame.width
        uvOffset := orDefault frame.planeOffset1 (frame.width * frame.height) }

end Frame

/-- `expected_size`: what the buffer of a picture has to hold, and as much of it
is imported. -/
def expectedSize
    (drmFormat : DrmFormat)
    (width height : UInt32)
    (layout : PlaneLayout) : UInt32 :=
  match drmFormat with
  | .p010 => layout.uvOffset + layout.uvStride * (height / 2)
  | .amly | .abgr8888 => layout.yStride * height
  | _ => width * height * 3 / 2

namespace Frame

/-- The size that is expected of the frame's buffer. -/
def expectedSize (frame : Frame) : UInt32 :=
  ImportCache.expectedSize frame.drmFormat frame.width frame.height frame.layout

/-- The alpha rectangle that is stored with an imported buffer. -/
def alphaBounds (frame : Frame) : AlphaBounds :=
  if frame.drmFormat.isRgba then
    sourceAlphaBoundsScanRgba frame.buffer frame.width frame.height frame.layout.yStride
  else ⟨0, 0, frame.width, frame.height, true⟩

end Frame

/-! ## Slots -/

/-- A `VkBuffer` over a DMA-BUF. -/
structure ImportedBuffer where
  /-- The DMA-BUF that it reads. -/
  id : Nat
  size : UInt32
  deriving DecidableEq

/-- A view of a YCbCr image over a DMA-BUF.  The layout was given when the image
was created. -/
structure ImportedView where
  /-- The DMA-BUF that it reads. -/
  id : Nat
  layout : PlaneLayout
  deriving DecidableEq

/-- `struct sbs_dmabuf_buf_cache_entry` with what is read through it. -/
structure Entry extends BufCacheEntry where
  buf : Option ImportedBuffer
  ycbcrView : Option ImportedView
  layout : PlaneLayout
  alpha : AlphaBounds

/-- An entry that was cleared. -/
def Entry.zero : Entry where
  toBufCacheEntry := .zero
  buf := none
  ycbcrView := none
  layout := ⟨0, 0, 0⟩
  alpha := ⟨0, 0, 0, 0, false⟩

/-- `sbs_source_texture_t` with its cache and the aliases of the active import. -/
structure Slot extends SlotState where
  hasContent : Bool
  uploadPending : Bool
  cache : Fin dmabufBufCacheSize → Entry
  yBuf : Option ImportedBuffer
  layout : PlaneLayout
  alpha : AlphaBounds
  uploadFilterFlags : UInt32
  ycbcrActiveView : Option ImportedView

/-- The arguments of an upload, with the frame. -/
structure Request extends Frame, UploadArguments where
  filterFlags : UInt32

/-- How an upload ends.  When no entry can be evicted the index of the entry to
store stays -1, and what happens then is not defined. -/
inductive Outcome
  | accepted
  | refused
  | undefined
  deriving DecidableEq

/-- A slot after an operation and how the operation ended. -/
structure Result where
  slot : Slot
  outcome : Outcome

namespace Request

/-- The frame is imported as a YCbCr image if the driver can. -/
def triesYcbcr
    (config : UploadConfig)
    (request : Request) : Bool :=
  !request.forceSampleable && config.ycbcrDirectImport && config.ycbcrAvailable &&
    (request.drmFormat == .nv12 || request.drmFormat == .nv21)

end Request

namespace Slot

/-- `destroy_source_texture` clears an allocated slot. -/
def destroyed : Slot where
  toSlotState := .destroyed
  hasContent := false
  uploadPending := false
  cache := fun _ => .zero
  yBuf := none
  layout := ⟨0, 0, 0⟩
  alpha := ⟨0, 0, 0, 0, false⟩
  uploadFilterFlags := 0
  ycbcrActiveView := none

/-- A slot that was never used: `sbs_compositor_init` marks that nothing is
active. -/
def new : Slot :=
  { destroyed with activeIdx := none }

/-- Destroy an allocated texture. -/
def discard (slot : Slot) : Slot :=
  if slot.allocated then destroyed else slot

/-- The picture's size is noted; `source_alpha_bounds_set_full`. -/
def sized
    (slot : Slot)
    (width height : UInt32) : Slot :=
  { slot with
    width := width
    height := height
    alpha := ⟨0, 0, width, height, false⟩
    allocated := true
    hasContent := false }

/-- `sbs_compositor_alloc_direct_source`. -/
def allocDirect
    (slot : Slot)
    (width height : UInt32) : Slot :=
  if slot.fits width height false then slot
  else { slot.discard.sized width height with activeIdx := none }

/-- `sbs_compositor_alloc_source`. -/
def alloc
    (slot : Slot)
    (request : Request) : Result :=
  if slot.fits request.width request.height true then ⟨slot, .accepted⟩
  else if !request.createsImage || !request.allocatesImage then
    ⟨{ slot.discard with image := false }, .refused⟩
  else if !request.createsView then
    ⟨{ slot.discard with image := true, view := false }, .refused⟩
  else
    ⟨{ slot.discard.sized request.width request.height with image := true, view := true },
      .accepted⟩

/-- The entry that an import finds in the cache. -/
def hit
    (slot : Slot)
    (request : Request)
    (inode : Nat) : Option (Fin dmabufBufCacheSize) :=
  (List.finRange dmabufBufCacheSize).find? fun idx =>
    (slot.cache idx).answers request.toUploadArguments inode

/-- An entry is compared with the oldest one so far. -/
def older
    (slot : Slot)
    (best : Option (Fin dmabufBufCacheSize) × UInt32)
    (idx : Fin dmabufBufCacheSize) : Option (Fin dmabufBufCacheSize) × UInt32 :=
  if (slot.cache idx).age < best.2 then (some idx, (slot.cache idx).age) else best

/-- The first entry of the lowest age below `UINT32_MAX`. -/
def oldest (slot : Slot) : Option (Fin dmabufBufCacheSize) :=
  ((List.finRange dmabufBufCacheSize).foldl slot.older (none, 4294967295)).1

/-- The entry that a new import takes: a free one, or else the oldest. -/
def target (slot : Slot) : Option (Fin dmabufBufCacheSize) :=
  ((List.finRange dmabufBufCacheSize).find? fun idx => !(slot.cache idx).valid).or slot.oldest

/-- A hit in the cache makes the entry the active one. -/
def activate
    (slot : Slot)
    (request : Request)
    (idx : Fin dmabufBufCacheSize) : Slot :=
  let entry := { slot.cache idx with age := slot.frameCounter }
  let slot := { slot with
    cache := Function.update slot.cache idx entry
    activeIdx := some idx }
  if entry.isYcbcr then
    { slot with
      ycbcrImported := true
      ycbcrActiveView := entry.ycbcrView
      dmabufImported := false
      uploadPending := false }
  else
    { slot with
      yBuf := entry.buf
      layout := entry.layout
      alpha := entry.alpha
      drmFormat := request.drmFormat
      dmabufImported := true
      ycbcrImported := false
      uploadPending := true }

/-- The entry that a new import takes is evicted and the aliases are cleared. -/
def evict
    (slot : Slot)
    (idx : Fin dmabufBufCacheSize) : Slot :=
  { slot with
    cache := if (slot.cache idx).valid then Function.update slot.cache idx .zero
      else slot.cache
    yBuf := none
    dmabufImported := false
    ycbcrImported := false
    ycbcrActiveView := none }

/-- A new YCbCr image is stored and becomes the active import. -/
def storeYcbcr
    (slot : Slot)
    (request : Request)
    (inode : Nat)
    (idx : Fin dmabufBufCacheSize) : Slot :=
  let view : ImportedView := ⟨request.buffer.id, request.layout⟩
  { slot with
    cache := Function.update slot.cache idx
      { slot.cache idx with
        ycbcrView := some view
        buf := none
        inode := inode
        width := request.width
        height := request.height
        drmFormat := request.drmFormat
        layout := request.layout
        age := slot.frameCounter
        valid := true
        isYcbcr := true }
    ycbcrImported := true
    ycbcrActiveView := some view
    dmabufImported := false
    uploadPending := false
    activeIdx := some idx }

/-- A new buffer is stored and becomes the active import. -/
def storeBuffer
    (slot : Slot)
    (request : Request)
    (inode : Nat)
    (idx : Fin dmabufBufCacheSize) : Slot :=
  let buffer : ImportedBuffer := ⟨request.buffer.id, request.expectedSize⟩
  { slot with
    cache := Function.update slot.cache idx
      { slot.cache idx with
        buf := some buffer
        inode := inode
        width := request.width
        height := request.height
        drmFormat := request.drmFormat
        layout := request.layout
        alpha := request.alphaBounds
        age := slot.frameCounter
        valid := true }
    yBuf := some buffer
    layout := request.layout
    alpha := request.alphaBounds
    drmFormat := request.drmFormat
    dmabufImported := true
    activeIdx := some idx
    uploadPending := true }

/-- The import of a buffer that is not in the cache, into an entry of it. -/
def importAt
    (config : UploadConfig)
    (slot : Slot)
    (request : Request)
    (inode : Nat)
    (idx : Fin dmabufBufCacheSize) : Result :=
  let evicted := slot.evict idx
  if request.buffer.size < request.expectedSize.toNat then ⟨evicted, .refused⟩
  else if request.triesYcbcr config && !request.duplicates then ⟨evicted, .refused⟩
  else if request.triesYcbcr config && request.importsYcbcr then
    ⟨evicted.storeYcbcr request inode idx, .accepted⟩
  else if !request.drmFormat.isRgba && !config.computePipeline then ⟨evicted, .refused⟩
  else if !request.importsBuffer then ⟨evicted, .refused⟩
  else ⟨evicted.storeBuffer request inode idx, .accepted⟩

/-- The frames of a slot are counted. -/
def counted (slot : Slot) : Slot :=
  { slot with frameCounter := slot.frameCounter + 1 }

/-- An import looks into the cache and, if it has to, makes room in it. -/
def importCached
    (config : UploadConfig)
    (slot : Slot)
    (request : Request)
    (inode : Nat) : Result :=
  match slot.hit request inode with
  | some idx => ⟨slot.activate request idx, .accepted⟩
  | none =>
      match slot.target with
      | some idx => slot.importAt config request inode idx
      | none => ⟨slot, .undefined⟩

/-- `import_dmabuf_source`. -/
def importDmabuf
    (config : UploadConfig)
    (slot : Slot)
    (request : Request) : Result :=
  if !request.drmFormat.isRgba && !config.computePipeline && !config.ycbcrAvailable then
    ⟨slot, .refused⟩
  else
    match request.buffer.inode with
    | none => ⟨slot, .refused⟩
    | some inode => slot.counted.importCached config request inode

/-- A slot that holds another source is cleared first. -/
def reassign
    (slot : Slot)
    (sourceId : Option CStr) : Slot :=
  if slot.holdsOther sourceId then slot.discard else slot

/-- The slot as the import finds it, if the request gets that far. -/
def prepare
    (config : UploadConfig)
    (slot : Slot)
    (request : Request) : Result :=
  if request.drmFormat = .abgr2101010 ∧ request.drmModifier ≠ 0 then ⟨slot, .refused⟩
  else
    let reassigned := slot.reassign request.sourceId
    let allocated :=
      if !request.forceSampleable && config.canDirectUpload request.drmFormat then
        ⟨reassigned.allocDirect request.width request.height, .accepted⟩
      else reassigned.alloc request
    if allocated.outcome ≠ .accepted then allocated
    else
      ⟨{ allocated.slot with
          sourceId := .strlcpy 128 (request.sourceId.getD "") SlotState.idRoom
          uploadFilterFlags := request.filterFlags },
        .accepted⟩

/-- `sbs_compositor_upload_source`. -/
def upload
    (config : UploadConfig)
    (slot : Slot)
    (request : Request) : Result :=
  let prepared := slot.prepare config request
  if prepared.outcome ≠ .accepted then prepared
  else
    let imported := prepared.slot.importDmabuf config request
    if imported.outcome ≠ .accepted then imported
    else if !imported.slot.uploadPending || !imported.slot.image || !imported.slot.view then
      ⟨{ imported.slot with hasContent := true }, .accepted⟩
    else imported

end Slot
end ImportCache
end Engine
end SbsServer
