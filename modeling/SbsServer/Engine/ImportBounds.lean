import SbsServer.Engine.ImportTransparency

/-!
# What an imported buffer is read for

Rendering reads the rows of the planes of a picture from the imported buffer.
The size of the buffer was computed in 32 bits, with a formula for each format;
this module says for which layouts every row lies below it.
-/

namespace SbsServer
namespace Engine
namespace ImportCache

/-- The bytes of `rows` rows lie below `size`. -/
def RowsBelow (offset stride rowBytes rows size : Nat) : Prop :=
  ∀ y < rows, ∀ x < rowBytes, offset + y * stride + x < size

/-- It is the last row that counts. -/
theorem rowsBelow_iff
    (offset stride rowBytes rows size : Nat) :
    RowsBelow offset stride rowBytes rows size ↔
      rows = 0 ∨ rowBytes = 0 ∨ offset + (rows - 1) * stride + rowBytes ≤ size := by
  constructor
  · intro below
    by_cases noRows : rows = 0
    · exact .inl noRows
    · by_cases noBytes : rowBytes = 0
      · exact .inr (.inl noBytes)
      · have last := below (rows - 1) (by omega) (rowBytes - 1) (by omega)
        exact .inr (.inr (by omega))
  · rintro (rfl | rfl | last) y isRow x isByte
    · omega
    · omega
    · have earlier : y * stride ≤ (rows - 1) * stride :=
        Nat.mul_le_mul_right stride (by omega)
      omega

/-- The bytes of a row of a picture.  An AMLY row packs two pixels in five bytes. -/
def rowBytes (drmFormat : DrmFormat) (width : UInt32) : Nat :=
  match drmFormat with
  | .p010 => width.toNat * 2
  | .amly => (width.toNat + 1) / 2 * 5
  | .abgr8888 => width.toNat * 4
  | _ => width.toNat

/-- A format with a plane of colour differences of half the height. -/
def hasUvPlane : DrmFormat → Bool
  | .amly | .abgr8888 => false
  | _ => true

/-- Every byte that rendering addresses in the active buffer lies below its
size. -/
def Slot.ReadsInBounds (slot : Slot) : Prop :=
  ∃ buf, slot.yBuf = some buf ∧
    RowsBelow 0 slot.layout.yStride.toNat (rowBytes slot.drmFormat slot.width)
      slot.height.toNat buf.size.toNat ∧
    (hasUvPlane slot.drmFormat → RowsBelow slot.layout.uvOffset.toNat slot.layout.uvStride.toNat
      (rowBytes slot.drmFormat slot.width) ((slot.height.toNat + 1) / 2) buf.size.toNat)

/-- The layouts of which every row lies below the expected size. -/
def Fits
    (drmFormat : DrmFormat)
    (width height : UInt32)
    (layout : PlaneLayout) : Prop :=
  height = 0 ∨ width = 0 ∨
    match drmFormat with
    | .p010 =>
        let size := layout.uvOffset.toNat + layout.uvStride.toNat * (height.toNat / 2)
        height.toNat % 2 = 0 ∧ width.toNat * 2 ≤ layout.uvStride.toNat ∧ size < 2 ^ 32 ∧
          (height.toNat - 1) * layout.yStride.toNat + width.toNat * 2 ≤ size
    | .amly | .abgr8888 =>
        rowBytes drmFormat width ≤ layout.yStride.toNat ∧
          layout.yStride.toNat * height.toNat < 2 ^ 32
    | _ =>
        let size := width.toNat * height.toNat * 3 % 2 ^ 32 / 2
        (height.toNat - 1) * layout.yStride.toNat + width.toNat ≤ size ∧
          layout.uvOffset.toNat + ((height.toNat + 1) / 2 - 1) * layout.uvStride.toNat +
            width.toNat ≤ size

theorem rowBytes_eq_zero_iff
    (drmFormat : DrmFormat)
    (width : UInt32) :
    rowBytes drmFormat width = 0 ↔ width = 0 := by
  rw [← UInt32.toNat_inj, UInt32.toNat_zero]
  unfold rowBytes
  split <;> omega

/-- Rows of a stride fill a size that was computed from the stride exactly when
they fit the stride and the size did not wrap around. -/
theorem lastRow_le_mod_iff
    {offset stride bytes rows : Nat}
    (isRow : 0 < rows)
    (isStride : stride < 2 ^ 32) :
    offset + (rows - 1) * stride + bytes ≤ (offset + stride * rows) % 2 ^ 32 ↔
      bytes ≤ stride ∧ offset + stride * rows < 2 ^ 32 := by
  obtain ⟨rows, rfl⟩ : ∃ earlier, rows = earlier + 1 := ⟨rows - 1, by omega⟩
  rw [Nat.mul_succ, Nat.add_sub_cancel, Nat.mul_comm stride]
  generalize rows * stride = earlier
  omega

/-- With an odd height the last row of the second plane starts where the expected
size ends. -/
theorem not_lastRow_le_mod
    {bytes : Nat}
    (isByte : 0 < bytes)
    (offset stride rows : Nat) :
    ¬offset + rows * stride + bytes ≤ (offset + stride * rows) % 2 ^ 32 := by
  rw [Nat.mul_comm stride]
  have := Nat.mod_le (offset + rows * stride) (2 ^ 32)
  omega

theorem toNat_expectedSize_p010
    (width height : UInt32)
    (layout : PlaneLayout) :
    (expectedSize .p010 width height layout).toNat =
      (layout.uvOffset.toNat + layout.uvStride.toNat * (height.toNat / 2)) % 2 ^ 32 := by
  simp [expectedSize, UInt32.toNat_add, UInt32.toNat_mul, UInt32.toNat_div]

/-- The rows of one plane. -/
theorem rows_onePlane_iff
    {drmFormat : DrmFormat}
    {width height : UInt32}
    (layout : PlaneLayout)
    (onePlane : drmFormat = .amly ∨ drmFormat = .abgr8888)
    (isRow : height ≠ 0)
    (isColumn : width ≠ 0) :
    RowsBelow 0 layout.yStride.toNat (rowBytes drmFormat width) height.toNat
        (expectedSize drmFormat width height layout).toNat ↔
      rowBytes drmFormat width ≤ layout.yStride.toNat ∧
        layout.yStride.toNat * height.toNat < 2 ^ 32 := by
  have size : (expectedSize drmFormat width height layout).toNat =
      (0 + layout.yStride.toNat * height.toNat) % 2 ^ 32 := by
    obtain rfl | rfl := onePlane <;> simp [expectedSize, UInt32.toNat_mul]
  have rows : 0 < height.toNat := by
    rw [Ne, ← UInt32.toNat_inj, UInt32.toNat_zero] at isRow
    omega
  have bytes := (rowBytes_eq_zero_iff drmFormat width).not.mpr isColumn
  rw [rowsBelow_iff, size, lastRow_le_mod_iff rows layout.yStride.toNat_lt]
  simp [rows.ne', bytes]

theorem rows_p010_iff
    {width height : UInt32}
    (layout : PlaneLayout)
    (isRow : height ≠ 0)
    (isColumn : width ≠ 0) :
    (RowsBelow 0 layout.yStride.toNat (rowBytes .p010 width) height.toNat
        (expectedSize .p010 width height layout).toNat ∧
      RowsBelow layout.uvOffset.toNat layout.uvStride.toNat (rowBytes .p010 width)
        ((height.toNat + 1) / 2) (expectedSize .p010 width height layout).toNat) ↔
      Fits .p010 width height layout := by
  have rows : 0 < height.toNat := by
    rw [Ne, ← UInt32.toNat_inj, UInt32.toNat_zero] at isRow
    omega
  have bytes := (rowBytes_eq_zero_iff .p010 width).not.mpr isColumn
  rw [rowsBelow_iff, rowsBelow_iff, toNat_expectedSize_p010]
  unfold Fits
  simp only [isRow, isColumn, bytes, rows.ne', false_or]
  unfold rowBytes at *
  dsimp only at *
  obtain even | odd := Nat.mod_two_eq_zero_or_one height.toNat
  · have half : (height.toNat + 1) / 2 = height.toNat / 2 := by omega
    have halfRow : 0 < height.toNat / 2 := by omega
    rw [half, lastRow_le_mod_iff halfRow layout.uvStride.toNat_lt]
    simp only [even, true_and, halfRow.ne', false_or]
    constructor
    · rintro ⟨last, fits, noWrap⟩
      rw [Nat.mod_eq_of_lt noWrap] at last
      exact ⟨fits, noWrap, by omega⟩
    · rintro ⟨fits, noWrap, last⟩
      rw [Nat.mod_eq_of_lt noWrap]
      exact ⟨by omega, fits, noWrap⟩
  · have half : (height.toNat + 1) / 2 - 1 = height.toNat / 2 := by omega
    have noRoom := not_lastRow_le_mod (Nat.pos_of_ne_zero bytes) layout.uvOffset.toNat
      layout.uvStride.toNat (height.toNat / 2)
    have halfRow : (height.toNat + 1) / 2 ≠ 0 := by omega
    rw [half]
    simp only [odd, halfRow, noRoom, false_or, and_false, one_ne_zero, false_and]

theorem toNat_expectedSize_yuv8
    (width height : UInt32) :
    (width * height * 3 / 2).toNat = width.toNat * height.toNat * 3 % 2 ^ 32 / 2 := by
  simp [UInt32.toNat_mul, UInt32.toNat_div]

/-- The rows of every picture lie in a buffer of the expected size exactly when
the layout fits. -/
theorem rows_iff_fits
    (drmFormat : DrmFormat)
    (width height : UInt32)
    (layout : PlaneLayout) :
    (RowsBelow 0 layout.yStride.toNat (rowBytes drmFormat width) height.toNat
        (expectedSize drmFormat width height layout).toNat ∧
      (hasUvPlane drmFormat →
        RowsBelow layout.uvOffset.toNat layout.uvStride.toNat (rowBytes drmFormat width)
          ((height.toNat + 1) / 2) (expectedSize drmFormat width height layout).toNat)) ↔
      Fits drmFormat width height layout := by
  by_cases noRow : height = 0
  · subst noRow
    simp [Fits, rowsBelow_iff]
  by_cases noColumn : width = 0
  · subst noColumn
    simp [Fits, rowsBelow_iff, (rowBytes_eq_zero_iff drmFormat 0).mpr rfl]
  have rows : height.toNat ≠ 0 := by
    rwa [← UInt32.toNat_inj, UInt32.toNat_zero] at noRow
  have columns : width.toNat ≠ 0 := by
    rwa [← UInt32.toNat_inj, UInt32.toNat_zero] at noColumn
  have halfRows : (height.toNat + 1) / 2 ≠ 0 := by omega
  -- The formats whose expected size does not depend on the strides.
  have yuv8 (offset stride : Nat) (count : Nat) (isRow : count ≠ 0) :
      RowsBelow offset stride width.toNat count (width * height * 3 / 2).toNat ↔
        offset + (count - 1) * stride + width.toNat ≤
          width.toNat * height.toNat * 3 % 2 ^ 32 / 2 := by
    rw [rowsBelow_iff, toNat_expectedSize_yuv8]
    simp [isRow, columns]
  cases drmFormat with
  | p010 => simpa [hasUvPlane] using rows_p010_iff layout noRow noColumn
  | amly =>
      rw [rows_onePlane_iff layout (.inl rfl) noRow noColumn]
      simp [hasUvPlane, Fits, noRow, noColumn]
  | abgr8888 =>
      rw [rows_onePlane_iff layout (.inr rfl) noRow noColumn]
      simp [hasUvPlane, Fits, noRow, noColumn]
  | nv12 | nv21 | abgr2101010 | other =>
      unfold rowBytes expectedSize hasUvPlane Fits
      dsimp only
      rw [yuv8 _ _ _ rows, yuv8 _ _ _ halfRows]
      simp [noRow, noColumn]

/-- The layout that a frame is read with: that of the entry that the import finds
in the cache, and otherwise its own. -/
def Slot.layoutFor
    (slot : Slot)
    (upload : Upload) : PlaneLayout :=
  match upload.2.buffer.inode.bind ((slot.prepare upload.1 upload.2).slot.hit upload.2) with
  | some idx => ((slot.prepare upload.1 upload.2).slot.cache idx).layout
  | none => upload.2.layout

/-- The slot holds a picture of the size of the frame. -/
def Slot.Sized
    (slot : Slot)
    (request : Request) : Prop :=
  slot.width = request.width ∧ slot.height = request.height

variable {slot : Slot} {request : Request}

theorem Slot.sized_of_fits
    {sampleable : Bool}
    (fits : slot.fits request.width request.height sampleable) :
    slot.Sized request := by
  simp only [SlotState.fits, Bool.and_eq_true, beq_iff_eq] at fits
  exact ⟨fits.1.1.1.2, fits.1.1.2⟩

theorem Slot.sized_allocDirect
    (slot : Slot)
    (request : Request) :
    (slot.allocDirect request.width request.height).Sized request := by
  unfold allocDirect
  split
  · next fits => exact sized_of_fits fits
  · exact ⟨rfl, rfl⟩

theorem Slot.sized_alloc
    (accepted : (slot.alloc request).outcome = .accepted) :
    (slot.alloc request).slot.Sized request := by
  unfold alloc at *
  split
  · next fits => exact sized_of_fits fits
  · next resized =>
      rw [if_neg resized] at accepted
      split_ifs at accepted ⊢
      exact ⟨rfl, rfl⟩

variable {config : UploadConfig}

theorem Slot.sized_prepare
    (prepared : (slot.prepare config request).outcome = .accepted) :
    (slot.prepare config request).slot.Sized request := by
  unfold prepare at *
  dsimp only at *
  by_cases ignored : request.drmFormat = .abgr2101010 ∧ request.drmModifier ≠ 0
  · rw [if_pos ignored] at prepared
    exact absurd prepared (by simp)
  rw [if_neg ignored] at prepared ⊢
  by_cases direct : !request.forceSampleable && config.canDirectUpload request.drmFormat
  · rw [if_pos direct]
    rw [if_neg (by simp)]
    exact sized_allocDirect _ request
  · rw [if_neg direct] at prepared ⊢
    split at prepared
    · next refused => exact absurd prepared refused
    · next accepted =>
        rw [if_neg accepted]
        exact sized_alloc (by simpa using accepted)

/-- The slot reads pictures of the frame's size and format with a layout, from a
buffer of the size that these give. -/
structure Slot.Reads
    (slot : Slot)
    (request : Request)
    (layout : PlaneLayout) : Prop where
  sized : slot.Sized request
  drmFormat : slot.drmFormat = request.drmFormat
  layoutRead : slot.layout = layout
  buffer : ∃ buf, slot.yBuf = some buf ∧
    buf.size = expectedSize request.drmFormat request.width request.height layout

theorem Slot.Reads.inBounds_iff
    {layout : PlaneLayout}
    (reads : slot.Reads request layout) :
    slot.ReadsInBounds ↔ Fits request.drmFormat request.width request.height layout := by
  obtain ⟨⟨width, height⟩, drmFormat, layoutRead, buf, present, size⟩ := reads
  rw [← rows_iff_fits, ← size]
  unfold ReadsInBounds
  rw [width, height, drmFormat, layoutRead, present]
  constructor
  · rintro ⟨_, same, below⟩
    obtain rfl := Option.some.inj same
    exact below
  · intro below
    exact ⟨buf, rfl, below⟩

/-- A hit reads the buffer with the layout that it was imported with. -/
theorem Slot.reads_activate
    {before : List Upload}
    {inode : Nat}
    {idx : Fin dmabufBufCacheSize}
    (recorded : Recorded before slot)
    (sized : slot.Sized request)
    (present : request.buffer.inode = some inode)
    (found : slot.hit request inode = some idx)
    (onBuffer : (slot.activate request idx).dmabufImported) :
    (slot.activate request idx).Reads request (slot.cache idx).layout := by
  obtain ⟨valid, _, width, height, drmFormat⟩ := keyed_of_hit present found
  obtain ⟨first, _, ⟨_, width', height', drmFormat'⟩, describes⟩ :=
    (recorded.entries idx).uploaded valid
  have notYcbcr : (slot.cache idx).isYcbcr ≠ true := by
    intro isYcbcr
    simp [activate, isYcbcr] at onBuffer
  unfold Entry.Describes at describes
  rw [if_neg notYcbcr] at describes
  obtain ⟨_, buf, layout, _⟩ := describes
  unfold activate
  dsimp only
  rw [if_neg notYcbcr]
  refine ⟨sized, rfl, rfl, _, buf, ?_⟩
  rw [layout, ← drmFormat, ← width, ← height, drmFormat', width', height']
  rfl

/-- The buffer that an import leaves active has the size that the format and the
layout that it is read with give. -/
theorem Slot.reads_importCached
    {before : List Upload}
    {upload : Upload}
    {inode : Nat}
    (recorded : Recorded before slot)
    (sized : slot.Sized upload.2)
    (present : upload.2.buffer.inode = some inode)
    (accepted : (slot.importCached upload.1 upload.2 inode).outcome = .accepted)
    (onBuffer : (slot.importCached upload.1 upload.2 inode).slot.dmabufImported) :
    (slot.importCached upload.1 upload.2 inode).slot.Reads upload.2
      (match slot.hit upload.2 inode with
        | some idx => (slot.cache idx).layout
        | none => upload.2.layout) := by
  unfold importCached at *
  cases found : slot.hit upload.2 inode with
  | some idx =>
      simp only [found] at onBuffer ⊢
      exact reads_activate recorded sized present found onBuffer
  | none =>
      simp only [found] at accepted onBuffer ⊢
      cases free : slot.target with
      | none => simp [free] at accepted
      | some idx =>
          simp only [free] at accepted onBuffer ⊢
          obtain ⟨_, _, stored⟩ | ⟨_, _, stored⟩ | ⟨_, _, stored⟩ :=
            slot.importAt_cases upload.1 upload.2 inode idx
          · rw [stored] at onBuffer
            simp [storeYcbcr] at onBuffer
          · rw [stored]
            exact ⟨sized, rfl, rfl, _, rfl, rfl⟩
          · rw [stored] at accepted
            simp at accepted

/-- An upload that is accepted got through its import. -/
theorem Slot.upload_of_accepted
    (accepted : (slot.upload config request).outcome = .accepted) :
    (slot.prepare config request).outcome = .accepted ∧
      ((slot.prepare config request).slot.importDmabuf config request).outcome = .accepted ∧
      ∃ hasContent, (slot.upload config request).slot =
        { ((slot.prepare config request).slot.importDmabuf config request).slot with
          hasContent := hasContent } := by
  by_cases prepared : (slot.prepare config request).outcome = .accepted
  · have imported := accepted
    rw [outcome_upload prepared] at imported
    refine ⟨prepared, imported, ?_⟩
    unfold upload
    dsimp only
    rw [if_neg (by simpa using prepared), if_neg (by simpa using imported)]
    split
    · exact ⟨true, rfl⟩
    · exact ⟨_, rfl⟩
  · rw [upload_of_unprepared prepared] at accepted
    exact absurd accepted prepared

theorem Slot.importDmabuf_of_accepted
    (accepted : (slot.importDmabuf config request).outcome = .accepted) :
    ∃ inode, request.buffer.inode = some inode ∧
      slot.importDmabuf config request = slot.counted.importCached config request inode := by
  by_cases supported : request.Supported config
  · cases present : request.buffer.inode with
    | none =>
        rw [importDmabuf_of_noInode config slot present] at accepted
        exact absurd accepted (by simp)
    | some inode => exact ⟨inode, rfl, slot.importDmabuf_eq supported present⟩
  · rw [importDmabuf_of_unsupported slot supported] at accepted
    exact absurd accepted (by simp)

/-- In every run, an upload that is accepted on the buffer path is read within
the imported buffer exactly when the layout that it is read with fits. -/
theorem imported_reads_in_bounds
    (before : List Upload)
    (upload : Upload)
    (accepted : ((run .new before).upload upload.1 upload.2).outcome = .accepted)
    (onBuffer : ((run .new before).upload upload.1 upload.2).slot.dmabufImported) :
    ((run .new before).upload upload.1 upload.2).slot.ReadsInBounds ↔
      Fits upload.2.drmFormat upload.2.width upload.2.height
        ((run .new before).layoutFor upload) := by
  have recorded := (recorded_run before).prepare upload
  obtain ⟨prepared, imported, hasContent, uploaded⟩ := Slot.upload_of_accepted accepted
  have sized := Slot.sized_prepare prepared
  obtain ⟨inode, present, cached⟩ := Slot.importDmabuf_of_accepted imported
  rw [uploaded] at onBuffer ⊢
  rw [cached] at imported onBuffer ⊢
  have reads := Slot.reads_importCached (recorded.counted upload) sized present imported onBuffer
  unfold Slot.layoutFor
  rw [present]
  exact reads.inBounds_iff

/-- An NV12 frame of 1920x1080 of which both planes have rows of `stride` bytes. -/
def nv12Request (stride : UInt32) : Request :=
  { pixelRequest 0 with
    buffer := { (pixelRequest 0).buffer with size := 8388608 }
    width := 1920
    height := 1080
    drmFormat := .nv12
    planeOffset1 := stride * 1080
    planeStride0 := stride
    planeStride1 := stride }

/-- Rows without padding. -/
theorem imported_reads_in_bounds_tight :
    ((run .new []).upload computeConfig (nv12Request 1920)).slot.ReadsInBounds :=
  (imported_reads_in_bounds [] (computeConfig, nv12Request 1920) (by decide +kernel)
    (by decide +kernel)).mpr (.inr (.inr (show _ ≤ _ ∧ _ ≤ _ from by decide +kernel)))

/-- The size of padded rows is not checked: the last row of the second plane lies
behind the buffer. -/
theorem imported_reads_out_of_bounds :
    ((run .new []).upload computeConfig (nv12Request 2048)).outcome = .accepted ∧
      ((run .new []).upload computeConfig (nv12Request 2048)).slot.dmabufImported ∧
      ¬((run .new []).upload computeConfig (nv12Request 2048)).slot.ReadsInBounds := by
  refine ⟨by decide +kernel, by decide +kernel, ?_⟩
  rintro ⟨buf, present, _, below⟩
  have imported : some buf = some ⟨1, 3110400⟩ := by
    rw [← present]
    decide +kernel
  obtain rfl := Option.some.inj imported
  have last := below (by decide +kernel) 539 (by decide +kernel) 0 (by decide +kernel)
  exact absurd last (by decide +kernel)

end ImportCache
end Engine
end SbsServer
