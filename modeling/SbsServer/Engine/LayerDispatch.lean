import SbsServer.CLib.Rounding
import SbsServer.Engine.ImportCache
import SbsServer.SceneGraph.State

/-!
# Direct layers of a native canvas

How `native_dispatch_source_layers` decides about a layer that is drawn from its
YUV buffer: where the layer goes, whether it is within the canvas or covers it,
and which parts of it the opaque layers above leave visible.  Of what is
dispatched the model keeps the destination and the flags.  Sums of signed numbers
wrap around, as the compiled code's do.
-/

namespace SbsServer
namespace Engine
namespace LayerDispatch

open CLib SceneGraph

/-- The fields of `sbs_comp_scene_item_t` that place an item. -/
structure CompSceneItem where
  sourceId : CharArray 128
  visible : Bool
  /-- The parts that are cut off on the left, top, right and bottom. -/
  crop : Fin 4 → Double
  opacity : Double
  filterFlags : UInt32
  lutPath : CStr
  renderX : Int32
  renderY : Int32
  renderWidth : Int32
  renderHeight : Int32
  flipHorizontal : Bool
  flipVertical : Bool
  rotationDeg : Double

/-- An item with the texture slot that `native_source_texture_slot_for_item` finds
for it. -/
structure Layer where
  item : CompSceneItem
  texture : Option ImportCache.Slot

/-- The compute pipelines for direct layers. -/
inductive Pipeline
  | p010Direct
  | p010ToNv21
  | yuv8ToP010
  | yuv8ToNv21
  | amlyToP010
  | amlyToNv21
  | amlyToP010Src
  | amlyToNv21Src
  deriving DecidableEq

/-- The size of a canvas.  The canvas is an image of the device, so that its
extent is a positive `int32_t`. -/
structure CanvasSize where
  width : UInt32
  height : UInt32
  width_lt : width.toNat < 2 ^ 31
  height_lt : height.toNat < 2 ^ 31

/-- The arguments of `native_dispatch_source_layers` that do not change from layer
to layer. -/
structure LayerCall where
  /-- The pipelines that were created. -/
  has : Pipeline → Bool
  /-- The pipeline layout and the descriptor sets for direct layers exist. -/
  hasDirectLayout : Bool
  colorMode : ColorMode
  canvas : CanvasSize
  opacityScale : Double
  scaleX : Double
  scaleY : Double
  fullCanvasDirect : Bool
  targetedBgFill : Bool

/-- `native_clampf01`. -/
def clampf01 (value : Double) : Double :=
  if value.negative then .finite 0 else if value.above (.finite 1) then .finite 1 else value

/-- An opacity of at least `0.999f`. -/
def isSolid (opacity : Double) : Bool :=
  (Double.binary32.round (999 / 1000)).atMost opacity

/-- `native_rotation_quadrant`. -/
def rotationQuadrant (degrees : Double) : ℤ :=
  (Int32.ofInt (degrees.divFloat (.finite 90)).lround).toInt % 4

/-- `native_scale_i32`. -/
def nativeScaleI32
    (value : Int32)
    (scale : Double) : Int32 :=
  Int32.ofInt ((Double.ofIntFloat value.toInt).mulFloat scale).lround

/-- `native_scale_u32`. -/
def nativeScaleU32
    (value : Int32)
    (scale : Double) : UInt32 :=
  if value ≤ 0 then 0
  else
    let scaled := ((Double.ofIntFloat value.toInt).mulFloat scale).lround
    if 0 < scaled then UInt32.ofNat scaled.toNat else 1

namespace CompSceneItem

/-- `native_item_has_crop`. -/
def hasCrop (item : CompSceneItem) : Bool :=
  (List.finRange 4).any fun side => (item.crop side).above (Double.binary32.round (1 / 1000000))

/-- The item shows a filter of the mask. -/
def hasFilter
    (item : CompSceneItem)
    (mask : UInt32) : Bool :=
  item.filterFlags &&& mask != 0

end CompSceneItem

/-- `SBS_COMP_FILTER_HDR_TO_SDR_LUT`. -/
def filterHdrToSdrLut : UInt32 := 32

/-- `SBS_COMP_FILTER_LUMA_KEY`. -/
def filterLumaKey : UInt32 := 128

/-- `SBS_COMP_FILTER_SDR_TO_HDR`. -/
def filterSdrToHdr : UInt32 := 1024

/-- `source_texture_matches_item`. -/
def sourceTextureMatchesItem
    (texture : ImportCache.Slot)
    (item : CompSceneItem) : Bool :=
  item.sourceId.text != "" && texture.sourceId.text != "" &&
    texture.sourceId.text == item.sourceId.text

/-- One side of `native_apply_item_crop`: what is cut off at the beginning, and
what is left. -/
def cropSide
    (before after : Double)
    (extent : UInt32) : UInt32 × UInt32 :=
  let cut (share : Double) : UInt32 :=
    let pixels := ((clampf01 share).mulFloat (.ofIntFloat extent.toNat)).lround
    if extent < UInt32.ofNat pixels.toNat then extent else UInt32.ofNat pixels.toNat
  let first := cut before
  let last := if extent - first < cut after then extent - first else cut after
  (first, extent - first - last)

/-- The part of a texture that is shown. -/
structure SourceRect where
  x : UInt32
  y : UInt32
  w : UInt32
  h : UInt32

/-- `native_apply_item_crop`. -/
def nativeApplyItemCrop
    (item : CompSceneItem)
    (width height : UInt32) : Option SourceRect :=
  if width = 0 ∨ height = 0 then none
  else
    let (x, w) := cropSide (item.crop 0) (item.crop 2) width
    let (y, h) := cropSide (item.crop 1) (item.crop 3) height
    if w = 0 ∨ h = 0 then none else some ⟨x, y, w, h⟩

/-- `native_item_filters_direct_yuv_compatible`. -/
def nativeItemFiltersDirectYuvCompatible
    (item : CompSceneItem)
    (colorMode : ColorMode) : Bool :=
  let mask : UInt32 := 1 ||| 2 ||| 4 ||| filterHdrToSdrLut ||| 64 ||| filterSdrToHdr |||
    (if colorMode = .sdr then filterLumaKey else 0)
  if item.filterFlags = 0 then true
  else if item.hasFilter filterLumaKey && item.hasFilter filterHdrToSdrLut then false
  else item.filterFlags &&& ~~~mask == 0 && item.lutPath == ""

/-- The pipeline that draws a format on a canvas. -/
def directPipeline
    (colorMode : ColorMode)
    (drmFormat : DrmFormat) : Option Pipeline :=
  match colorMode, drmFormat with
  | .hdr10, .p010 => some .p010Direct
  | .hdr10, .amly => some .amlyToP010
  | .hdr10, _ => some .yuv8ToP010
  | .sdr, .p010 => some .p010ToNv21
  | .sdr, .nv12 => some .yuv8ToNv21
  | .sdr, .nv21 => some .yuv8ToNv21
  | .sdr, .amly => some .amlyToNv21
  | .sdr, _ => none

/-- The pipeline that draws an AMLY source pixel by pixel. -/
def amlySourcePipeline : ColorMode → Pipeline
  | .hdr10 => .amlyToP010Src
  | .sdr => .amlyToNv21Src

/-- `native_source_can_direct_yuv`. -/
def nativeSourceCanDirectYuv
    (call : LayerCall)
    (texture : ImportCache.Slot)
    (item : CompSceneItem) : Bool :=
  if !call.hasDirectLayout || !texture.dmabufImported || texture.yBuf.isNone then false
  else if !nativeItemFiltersDirectYuvCompatible item call.colorMode then false
  else if call.colorMode == .hdr10 && item.hasFilter filterSdrToHdr &&
      (texture.drmFormat == .nv12 || texture.drmFormat == .nv21) then
    false
  else
    match call.colorMode, texture.drmFormat with
    | .hdr10, .p010 => call.has .p010Direct
    | .hdr10, .nv12 => call.has .yuv8ToP010
    | .hdr10, .nv21 => call.has .yuv8ToP010
    | .hdr10, .amly => call.has .amlyToP010
    | .sdr, .p010 => call.has .p010ToNv21
    | .sdr, .nv12 => call.has .yuv8ToNv21
    | .sdr, .nv21 => call.has .yuv8ToNv21
    | .sdr, .amly => call.has .amlyToNv21
    | _, _ => false

/-- `sbs_native_rect_t`: the ends are not included. -/
structure NativeRect where
  x : Int32
  y : Int32
  x1 : Int32
  y1 : Int32
  deriving DecidableEq

namespace NativeRect

/-- The rectangle holds a pixel. -/
def nonempty (rect : NativeRect) : Bool :=
  rect.x < rect.x1 && rect.y < rect.y1

/-- The rectangle that `native_rect_clip_canvas` leaves. -/
def clipCanvas
    (rect : NativeRect)
    (canvas : CanvasSize) : NativeRect where
  x := if rect.x < 0 then 0 else rect.x
  y := if rect.y < 0 then 0 else rect.y
  x1 := if canvas.width.toInt32 < rect.x1 then canvas.width.toInt32 else rect.x1
  y1 := if canvas.height.toInt32 < rect.y1 then canvas.height.toInt32 else rect.y1

/-- The rectangle that `native_rect_align_full_chroma_cells` leaves. -/
def alignFullChromaCells (rect : NativeRect) : NativeRect where
  x := (rect.x + 1) &&& ~~~1
  y := (rect.y + 1) &&& ~~~1
  x1 := rect.x1 &&& ~~~1
  y1 := rect.y1 &&& ~~~1

/-- What is left of a rectangle beside an occluder. -/
def subtract (rect occ : NativeRect) : List NativeRect :=
  let x0 := if occ.x < rect.x then rect.x else occ.x
  let y0 := if occ.y < rect.y then rect.y else occ.y
  let x1 := if rect.x1 < occ.x1 then rect.x1 else occ.x1
  let y1 := if rect.y1 < occ.y1 then rect.y1 else occ.y1
  if x1 ≤ x0 ∨ y1 ≤ y0 then [rect]
  else
    [⟨rect.x, rect.y, rect.x1, y0⟩, ⟨rect.x, y1, rect.x1, rect.y1⟩, ⟨rect.x, y0, x0, y1⟩,
      ⟨x1, y0, rect.x1, y1⟩].filter nonempty

end NativeRect

/-- `native_rect_subtract_one`, which fails when `SBS_NATIVE_OCCLUSION_MAX_RECTS`
rectangles do not do. -/
def nativeRectSubtractOne
    (rects : List NativeRect)
    (occ : NativeRect) : Option (List NativeRect) :=
  let out := rects.flatMap fun rect => rect.subtract occ
  if out.length ≤ 32 then some out else none

/-- Where a layer goes. -/
structure LayerRect where
  x : Int32
  y : Int32
  w : UInt32
  h : UInt32
  deriving DecidableEq

namespace LayerRect

/-- The end of the columns, `dst_x + (int32_t)dst_w`. -/
def x1 (dst : LayerRect) : Int32 :=
  dst.x + dst.w.toInt32

/-- The end of the rows, `dst_y + (int32_t)dst_h`. -/
def y1 (dst : LayerRect) : Int32 :=
  dst.y + dst.h.toInt32

/-- The rectangle with its ends. -/
def rect (dst : LayerRect) : NativeRect :=
  ⟨dst.x, dst.y, dst.x1, dst.y1⟩

/-- `dst_in_bounds`. -/
def inBounds
    (dst : LayerRect)
    (canvas : CanvasSize) : Bool :=
  0 ≤ dst.x && 0 ≤ dst.y && dst.x1 ≤ canvas.width.toInt32 && dst.y1 ≤ canvas.height.toInt32

/-- The test for an AMLY layer that is drawn source pixel by source pixel: it
takes all columns of the canvas, and some of its rows. -/
def takesColumns
    (dst : LayerRect)
    (canvas : CanvasSize) : Bool :=
  dst.x ≤ 0 && canvas.width.toInt32 ≤ dst.x1 && dst.y < canvas.height.toInt32 && 0 < dst.y1

/-- The test for a base layer that is split: it takes the whole canvas. -/
def takesCanvas
    (dst : LayerRect)
    (canvas : CanvasSize) : Bool :=
  dst.x ≤ 0 && dst.y ≤ 0 && canvas.width.toInt32 ≤ dst.x1 && canvas.height.toInt32 ≤ dst.y1

/-- The test for a layer that is split: some of it is on the canvas. -/
def meetsCanvas
    (dst : LayerRect)
    (canvas : CanvasSize) : Bool :=
  dst.x < canvas.width.toInt32 && dst.y < canvas.height.toInt32 && 0 < dst.x1 && 0 < dst.y1

end LayerRect

/-- The destination of an item. -/
def destination
    (call : LayerCall)
    (item : CompSceneItem) : LayerRect where
  x := nativeScaleI32 item.renderX call.scaleX
  y := nativeScaleI32 item.renderY call.scaleY
  w := nativeScaleU32 item.renderWidth call.scaleX
  h := nativeScaleU32 item.renderHeight call.scaleY

/-! ## Occlusion -/

/-- The columns, or the rows, of the opaque part of an RGBA layer, from its
destination's beginning. -/
def opaqueSide
    (start count extent dst : UInt32)
    (flip : Bool) : Option (UInt64 × UInt64) :=
  let count := if extent < start + count then extent - start else count
  let first := dst.toUInt64 * start.toUInt64 / extent.toUInt64
  let last := (dst.toUInt64 * (start + count).toUInt64 + extent.toUInt64 - 1) / extent.toUInt64
  if last ≤ first then none
  else if flip then some (dst.toUInt64 - last, dst.toUInt64 - first)
  else some (first, last)

/-- The rectangle that the opaque part of a layer is thought to take. -/
def occluderEnds
    (call : LayerCall)
    (texture : ImportCache.Slot)
    (item : CompSceneItem) : Option NativeRect := do
  let dst := destination call item
  if texture.drmFormat.isRgba then
    let alpha := texture.alpha
    guard (alpha.rectOpaque && alpha.x < texture.width && alpha.y < texture.height &&
      alpha.w != 0 && alpha.h != 0)
    let (x0, x1) ← opaqueSide alpha.x alpha.w texture.width dst.w item.flipHorizontal
    let (y0, y1) ← opaqueSide alpha.y alpha.h texture.height dst.h item.flipVertical
    let x := dst.x + x0.toUInt32.toInt32
    let y := dst.y + y0.toUInt32.toInt32
    some ⟨x, y, x + (x1 - x0).toUInt32.toInt32, y + (y1 - y0).toUInt32.toInt32⟩
  else
    guard (nativeSourceCanDirectYuv call texture item)
    some dst.rect

/-- `native_source_opaque_occluder_rect`. -/
def nativeSourceOpaqueOccluderRect
    (call : LayerCall)
    (layer : Layer) : Option NativeRect := do
  let item := layer.item
  guard (item.visible && 0 < item.renderWidth && 0 < item.renderHeight &&
    isSolid (clampf01 (item.opacity.mulFloat call.opacityScale)) &&
    item.rotationDeg.plain == .finite 0)
  let texture ← layer.texture
  guard (texture.allocated && texture.hasContent && sourceTextureMatchesItem texture item)
  let dst := destination call item
  guard (dst.w != 0 && dst.h != 0)
  let rect ← occluderEnds call texture item
  let clipped := rect.clipCanvas call.canvas
  guard clipped.nonempty
  let aligned := clipped.alignFullChromaCells
  guard aligned.nonempty
  some aligned

/-- The loop over the layers above: the visible rectangles that it leaves, and
what the function returns if it leaves the loop early. -/
def nativeSubtractOccluders
    (call : LayerCall)
    (rects : List NativeRect) : List Layer → List NativeRect × Option Bool
  | [] => (rects, none)
  | layer :: above =>
      match nativeSourceOpaqueOccluderRect call layer with
      | none => nativeSubtractOccluders call rects above
      | some occ =>
          match nativeRectSubtractOne rects occ with
          | none => (rects, some false)
          | some [] => ([], some true)
          | some rects => nativeSubtractOccluders call rects above

/-- `native_build_base_visible_rects`. -/
def nativeBuildBaseVisibleRects
    (call : LayerCall)
    (above : List Layer) : List NativeRect × Bool :=
  let whole : NativeRect := ⟨0, 0, call.canvas.width.toInt32, call.canvas.height.toInt32⟩
  let (rects, early) := nativeSubtractOccluders call [whole] above
  (rects, early.getD (1 < rects.length))

/-- `native_build_layer_visible_rects`.  The rectangles are left as they were when
nothing of the layer is on the canvas. -/
def nativeBuildLayerVisibleRects
    (call : LayerCall)
    (above : List Layer)
    (original : NativeRect)
    (rects : List NativeRect) : List NativeRect × Bool :=
  let base := original.clipCanvas call.canvas
  if !base.nonempty then (rects, false)
  else
    let (rects, early) := nativeSubtractOccluders call [base] above
    (rects, early.getD (rects != [original] || rects != [base]))

/-- The `SBS_NATIVE_P010_DIRECT` flags and the flags of the transform. -/
structure DirectFlags where
  fullCanvas : Bool
  sourceNv12 : Bool
  sourceNv21 : Bool
  dstInBounds : Bool
  srcOffset : Bool
  srcRectOffset : Bool
  sourceDriven : Bool
  rotation : ℤ
  flipHorizontal : Bool
  flipVertical : Bool
  deriving DecidableEq

/-- What is decided about a direct layer before it is dispatched. -/
structure DirectLayer where
  dst : LayerRect
  texture : ImportCache.Slot
  source : SourceRect
  flags : DirectFlags
  /-- The AMLY pipeline for parts of the source is used when the layer is split. -/
  hasSourceSplit : Bool
  sourceDrivenAmly : Bool
  splitFullCanvasDirect : Bool
  splitDirectLayer : Bool
  visibleRects : List NativeRect

/-- The layer is drawn at all, and from its YUV buffer: its texture and the part
of it that is shown. -/
def directSource
    (call : LayerCall)
    (layer : Layer) : Option (ImportCache.Slot × SourceRect) := do
  let item := layer.item
  let texture ← layer.texture
  guard (item.visible && texture.allocated && texture.hasContent &&
    sourceTextureMatchesItem texture item && 0 < item.renderWidth && 0 < item.renderHeight)
  let source ← nativeApplyItemCrop item texture.width texture.height
  guard (nativeSourceCanDirectYuv call texture item)
  let pipeline ← directPipeline call.colorMode texture.drmFormat
  guard (call.has pipeline)
  some (texture, source)

/-- A base layer that takes the whole canvas is split into what the layers above
leave of it, if it is one that can be. -/
def splitFullCanvas
    (call : LayerCall)
    (above : List Layer)
    (dst : LayerRect)
    (splits : Bool) : List NativeRect × Bool :=
  if splits && dst.takesCanvas call.canvas then nativeBuildBaseVisibleRects call above
  else ([], false)

/-- A layer on the canvas is split into what the layers above leave of it, if it
is one that can be.  `fillsBase` says that its margins are filled, too. -/
def splitDirect
    (call : LayerCall)
    (above : List Layer)
    (dst : LayerRect)
    (splits fillsBase : Bool)
    (rects : List NativeRect) : List NativeRect × Bool :=
  if splits && dst.meetsCanvas call.canvas then
    let (rects, wasSplit) := nativeBuildLayerVisibleRects call above dst.rect rects
    (rects, wasSplit || fillsBase && rects != [])
  else (rects, false)

/-- The decisions about a direct layer of `native_dispatch_source_layers`.
`isBase` says that no layer was drawn before it, and `above` are the layers after
it. -/
def decideLayer
    (call : LayerCall)
    (isBase : Bool)
    (above : List Layer)
    (item : CompSceneItem)
    (texture : ImportCache.Slot)
    (source : SourceRect) : DirectLayer :=
  let dst := destination call item
  let fullCanvas := call.fullCanvasDirect && isBase
  let solid := isSolid (clampf01 (item.opacity.mulFloat call.opacityScale))
  let rotation := rotationQuadrant item.rotationDeg
  let upright := rotation == 0 && !item.flipHorizontal && !item.flipVertical
  let amly := texture.drmFormat == .amly
  let yuv8 := texture.drmFormat == .nv12 || texture.drmFormat == .nv21
  let dstInBounds := dst.inBounds call.canvas
  let hasAmlySource := call.has (amlySourcePipeline call.colorMode)
  let sourceDrivenAmly := !item.hasCrop && upright && amly && hasAmlySource && isBase &&
    solid && !item.hasFilter (~~~(filterHdrToSdrLut ||| filterSdrToHdr)) &&
    dst.takesColumns call.canvas
  let sourceBlocks := (texture.width.toUInt64 + 1) >>> 1 * texture.height.toUInt64
  let dstBlocks := (dst.w.toUInt64 + 1) >>> 1 * ((dst.h.toUInt64 + 1) >>> 1)
  let sourceDrivenYuv8 := !item.hasCrop && upright && yuv8 && solid &&
    item.filterFlags == 0 && dstInBounds && dst.x &&& 1 == 0 && dst.y &&& 1 == 0 &&
    sourceBlocks < dstBlocks
  let full := splitFullCanvas call above dst
    (upright && fullCanvas && solid && !sourceDrivenAmly)
  let part := splitDirect call above dst
    (upright && !item.hasCrop && !full.2 &&
      (isBase && amly && hasAmlySource || call.colorMode == .sdr && yuv8) && solid &&
      !item.hasFilter filterLumaKey)
    (call.targetedBgFill && isBase && amly && hasAmlySource) full.1
  { dst := dst
    texture := texture
    source := source
    flags := {
      fullCanvas := fullCanvas && !full.2
      sourceNv12 := texture.drmFormat == .nv12
      sourceNv21 := texture.drmFormat == .nv21
      dstInBounds := dstInBounds || full.2
      srcOffset := full.2
      srcRectOffset := false
      sourceDriven := sourceDrivenYuv8
      rotation := rotation
      flipHorizontal := item.flipHorizontal
      flipVertical := item.flipVertical }
    hasSourceSplit := amly && hasAmlySource
    sourceDrivenAmly := sourceDrivenAmly
    splitFullCanvasDirect := full.2
    splitDirectLayer := part.2
    visibleRects := part.1 }

/-- A direct layer of `native_dispatch_source_layers`, if it is drawn. -/
def directLayer
    (call : LayerCall)
    (isBase : Bool)
    (above : List Layer)
    (layer : Layer) : Option DirectLayer := do
  let (texture, source) ← directSource call layer
  let dst := destination call layer.item
  guard (dst.w != 0 && dst.h != 0)
  some (decideLayer call isBase above layer.item texture source)

/-- What is dispatched: the destination and the flags of the push constants. -/
structure Dispatch where
  dst : LayerRect
  flags : DirectFlags

/-- The destination of a visible rectangle. -/
def NativeRect.destination (rect : NativeRect) : LayerRect where
  x := rect.x
  y := rect.y
  w := (rect.x1 - rect.x).toUInt32
  h := (rect.y1 - rect.y).toUInt32

/-- A part of a side of the destination takes something of the source. -/
def spansSource
    (first last shown dst extent : UInt32) : Bool :=
  let scale := (Double.ofIntFloat shown.toNat).divFloat (.ofIntFloat dst.toNat)
  let begin := ((Double.ofIntFloat first.toNat).mulFloat scale).floor.toUInt32
  let after := ((Double.ofIntFloat last.toNat).mulFloat scale).ceil.toUInt32 + 1
  begin < (if extent < after then extent else after)

namespace DirectLayer

/-- A visible rectangle of a layer that is split, if it is drawn. -/
def partDispatch
    (direct : DirectLayer)
    (rect : NativeRect) : Option Dispatch :=
  if !rect.nonempty || rect.x < direct.dst.x || rect.y < direct.dst.y then none
  else if direct.hasSourceSplit then
    let part : NativeRect := ⟨rect.x - direct.dst.x, rect.y - direct.dst.y,
      rect.x1 - direct.dst.x, rect.y1 - direct.dst.y⟩
    if spansSource part.x.toUInt32 part.x1.toUInt32 direct.source.w direct.dst.w
          direct.texture.width &&
        spansSource part.y.toUInt32 part.y1.toUInt32 direct.source.h direct.dst.h
          direct.texture.height then
      some ⟨direct.dst, direct.flags⟩
    else none
  else
    some ⟨rect.destination, { direct.flags with dstInBounds := true, srcRectOffset := true }⟩

/-- What is dispatched for the layer.  The margins that are filled beside an AMLY
layer go with the layer's own destination and flags and are left out. -/
def dispatches (direct : DirectLayer) : List Dispatch :=
  if direct.splitFullCanvasDirect then
    (direct.visibleRects.filter NativeRect.nonempty).map fun rect =>
      ⟨rect.destination, direct.flags⟩
  else if direct.splitDirectLayer then direct.visibleRects.filterMap direct.partDispatch
  else [⟨direct.dst, direct.flags⟩]

end DirectLayer
end LayerDispatch
end Engine
end SbsServer
