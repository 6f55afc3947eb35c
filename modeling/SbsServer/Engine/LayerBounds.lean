import SbsServer.Engine.LayerDispatch

/-!
# Whether a layer is where it is thought to be

The tests of a direct layer against its canvas add the destination's beginning
and extent as `int32_t`.  Over the integers they are right where the layer is
thought to cover the canvas; where it is thought to be within the canvas they
are wrong for a layer that ends at 2³¹ or later.
-/

namespace SbsServer
namespace Engine
namespace LayerDispatch

open CLib SceneGraph

theorem toInt_toInt32 (value : UInt32) :
    value.toInt32.toInt = (value.toNat : ℤ).bmod (2 ^ 32) := by
  rw [← Int32.toInt_toBitVec, UInt32.toBitVec_toInt32, BitVec.toInt_eq_toNat_bmod]
  rfl

theorem toInt_toInt32_of_lt
    {value : UInt32}
    (small : value.toNat < 2 ^ 31) :
    value.toInt32.toInt = value.toNat := by
  rw [toInt_toInt32, Int.bmod_def]
  omega

/-- The end of a side is the sum of its beginning and its extent, as far as they
fit. -/
theorem toInt_add_toInt32
    (start : Int32)
    (extent : UInt32) :
    (start + extent.toInt32).toInt = (start.toInt + extent.toNat).bmod (2 ^ 32) := by
  rw [Int32.toInt_add, toInt_toInt32, Int.add_bmod_bmod]

variable {extent limit : UInt32} {start : Int32} {rects : List NativeRect} {call : LayerCall}
variable {direct : DirectLayer}

/-- A side that begins on the canvas is thought to end on it if it ends at 2³¹ or
later, too. -/
theorem end_le_iff
    (begins : 0 ≤ start.toInt)
    (large : extent.toNat ≤ 2 ^ 31)
    (small : limit.toNat < 2 ^ 31) :
    start + extent.toInt32 ≤ limit.toInt32 ↔
      start.toInt + extent.toNat ≤ limit.toNat ∨ 2 ^ 31 ≤ start.toInt + extent.toNat := by
  rw [Int32.le_iff_toInt_le, toInt_add_toInt32, toInt_toInt32_of_lt small, Int.bmod_def]
  have := start.toInt_lt
  omega

/-- A side that begins at or before the canvas is not thought to end behind it
when it does not. -/
theorem le_end
    (begins : start.toInt ≤ 0)
    (small : limit.toNat < 2 ^ 31)
    (ends : limit.toInt32 ≤ start + extent.toInt32) :
    (limit.toNat : ℤ) ≤ start.toInt + extent.toNat := by
  rw [Int32.le_iff_toInt_le, toInt_add_toInt32, toInt_toInt32_of_lt small, Int.bmod_def] at ends
  have := start.le_toInt
  have := extent.toNat_lt
  omega

/-- A side that is thought to end behind the beginning of the canvas, or there,
ends before 2³¹. -/
theorem end_lt
    (large : extent.toNat ≤ 2 ^ 31)
    (ends : 0 ≤ start + extent.toInt32) :
    start.toInt + extent.toNat < 2 ^ 31 := by
  rw [Int32.le_iff_toInt_le, toInt_add_toInt32, Int.bmod_def, Int32.toInt_zero] at ends
  have := start.toInt_lt
  omega

theorem zero_le_toInt32
    (small : limit.toNat < 2 ^ 31) :
    0 ≤ limit.toInt32 := by
  rw [Int32.le_iff_toInt_le, Int32.toInt_zero, toInt_toInt32_of_lt small]
  omega

namespace LayerRect

/-- The destination lies within the canvas. -/
def Inside
    (dst : LayerRect)
    (canvas : CanvasSize) : Prop :=
  0 ≤ dst.x.toInt ∧ 0 ≤ dst.y.toInt ∧
    dst.x.toInt + dst.w.toNat ≤ canvas.width.toNat ∧
    dst.y.toInt + dst.h.toNat ≤ canvas.height.toNat

/-- The destination covers the columns of the canvas. -/
def CoversColumns
    (dst : LayerRect)
    (canvas : CanvasSize) : Prop :=
  dst.x.toInt ≤ 0 ∧ (canvas.width.toNat : ℤ) ≤ dst.x.toInt + dst.w.toNat

/-- The destination covers the rows of the canvas. -/
def CoversRows
    (dst : LayerRect)
    (canvas : CanvasSize) : Prop :=
  dst.y.toInt ≤ 0 ∧ (canvas.height.toNat : ℤ) ≤ dst.y.toInt + dst.h.toNat

/-- The destination begins on the canvas, ends on it or at 2³¹ or later, and
there is a side that does so. -/
def WrapsInside
    (dst : LayerRect)
    (canvas : CanvasSize) : Prop :=
  0 ≤ dst.x.toInt ∧ 0 ≤ dst.y.toInt ∧
    (dst.x.toInt + dst.w.toNat ≤ canvas.width.toNat ∨ 2 ^ 31 ≤ dst.x.toInt + dst.w.toNat) ∧
    (dst.y.toInt + dst.h.toNat ≤ canvas.height.toNat ∨ 2 ^ 31 ≤ dst.y.toInt + dst.h.toNat) ∧
    (2 ^ 31 ≤ dst.x.toInt + dst.w.toNat ∨ 2 ^ 31 ≤ dst.y.toInt + dst.h.toNat)

/-- The extents of a destination that was not scaled. -/
structure Unscaled (dst : LayerRect) : Prop where
  w : dst.w.toNat ≤ 2 ^ 31
  h : dst.h.toNat ≤ 2 ^ 31

variable {dst : LayerRect} {canvas : CanvasSize}

theorem inBounds_iff
    (unscaled : dst.Unscaled) :
    dst.inBounds canvas ↔ dst.Inside canvas ∨ dst.WrapsInside canvas := by
  have width := canvas.width_lt
  have height := canvas.height_lt
  simp only [inBounds, Bool.and_eq_true, decide_eq_true_eq]
  unfold x1 y1
  rw [Int32.le_iff_toInt_le, Int32.le_iff_toInt_le, Int32.toInt_zero]
  by_cases beginsX : 0 ≤ dst.x.toInt
  · by_cases beginsY : 0 ≤ dst.y.toInt
    · rw [end_le_iff beginsX unscaled.w width, end_le_iff beginsY unscaled.h height]
      unfold Inside WrapsInside
      omega
    · simp [beginsY, Inside, WrapsInside]
  · simp [beginsX, Inside, WrapsInside]

theorem inside_iff_not_wrapsInside
    (unscaled : dst.Unscaled)
    (inBounds : dst.inBounds canvas) :
    dst.Inside canvas ↔ ¬dst.WrapsInside canvas := by
  have width := canvas.width_lt
  have height := canvas.height_lt
  have either := (inBounds_iff unscaled).mp inBounds
  unfold Inside WrapsInside at *
  omega

theorem covers_of_takesCanvas
    (takes : dst.takesCanvas canvas) :
    dst.CoversColumns canvas ∧ dst.CoversRows canvas := by
  simp only [takesCanvas, Bool.and_eq_true, decide_eq_true_eq] at takes
  obtain ⟨⟨⟨beginsX, beginsY⟩, endsX⟩, endsY⟩ := takes
  rw [Int32.le_iff_toInt_le, Int32.toInt_zero] at beginsX beginsY
  exact ⟨⟨beginsX, le_end beginsX canvas.width_lt endsX⟩,
    beginsY, le_end beginsY canvas.height_lt endsY⟩

theorem covers_of_takesColumns
    (takes : dst.takesColumns canvas) :
    dst.CoversColumns canvas := by
  simp only [takesColumns, Bool.and_eq_true, decide_eq_true_eq] at takes
  obtain ⟨⟨⟨begins, ends⟩, _⟩, _⟩ := takes
  rw [Int32.le_iff_toInt_le, Int32.toInt_zero] at begins
  exact ⟨begins, le_end begins canvas.width_lt ends⟩

theorem not_wrapsInside_of_ends
    (unscaled : dst.Unscaled)
    (endsX : 0 ≤ dst.x1)
    (endsY : 0 ≤ dst.y1)
    (canvas : CanvasSize) :
    ¬dst.WrapsInside canvas := by
  have columns := end_lt unscaled.w endsX
  have rows := end_lt unscaled.h endsY
  unfold WrapsInside
  omega

theorem not_wrapsInside_of_meetsCanvas
    (unscaled : dst.Unscaled)
    (meets : dst.meetsCanvas canvas) :
    ¬dst.WrapsInside canvas := by
  simp only [meetsCanvas, Bool.and_eq_true, decide_eq_true_eq] at meets
  exact not_wrapsInside_of_ends unscaled (Int32.le_of_lt meets.1.2) (Int32.le_of_lt meets.2)
    canvas

theorem not_wrapsInside_of_takesCanvas
    (unscaled : dst.Unscaled)
    (takes : dst.takesCanvas canvas) :
    ¬dst.WrapsInside canvas := by
  simp only [takesCanvas, Bool.and_eq_true, decide_eq_true_eq] at takes
  exact not_wrapsInside_of_ends unscaled
    (Int32.le_trans (zero_le_toInt32 canvas.width_lt) takes.1.2)
    (Int32.le_trans (zero_le_toInt32 canvas.height_lt) takes.2) canvas

end LayerRect

/-- The extent between two numbers that are not negative. -/
theorem toNat_extent
    {first last : Int32}
    (begins : 0 ≤ first.toInt)
    (ends : first.toInt ≤ last.toInt) :
    ((last - first).toUInt32.toNat : ℤ) = last.toInt - first.toInt := by
  have wrapped := toInt_toInt32 (last - first).toUInt32
  rw [Int32.toInt32_toUInt32, Int32.toInt_sub, Int.bmod_def, Int.bmod_def] at wrapped
  have := last.toInt_lt
  have := (last - first).toUInt32.toNat_lt
  omega

theorem le_larger (first second : Int32) :
    first ≤ if second < first then first else second := by
  split
  · exact Int32.le_refl _
  · next notBefore => exact Int32.not_lt.mp notBefore

theorem smaller_le (first second : Int32) :
    (if first < second then first else second) ≤ first := by
  split
  · exact Int32.le_refl _
  · next notBehind => exact Int32.not_lt.mp notBehind

namespace NativeRect

/-- The rectangle does not leave the canvas. -/
structure InCanvas
    (rect : NativeRect)
    (canvas : CanvasSize) : Prop where
  x : 0 ≤ rect.x
  y : 0 ≤ rect.y
  x1 : rect.x1 ≤ canvas.width.toInt32
  y1 : rect.y1 ≤ canvas.height.toInt32

theorem inCanvas_whole (canvas : CanvasSize) :
    InCanvas ⟨0, 0, canvas.width.toInt32, canvas.height.toInt32⟩ canvas :=
  ⟨Int32.le_refl _, Int32.le_refl _, Int32.le_refl _, Int32.le_refl _⟩

theorem inCanvas_clipCanvas
    (rect : NativeRect)
    (canvas : CanvasSize) :
    (rect.clipCanvas canvas).InCanvas canvas where
  x := le_larger 0 rect.x
  y := le_larger 0 rect.y
  x1 := smaller_le canvas.width.toInt32 rect.x1
  y1 := smaller_le canvas.height.toInt32 rect.y1

/-- What is left of a rectangle lies in it. -/
theorem InCanvas.subtract
    {rect : NativeRect}
    {canvas : CanvasSize}
    (inCanvas : rect.InCanvas canvas)
    (occ : NativeRect) :
    ∀ part ∈ rect.subtract occ, part.InCanvas canvas := by
  have beginX := le_larger rect.x occ.x
  have beginY := le_larger rect.y occ.y
  have endX := smaller_le rect.x1 occ.x1
  have endY := smaller_le rect.y1 occ.y1
  obtain ⟨x, y, x1, y1⟩ := inCanvas
  unfold NativeRect.subtract
  generalize (if occ.x < rect.x then rect.x else occ.x) = x0 at *
  generalize (if occ.y < rect.y then rect.y else occ.y) = y0 at *
  generalize (if rect.x1 < occ.x1 then rect.x1 else occ.x1) = x1' at *
  generalize (if rect.y1 < occ.y1 then rect.y1 else occ.y1) = y1' at *
  simp only [Int32.le_iff_toInt_le] at x y x1 y1 beginX beginY endX endY
  dsimp only
  intro part member
  split at member
  · obtain rfl := List.mem_singleton.mp member
    constructor <;> rwa [Int32.le_iff_toInt_le]
  · next meet =>
      rw [not_or, Int32.not_le, Int32.not_le, Int32.lt_iff_toInt_lt, Int32.lt_iff_toInt_lt] at meet
      have listed := (List.mem_filter.mp member).1
      simp only [List.mem_cons, List.not_mem_nil, or_false] at listed
      obtain rfl | rfl | rfl | rfl := listed <;>
        constructor <;> rw [Int32.le_iff_toInt_le] <;> dsimp only <;> omega

/-- The destination of a visible rectangle is on the canvas. -/
theorem InCanvas.inside
    {rect : NativeRect}
    {canvas : CanvasSize}
    (inCanvas : rect.InCanvas canvas)
    (nonempty : rect.nonempty) :
    rect.destination.Inside canvas := by
  obtain ⟨x, y, x1, y1⟩ := inCanvas
  simp only [NativeRect.nonempty, Bool.and_eq_true, decide_eq_true_eq,
    Int32.lt_iff_toInt_lt] at nonempty
  rw [Int32.le_iff_toInt_le, Int32.toInt_zero] at x y
  rw [Int32.le_iff_toInt_le, toInt_toInt32_of_lt canvas.width_lt] at x1
  rw [Int32.le_iff_toInt_le, toInt_toInt32_of_lt canvas.height_lt] at y1
  have width := canvas.width_lt
  have height := canvas.height_lt
  have w := @toNat_extent rect.x rect.x1 (by omega) (by omega)
  have h := @toNat_extent rect.y rect.y1 (by omega) (by omega)
  unfold LayerRect.Inside destination
  dsimp only
  omega

end NativeRect

/-- All visible rectangles are on the canvas. -/
def AllInCanvas
    (rects : List NativeRect)
    (canvas : CanvasSize) : Prop :=
  ∀ rect ∈ rects, rect.InCanvas canvas

theorem AllInCanvas.subtractOne
    {rects out : List NativeRect}
    {canvas : CanvasSize}
    {occ : NativeRect}
    (inCanvas : AllInCanvas rects canvas)
    (subtracted : nativeRectSubtractOne rects occ = some out) :
    AllInCanvas out canvas := by
  unfold nativeRectSubtractOne at subtracted
  dsimp only at subtracted
  split at subtracted
  · obtain rfl := Option.some.inj subtracted
    intro part member
    obtain ⟨rect, isRect, isPart⟩ := List.mem_flatMap.mp member
    exact (inCanvas rect isRect).subtract occ part isPart
  · cases subtracted

theorem AllInCanvas.subtractOccluders
    (inCanvas : AllInCanvas rects call.canvas)
    (above : List Layer) :
    AllInCanvas (nativeSubtractOccluders call rects above).1 call.canvas := by
  induction above generalizing rects with
  | nil => exact inCanvas
  | cons layer above ih =>
      unfold nativeSubtractOccluders
      split
      · exact ih inCanvas
      · split
        · exact inCanvas
        · intro rect member
          cases member
        · next subtracted => exact ih (inCanvas.subtractOne subtracted)

theorem allInCanvas_base
    (call : LayerCall)
    (above : List Layer) :
    AllInCanvas (nativeBuildBaseVisibleRects call above).1 call.canvas := by
  unfold nativeBuildBaseVisibleRects
  apply AllInCanvas.subtractOccluders
  intro rect member
  obtain rfl := List.mem_singleton.mp member
  exact NativeRect.inCanvas_whole call.canvas

theorem AllInCanvas.layer
    (inCanvas : AllInCanvas rects call.canvas)
    (above : List Layer)
    (original : NativeRect) :
    AllInCanvas (nativeBuildLayerVisibleRects call above original rects).1 call.canvas := by
  unfold nativeBuildLayerVisibleRects
  dsimp only
  split
  · exact inCanvas
  · apply AllInCanvas.subtractOccluders
    intro rect member
    obtain rfl := List.mem_singleton.mp member
    exact NativeRect.inCanvas_clipCanvas original call.canvas

/-! ## Decisions -/

/-- What is decided about a layer stands on the tests of its destination. -/
structure Decided
    (canvas : CanvasSize)
    (direct : DirectLayer) : Prop where
  sourceDriven : direct.sourceDrivenAmly → direct.dst.takesColumns canvas
  full : direct.splitFullCanvasDirect → direct.dst.takesCanvas canvas
  part : direct.splitDirectLayer → direct.dst.meetsCanvas canvas
  flag : direct.flags.dstInBounds =
    (direct.dst.inBounds canvas || direct.splitFullCanvasDirect)
  visible : AllInCanvas direct.visibleRects canvas

theorem splitFullCanvas_spec
    (call : LayerCall)
    (above : List Layer)
    (dst : LayerRect)
    (splits : Bool) :
    AllInCanvas (splitFullCanvas call above dst splits).1 call.canvas ∧
      ((splitFullCanvas call above dst splits).2 → dst.takesCanvas call.canvas) := by
  unfold splitFullCanvas
  split
  · next taken =>
      rw [Bool.and_eq_true] at taken
      exact ⟨allInCanvas_base call above, fun _ => taken.2⟩
  · exact ⟨nofun, nofun⟩

theorem splitDirect_spec
    (inCanvas : AllInCanvas rects call.canvas)
    (above : List Layer)
    (dst : LayerRect)
    (splits fillsBase : Bool) :
    AllInCanvas (splitDirect call above dst splits fillsBase rects).1 call.canvas ∧
      ((splitDirect call above dst splits fillsBase rects).2 → dst.meetsCanvas call.canvas) := by
  unfold splitDirect
  split
  · next met =>
      rw [Bool.and_eq_true] at met
      exact ⟨inCanvas.layer above dst.rect, fun _ => met.2⟩
  · exact ⟨inCanvas, nofun⟩

theorem decided_decideLayer
    (call : LayerCall)
    (isBase : Bool)
    (above : List Layer)
    (item : CompSceneItem)
    (texture : ImportCache.Slot)
    (source : SourceRect) :
    Decided call.canvas (decideLayer call isBase above item texture source) := by
  have full := splitFullCanvas_spec call above (destination call item)
  constructor
  · intro driven
    simp only [decideLayer, Bool.and_eq_true] at driven
    exact driven.2
  · exact (full _).2
  · exact (splitDirect_spec (full _).1 above _ _ _).2
  · rfl
  · exact (splitDirect_spec (full _).1 above _ _ _).1

theorem directLayer_eq_some
    {isBase : Bool}
    {above : List Layer}
    {layer : Layer}
    (drawn : directLayer call isBase above layer = some direct) :
    direct.dst = destination call layer.item ∧ Decided call.canvas direct := by
  unfold directLayer at drawn
  obtain ⟨⟨texture, source⟩, _, drawn⟩ := Option.bind_eq_some_iff.mp drawn
  obtain ⟨_, _, drawn⟩ := Option.bind_eq_some_iff.mp drawn
  obtain rfl := Option.some.inj drawn
  exact ⟨rfl, decided_decideLayer call isBase above layer.item texture source⟩

/-- The decisions about a layer are right over the integers: what is dispatched as
within the canvas is within it, and a layer that is drawn as one that covers the
canvas, or its columns, does. -/
structure DirectLayer.Right
    (direct : DirectLayer)
    (canvas : CanvasSize) : Prop where
  inBounds : ∀ dispatch ∈ direct.dispatches, dispatch.flags.dstInBounds →
    dispatch.dst.Inside canvas
  full : direct.splitFullCanvasDirect →
    direct.dst.CoversColumns canvas ∧ direct.dst.CoversRows canvas
  sourceDriven : direct.sourceDrivenAmly → direct.dst.CoversColumns canvas

/-- A part of a layer that is split is within the canvas, or goes with the
layer's own destination and flags. -/
theorem partDispatch_cases
    {rect : NativeRect}
    {dispatch : Dispatch}
    (drawn : direct.partDispatch rect = some dispatch) :
    dispatch = ⟨direct.dst, direct.flags⟩ ∨
      rect.nonempty ∧ dispatch.dst = rect.destination := by
  unfold DirectLayer.partDispatch at drawn
  dsimp only at drawn
  split_ifs at drawn with hidden
  · exact .inl (Option.some.inj drawn).symm
  · obtain rfl := Option.some.inj drawn
    refine .inr ⟨?_, rfl⟩
    simp only [Bool.or_eq_true, not_or, Bool.not_eq_true, Bool.not_eq_false'] at hidden
    exact hidden.1.1

theorem Decided.right_iff
    {canvas : CanvasSize}
    (decided : Decided canvas direct)
    (unscaled : direct.dst.Unscaled) :
    direct.Right canvas ↔ ¬direct.dst.WrapsInside canvas := by
  have full : direct.splitFullCanvasDirect →
      direct.dst.CoversColumns canvas ∧ direct.dst.CoversRows canvas :=
    fun split => LayerRect.covers_of_takesCanvas (decided.full split)
  have sourceDriven : direct.sourceDrivenAmly → direct.dst.CoversColumns canvas :=
    fun driven => LayerRect.covers_of_takesColumns (decided.sourceDriven driven)
  have ofBounds (wraps : ¬direct.dst.WrapsInside canvas)
      (inBounds : direct.dst.inBounds canvas) : direct.dst.Inside canvas :=
    (LayerRect.inside_iff_not_wrapsInside unscaled inBounds).mpr wraps
  cases isFull : direct.splitFullCanvasDirect with
  | true =>
      have noWrap := LayerRect.not_wrapsInside_of_takesCanvas unscaled (decided.full isFull)
      refine iff_of_true ⟨?_, full, sourceDriven⟩ noWrap
      intro dispatch member _
      unfold DirectLayer.dispatches at member
      rw [if_pos isFull] at member
      obtain ⟨rect, visible, rfl⟩ := List.mem_map.mp member
      obtain ⟨listed, nonempty⟩ := List.mem_filter.mp visible
      exact (decided.visible rect listed).inside nonempty
  | false =>
      have flag := decided.flag
      rw [isFull, Bool.or_false] at flag
      cases isPart : direct.splitDirectLayer with
      | true =>
          have noWrap := LayerRect.not_wrapsInside_of_meetsCanvas unscaled (decided.part isPart)
          refine iff_of_true ⟨?_, full, sourceDriven⟩ noWrap
          intro dispatch member flagged
          unfold DirectLayer.dispatches at member
          rw [if_neg (by simp [isFull]), if_pos isPart] at member
          obtain ⟨rect, visible, drawn⟩ := List.mem_filterMap.mp member
          obtain rfl | ⟨nonempty, same⟩ := partDispatch_cases drawn
          · exact ofBounds noWrap (flag ▸ flagged)
          · rw [same]
            exact (decided.visible rect visible).inside nonempty
      | false =>
          have dispatches : direct.dispatches = [⟨direct.dst, direct.flags⟩] := by
            unfold DirectLayer.dispatches
            rw [if_neg (by simp [isFull]), if_neg (by simp [isPart])]
          constructor
          · intro right wraps
            have inBounds : direct.dst.inBounds canvas :=
              (LayerRect.inBounds_iff unscaled).mpr (.inr wraps)
            have inside := right.inBounds ⟨direct.dst, direct.flags⟩ (by simp [dispatches])
              (flag.trans inBounds)
            exact (LayerRect.inside_iff_not_wrapsInside unscaled inBounds).mp inside wraps
          · intro noWrap
            refine ⟨?_, full, sourceDriven⟩
            intro dispatch member flagged
            rw [dispatches, List.mem_singleton] at member
            subst member
            exact ofBounds noWrap (flag.symm.trans flagged)

theorem nativeScaleU32_one_le (value : Int32) :
    (nativeScaleU32 value (.finite 1)).toNat ≤ 2 ^ 31 := by
  have isFloat : Double.binary32.round ((2 ^ 31 : ℤ) : ℚ) = .finite ((2 ^ 31 : ℤ) : ℚ) := by
    decide +kernel
  have small : (Double.ofIntFloat value.toInt).atMost (.finite ((2 ^ 31 : ℤ) : ℚ)) = true := by
    rw [← isFloat]
    apply Double.binary32.round_atMost
    exact_mod_cast value.toInt_lt.le
  have scaled := Double.lround_le (by norm_num) (Double.mulFloat_one_atMost isFloat small)
  unfold nativeScaleU32
  split
  · simp
  · dsimp only
    split
    · rw [UInt32.toNat_ofNat']
      omega
    · simp

theorem unscaled_destination
    (scaleX : call.scaleX = .finite 1)
    (scaleY : call.scaleY = .finite 1)
    (item : CompSceneItem) :
    (destination call item).Unscaled where
  w := by
    unfold destination
    rw [scaleX]
    exact nativeScaleU32_one_le item.renderWidth
  h := by
    unfold destination
    rw [scaleY]
    exact nativeScaleU32_one_le item.renderHeight

/-- The decisions about a direct layer of any geometry are right over the integers
exactly when its destination does not wrap around into the canvas. -/
theorem layer_bounds_right_iff
    (call : LayerCall)
    (isBase : Bool)
    (above : List Layer)
    (layer : Layer)
    (direct : DirectLayer)
    (scaleX : call.scaleX = .finite 1)
    (scaleY : call.scaleY = .finite 1)
    (drawn : directLayer call isBase above layer = some direct) :
    direct.Right call.canvas ↔ ¬(destination call layer.item).WrapsInside call.canvas := by
  obtain ⟨same, decided⟩ := directLayer_eq_some drawn
  have unscaled := unscaled_destination scaleX scaleY layer.item
  rw [← same] at unscaled ⊢
  exact decided.right_iff unscaled

/-- A standard canvas on which 8-bit YUV sources are drawn directly. -/
def sdrCall : LayerCall where
  has := fun pipeline => pipeline == .yuv8ToNv21
  hasDirectLayout := true
  colorMode := .sdr
  canvas := ⟨1920, 1080, by decide, by decide⟩
  opacityScale := .finite 1
  scaleX := .finite 1
  scaleY := .finite 1
  fullCanvasDirect := false
  targetedBgFill := false

/-- An NV12 source of 1920x1080 whose item begins in the column `x`. -/
def cameraLayer (x : Int32) : Layer where
  item := {
    sourceId := .strlcpy 128 "camera" SlotState.idRoom
    visible := true
    crop := fun _ => .finite 0
    opacity := .finite 1
    filterFlags := 0
    lutPath := ""
    renderX := x
    renderY := 0
    renderWidth := 1920
    renderHeight := 1080
    flipHorizontal := false
    flipVertical := false
    rotationDeg := .finite 0 }
  texture := some { ImportCache.Slot.new with
    width := 1920
    height := 1080
    sourceId := .strlcpy 128 "camera" SlotState.idRoom
    allocated := true
    hasContent := true
    dmabufImported := true
    yBuf := some ⟨1, 3110400⟩
    drmFormat := .nv12 }

/-- A camera that fills its canvas. -/
theorem layer_bounds_right_camera :
    ∃ direct, directLayer sdrCall true [] (cameraLayer 0) = some direct ∧
      direct.Right sdrCall.canvas := by
  obtain ⟨direct, drawn⟩ := Option.isSome_iff_exists.mp
    (by decide +kernel : (directLayer sdrCall true [] (cameraLayer 0)).isSome)
  refine ⟨direct, drawn, (layer_bounds_right_iff _ _ _ _ _ rfl rfl drawn).mpr ?_⟩
  unfold LayerRect.WrapsInside
  decide +kernel

/-- A camera that begins just below 2³¹ is dispatched as one within the canvas. -/
theorem layer_bounds_wrong :
    ∃ direct, directLayer sdrCall true [] (cameraLayer 2147483520) = some direct ∧
      ¬direct.Right sdrCall.canvas := by
  obtain ⟨direct, drawn⟩ := Option.isSome_iff_exists.mp
    (by decide +kernel : (directLayer sdrCall true [] (cameraLayer 2147483520)).isSome)
  obtain ⟨same, decided⟩ := directLayer_eq_some drawn
  have unscaled : direct.dst.Unscaled := by
    rw [same]
    exact unscaled_destination rfl rfl _
  refine ⟨direct, drawn, ?_⟩
  rw [decided.right_iff unscaled, same, not_not]
  unfold LayerRect.WrapsInside
  decide +kernel

end LayerDispatch
end Engine
end SbsServer
