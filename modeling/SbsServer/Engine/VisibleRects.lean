import SbsServer.CLib.Tiling
import SbsServer.Engine.LayerBounds

/-!
# What occluders leave of a layer

`native_rect_subtract_one` cuts an occluder out of every rectangle of a list, into an
array with room for 32.  The rectangles tile what the layer shows before, and what is
left of it behind every occluder that was subtracted.
-/

namespace SbsServer
namespace Engine
namespace LayerDispatch

open CLib

/-- `SBS_NATIVE_OCCLUSION_MAX_RECTS` -/
def nativeOcclusionMaxRects : Nat := 32

/-- Rectangles are put into `out` one after the other, while there is room. -/
def appendRects (out : List NativeRect) : List NativeRect → Option (List NativeRect)
  | [] => some out
  | piece :: rest =>
      if nativeOcclusionMaxRects ≤ out.length then none else appendRects (out ++ [piece]) rest

/-- The loop of `native_rect_subtract_one`. -/
def subtractLoop
    (occ : NativeRect)
    (out : List NativeRect) : List NativeRect → Option (List NativeRect)
  | [] => some out
  | rect :: rest =>
      match appendRects out (rect.subtract occ) with
      | none => none
      | some out => subtractLoop occ out rest

/-- `native_rect_subtract_one`: what it returns, and the first `*rect_count` rectangles
behind it. -/
def subtractOne
    (rects : List NativeRect)
    (occ : NativeRect) : Bool × List NativeRect :=
  match subtractLoop occ [] rects with
  | none => (false, rects)
  | some out => (true, out)

variable {out rects : List NativeRect}

theorem appendRects_eq
    (room : out.length ≤ nativeOcclusionMaxRects)
    (pieces : List NativeRect) :
    appendRects out pieces =
      if (out ++ pieces).length ≤ nativeOcclusionMaxRects then some (out ++ pieces) else none := by
  induction pieces generalizing out with
  | nil =>
      rw [List.append_nil, if_pos room]
      rfl
  | cons piece rest ih =>
      unfold appendRects
      split
      next full =>
        rw [if_neg]
        rw [List.length_append, List.length_cons]
        omega
      next short =>
        rw [ih (by rw [List.length_append, List.length_singleton]; omega), List.append_assoc]
        rfl

theorem subtractLoop_eq
    (room : out.length ≤ nativeOcclusionMaxRects)
    (occ : NativeRect)
    (rects : List NativeRect) :
    subtractLoop occ out rects =
      if (out ++ rects.flatMap (·.subtract occ)).length ≤ nativeOcclusionMaxRects then
        some (out ++ rects.flatMap (·.subtract occ))
      else none := by
  induction rects generalizing out with
  | nil =>
      rw [List.flatMap_nil, List.append_nil, if_pos room]
      rfl
  | cons rect rest ih =>
      rw [subtractLoop, appendRects_eq room, List.flatMap_cons, ← List.append_assoc]
      by_cases fits : (out ++ rect.subtract occ).length ≤ nativeOcclusionMaxRects
      · rw [if_pos fits]
        exact ih fits
      · rw [if_neg fits, if_neg]
        rw [List.length_append]
        omega

/-- The array and the list of the earlier model. -/
theorem subtractOne_eq
    (rects : List NativeRect)
    (occ : NativeRect) :
    subtractOne rects occ =
      match nativeRectSubtractOne rects occ with
      | none => (false, rects)
      | some out => (true, out) := by
  unfold subtractOne nativeRectSubtractOne
  rw [subtractLoop_eq (Nat.zero_le _)]
  rfl

namespace NativeRect

/-- The rectangle as a box of pixels. -/
def box (rect : NativeRect) : Box ℤ ℤ where
  left := rect.x.toInt
  top := rect.y.toInt
  right := rect.x1.toInt
  bottom := rect.y1.toInt

/-- The pixels of the rectangle. -/
def pixels (rect : NativeRect) : Set (ℤ × ℤ) :=
  rect.box.cells

/-- All coordinates are even. -/
def EvenEnds (rect : NativeRect) : Prop :=
  (Even rect.x.toInt ∧ Even rect.x1.toInt) ∧ Even rect.y.toInt ∧ Even rect.y1.toInt

theorem proper_box (rect : NativeRect) :
    rect.box.Proper ↔ rect.nonempty = true := by
  unfold Box.Proper box nonempty
  rw [Bool.and_eq_true, decide_eq_true_iff, decide_eq_true_iff, Int32.lt_iff_toInt_lt,
    Int32.lt_iff_toInt_lt]

theorem toInt_larger (first second : Int32) :
    (if second < first then first else second).toInt = max first.toInt second.toInt := by
  simp only [Int32.lt_iff_toInt_lt]
  split <;> omega

theorem toInt_smaller (first second : Int32) :
    (if first < second then first else second).toInt = min first.toInt second.toInt := by
  simp only [Int32.lt_iff_toInt_lt]
  split <;> omega

theorem map_box_filter (rects : List NativeRect) :
    (rects.filter nonempty).map box = (rects.map box).filter (·.Proper) := by
  rw [List.filter_map]
  congr 2
  funext rect
  rw [Function.comp_apply, Bool.eq_iff_iff, decide_eq_true_iff, proper_box]

/-- What is left of a rectangle is what is left of its box. -/
theorem map_box_subtract (rect occ : NativeRect) :
    (rect.subtract occ).map box = rect.box.subtract occ.box := by
  have left := toInt_larger rect.x occ.x
  have top := toInt_larger rect.y occ.y
  have right := toInt_smaller rect.x1 occ.x1
  have bottom := toInt_smaller rect.y1 occ.y1
  unfold NativeRect.subtract Box.subtract
  dsimp only
  generalize (if occ.x < rect.x then rect.x else occ.x) = x0 at *
  generalize (if occ.y < rect.y then rect.y else occ.y) = y0 at *
  generalize (if rect.x1 < occ.x1 then rect.x1 else occ.x1) = x1 at *
  generalize (if rect.y1 < occ.y1 then rect.y1 else occ.y1) = y1 at *
  have shared : rect.box.meet occ.box = box ⟨x0, y0, x1, y1⟩ := by
    unfold Box.meet box
    rw [left, top, right, bottom]
  have meet : ¬(x1 ≤ x0 ∨ y1 ≤ y0) ↔ (box ⟨x0, y0, x1, y1⟩).Proper := by
    rw [not_or, Int32.not_le, Int32.not_le, Int32.lt_iff_toInt_lt, Int32.lt_iff_toInt_lt]
    rfl
  rw [shared]
  by_cases apart : x1 ≤ x0 ∨ y1 ≤ y0
  · rw [if_pos apart, if_neg fun proper => meet.mpr proper apart]
    rfl
  · rw [if_neg apart, if_pos (meet.mp apart), map_box_filter]
    rfl

theorem nonempty_subtract
    {rect occ : NativeRect}
    (nonempty : rect.nonempty = true) :
    ∀ part ∈ rect.subtract occ, part.nonempty = true := by
  intro part present
  rw [← proper_box]
  apply Box.proper_subtract ((proper_box rect).mpr nonempty)
  rw [← map_box_subtract]
  exact List.mem_map_of_mem present

/-- What is left of an even rectangle beside an even occluder is even. -/
theorem evenEnds_subtract
    {rect occ : NativeRect}
    (even : rect.EvenEnds)
    (evenOcc : occ.EvenEnds) :
    ∀ part ∈ rect.subtract occ, part.EvenEnds := by
  intro part present
  have ends := @Box.ends_subtract ℤ ℤ _ _ rect.box occ.box Even Even
    ⟨even.1, evenOcc.1⟩ ⟨even.2, evenOcc.2⟩ part.box
  apply ends
  rw [← map_box_subtract]
  exact List.mem_map_of_mem present

end NativeRect

/-- The pixels of some rectangles. -/
def pixelsOf (rects : List NativeRect) : Set (ℤ × ℤ) :=
  {pixel | ∃ rect ∈ rects, pixel ∈ rect.pixels}

/-- The rectangles tile a region: no two share a pixel, and they hold its pixels exactly. -/
def TilesPixels
    (rects : List NativeRect)
    (region : Set (ℤ × ℤ)) : Prop :=
  Tiles (rects.map NativeRect.box) region

theorem tilesPixels_of_disjoint
    (apart : rects.Pairwise fun first second => Disjoint first.pixels second.pixels) :
    TilesPixels rects (pixelsOf rects) where
  apart := List.pairwise_map.mpr apart
  covers := by
    intro pixel
    simp only [List.mem_map, exists_exists_and_eq_and]
    rfl

variable {occ : NativeRect}

theorem TilesPixels.subtractOne
    {region : Set (ℤ × ℤ)}
    (tiles : TilesPixels rects region)
    (subtracted : nativeRectSubtractOne rects occ = some out) :
    TilesPixels out (region \ occ.pixels) := by
  unfold nativeRectSubtractOne at subtracted
  dsimp only at subtracted
  split at subtracted
  · obtain rfl := Option.some.inj subtracted
    have parts := tiles.subtract occ.box
    unfold TilesPixels
    rw [List.map_flatMap]
    rw [List.flatMap_map] at parts
    simp only [NativeRect.map_box_subtract]
    exact parts
  · cases subtracted

theorem length_subtractOne
    (subtracted : nativeRectSubtractOne rects occ = some out) :
    out.length ≤ nativeOcclusionMaxRects := by
  unfold nativeRectSubtractOne at subtracted
  dsimp only at subtracted
  split at subtracted
  · next short =>
      obtain rfl := Option.some.inj subtracted
      exact short
  · cases subtracted

/-- What every part of a rectangle has, every rectangle behind an occluder has. -/
theorem forall_subtractOne
    {has : NativeRect → Prop}
    (parts : ∀ rect, has rect → ∀ part ∈ rect.subtract occ, has part)
    (all : ∀ rect ∈ rects, has rect)
    (subtracted : nativeRectSubtractOne rects occ = some out) :
    ∀ rect ∈ out, has rect := by
  unfold nativeRectSubtractOne at subtracted
  dsimp only at subtracted
  split at subtracted
  · obtain rfl := Option.some.inj subtracted
    intro part member
    obtain ⟨rect, isRect, isPart⟩ := List.mem_flatMap.mp member
    exact parts rect (all rect isRect) part isPart
  · cases subtracted

/-- What `native_rect_subtract_one` does to some rectangles that share no pixel. -/
structure SubtractsExactly
    (rects : List NativeRect)
    (occ : NativeRect) : Prop where
  unchanged : (subtractOne rects occ).1 = false → (subtractOne rects occ).2 = rects
  nonempty : (subtractOne rects occ).1 = true →
    ∀ rect ∈ (subtractOne rects occ).2, rect.nonempty = true
  tiles : (subtractOne rects occ).1 = true →
    TilesPixels (subtractOne rects occ).2 (pixelsOf rects \ occ.pixels)
  short : (subtractOne rects occ).1 = true →
    (subtractOne rects occ).2.length ≤ nativeOcclusionMaxRects
  even : (subtractOne rects occ).1 = true → (∀ rect ∈ rects, rect.EvenEnds) → occ.EvenEnds →
    ∀ rect ∈ (subtractOne rects occ).2, rect.EvenEnds

theorem subtractsExactly
    (apart : rects.Pairwise fun first second => Disjoint first.pixels second.pixels)
    (nonempty : ∀ rect ∈ rects, rect.nonempty = true)
    (occ : NativeRect) :
    SubtractsExactly rects occ := by
  have known := subtractOne_eq rects occ
  split at known
  next => constructor <;> simp [known]
  next out subtracted =>
    constructor <;> rw [known]
    · nofun
    · intro _
      exact forall_subtractOne (fun _ => NativeRect.nonempty_subtract) nonempty subtracted
    · intro _
      exact (tilesPixels_of_disjoint apart).subtractOne subtracted
    · intro _
      exact length_subtractOne subtracted
    · intro _ even evenOcc
      exact forall_subtractOne (fun _ evenRect => NativeRect.evenEnds_subtract evenRect evenOcc)
        even subtracted

/-! ## Occluders in a row -/

/-- Occluders subtracted one after the other. -/
def subtractAll
    (rects : List NativeRect)
    (occluders : List NativeRect) : Option (List NativeRect) :=
  occluders.foldlM nativeRectSubtractOne rects

/-- What one subtraction keeps, all of them keep. -/
theorem subtractAll_induct
    {keeps : List NativeRect → Set (ℤ × ℤ) → Prop}
    {occluders : List NativeRect}
    (step : ∀ rects out region, ∀ occ ∈ occluders, keeps rects region →
      nativeRectSubtractOne rects occ = some out → keeps out (region \ occ.pixels))
    {rects out : List NativeRect}
    {region : Set (ℤ × ℤ)}
    (first : keeps rects region)
    (subtracted : subtractAll rects occluders = some out) :
    keeps out (region \ pixelsOf occluders) := by
  induction occluders generalizing rects region with
  | nil =>
      obtain rfl := Option.some.inj subtracted
      have none : pixelsOf [] = ∅ := by
        ext pixel
        simp [pixelsOf]
      rwa [none, Set.sdiff_empty]
  | cons occ rest ih =>
      unfold subtractAll at subtracted
      rw [List.foldlM_cons] at subtracted
      obtain ⟨behind, one, others⟩ := Option.bind_eq_some_iff.mp subtracted
      have cut : region \ pixelsOf (occ :: rest) = (region \ occ.pixels) \ pixelsOf rest := by
        ext pixel
        simp [pixelsOf, and_assoc]
      rw [cut]
      apply ih _ _ others
      · intro rects out region next present
        exact step rects out region next (List.mem_cons_of_mem _ present)
      · exact step rects behind region occ List.mem_cons_self first one

/-- Why occluders are left: there is nothing to subtract the others from, or the next one
leaves more rectangles than there is room for. -/
inductive LeftOff (rects : List NativeRect) : Option Bool → List NativeRect → Prop
  | done : LeftOff rects none []
  | hidden (rest : List NativeRect) (nothing : rects = []) : LeftOff rects (some true) rest
  | full (next : NativeRect) (rest : List NativeRect)
      (tooMany : nativeRectSubtractOne rects next = none) :
      LeftOff rects (some false) (next :: rest)

/-- The loop over the layers above subtracts the first of their occluders. -/
theorem subtractAll_of_occluders
    (call : LayerCall)
    (rects : List NativeRect)
    (above : List Layer) :
    ∃ done rest, above.filterMap (nativeSourceOpaqueOccluderRect call) = done ++ rest ∧
      subtractAll rects done = some (nativeSubtractOccluders call rects above).1 ∧
      LeftOff (nativeSubtractOccluders call rects above).1
        (nativeSubtractOccluders call rects above).2 rest := by
  induction above generalizing rects with
  | nil => exact ⟨[], [], rfl, rfl, .done⟩
  | cons layer above ih =>
      unfold nativeSubtractOccluders
      split
      next transparent =>
        rw [List.filterMap_cons_none transparent]
        exact ih rects
      next occ solid =>
        rw [List.filterMap_cons_some solid]
        split
        next tooMany => exact ⟨[], _, rfl, rfl, .full _ _ tooMany⟩
        next nothing =>
          refine ⟨[occ], _, rfl, ?_, .hidden _ rfl⟩
          unfold subtractAll
          rw [List.foldlM_cons, nothing]
          rfl
        next left _ subtracted =>
          obtain ⟨done, rest, listed, all, leftOff⟩ := ih left
          refine ⟨occ :: done, rest, ?_, ?_, leftOff⟩
          · rw [listed, List.cons_append]
          · unfold subtractAll
            rw [List.foldlM_cons, subtracted]
            exact all

theorem even_and_not_one (value : Int32) : Even (value &&& ~~~1).toInt := by
  have mask : (~~~(1 : Int32)).toBitVec.toNat % 2 ^ 1 = 0 := by decide
  have low : (value &&& ~~~1).toBitVec.toNat % 2 ^ 1 = 0 := by
    rw [Int32.toBitVec_and, BitVec.toNat_and, Nat.and_mod_two_pow, mask, Nat.and_zero]
  rw [Int.even_iff, ← Int32.toInt_toBitVec, BitVec.toInt_eq_toNat_bmod, Int.bmod_def]
  omega

/-- Occluders end between chroma cells. -/
theorem evenEnds_occluder
    {call : LayerCall}
    {layer : Layer}
    (solid : nativeSourceOpaqueOccluderRect call layer = some occ) :
    occ.EvenEnds := by
  unfold nativeSourceOpaqueOccluderRect at solid
  simp only [Option.bind_eq_bind, Option.bind_eq_some_iff] at solid
  obtain ⟨_, _, texture, _, _, _, _, _, rect, _, _, _, _, _, aligned⟩ := solid
  obtain rfl := Option.some.inj aligned
  exact ⟨⟨even_and_not_one _, even_and_not_one _⟩, even_and_not_one _, even_and_not_one _⟩

/-- The pixels of a canvas. -/
def canvasPixels (canvas : CanvasSize) : Set (ℤ × ℤ) :=
  {pixel | (0 ≤ pixel.1 ∧ pixel.1 < canvas.width.toNat) ∧
    0 ≤ pixel.2 ∧ pixel.2 < canvas.height.toNat}

theorem NativeRect.pixels_whole (canvas : CanvasSize) :
    (⟨0, 0, canvas.width.toInt32, canvas.height.toInt32⟩ : NativeRect).pixels =
      canvasPixels canvas := by
  ext pixel
  unfold pixels box canvasPixels
  rw [Box.mem_cells, toInt_toInt32_of_lt canvas.width_lt, toInt_toInt32_of_lt canvas.height_lt]
  rfl

theorem NativeRect.pixels_clipCanvas
    (rect : NativeRect)
    (canvas : CanvasSize) :
    (rect.clipCanvas canvas).pixels = rect.pixels ∩ canvasPixels canvas := by
  have left := toInt_larger 0 rect.x
  have top := toInt_larger 0 rect.y
  have right := toInt_smaller canvas.width.toInt32 rect.x1
  have bottom := toInt_smaller canvas.height.toInt32 rect.y1
  rw [toInt_toInt32_of_lt canvas.width_lt] at right
  rw [toInt_toInt32_of_lt canvas.height_lt] at bottom
  ext pixel
  unfold pixels box canvasPixels clipCanvas
  rw [Set.mem_inter_iff, Box.mem_cells, Box.mem_cells, left, top, right, bottom]
  simp only [max_le_iff, lt_min_iff, Int32.toInt_zero, Set.mem_ofPred_eq]
  tauto

/-- Rectangles tile a region without the first of some occluders.  Others are left when nothing
of the region is, or when the next one leaves too many rectangles. -/
def TilesSoFar
    (region : Set (ℤ × ℤ))
    (occluders : List NativeRect)
    (built : List NativeRect × Bool) : Prop :=
  ∃ done rest, occluders = done ++ rest ∧
    TilesPixels built.1 (region \ pixelsOf done) ∧
    built.1.length ≤ nativeOcclusionMaxRects ∧
    (rest = [] ∨ built.1 = [] ∨
      ∃ next others, rest = next :: others ∧ nativeRectSubtractOne built.1 next = none ∧
        built.2 = false)

theorem tilesSoFar
    (call : LayerCall)
    (rect : NativeRect)
    (above : List Layer)
    (otherwise : List NativeRect → Bool) :
    TilesSoFar rect.pixels (above.filterMap (nativeSourceOpaqueOccluderRect call))
      ((nativeSubtractOccluders call [rect] above).1,
        (nativeSubtractOccluders call [rect] above).2.getD
          (otherwise (nativeSubtractOccluders call [rect] above).1)) := by
  obtain ⟨done, rest, listed, all, leftOff⟩ := subtractAll_of_occluders call [rect] above
  have tiles := @subtractAll_induct TilesPixels done
    (fun _ _ _ _ _ tiles subtracted => tiles.subtractOne subtracted)
    [rect] _ rect.pixels (Tiles.singleton rect.box) all
  have short := @subtractAll_induct (fun rects _ => rects.length ≤ nativeOcclusionMaxRects) done
    (fun _ _ _ _ _ _ subtracted => length_subtractOne subtracted)
    [rect] _ rect.pixels (by rw [List.length_singleton]; decide) all
  refine ⟨done, rest, listed, tiles, short, ?_⟩
  generalize nativeSubtractOccluders call [rect] above = run at leftOff
  obtain ⟨shown, early⟩ := run
  cases leftOff with
  | done => exact .inl rfl
  | hidden rest nothing => exact .inr (.inl nothing)
  | full next rest tooMany => exact .inr (.inr ⟨next, rest, rfl, tooMany, rfl⟩)

/-- The visible rectangles of an even canvas end between chroma cells. -/
theorem evenEnds_base
    {call : LayerCall}
    (evenWidth : Even (call.canvas.width.toNat : ℤ))
    (evenHeight : Even (call.canvas.height.toNat : ℤ))
    (above : List Layer) :
    ∀ rect ∈ (nativeBuildBaseVisibleRects call above).1, rect.EvenEnds := by
  have whole : NativeRect.EvenEnds
      ⟨0, 0, call.canvas.width.toInt32, call.canvas.height.toInt32⟩ := by
    unfold NativeRect.EvenEnds
    rw [toInt_toInt32_of_lt call.canvas.width_lt, toInt_toInt32_of_lt call.canvas.height_lt]
    exact ⟨⟨Even.zero, evenWidth⟩, Even.zero, evenHeight⟩
  obtain ⟨done, rest, listed, all, -⟩ := subtractAll_of_occluders call [_] above
  have step (occ : NativeRect) (present : occ ∈ done) : occ.EvenEnds := by
    have occluder : occ ∈ above.filterMap (nativeSourceOpaqueOccluderRect call) := by
      rw [listed]
      exact List.mem_append_left _ present
    obtain ⟨layer, _, solid⟩ := List.mem_filterMap.mp occluder
    exact evenEnds_occluder solid
  refine @subtractAll_induct (fun rects _ => ∀ rect ∈ rects, rect.EvenEnds) done ?_
    [_] _ ∅ (by simpa using whole) all
  intro rects out _ occ present even subtracted
  exact forall_subtractOne (fun _ evenRect => NativeRect.evenEnds_subtract evenRect
    (step occ present)) even subtracted

/-- A camera begins at column 64 of the canvas. -/
theorem evenEnds_base_camera :
    (nativeBuildBaseVisibleRects sdrCall [cameraLayer 64]).1 ≠ [] ∧
      ∀ rect ∈ (nativeBuildBaseVisibleRects sdrCall [cameraLayer 64]).1, rect.EvenEnds :=
  ⟨by decide +kernel, evenEnds_base (by decide +kernel) (by decide +kernel) _⟩

theorem subtraction_exact
    {rects : List NativeRect}
    (apart : rects.Pairwise fun first second => Disjoint first.pixels second.pixels)
    (nonempty : ∀ rect ∈ rects, rect.nonempty = true) :
    (∀ occ, SubtractsExactly rects occ) ∧
      (∀ call above, TilesSoFar (canvasPixels call.canvas)
        (above.filterMap (nativeSourceOpaqueOccluderRect call))
        (nativeBuildBaseVisibleRects call above)) ∧
      ∀ call above original before, (original.clipCanvas call.canvas).nonempty = true →
        TilesSoFar (original.pixels ∩ canvasPixels call.canvas)
          (above.filterMap (nativeSourceOpaqueOccluderRect call))
          (nativeBuildLayerVisibleRects call above original before) := by
  refine ⟨subtractsExactly apart nonempty, ?_, ?_⟩
  · intro call above
    rw [← NativeRect.pixels_whole]
    exact tilesSoFar call _ above fun rects => 1 < rects.length
  · intro call above original before shown
    rw [← NativeRect.pixels_clipCanvas]
    unfold nativeBuildLayerVisibleRects
    simp only [shown, Bool.not_true, Bool.false_eq_true, if_false]
    exact tilesSoFar call _ above fun rects =>
      rects != [original] || rects != [original.clipCanvas call.canvas]

theorem subtraction_exact_corner :
    (subtractOne [⟨0, 0, 4, 4⟩, ⟨4, 0, 8, 4⟩] ⟨2, 2, 6, 6⟩).1 = true ∧
      SubtractsExactly [⟨0, 0, 4, 4⟩, ⟨4, 0, 8, 4⟩] ⟨2, 2, 6, 6⟩ := by
  refine ⟨by decide +kernel, (subtraction_exact ?_ ?_).1 _⟩
  · refine List.pairwise_pair.mpr ?_
    exact Box.disjoint_of_columns (by decide +kernel)
  · decide +kernel

end LayerDispatch
end Engine
end SbsServer
