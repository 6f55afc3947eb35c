import SbsServer.CLib.Numeral
import SbsServer.CLib.Overwriting
import SbsServer.CLib.Ring
import SbsServer.CLib.Rounding
import SbsServer.SceneGraph.State
import Mathlib.Data.Fin.VecNotation

/-!
# Items for the compositor

`fill_comp_item` turns a scene item into what the compositor draws.  The filters of its
source, its own and those of the scene are applied to it one after the other: each type of
filter sets its flag, stores its parameters into some of eight shared numbers, three numbers
for dynamic range and a file name, and changes the tint, the crop or the orientation.  The
fields that no filter reads or changes are left out.
-/

namespace SbsServer
namespace SceneGraph

open CLib

/-- `SBS_COMP_FILTER_GRAYSCALE`. -/
def filterGrayscale : UInt32 := 1

/-- `SBS_COMP_FILTER_BRIGHTNESS`. -/
def filterBrightness : UInt32 := 2

/-- `SBS_COMP_FILTER_CONTRAST`. -/
def filterContrast : UInt32 := 4

/-- `SBS_COMP_FILTER_BLUR`. -/
def filterBlur : UInt32 := 8

/-- `SBS_COMP_FILTER_SHARPEN`. -/
def filterSharpen : UInt32 := 16

/-- `SBS_COMP_FILTER_HDR_TO_SDR_LUT`. -/
def filterHdrToSdrLut : UInt32 := 32

/-- `SBS_COMP_FILTER_COLOR_CORRECTION`. -/
def filterColorCorrection : UInt32 := 64

/-- `SBS_COMP_FILTER_LUMA_KEY`. -/
def filterLumaKey : UInt32 := 128

/-- `SBS_COMP_FILTER_CHROMA_KEY`. -/
def filterChromaKey : UInt32 := 256

/-- `SBS_COMP_FILTER_LUT`. -/
def filterLut : UInt32 := 512

/-- `SBS_COMP_FILTER_SDR_TO_HDR`. -/
def filterSdrToHdr : UInt32 := 1024

/-- `SBS_COMP_LUT_PATH_MAX`. -/
abbrev compLutPathMax : Nat := 256

/-- A file name has room for its terminator. -/
theorem compLutPathMax_pos : 0 < compLutPathMax := by decide

/-- `sbs_comp_scene_item_t`, as far as filters read or change it. -/
structure CompItem where
  crop : Fin 4 → Double
  tint : Fin 4 → Double
  filterFlags : UInt32
  filterParams : Fin 8 → Double
  hdrToSdrSaturation : Double
  hdrToSdrBrightness : Double
  hdrToSdrHueDeg : Double
  lutPath : CharArray compLutPathMax
  flipHorizontal : Bool
  flipVertical : Bool
  rotationDeg : Double

/-- The zeroed item of `memset`. -/
def CompItem.zero : CompItem where
  crop := fun _ => .finite 0
  tint := fun _ => .finite 0
  filterFlags := 0
  filterParams := fun _ => .finite 0
  hdrToSdrSaturation := .finite 0
  hdrToSdrBrightness := .finite 0
  hdrToSdrHueDeg := .finite 0
  lutPath := .strlcpy compLutPathMax "" compLutPathMax_pos
  flipHorizontal := false
  flipVertical := false
  rotationDeg := .finite 0

/-- A number in which filters store a parameter. -/
inductive NumberField
  | param (slot : Fin 8)
  | hdrToSdrSaturation
  | hdrToSdrBrightness
  | hdrToSdrHueDeg
  deriving DecidableEq

/-- A `float` literal of the source. -/
def floatLit (value : ℚ) : Double :=
  Double.binary32.round value

namespace CompItem

/-- The content of a number. -/
def number (out : CompItem) : NumberField → Double
  | .param slot => out.filterParams slot
  | .hdrToSdrSaturation => out.hdrToSdrSaturation
  | .hdrToSdrBrightness => out.hdrToSdrBrightness
  | .hdrToSdrHueDeg => out.hdrToSdrHueDeg

/-- An assignment to a number. -/
def store
    (out : CompItem)
    (field : NumberField)
    (value : Double) : CompItem :=
  match field with
  | .param slot => { out with filterParams := Function.update out.filterParams slot value }
  | .hdrToSdrSaturation => { out with hdrToSdrSaturation := value }
  | .hdrToSdrBrightness => { out with hdrToSdrBrightness := value }
  | .hdrToSdrHueDeg => { out with hdrToSdrHueDeg := value }

theorem number_store
    (out : CompItem)
    (field other : NumberField)
    (value : Double) :
    (out.store field value).number other = if field = other then value else out.number other := by
  cases field with
  | param slot =>
      cases other with
      | param another =>
          simp only [store, number, Function.update_apply, NumberField.param.injEq, eq_comm]
      | hdrToSdrSaturation => rfl
      | hdrToSdrBrightness => rfl
      | hdrToSdrHueDeg => rfl
  | hdrToSdrSaturation => cases other <;> rfl
  | hdrToSdrBrightness => cases other <;> rfl
  | hdrToSdrHueDeg => cases other <;> rfl

@[simp] theorem lutPath_store
    (out : CompItem)
    (field : NumberField)
    (value : Double) :
    (out.store field value).lutPath = out.lutPath := by
  cases field <;> rfl

end CompItem

/-- Assignments to numbers, as writers of them. -/
def assigning : Overwriting (NumberField × Double) CompItem NumberField Double where
  step := fun assignment out => out.store assignment.1 assignment.2
  read := CompItem.number
  written := fun assignment field =>
    if assignment.1 = field then some assignment.2 else none
  read_step := by
    intro assignment out field
    rw [CompItem.number_store]
    split <;> rfl

namespace CompItem

/-- Assignments to numbers, in their order. -/
def storeAll
    (out : CompItem)
    (assignments : List (NumberField × Double)) : CompItem :=
  assigning.run assignments out

/-- `filter_flags |= flag`. -/
def setFlag
    (out : CompItem)
    (flag : UInt32) : CompItem :=
  { out with filterFlags := out.filterFlags ||| flag }

/-- An operation on the first three channels of the tint. -/
def mapTint
    (out : CompItem)
    (change : Double → Double) : CompItem :=
  { out with
    tint := fun channel =>
      if channel.val < 3 then change (out.tint channel) else out.tint channel }

/-- `g_strlcpy` into `lut_path`. -/
def setLutPath
    (out : CompItem)
    (path : CStr) : CompItem :=
  { out with lutPath := .strlcpy compLutPathMax path compLutPathMax_pos }

/-- The weighted sum of the channels that is computed into `gray`. -/
def gray (out : CompItem) : Double :=
  (((out.tint 0).mulFloat (floatLit 0.299)).addFloat
    ((out.tint 1).mulFloat (floatLit 0.587))).addFloat
      ((out.tint 2).mulFloat (floatLit 0.114))

@[simp] theorem number_setFlag
    (out : CompItem)
    (flag : UInt32) :
    (out.setFlag flag).number = out.number := by
  funext field
  cases field <;> rfl

@[simp] theorem number_mapTint
    (out : CompItem)
    (change : Double → Double) :
    (out.mapTint change).number = out.number := by
  funext field
  cases field <;> rfl

@[simp] theorem number_setLutPath
    (out : CompItem)
    (path : CStr) :
    (out.setLutPath path).number = out.number := by
  funext field
  cases field <;> rfl

theorem number_storeAll
    (out : CompItem)
    (assignments : List (NumberField × Double))
    (field : NumberField) :
    (out.storeAll assignments).number field =
      (assigning.lastWritten assignments field).getD (out.number field) :=
  assigning.read_run assignments out field

@[simp] theorem lutPath_storeAll
    (out : CompItem)
    (assignments : List (NumberField × Double)) :
    (out.storeAll assignments).lutPath = out.lutPath := by
  induction assignments generalizing out with
  | nil => rfl
  | cons assignment rest ih =>
      calc (out.storeAll (assignment :: rest)).lutPath
          = (out.store assignment.1 assignment.2).lutPath := ih _
        _ = out.lutPath := lutPath_store out assignment.1 assignment.2

end CompItem

/-! ## Parameters of a filter -/

/-- `filter_float_param`. -/
def filterFloatParam
    (filter : FilterState)
    (key : CStr)
    (fallback : Double) : Double :=
  match filter.params.lookup key with
  | some value => (Double.strtod value).toFloat
  | none => fallback

/-- A parameter that is clamped when it is given. -/
def givenClamped
    (filter : FilterState)
    (key : CStr)
    (low high fallback : Double) : Double :=
  match filter.params.lookup key with
  | some value => (Double.strtod value).toFloat.clamp low high
  | none => fallback

/-- A conversion `%02x` of `sscanf`, and the text behind it.  A sign counts for the width, and
the prefix `0x` fills it. -/
def scanHexPair (text : List UInt8) : Option (UInt32 × List UInt8) :=
  let text := text.dropWhile isSpace
  let (negative, body) := Double.scanSign text
  let width := if body.length < text.length then 1 else 2
  if width = 2 ∧ Double.hasPrefix "0x" body then some (0, body.drop 2)
  else
    let (value, count, _) := Double.scanDigits 16 0 0 (body.take width)
    if count = 0 then none
    else
      let magnitude := UInt32.ofNat value
      some (if negative then -magnitude else magnitude, body.drop count)

/-- `sscanf` with the format `%02x%02x%02x`. -/
def scanRgb (text : List UInt8) : Option (UInt32 × UInt32 × UInt32) := do
  let (red, text) ← scanHexPair text
  let (green, text) ← scanHexPair text
  let (blue, _) ← scanHexPair text
  return (red, green, blue)

/-- A channel of eight bits as a `float`. -/
def channelOf (value : UInt32) : Double :=
  ((Double.ofIntFloat value.toNat).divFloat (floatLit 255)).clamp (floatLit 0) (floatLit 1)

/-- The colour in the parameter `color`, with or without `#`. -/
def filterColor (filter : FilterState) : Option (UInt32 × UInt32 × UInt32) := do
  let value ← filter.params.lookup "color"
  let digits := if value.bytes.head? = some 35 then value.bytes.drop 1 else value.bytes
  if digits.length = 6 then scanRgb digits else none

/-- `filter_rgb_param`. -/
def filterRgbParam
    (filter : FilterState)
    (fallbackR fallbackG fallbackB : Double) : Double × Double × Double :=
  match filterColor filter with
  | some (red, green, blue) => (channelOf red, channelOf green, channelOf blue)
  | none =>
      ((filterFloatParam filter "red" fallbackR).clamp (floatLit 0) (floatLit 1),
        (filterFloatParam filter "green" fallbackG).clamp (floatLit 0) (floatLit 1),
        (filterFloatParam filter "blue" fallbackB).clamp (floatLit 0) (floatLit 1))

/-- The file name of a filter with a lookup table: `path`, or `file` if that is missing or
empty. -/
def filterPathParam (filter : FilterState) : Option CStr :=
  (given (filter.params.lookup "path")).or (given (filter.params.lookup "file"))

section Types

variable (filter : FilterState)
variable (out : CompItem)

/-- The assignments of a filter that stores only its amount. -/
def amountNumbers
    (slot : Fin 8)
    (fallback : ℚ) : List (NumberField × Double) :=
  [(.param slot, filterFloatParam filter "amount" (floatLit fallback))]

/-- The assignments of `color_correction`. -/
def colorCorrectionNumbers : List (NumberField × Double) :=
  [(.param 0, (filterFloatParam filter "saturation" (floatLit 1)).clamp
      (floatLit 0) (floatLit 3)),
    (.param 1, (filterFloatParam filter "brightness" (floatLit 0)).clamp
      (floatLit (-1)) (floatLit 1)),
    (.param 2, (filterFloatParam filter "contrast" (floatLit 1)).clamp
      (floatLit 0) (floatLit 4)),
    (.param 3, (filterFloatParam filter "gamma" (floatLit 1)).clamp
      (floatLit 0.1) (floatLit 4)),
    (.param 7, (filterFloatParam filter "hue" (floatLit 0)).clamp
      (floatLit (-180)) (floatLit 180))]

/-- The assignments of `luma_key`. -/
def lumaKeyNumbers : List (NumberField × Double) :=
  [(.param 3, (filterFloatParam filter "min" (floatLit 0)).clamp (floatLit 0) (floatLit 1)),
    (.param 6, (filterFloatParam filter "max" (floatLit 1)).clamp (floatLit 0) (floatLit 1)),
    (.param 7, (filterFloatParam filter "smoothness" (floatLit 0.08)).clamp
      (floatLit 0.001) (floatLit 1))]

/-- The assignments of `chroma_key`. -/
def chromaKeyNumbers : List (NumberField × Double) :=
  let (red, green, blue) := filterRgbParam filter (floatLit 0) (floatLit 1) (floatLit 0)
  [(.param 0, red),
    (.param 1, green),
    (.param 2, blue),
    (.param 3, (filterFloatParam filter "similarity" (floatLit 0.25)).clamp
      (floatLit 0) (floatLit 1)),
    (.param 6, (filterFloatParam filter "smoothness" (floatLit 0.08)).clamp
      (floatLit 0.001) (floatLit 1)),
    (.param 7, (filterFloatParam filter "spill" (floatLit 0)).clamp (floatLit 0) (floatLit 1))]

/-- The assignments of a conversion between dynamic ranges, with the bounds and the fallback
of its saturation and the fallback of its brightness. -/
def dynamicRangeNumbers (low high saturation brightness : ℚ) : List (NumberField × Double) :=
  [(.param 5, filterFloatParam filter "amount" (floatLit 1)),
    (.hdrToSdrSaturation, givenClamped filter "saturation"
      (floatLit low) (floatLit high) (floatLit saturation)),
    (.hdrToSdrBrightness, givenClamped filter "brightness"
      (floatLit (-0.3)) (floatLit 0.3) (floatLit brightness)),
    (.hdrToSdrHueDeg, givenClamped filter "hue"
      (floatLit (-180)) (floatLit 180) (floatLit 0))]

/-- The branch of `grayscale`. -/
def applyGrayscale : CompItem :=
  let out := (out.setFlag filterGrayscale).storeAll (amountNumbers filter 0 1)
  let amount := out.filterParams 0
  let gray := out.gray
  out.mapTint fun channel =>
    (channel.mulFloat ((floatLit 1).subFloat amount)).addFloat (gray.mulFloat amount)

/-- The branch of `brightness`. -/
def applyBrightness : CompItem :=
  let out := (out.setFlag filterBrightness).storeAll (amountNumbers filter 1 0.15)
  let amount := out.filterParams 1
  out.mapTint fun channel => (channel.addFloat amount).clamp (floatLit 0) (floatLit 1)

/-- The branch of `contrast`. -/
def applyContrast : CompItem :=
  let out := (out.setFlag filterContrast).storeAll (amountNumbers filter 2 1.15)
  let amount := out.filterParams 2
  out.mapTint fun channel =>
    (((channel.subFloat (floatLit 0.5)).mulFloat amount).addFloat (floatLit 0.5)).clamp
      (floatLit 0) (floatLit 1)

/-- The branch of `blur`. -/
def applyBlur : CompItem :=
  (out.setFlag filterBlur).storeAll (amountNumbers filter 3 0.35)

/-- The branch of `sharpen`. -/
def applySharpen : CompItem :=
  (out.setFlag filterSharpen).storeAll (amountNumbers filter 4 0.4)

/-- The branch of `color_correction`. -/
def applyColorCorrection : CompItem :=
  let out := (out.setFlag filterColorCorrection).storeAll (colorCorrectionNumbers filter)
  let saturation := out.filterParams 0
  let brightness := out.filterParams 1
  let contrast := out.filterParams 2
  let gray := out.gray
  let out := out.mapTint fun channel =>
    gray.addFloat ((channel.subFloat gray).mulFloat saturation)
  out.mapTint fun channel =>
    ((((channel.subFloat (floatLit 0.5)).mulFloat contrast).addFloat (floatLit 0.5)).addFloat
      brightness).clamp (floatLit 0) (floatLit 1)

/-- The branch of `luma_key`. -/
def applyLumaKey : CompItem :=
  (out.setFlag filterLumaKey).storeAll (lumaKeyNumbers filter)

/-- The branch of `chroma_key`. -/
def applyChromaKey : CompItem :=
  (out.setFlag filterChromaKey).storeAll (chromaKeyNumbers filter)

/-- The branch of `hdr_to_sdr_lut`. -/
def applyHdrToSdrLut : CompItem :=
  let out := (out.setFlag filterHdrToSdrLut).storeAll
    (dynamicRangeNumbers filter 0 3 1.42 (-0.02))
  match filterPathParam filter with
  | some path => out.setLutPath path
  | none => out

/-- The branch of `sdr_to_hdr`. -/
def applySdrToHdr : CompItem :=
  (out.setFlag filterSdrToHdr).storeAll (dynamicRangeNumbers filter 0.5 2.5 1.12 0)

/-- The branch of `lut`; without a file name the flag is not set. -/
def applyLut : CompItem :=
  let out := out.storeAll (amountNumbers filter 5 1)
  match filterPathParam filter with
  | some path => (out.setFlag filterLut).setLutPath path
  | none => out

/-- `normalize_crop_pair`. -/
def normalizeCropPair (first second : Double) : Double × Double :=
  let most := floatLit 0.98
  let first := first.clamp (floatLit 0) most
  let second := second.clamp (floatLit 0) most
  let sum := first.addFloat second
  if sum.above most then
    let scale := most.divFloat sum
    (first.mulFloat scale, second.mulFloat scale)
  else (first, second)

/-- The branch of `crop`. -/
def applyCrop : CompItem :=
  let share := fun key : CStr =>
    (filterFloatParam filter key (floatLit 0)).clamp (floatLit 0) (floatLit 0.98)
  let (left, right) := normalizeCropPair
    ((out.crop 0).addFloat (share "left")) ((out.crop 2).addFloat (share "right"))
  let (top, bottom) := normalizeCropPair
    ((out.crop 1).addFloat (share "top")) ((out.crop 3).addFloat (share "bottom"))
  { out with crop := ![left, top, right, bottom] }

/-- The branch of `rotation`. -/
def applyRotation : CompItem :=
  let degrees := filterFloatParam filter "degrees" (floatLit 90)
  { out with rotationDeg := out.rotationDeg.addFloat (snapQuarterRotation degrees).toFloat }

/-- `apply_filter_to_comp_item`. -/
def applyFilterToCompItem : CompItem :=
  if ¬filter.enabled then out
  else if filter.type = "grayscale" then applyGrayscale filter out
  else if filter.type = "brightness" then applyBrightness filter out
  else if filter.type = "contrast" then applyContrast filter out
  else if filter.type = "blur" then applyBlur filter out
  else if filter.type = "sharpen" then applySharpen filter out
  else if filter.type = "color_correction" then applyColorCorrection filter out
  else if filter.type = "luma_key" then applyLumaKey filter out
  else if filter.type = "chroma_key" then applyChromaKey filter out
  else if filter.type = "hdr_to_sdr_lut" then applyHdrToSdrLut filter out
  else if filter.type = "sdr_to_hdr" then applySdrToHdr filter out
  else if filter.type = "lut" then applyLut filter out
  else if filter.type = "crop" then applyCrop filter out
  else if filter.type = "mirror" then { out with flipHorizontal := !out.flipHorizontal }
  else if filter.type = "flip" then { out with flipVertical := !out.flipVertical }
  else if filter.type = "rotation" then applyRotation filter out
  else out

end Types

/-- `apply_filters_to_comp_item`. -/
def applyFiltersToCompItem
    (filters : List FilterState)
    (out : CompItem) : CompItem :=
  filters.foldl (fun out filter => applyFilterToCompItem filter out) out

/-- `g_str_hash`; the bytes are signed. -/
def gStrHash (text : CStr) : UInt32 :=
  text.bytes.foldl (fun hash byte => (hash <<< 5) + hash + byte.toInt8.toInt32.toUInt32) 5381

/-- `hash_source_tint`. -/
def hashSourceTint (id : CStr) : Fin 4 → Double :=
  let hash := gStrHash id
  let channel := fun shift : UInt32 =>
    (floatLit 0.2).addFloat
      (((Double.ofIntFloat ((hash >>> shift) &&& 255).toNat).divFloat (floatLit 255)).mulFloat
        (floatLit 0.6))
  ![channel 0, channel 8, channel 16, floatLit 1]

/-- A crop in pixels as a share of a length. -/
def cropShare (crop length : Int32) : Double :=
  if 0 < length then (Double.ofIntFloat crop.toInt).divFloat (.ofIntFloat length.toInt)
  else .finite 0

/-- What `fill_comp_item` sets before it applies filters. -/
def startCompItem (item : SceneItemState) : CompItem :=
  { CompItem.zero with
    crop := ![cropShare item.transform.cropLeft item.transform.width,
      cropShare item.transform.cropTop item.transform.height,
      cropShare item.transform.cropRight item.transform.width,
      cropShare item.transform.cropBottom item.transform.height]
    flipHorizontal := item.transform.flipHorizontal
    flipVertical := item.transform.flipVertical
    rotationDeg := item.transform.rotationDeg.toFloat
    tint := hashSourceTint item.sourceId }

/-- The filters of the source that an item names, if there is one. -/
def sourceFilters
    (sources : HashTable CStr SourceState)
    (item : SceneItemState) : List FilterState :=
  match sources.lookup item.sourceId with
  | some source => source.filters
  | none => []

/-- `fill_comp_item`. -/
def fillCompItem
    (sources : HashTable CStr SourceState)
    (item : SceneItemState)
    (sceneFilters : List FilterState) : CompItem :=
  let out := applyFiltersToCompItem (sourceFilters sources item) (startCompItem item)
  let out := applyFiltersToCompItem item.filters out
  let out := applyFiltersToCompItem sceneFilters out
  { out with rotationDeg := (snapQuarterRotation out.rotationDeg).toFloat }

end SceneGraph
end SbsServer
