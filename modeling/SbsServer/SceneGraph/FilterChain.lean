import SbsServer.SceneGraph.CompItem

/-!
# Filters that share fields

The types of filters share eight numbers, three more numbers and one file name.  The
parameters of a type are those of the last enabled filter of that type, unless a filter of
another type behind it stores its own parameter in the same place, or the filter has no
file name and another one has left its own.
-/

namespace SbsServer
namespace SceneGraph

open CLib

/-- A field of the item in which filters store parameters. -/
inductive FilterField
  | number (field : NumberField)
  | lutPath
  deriving DecidableEq

/-- The content of such a field. -/
inductive FieldValue
  | number (value : Double)
  | path (name : CharArray compLutPathMax)
  deriving DecidableEq

/-- What a field of the item holds. -/
def CompItem.stored (out : CompItem) : FilterField → FieldValue
  | .number field => .number (out.number field)
  | .lutPath => .path out.lutPath

/-- The parameters of a type: the assignments to numbers, and whether there is a file name. -/
def FilterState.typeParameters (filter : FilterState) : List (NumberField × Double) × Bool :=
  if filter.type = "grayscale" then (amountNumbers filter 0 1, false)
  else if filter.type = "brightness" then (amountNumbers filter 1 0.15, false)
  else if filter.type = "contrast" then (amountNumbers filter 2 1.15, false)
  else if filter.type = "blur" then (amountNumbers filter 3 0.35, false)
  else if filter.type = "sharpen" then (amountNumbers filter 4 0.4, false)
  else if filter.type = "color_correction" then (colorCorrectionNumbers filter, false)
  else if filter.type = "luma_key" then (lumaKeyNumbers filter, false)
  else if filter.type = "chroma_key" then (chromaKeyNumbers filter, false)
  else if filter.type = "hdr_to_sdr_lut" then
    (dynamicRangeNumbers filter 0 3 1.42 (-0.02), true)
  else if filter.type = "sdr_to_hdr" then (dynamicRangeNumbers filter 0.5 2.5 1.12 0, false)
  else if filter.type = "lut" then (amountNumbers filter 5 1, true)
  else ([], false)

/-- The number that a filter has for a field. -/
def FilterState.number (filter : FilterState) (field : NumberField) : Option Double :=
  assigning.lastWritten filter.typeParameters.1 field

/-- The file name of a filter whose type has one. -/
def FilterState.lutFile (filter : FilterState) : Option CStr :=
  if filter.typeParameters.2 then filterPathParam filter else none

/-- A file name as the item holds it. -/
def lutName (path : CStr) : FieldValue :=
  .path (.strlcpy compLutPathMax path compLutPathMax_pos)

/-- The parameter of a filter for a field; a file name that is missing is the empty one. -/
def FilterState.parameter (filter : FilterState) : FilterField → Option FieldValue
  | .number field => (filter.number field).map .number
  | .lutPath => if filter.typeParameters.2 then some (lutName (filter.lutFile.getD "")) else none

/-- What a filter writes into a field: its parameter if it is enabled, but no name that is
missing. -/
def FilterState.written (filter : FilterState) : FilterField → Option FieldValue
  | .number field => if filter.enabled then (filter.number field).map .number else none
  | .lutPath => if filter.enabled then filter.lutFile.map lutName else none

/-- An enabled filter with no enabled filter of its type behind it. -/
structure LastOfType
    (filter : FilterState)
    (after : List FilterState) : Prop where
  enabled : filter.enabled
  last : ∀ later ∈ after, later.enabled → later.type ≠ filter.type

/-- The parameters of every type are those of the last enabled filter of that type. -/
def ParametersKept
    (chain : List FilterState)
    (out : CompItem) : Prop :=
  ∀ before filter after, chain = before ++ filter :: after → LastOfType filter after →
    ∀ field value, filter.parameter field = some value → out.stored field = value

/-- The item `after` has the numbers of `out` with some assignments made, and its file name
unless the filter has one to store. -/
structure Stores
    (filter : FilterState)
    (parameters : List (NumberField × Double) × Bool)
    (out after : CompItem) : Prop where
  number : after.number = (out.storeAll parameters.1).number
  lutPath : after.lutPath =
    (if parameters.2 then filterPathParam filter else none).elim out.lutPath
      (CharArray.strlcpy compLutPathMax · compLutPathMax_pos)

theorem number_storeAll_congr
    {first second : CompItem}
    (same : first.number = second.number)
    (assignments : List (NumberField × Double)) :
    (first.storeAll assignments).number = (second.storeAll assignments).number := by
  funext field
  rw [CompItem.number_storeAll, CompItem.number_storeAll, same]

section Branches

variable (filter : FilterState)
variable (out : CompItem)

/-- A change of the crop or the orientation. -/
theorem stores_nothing
    (crop : Fin 4 → Double)
    (flipHorizontal flipVertical : Bool)
    (rotationDeg : Double) :
    Stores filter ([], false) out
      { out with
        crop := crop
        flipHorizontal := flipHorizontal
        flipVertical := flipVertical
        rotationDeg := rotationDeg } where
  number := by
    funext field
    cases field <;> rfl
  lutPath := rfl

/-- A flag and assignments. -/
theorem stores_flagged
    (flag : UInt32)
    (assignments : List (NumberField × Double)) :
    Stores filter (assignments, false) out ((out.setFlag flag).storeAll assignments) where
  number := number_storeAll_congr (out.number_setFlag flag) assignments
  lutPath := CompItem.lutPath_storeAll _ _

variable {filter out} in
/-- A change of the tint behind what is stored. -/
theorem Stores.mapTint
    {parameters : List (NumberField × Double) × Bool}
    {after : CompItem}
    (stores : Stores filter parameters out after)
    (change : Double → Double) :
    Stores filter parameters out (after.mapTint change) where
  number := (after.number_mapTint change).trans stores.number
  lutPath := stores.lutPath

variable {filter out} in
/-- A case distinction on the type. -/
theorem Stores.ite
    {condition : Prop}
    [Decidable condition]
    {first second : List (NumberField × Double) × Bool}
    {left right : CompItem}
    (yes : Stores filter first out left)
    (no : Stores filter second out right) :
    Stores filter (if condition then first else second) out
      (if condition then left else right) := by
  by_cases holds : condition
  · rw [if_pos holds, if_pos holds]
    exact yes
  · rw [if_neg holds, if_neg holds]
    exact no

variable {filter out} in
/-- A case distinction between branches that store the same. -/
theorem Stores.either
    {condition : Prop}
    [Decidable condition]
    {parameters : List (NumberField × Double) × Bool}
    {left right : CompItem}
    (yes : Stores filter parameters out left)
    (no : Stores filter parameters out right) :
    Stores filter parameters out (if condition then left else right) := by
  split
  · exact yes
  · exact no

theorem stores_applyGrayscale :
    Stores filter (amountNumbers filter 0 1, false) out (applyGrayscale filter out) := by
  unfold applyGrayscale
  apply Stores.mapTint
  apply stores_flagged

theorem stores_applyBrightness :
    Stores filter (amountNumbers filter 1 0.15, false) out (applyBrightness filter out) := by
  unfold applyBrightness
  apply Stores.mapTint
  apply stores_flagged

theorem stores_applyContrast :
    Stores filter (amountNumbers filter 2 1.15, false) out (applyContrast filter out) := by
  unfold applyContrast
  apply Stores.mapTint
  apply stores_flagged

theorem stores_applyColorCorrection :
    Stores filter (colorCorrectionNumbers filter, false) out
      (applyColorCorrection filter out) := by
  unfold applyColorCorrection
  apply Stores.mapTint
  apply Stores.mapTint
  apply stores_flagged

theorem stores_applyHdrToSdrLut :
    Stores filter (dynamicRangeNumbers filter 0 3 1.42 (-0.02), true) out
      (applyHdrToSdrLut filter out) := by
  have stored := stores_flagged filter out filterHdrToSdrLut
    (dynamicRangeNumbers filter 0 3 1.42 (-0.02))
  unfold applyHdrToSdrLut
  cases file : filterPathParam filter with
  | none =>
      constructor
      · exact stored.number
      · rw [if_pos rfl, file]
        exact stored.lutPath
  | some path =>
      constructor
      · exact (CompItem.number_setLutPath _ path).trans stored.number
      · rw [if_pos rfl, file]
        rfl

theorem stores_applyLut :
    Stores filter (amountNumbers filter 5 1, true) out (applyLut filter out) := by
  unfold applyLut
  cases file : filterPathParam filter with
  | none =>
      constructor
      · rfl
      · rw [if_pos rfl, file]
        exact CompItem.lutPath_storeAll out _
  | some path =>
      constructor
      · rw [CompItem.number_setLutPath, CompItem.number_setFlag]
      · rw [if_pos rfl, file]
        rfl

end Branches

variable {filter : FilterState}

/-- An enabled filter stores the parameters of its type. -/
theorem stores_applyFilterToCompItem
    (enabled : filter.enabled = true)
    (out : CompItem) :
    Stores filter filter.typeParameters out (applyFilterToCompItem filter out) := by
  unfold FilterState.typeParameters applyFilterToCompItem
  rw [if_neg (not_not.mpr enabled)]
  apply Stores.ite (stores_applyGrayscale filter out)
  apply Stores.ite (stores_applyBrightness filter out)
  apply Stores.ite (stores_applyContrast filter out)
  apply Stores.ite (stores_flagged filter out filterBlur _)
  apply Stores.ite (stores_flagged filter out filterSharpen _)
  apply Stores.ite (stores_applyColorCorrection filter out)
  apply Stores.ite (stores_flagged filter out filterLumaKey _)
  apply Stores.ite (stores_flagged filter out filterChromaKey _)
  apply Stores.ite (stores_applyHdrToSdrLut filter out)
  apply Stores.ite (stores_flagged filter out filterSdrToHdr _)
  apply Stores.ite (stores_applyLut filter out)
  -- The types that remain have the same empty row of the table.
  apply Stores.either (stores_nothing filter out _ _ _ _)
  apply Stores.either (stores_nothing filter out _ _ _ _)
  apply Stores.either (stores_nothing filter out _ _ _ _)
  apply Stores.either (stores_nothing filter out _ _ _ _)
  exact stores_nothing filter out _ _ _ _

/-- Filters, as writers of the fields. -/
def filtering : Overwriting FilterState CompItem FilterField FieldValue where
  step := applyFilterToCompItem
  read := CompItem.stored
  written := FilterState.written
  read_step := by
    intro filter out field
    by_cases enabled : filter.enabled = true
    · have stores := stores_applyFilterToCompItem enabled out
      cases field with
      | number field =>
          rw [CompItem.stored, stores.number, CompItem.number_storeAll, FilterState.written,
            if_pos enabled, FilterState.number]
          cases assigning.lastWritten filter.typeParameters.1 field with
          | none => rfl
          | some value => rfl
      | lutPath =>
          rw [CompItem.stored, stores.lutPath, ← FilterState.lutFile, FilterState.written,
            if_pos enabled]
          cases filter.lutFile with
          | none => rfl
          | some path => rfl
    · have unchanged : applyFilterToCompItem filter out = out := if_pos enabled
      rw [unchanged]
      cases field with
      | number field => rw [FilterState.written, if_neg enabled, Option.getD_none]
      | lutPath => rw [FilterState.written, if_neg enabled, Option.getD_none]

/-! ## Names -/

/-- The empty name. -/
def noName : FieldValue :=
  lutName ""

theorem lutName_ne_noName
    {path : CStr}
    (present : path ≠ "") :
    lutName path ≠ noName := by
  intro same
  injection same with names
  have texts := congrArg (fun name : CharArray compLutPathMax => name.text.bytes) names
  have cut : path.bytes.take (compLutPathMax - 1) = [] := texts.trans (by decide)
  rw [List.take_eq_nil_iff] at cut
  rcases cut with none | empty
  · exact absurd none (by decide)
  · exact present (CStr.ext (empty.trans (by decide)))

/-- A file name that a filter has is not empty. -/
theorem lutFile_ne_empty
    {path : CStr}
    (file : filter.lutFile = some path) :
    path ≠ "" := by
  unfold FilterState.lutFile filterPathParam given at file
  split at file
  · rcases Option.or_eq_some_iff.mp file with named | ⟨-, named⟩
    · simpa using (Option.filter_eq_some_iff.mp named).2
    · simpa using (Option.filter_eq_some_iff.mp named).2
  · cases file

/-- No filter writes the empty name. -/
theorem written_ne_noName (filter : FilterState) :
    filter.written .lutPath ≠ some noName := by
  rw [FilterState.written]
  split
  · cases file : filter.lutFile with
    | none => exact nofun
    | some path =>
        intro written
        exact lutName_ne_noName (lutFile_ne_empty file) (Option.some.inj written)
  · exact nofun

theorem parameter_lutPath
    {value : FieldValue} :
    filter.parameter .lutPath = some value ↔
      filter.typeParameters.2 = true ∧ value = lutName (filter.lutFile.getD "") := by
  rw [FilterState.parameter, Option.ite_none_right_eq_some, Option.some.injEq]
  exact and_congr_right fun _ => eq_comm

/-- A filter that is enabled writes its parameters, except for a name that is missing. -/
theorem written_of_parameter
    (enabled : filter.enabled = true)
    {field : FilterField}
    {value : FieldValue}
    (own : filter.parameter field = some value) :
    filter.written field = some value ∨
      field = .lutPath ∧ filter.lutFile = none ∧ value = noName := by
  cases field with
  | number field =>
      left
      rw [FilterState.written, if_pos enabled]
      exact own
  | lutPath =>
      obtain ⟨-, rfl⟩ := parameter_lutPath.mp own
      cases file : filter.lutFile with
      | none => exact .inr ⟨rfl, rfl, rfl⟩
      | some path =>
          left
          rw [FilterState.written, if_pos enabled, file]
          rfl

/-- The condition under which the parameters of a chain are kept. -/
structure Unclobbered (chain : List FilterState) : Prop where
  /-- The last writer of a field behind the last filter of a type writes the same value. -/
  behind : ∀ before filter after, chain = before ++ filter :: after → LastOfType filter after →
    ∀ field value other, filter.parameter field = some value →
      filtering.lastWritten after field = some other → other = value
  /-- If the last filter of a type lacks its file name, no filter has written one. -/
  unnamed : ∀ before filter after, chain = before ++ filter :: after → LastOfType filter after →
    filter.typeParameters.2 = true → filter.lutFile = none →
      ∀ other ∈ chain, other.written .lutPath = none

theorem parametersKept_iff
    (chain : List FilterState)
    {start : CompItem}
    (blank : start.stored .lutPath = noName) :
    ParametersKept chain (filtering.run chain start) ↔ Unclobbered chain := by
  have nameless : filtering.read (filtering.run chain start) .lutPath = noName ↔
      ∀ other ∈ chain, other.written .lutPath = none :=
    filtering.unwritten_iff chain start blank fun other _ => written_ne_noName other
  constructor
  · intro kept
    constructor
    · intro before filter after split last field value other own behind
      have holds := kept before filter after split last field value own
      rcases written_of_parameter last.enabled own with written | ⟨rfl, -, rfl⟩
      · subst split
        exact (filtering.kept_iff before after start written).mp holds other behind
      · have silent := nameless.mp holds
        have quiet : filtering.lastWritten after .lutPath = none := by
          rw [filtering.lastWritten_eq_none]
          intro later present
          exact silent later (by simp [split, present])
        rw [quiet] at behind
        cases behind
    · intro before filter after split last named file
      have own : filter.parameter .lutPath = some noName :=
        parameter_lutPath.mpr ⟨named, by rw [file]; rfl⟩
      exact nameless.mp (kept before filter after split last .lutPath noName own)
  · intro condition before filter after split last field value own
    rcases written_of_parameter last.enabled own with written | ⟨rfl, file, rfl⟩
    · have agrees := condition.behind before filter after split last field value
      subst split
      apply (filtering.kept_iff before after start written).mpr
      intro other behind
      exact agrees other own behind
    · have named := (parameter_lutPath.mp own).1
      exact nameless.mpr (condition.unnamed before filter after split last named file)

/-- Where no two types share a field and every file name is there, nothing is lost. -/
theorem unclobbered_of_apart
    {chain : List FilterState}
    (apart : ∀ first ∈ chain, ∀ second ∈ chain, ∀ field,
      first.parameter field ≠ none → second.written field ≠ none → first.type = second.type)
    (named : ∀ filter ∈ chain, filter.typeParameters.2 = true → filter.lutFile ≠ none) :
    Unclobbered chain := by
  constructor
  · rintro before filter after rfl last field value other own behind
    obtain ⟨earlier, later, rest, rfl, wrote, -⟩ := filtering.lastWritten_eq_some.mp behind
    have writes : later.written field = some other := wrote
    have enabled : later.enabled = true := by
      by_contra disabled
      cases field <;> simp [FilterState.written, disabled] at writes
    have types := apart filter (by simp) later (by simp) field (by simp [own]) (by simp [writes])
    exact absurd types.symm (last.last later (by simp) enabled)
  · rintro before filter after rfl last isNamed file
    exact absurd file (named filter (by simp) isNamed)

/-- The filters that are applied to an item, in their order. -/
def filterChain
    (sources : HashTable CStr SourceState)
    (item : SceneItemState)
    (sceneFilters : List FilterState) : List FilterState :=
  sourceFilters sources item ++ item.filters ++ sceneFilters

theorem stored_fillCompItem
    (sources : HashTable CStr SourceState)
    (item : SceneItemState)
    (sceneFilters : List FilterState) :
    (fillCompItem sources item sceneFilters).stored =
      (filtering.run (filterChain sources item sceneFilters) (startCompItem item)).stored := by
  unfold filterChain Overwriting.run
  rw [List.foldl_append, List.foldl_append]
  funext field
  cases field with
  | number field => cases field <;> rfl
  | lutPath => rfl

/-- The parameters that the item holds are those of the last enabled filter of each type iff
no filter has taken their place. -/
theorem keeps_parameters
    (sources : HashTable CStr SourceState)
    (item : SceneItemState)
    (sceneFilters : List FilterState) :
    ParametersKept (filterChain sources item sceneFilters)
        (fillCompItem sources item sceneFilters) ↔
      Unclobbered (filterChain sources item sceneFilters) := by
  rw [← parametersKept_iff (filterChain sources item sceneFilters)
    (show (startCompItem item).stored .lutPath = noName from rfl)]
  unfold ParametersKept
  rw [stored_fillCompItem]

/-- A filter of a type with its default parameters. -/
def defaultFilter (type : CStr) : FilterState where
  id := type
  type := type
  enabled := true
  params := .empty

/-- An item without a source, in its place, with filters of its own. -/
def filteredItem (filters : List FilterState) : SceneItemState where
  id := "item"
  sourceId := "camera"
  visible := true
  locked := false
  zOrder := 0
  transform := {
    positionX := 0
    positionY := 0
    width := 1920
    height := 1080
    cropTop := 0
    cropBottom := 0
    cropLeft := 0
    cropRight := 0
    rotationDeg := .finite 0
    flipHorizontal := false
    flipVertical := false
    boundsType := none
    alignment := none
    opacity := .finite 1 }
  audio := AudioBinding.zero
  filters := filters

/-- The amount of a blur is lost to the similarity of a chroma key behind it. -/
theorem keyed_blur :
    ¬∀ sources item sceneFilters,
      ParametersKept (filterChain sources item sceneFilters)
        (fillCompItem sources item sceneFilters) := by
  intro kept
  have last : LastOfType (defaultFilter "blur") [defaultFilter "chroma_key"] := by
    constructor
    · rfl
    · decide
  have amount := kept .empty (filteredItem [defaultFilter "blur", defaultFilter "chroma_key"]) []
    [] (defaultFilter "blur") [defaultFilter "chroma_key"] rfl last (.number (.param 3))
    (.number (floatLit 0.35)) (by decide +kernel)
  revert amount
  decide +kernel

end SceneGraph
end SbsServer
