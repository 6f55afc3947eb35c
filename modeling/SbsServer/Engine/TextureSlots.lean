import SbsServer.CLib.Placement
import SbsServer.Engine.ImportCache
import SbsServer.Engine.SceneTransition

/-!
# Texture slots of a scene

How a tick of `compositor_thread.c` chooses the texture slots into which it uploads
the frames that it takes, and how `compositor.c` looks for them when it draws.
Both start from the position of an item and look for its source if the slot there
holds another one.
-/

namespace SbsServer
namespace Engine
namespace TextureSlots

open CLib ImportCache

/-- The fields of `sbs_comp_scene_item_t` that uploads read. -/
structure TextureItem where
  sourceId : CharArray 128
  visible : Bool
  /-- The item has a frame slot. -/
  frameSlot : Bool
  frameWidth : UInt32
  frameHeight : UInt32
  drmFormat : DrmFormat
  drmModifier : UInt64
  planeOffset1 : UInt32
  planeStride0 : UInt32
  planeStride1 : UInt32
  filterFlags : UInt32
  /-- `item_has_vulkan_only_filters` -/
  vulkanOnlyFilters : Bool

/-- A frame that `sbs_frame_slot_take_oldest` returns and how the calls that its
upload makes turn out. -/
structure TakenFrame where
  dmabufFd : Int
  buffer : DmaBuf
  createsImage : Bool
  allocatesImage : Bool
  createsView : Bool
  duplicates : Bool
  importsYcbcr : Bool
  importsBuffer : Bool

/-- A texture slot and, if a frame was uploaded into it in this tick, the position of
the item for which that was. -/
structure TickTexture where
  texture : Slot
  uploaded : Option Nat

/-- `sources` -/
abbrev Sources := Fin maxSourceTextures → TickTexture

namespace TextureItem

/-- The arguments of `sbs_compositor_upload_source` for a frame of the item. -/
def request
    (item : TextureItem)
    (frame : TakenFrame) : Request where
  buffer := frame.buffer
  width := item.frameWidth
  height := item.frameHeight
  drmFormat := item.drmFormat
  planeOffset1 := item.planeOffset1
  planeStride0 := item.planeStride0
  planeStride1 := item.planeStride1
  sourceId := some item.sourceId.text
  drmModifier := item.drmModifier
  forceSampleable := item.vulkanOnlyFilters
  filterFlags := item.filterFlags
  createsImage := frame.createsImage
  allocatesImage := frame.allocatesImage
  createsView := frame.createsView
  duplicates := frame.duplicates
  importsYcbcr := frame.importsYcbcr
  importsBuffer := frame.importsBuffer

/-- The item is visible, has a frame slot and shows the source. -/
def shows
    (sourceId : CStr)
    (item : TextureItem) : Bool :=
  item.visible && item.frameSlot && item.sourceId.text == sourceId

end TextureItem

/-- The first of the items that shows the source. -/
def firstShowing
    (items : List TextureItem)
    (sourceId : CStr) : Option Nat :=
  items.findIdx? (TextureItem.shows sourceId)

/-- The slot for a source, looked for from a position: the common end of
`source_texture_slot_for_active_item` and `native_source_texture_slot_for_item`. -/
def slotFrom
    (sources : Sources)
    (sourceId : CStr)
    (base : Nat) : Nat :=
  if bound : base < maxSourceTextures then
    let found := (sources ⟨base, bound⟩).texture.sourceId.text
    if sourceId = "" then base
    else if found = "" ∨ found = sourceId then base
    else
      match (List.finRange maxSourceTextures).find? fun i =>
          (sources i).texture.sourceId.text = sourceId with
      | some i => i
      | none => base
  else base

/-- `source_texture_slot_for_active_item` -/
def sourceTextureSlotForActiveItem
    (sources : Sources)
    (items : List TextureItem)
    (itemIdx : Nat)
    (item : TextureItem) : Nat :=
  match firstShowing (items.take (min itemIdx compSceneMaxItems)) item.sourceId.text with
  | some i => i
  | none => slotFrom sources item.sourceId.text itemIdx

/-- `source_texture_slot_for_item` -/
def sourceTextureSlotForItem
    (items : List TextureItem)
    (itemIdx : Nat)
    (item : TextureItem) : Nat :=
  (firstShowing (items.take (min itemIdx maxSourceTextures)) item.sourceId.text).getD itemIdx

/-- `source_texture_slot_for_item_with_reference` -/
def sourceTextureSlotForItemWithReference
    (items : List TextureItem)
    (itemIdx : Nat)
    (item : TextureItem)
    (refItems : List TextureItem) : Nat :=
  if refItems = [] then sourceTextureSlotForItem items itemIdx item
  else
    let ref := refItems.take maxSourceTextures
    match firstShowing ref item.sourceId.text with
    | some i => i
    | none =>
        refItems.length +
          (items.take (min itemIdx maxSourceTextures)).countP fun prev =>
            prev.visible && prev.frameSlot && (firstShowing ref prev.sourceId.text).isNone

/-- `native_source_texture_slot_for_item` -/
def nativeSourceTextureSlotForItem
    (sources : Sources)
    (items : List TextureItem)
    (itemIdx : Nat)
    (item : TextureItem)
    (refItems : List TextureItem) : Nat :=
  slotFrom sources item.sourceId.text
    (sourceTextureSlotForItemWithReference items itemIdx item refItems)

/-- What a tick begins with: the table that earlier ticks left and the frames that wait
in the frame slots of the items. -/
structure UploadTick where
  config : UploadConfig
  sources : Fin maxSourceTextures → Slot
  scene : CompSceneState TextureItem Unit
  fits : scene.activeItems.length ≤ compSceneMaxItems
  waiting : Nat → Option TakenFrame

/-- The table while frames are uploaded, and whether every frame that was taken was
also uploaded. -/
structure UploadState where
  sources : Sources
  complete : Bool

namespace UploadTick

/-- `sbs_compositor_upload_source` and what becomes of the frame. -/
def uploadFrame
    (tick : UploadTick)
    (state : UploadState)
    (itemIdx sourceSlot : Nat)
    (item : TextureItem)
    (frame : TakenFrame) : UploadState :=
  if bound : sourceSlot < maxSourceTextures then
    let result :=
      (state.sources ⟨sourceSlot, bound⟩).texture.upload tick.config (item.request frame)
    if result.outcome = .accepted then
      { state with
        sources := Function.update state.sources ⟨sourceSlot, bound⟩
          ⟨result.slot, some itemIdx⟩ }
    else
      ⟨Function.update state.sources ⟨sourceSlot, bound⟩ ⟨result.slot, none⟩, false⟩
  else { state with complete := false }

/-- The turn of an item in the loop that uploads. -/
def uploadItem
    (tick : UploadTick)
    (state : UploadState)
    (itemIdx : Nat)
    (item : TextureItem) : UploadState :=
  let items := tick.scene.activeItems
  let sourceSlot := sourceTextureSlotForActiveItem state.sources items itemIdx item
  let duplicateSource := (firstShowing (items.take itemIdx) item.sourceId.text).isSome
  if duplicateSource then state
  else if !item.frameSlot || !item.visible then state
  else if item.frameWidth = 0 ∨ item.frameHeight = 0 then state
  else
    match tick.waiting itemIdx with
    | none => state
    | some frame =>
        if frame.dmabufFd ≤ 0 then { state with complete := false }
        else tick.uploadFrame state itemIdx sourceSlot item frame

/-- The loop after so many items. -/
def uploadTurns (tick : UploadTick) : Nat → UploadState
  | 0 => ⟨fun slot => ⟨tick.sources slot, none⟩, true⟩
  | turns + 1 =>
      match tick.scene.activeItems[turns]? with
      | some item => tick.uploadItem (tick.uploadTurns turns) turns item
      | none => tick.uploadTurns turns

/-- The loop that uploads. -/
def uploadLoop (tick : UploadTick) : UploadState :=
  tick.uploadTurns tick.scene.activeItems.length

/-- The source of which a frame is taken at an item's turn. -/
def taken
    (tick : UploadTick)
    (itemIdx : Nat) : Option CStr :=
  tick.scene.activeItems[itemIdx]?.bind fun item =>
    if firstShowing (tick.scene.activeItems.take itemIdx) item.sourceId.text = none ∧
        item.frameSlot = true ∧ item.visible = true ∧ item.frameWidth ≠ 0 ∧
        item.frameHeight ≠ 0 ∧ (tick.waiting itemIdx).isSome = true then
      some item.sourceId.text
    else none

end UploadTick

/-- Items that are drawn and those that a transition refers to. -/
structure Draw where
  items : List TextureItem
  refItems : List TextureItem

/-- The items that a tick draws, on a native canvas (`sbs_compositor_render_native_frame`)
or without one (`sbs_compositor_render_frame`). -/
def draws
    (native : Bool)
    (scene : CompSceneState TextureItem Unit) : List Draw :=
  if native then [⟨scene.activeItems, []⟩]
  else if scene.transitionActive then
    [⟨scene.previousItems, []⟩, ⟨scene.activeItems, scene.previousItems⟩]
  else [⟨scene.activeItems, []⟩]

/-- A visible item that the tick draws, and the position at which its source had a frame
taken. -/
structure Drawn
    (tick : UploadTick)
    (native : Bool)
    (draw : Draw)
    (itemIdx : Nat)
    (item : TextureItem)
    (leader : Nat) : Prop where
  drawn : draw ∈ draws native tick.scene
  present : draw.items[itemIdx]? = some item
  visible : item.visible = true
  taken : tick.taken leader = some item.sourceId.text

/-- The slot of a drawn item. -/
def Draw.slot
    (draw : Draw)
    (sources : Sources)
    (itemIdx : Nat)
    (item : TextureItem) : Nat :=
  nativeSourceTextureSlotForItem sources draw.items itemIdx item draw.refItems

/-- The position from which the slot of a drawn item is looked for. -/
def Draw.start
    (draw : Draw)
    (itemIdx : Nat)
    (item : TextureItem) : Nat :=
  sourceTextureSlotForItemWithReference draw.items itemIdx item draw.refItems

/-- A slot holds the frame that was uploaded for a source in this tick. -/
structure HoldsUpload
    (sources : Sources)
    (slot : Nat)
    (sourceId : CStr)
    (leader : Nat) : Prop where
  bound : slot < maxSourceTextures
  sourceId : (sources ⟨slot, bound⟩).texture.sourceId.text = sourceId
  uploaded : (sources ⟨slot, bound⟩).uploaded = some leader

/-- What was uploaded is what is drawn. -/
structure DrawsUploads
    (tick : UploadTick)
    (native : Bool) : Prop where
  drawn : ∀ draw itemIdx item leader, Drawn tick native draw itemIdx item leader →
    HoldsUpload tick.uploadLoop.sources (draw.slot tick.uploadLoop.sources itemIdx item)
      item.sourceId.text leader
  /-- No source overwrites the slot of another one. -/
  kept : ∀ leader sourceId, tick.taken leader = some sourceId →
    ∃ slot, HoldsUpload tick.uploadLoop.sources slot sourceId leader
  /-- The items of a source share a slot. -/
  shared : ∀ draw itemIdx item draw' itemIdx' item' leader,
    Drawn tick native draw itemIdx item leader →
      Drawn tick native draw' itemIdx' item' leader →
        draw.slot tick.uploadLoop.sources itemIdx item =
          draw'.slot tick.uploadLoop.sources itemIdx' item'

/-! ## Placement -/

variable {sourceId : CStr}

theorem shows_eq_true
    {item : TextureItem} :
    item.shows sourceId = true ↔
      item.visible = true ∧ item.frameSlot = true ∧ item.sourceId.text = sourceId := by
  simp [TextureItem.shows, and_assoc]

namespace UploadTick

variable {tick : UploadTick} {sourceId : CStr}

theorem taken_eq_some
    {itemIdx : Nat}
    {sourceId : CStr} :
    tick.taken itemIdx = some sourceId ↔
      ∃ item, tick.scene.activeItems[itemIdx]? = some item ∧
        (firstShowing (tick.scene.activeItems.take itemIdx) item.sourceId.text = none ∧
          item.frameSlot = true ∧ item.visible = true ∧ item.frameWidth ≠ 0 ∧
          item.frameHeight ≠ 0 ∧ (tick.waiting itemIdx).isSome = true) ∧
        item.sourceId.text = sourceId := by
  simp only [taken, Option.bind_eq_some_iff, Option.ite_none_right_eq_some, Option.some.injEq]

theorem firstShowing_of_taken
    {leader : Nat}
    (taken : tick.taken leader = some sourceId) :
    firstShowing tick.scene.activeItems sourceId = some leader := by
  obtain ⟨item, present, ⟨first, slot, visible, _⟩, rfl⟩ := taken_eq_some.1 taken
  obtain ⟨bound, rfl⟩ := List.getElem?_eq_some_iff.1 present
  unfold firstShowing at first ⊢
  rw [List.findIdx?_eq_some_iff_getElem]
  refine ⟨bound, shows_eq_true.2 ⟨visible, slot, rfl⟩, ?_⟩
  intro j before
  rw [List.findIdx?_eq_none_iff] at first
  have earlier := first _ (List.mem_take_iff_getElem.2 ⟨j, by omega, rfl⟩)
  simpa using earlier

theorem taken_unique
    {left right : Nat}
    (atLeft : tick.taken left = some sourceId)
    (atRight : tick.taken right = some sourceId) :
    left = right :=
  Option.some.inj
    ((firstShowing_of_taken atLeft).symm.trans (firstShowing_of_taken atRight))

theorem taken_lt
    {leader : Nat}
    (taken : tick.taken leader = some sourceId) :
    leader < maxSourceTextures := by
  obtain ⟨item, present, _⟩ := taken_eq_some.1 taken
  obtain ⟨bound, _⟩ := List.getElem?_eq_some_iff.1 present
  exact lt_of_lt_of_le bound tick.fits

/-- The sources of which frames are taken, as claimants of the texture slots. -/
def placement (tick : UploadTick) : Placement maxSourceTextures CStr where
  blank := ""
  initial := fun slot => (tick.sources slot).sourceId.text
  wants := fun itemIdx => tick.taken itemIdx
  unique := fun _ _ _ atLeft atRight => Fin.ext (taken_unique atLeft atRight)

end UploadTick

/-- The table of textures is that of the placement. -/
structure Agrees
    (sources : Sources)
    (table : Placement.Table maxSourceTextures CStr) : Prop where
  labels : ∀ slot, (sources slot).texture.sourceId.text = table.labels slot
  owner : ∀ slot, (sources slot).uploaded = (table.owner slot).map Fin.val

theorem slotFrom_eq
    {sources : Sources}
    {table : Placement.Table maxSourceTextures CStr}
    (agrees : Agrees sources table)
    (sourceId : CStr)
    (base : Fin maxSourceTextures) :
    slotFrom sources sourceId base =
      (Placement.slotFor (CStr.lit "") table.labels sourceId base).val := by
  unfold slotFrom Placement.slotFor Placement.search
  rw [dif_pos base.isLt]
  simp only [agrees.labels]
  by_cases named : sourceId = ""
  · rw [if_pos named, if_pos (.inl named)]
  · rw [if_neg named]
    by_cases free : table.labels base = "" ∨ table.labels base = sourceId
    · rw [if_pos free, if_pos (.inr free)]
    · rw [if_neg free, if_neg (by simpa [named] using free)]
      cases (List.finRange maxSourceTextures).find? fun slot => table.labels slot = sourceId with
      | some slot => rfl
      | none => rfl

section Upload

variable
  (config : UploadConfig)
  (slot : Slot)
  (request : Request)

theorem sourceId_importAt
    (inode : Nat)
    (idx : Fin dmabufBufCacheSize) :
    (slot.importAt config request inode idx).slot.sourceId = slot.sourceId := by
  unfold Slot.importAt
  dsimp only
  split_ifs <;> rfl

theorem sourceId_importDmabuf :
    (slot.importDmabuf config request).slot.sourceId = slot.sourceId := by
  unfold Slot.importDmabuf
  split_ifs
  · rfl
  · split
    · rfl
    · unfold Slot.importCached
      split
      · unfold Slot.activate
        dsimp only
        split_ifs <;> rfl
      · split
        · exact sourceId_importAt config slot.counted request _ _
        · rfl

/-- An upload that succeeds names the slot after the source. -/
theorem sourceId_upload
    (accepted : (slot.upload config request).outcome = .accepted) :
    (slot.upload config request).slot.sourceId = .strlcpy 128 (request.sourceId.getD "") := by
  have prepared : (slot.prepare config request).outcome = .accepted := by
    by_contra unprepared
    unfold Slot.upload at accepted
    rw [if_pos unprepared] at accepted
    exact unprepared accepted
  have named : (slot.prepare config request).slot.sourceId =
      .strlcpy 128 (request.sourceId.getD "") := by
    unfold Slot.prepare at prepared ⊢
    dsimp only at prepared ⊢
    split_ifs at prepared ⊢ <;> simp_all
  unfold Slot.upload
  dsimp only
  rw [if_neg (by simpa using prepared)]
  split_ifs
  · exact (sourceId_importDmabuf config _ request).trans named
  · exact (sourceId_importDmabuf config _ request).trans named
  · exact (sourceId_importDmabuf config _ request).trans named

end Upload

namespace UploadTick

variable {tick : UploadTick}

variable {state : UploadState} {item : TextureItem}

theorem complete_of_uploadFrame
    {itemIdx sourceSlot : Nat}
    {frame : TakenFrame}
    (complete : (tick.uploadFrame state itemIdx sourceSlot item frame).complete = true) :
    state.complete = true := by
  unfold uploadFrame at complete
  split_ifs at complete
  · dsimp only at complete
    split_ifs at complete
    exact complete

theorem complete_of_uploadItem
    {itemIdx : Nat}
    (complete : (tick.uploadItem state itemIdx item).complete = true) :
    state.complete = true := by
  unfold uploadItem at complete
  dsimp only at complete
  split_ifs at complete
  · exact complete
  · exact complete
  · exact complete
  · split at complete
    · exact complete
    · split_ifs at complete
      exact complete_of_uploadFrame complete

/-- An upload puts the frame of a source into a slot of the table. -/
theorem agrees_uploadFrame
    {table : Placement.Table maxSourceTextures CStr}
    {sourceSlot : Fin maxSourceTextures}
    {frame : TakenFrame}
    (itemIdx : Fin maxSourceTextures)
    (agrees : Agrees state.sources table)
    (complete : (tick.uploadFrame state itemIdx sourceSlot item frame).complete = true) :
    Agrees (tick.uploadFrame state itemIdx sourceSlot item frame).sources
      ⟨Function.update table.labels sourceSlot item.sourceId.text,
        Function.update table.owner sourceSlot (some itemIdx)⟩ := by
  unfold uploadFrame at complete ⊢
  rw [dif_pos sourceSlot.isLt] at complete ⊢
  dsimp only at complete ⊢
  split_ifs at complete ⊢ with accepted
  have named := sourceId_upload _ _ _ accepted
  constructor
  · intro slot
    by_cases same : slot = sourceSlot
    · rw [same]
      simp only [Function.update_self]
      rw [named]
      exact congrArg CharArray.text (CharArray.strlcpy_text item.sourceId _)
    · simp only [Function.update_of_ne same]
      exact agrees.labels slot
  · intro slot
    by_cases same : slot = sourceSlot
    · rw [same]
      simp only [Function.update_self, Option.map_some]
    · simp only [Function.update_of_ne same]
      exact agrees.owner slot

/-- An item either has no frame uploaded, or one is uploaded into the slot that its
source is given. -/
theorem uploadItem_cases
    {itemIdx : Nat}
    (present : tick.scene.activeItems[itemIdx]? = some item)
    (complete : (tick.uploadItem state itemIdx item).complete = true) :
    (tick.taken itemIdx = none ∧ tick.uploadItem state itemIdx item = state) ∨
      ∃ frame, tick.taken itemIdx = some item.sourceId.text ∧
        tick.uploadItem state itemIdx item =
          tick.uploadFrame state itemIdx
            (slotFrom state.sources item.sourceId.text itemIdx) item frame := by
  have bound : itemIdx ≤ compSceneMaxItems := by
    obtain ⟨short, _⟩ := List.getElem?_eq_some_iff.1 present
    exact le_trans (Nat.le_of_lt short) tick.fits
  unfold taken
  rw [present, Option.bind_some]
  unfold uploadItem sourceTextureSlotForActiveItem at complete ⊢
  dsimp only at complete ⊢
  rw [Nat.min_eq_left bound] at complete ⊢
  cases first : firstShowing (tick.scene.activeItems.take itemIdx) item.sourceId.text with
  | some earlier => simp
  | none =>
      rw [first] at complete
      cases frames : tick.waiting itemIdx with
      | none => simp
      | some frame =>
          rw [frames] at complete
          cases slot : item.frameSlot with
          | false => simp
          | true =>
              cases visible : item.visible with
              | false => simp
              | true =>
                  by_cases sized : item.frameWidth = 0 ∨ item.frameHeight = 0
                  · obtain zero | zero := sized
                    · simp_all
                    · simp_all
                  · by_cases real : frame.dmabufFd ≤ 0
                    · simp_all
                    · right
                      refine ⟨frame, ?_, ?_⟩
                      · simp_all
                      · simp_all

/-- What the loop has uploaded is what the placement says. -/
theorem agrees_uploadTurns
    (turns : Nat)
    (few : turns ≤ maxSourceTextures)
    (complete : (tick.uploadTurns turns).complete = true) :
    Agrees (tick.uploadTurns turns).sources (tick.placement.after turns) := by
  induction turns with
  | zero => exact ⟨fun slot => rfl, fun slot => rfl⟩
  | succ turns ih =>
      have absent (none : tick.taken turns = none) :
          tick.placement.after (turns + 1) = tick.placement.after turns :=
        Placement.after_succ_of_none ⟨turns, few⟩ none
      unfold uploadTurns at complete ⊢
      cases present : tick.scene.activeItems[turns]? with
      | none =>
          rw [present] at complete
          dsimp only at complete ⊢
          rw [absent (by unfold taken; rw [present]; rfl)]
          exact ih (by omega) complete
      | some item =>
          rw [present] at complete
          dsimp only at complete ⊢
          have agrees := ih (by omega) (complete_of_uploadItem complete)
          obtain ⟨none, same⟩ | ⟨frame, taken, same⟩ := uploadItem_cases present complete
          · rw [same, absent none]
            exact agrees
          · rw [same] at complete ⊢
            rw [Placement.after_succ_of_some ⟨turns, few⟩ taken]
            have slot := slotFrom_eq agrees item.sourceId.text ⟨turns, few⟩
            rw [slot] at complete ⊢
            exact agrees_uploadFrame ⟨turns, few⟩ agrees complete

theorem uploadTurns_of_length_le
    (turns : Nat)
    (all : tick.scene.activeItems.length ≤ turns) :
    tick.uploadTurns turns = tick.uploadLoop := by
  induction turns with
  | zero =>
      unfold uploadLoop
      rw [Nat.le_zero.1 all]
  | succ turns ih =>
      by_cases last : tick.scene.activeItems.length = turns + 1
      · unfold uploadLoop
        rw [last]
      · rw [uploadTurns, List.getElem?_eq_none (by omega)]
        exact ih (by omega)

theorem agrees_uploadLoop (complete : tick.uploadLoop.complete = true) :
    Agrees tick.uploadLoop.sources tick.placement.final := by
  rw [← uploadTurns_of_length_le maxSourceTextures tick.fits] at complete ⊢
  exact agrees_uploadTurns maxSourceTextures le_rfl complete

end UploadTick

/-! ## The slots of a source -/

/-- The position at which a frame of a source is taken. -/
def leaderOf
    {tick : UploadTick}
    {leader : Nat}
    {sourceId : CStr}
    (taken : tick.taken leader = some sourceId) : Fin maxSourceTextures :=
  ⟨leader, UploadTick.taken_lt taken⟩

variable {tick : UploadTick}

/-- The only slot with a frame that was uploaded is the one that it was uploaded into, if
nothing was put into that later. -/
theorem holdsUpload_iff
    {leader slot : Nat}
    (complete : tick.uploadLoop.complete = true)
    (taken : tick.taken leader = some sourceId) :
    HoldsUpload tick.uploadLoop.sources slot sourceId leader ↔
      slot = tick.placement.slotOf (leaderOf taken) sourceId ∧
        tick.placement.final.owner (tick.placement.slotOf (leaderOf taken) sourceId) =
          some (leaderOf taken) := by
  have agrees := UploadTick.agrees_uploadLoop complete
  have wanted : tick.placement.wants (leaderOf taken) = some sourceId := taken
  constructor
  · rintro ⟨bound, _, uploaded⟩
    rw [agrees.owner, Option.map_eq_some_iff] at uploaded
    obtain ⟨owner, owned, same⟩ := uploaded
    rw [show owner = leaderOf taken from Fin.ext same] at owned
    have found := Placement.slotOf_of_owner wanted maxSourceTextures owned
    rw [← found]
    exact ⟨rfl, owned⟩
  · rintro ⟨rfl, owned⟩
    refine ⟨Fin.isLt _, ?_, ?_⟩
    · rw [agrees.labels]
      exact Placement.label_slotOf wanted owned
    · rw [agrees.owner, owned]
      rfl

/-- A search that starts at a slot of the table comes to the slot of the source, or it
starts beyond the table. -/
theorem slotFrom_eq_slotOf_iff
    {leader : Nat}
    (complete : tick.uploadLoop.complete = true)
    (taken : tick.taken leader = some sourceId)
    (start : Nat) :
    slotFrom tick.uploadLoop.sources sourceId start =
        (tick.placement.slotOf (leaderOf taken) sourceId).val ↔
      ∃ home : Fin maxSourceTextures, home.val = start ∧
        Placement.slotFor (CStr.lit "") tick.placement.final.labels sourceId home =
          tick.placement.slotOf (leaderOf taken) sourceId := by
  have agrees := UploadTick.agrees_uploadLoop complete
  constructor
  · intro found
    by_cases bound : start < maxSourceTextures
    · refine ⟨⟨start, bound⟩, rfl, ?_⟩
      apply Fin.ext
      rw [← found]
      exact (slotFrom_eq agrees sourceId ⟨start, bound⟩).symm
    · unfold slotFrom at found
      rw [dif_neg bound] at found
      exact absurd (found ▸ Fin.isLt _) bound
  · rintro ⟨home, rfl, found⟩
    rw [← found]
    exact slotFrom_eq agrees sourceId home

/-- No source settles in a slot in which another one of the tick was found, and an item
whose search starts elsewhere than at the item for which the frame was taken comes to
the same slot. -/
structure SlotsApart
    (tick : UploadTick)
    (native : Bool) : Prop where
  undisturbed : tick.placement.Undisturbed
  reached : ∀ draw itemIdx item leader, Drawn tick native draw itemIdx item leader →
    draw.start itemIdx item ≠ leader →
      ∃ home claimant : Fin maxSourceTextures,
        home.val = draw.start itemIdx item ∧ claimant.val = leader ∧
          (tick.placement.Holds home claimant item.sourceId.text ∨
            tick.placement.Passes home claimant item.sourceId.text)

/-- Every slot that a source takes is kept. -/
theorem owner_of_undisturbed
    {leader : Nat}
    (undisturbed : tick.placement.Undisturbed)
    (taken : tick.taken leader = some sourceId) :
    tick.placement.final.owner (tick.placement.slotOf (leaderOf taken) sourceId) =
      some (leaderOf taken) :=
  (Placement.owner_final_iff taken).2 fun slot finds before =>
    undisturbed (leaderOf taken) sourceId slot finds before

/-- Where a drawn item is found. -/
theorem SlotsApart.slot_eq
    {native : Bool}
    {draw : Draw}
    {itemIdx leader : Nat}
    {item : TextureItem}
    (apart : SlotsApart tick native)
    (complete : tick.uploadLoop.complete = true)
    (drawn : Drawn tick native draw itemIdx item leader) :
    draw.slot tick.uploadLoop.sources itemIdx item =
      (tick.placement.slotOf (leaderOf drawn.taken) item.sourceId.text).val := by
  have kept := owner_of_undisturbed apart.undisturbed drawn.taken
  refine (slotFrom_eq_slotOf_iff complete drawn.taken (draw.start itemIdx item)).2 ?_
  by_cases atLeader : draw.start itemIdx item = leader
  · exact ⟨leaderOf drawn.taken, atLeader.symm,
      Placement.slotFor_final_self drawn.taken kept⟩
  · obtain ⟨home, claimant, start, same, reaches⟩ :=
      apart.reached draw itemIdx item leader drawn atLeader
    have equal : claimant = leaderOf drawn.taken := Fin.ext same
    rw [equal] at reaches
    refine ⟨home, start, (Placement.slotFor_final_iff drawn.taken kept ?_).2 reaches⟩
    rintro rfl
    exact atLeader start.symm

/-- The search for an item that has a frame slot starts at the item for which the frame
was taken. -/
theorem start_of_native
    {draw : Draw}
    {itemIdx leader : Nat}
    {item : TextureItem}
    (drawn : Drawn tick true draw itemIdx item leader)
    (slot : item.frameSlot = true) :
    draw.start itemIdx item = leader := by
  obtain ⟨member, present, visible, taken⟩ := drawn
  obtain rfl : draw = ⟨tick.scene.activeItems, []⟩ := List.mem_singleton.1 member
  obtain ⟨bound, rfl⟩ := List.getElem?_eq_some_iff.1 present
  have first := UploadTick.firstShowing_of_taken taken
  have fits : itemIdx ≤ maxSourceTextures := le_trans (Nat.le_of_lt bound) tick.fits
  have before : leader ≤ itemIdx := by
    unfold firstShowing at first
    rw [List.findIdx?_eq_some_iff_getElem] at first
    obtain ⟨_, _, earliest⟩ := first
    by_contra after
    exact absurd (shows_eq_true.2 ⟨visible, slot, rfl⟩) (earliest itemIdx (by omega))
  unfold Draw.start sourceTextureSlotForItemWithReference sourceTextureSlotForItem
  dsimp only
  rw [if_pos rfl, Nat.min_eq_left fits]
  unfold firstShowing at first ⊢
  rw [List.findIdx?_take, first]
  by_cases same : leader < itemIdx
  · simp [Option.guard, same]
  · simp only [Option.bind_some, Option.guard, same, decide_false, Bool.false_eq_true,
      if_false, Option.getD_none]
    omega

/-- On a native canvas, where every item of a source has its frame slot, only the slots
that sources settle in decide. -/
theorem slotsApart_of_native
    (slots : ∀ item ∈ tick.scene.activeItems, item.frameSlot = true) :
    SlotsApart tick true ↔ tick.placement.Undisturbed := by
  refine ⟨fun apart => apart.undisturbed, fun undisturbed => ⟨undisturbed, ?_⟩⟩
  intro draw itemIdx item leader drawn apart
  have same : draw = ⟨tick.scene.activeItems, []⟩ := List.mem_singleton.1 drawn.drawn
  have member : item ∈ tick.scene.activeItems := by
    have present := drawn.present
    rw [same] at present
    exact List.mem_of_getElem? present
  exact absurd (start_of_native drawn (slots item member)) apart

/-- On a table that names no source every source settles. -/
theorem undisturbed_of_blank
    (blank : ∀ slot, (tick.sources slot).sourceId.text = "") :
    tick.placement.Undisturbed :=
  fun claimant _ _ finds _ =>
    absurd (.home finds.wanted (.inr (.inl (blank claimant)))) finds.away

/-- A tick in which every frame that is taken is uploaded draws what was uploaded iff the
slots are apart. -/
theorem draws_uploads
    (tick : UploadTick)
    (native : Bool)
    (complete : tick.uploadLoop.complete = true) :
    DrawsUploads tick native ↔ SlotsApart tick native := by
  constructor
  · intro draws
    constructor
    · intro claimant sourceId slot finds
      obtain ⟨found, holds⟩ := draws.kept claimant sourceId finds.wanted
      exact (Placement.owner_final_iff finds.wanted).1
        ((holdsUpload_iff complete finds.wanted).1 holds).2 slot finds
    · intro draw itemIdx item leader drawn apart
      obtain ⟨found, kept⟩ := (holdsUpload_iff complete drawn.taken).1
        (draws.drawn draw itemIdx item leader drawn)
      obtain ⟨home, start, reaches⟩ := (slotFrom_eq_slotOf_iff complete drawn.taken _).1 found
      refine ⟨home, leaderOf drawn.taken, start, rfl, ?_⟩
      refine (Placement.slotFor_final_iff drawn.taken kept ?_).1 reaches
      rintro rfl
      exact apart start.symm
  · intro apart
    constructor
    · intro draw itemIdx item leader drawn
      exact (holdsUpload_iff complete drawn.taken).2
        ⟨apart.slot_eq complete drawn, owner_of_undisturbed apart.undisturbed drawn.taken⟩
    · intro leader sourceId taken
      exact ⟨_, (holdsUpload_iff complete taken).2
        ⟨rfl, owner_of_undisturbed apart.undisturbed taken⟩⟩
    · intro draw itemIdx item draw' itemIdx' item' leader drawn drawn'
      have same : item.sourceId.text = item'.sourceId.text :=
        Option.some.inj (drawn.taken.symm.trans drawn'.taken)
      rw [apart.slot_eq complete drawn, apart.slot_eq complete drawn']
      simp only [same]

/-- A compositor that imports every buffer. -/
def importing : UploadConfig where
  computePipeline := true
  ycbcrAvailable := false
  ycbcrDirectImport := false
  canDirectUpload := fun _ => false

/-- An item that shows a picture of one pixel. -/
def pixelItem (sourceId : CStr) : TextureItem where
  sourceId := .strlcpy 128 sourceId SlotState.idRoom
  visible := true
  frameSlot := true
  frameWidth := 1
  frameHeight := 1
  drmFormat := .abgr8888
  drmModifier := 0
  planeOffset1 := 0
  planeStride0 := 4
  planeStride1 := 0
  filterFlags := 0
  vulkanOnlyFilters := false

/-- The picture, in a buffer of its own. -/
def pixelFrame (id : Nat) : TakenFrame where
  dmabufFd := 5
  buffer := {
    id := id
    inode := some id
    size := 4096
    bytes := fun _ => 255
    maps := fun _ => true }
  createsImage := true
  allocatesImage := true
  createsView := true
  duplicates := true
  importsYcbcr := true
  importsBuffer := true

/-- Two sources that both have a frame. -/
def twoSources
    (sources : Fin maxSourceTextures → Slot)
    (first second : CStr) : UploadTick where
  config := importing
  sources := sources
  scene := {
    backgroundRgba := ()
    activeItems := [pixelItem first, pixelItem second]
    transitionActive := false
    transitionProgress := .finite 1
    transitionStartTimeUs := 0
    transitionDurationMs := 0
    previousItems := [] }
  fits := show 2 ≤ 32 by decide
  waiting := fun itemIdx => some (pixelFrame itemIdx)

/-- A scene with a desk and a camera, on a table that was never used. -/
def deskTick : UploadTick :=
  twoSources (fun _ => .new) "desk" "camera"

/-- The next scene shows the camera first and then a guest. -/
def guestTick : UploadTick :=
  twoSources (fun slot => (deskTick.uploadLoop.sources slot).texture) "camera" "guest"

/-- The next scene shows the same sources in the other order. -/
def swappedTick : UploadTick :=
  twoSources (fun slot => (deskTick.uploadLoop.sources slot).texture) "camera" "desk"

/-- Each finds the slot in which it was left, and none settles. -/
theorem undisturbed_swappedTick : swappedTick.placement.Undisturbed := by
  have desk : swappedTick.placement.initial 0 = "desk" := by decide +kernel
  have camera : swappedTick.placement.initial 1 = "camera" := by decide +kernel
  have wanted : swappedTick.placement.wants 0 = some (CStr.lit "camera") ∧
      swappedTick.placement.wants 1 = some (CStr.lit "desk") ∧
      ∀ claimant, 1 < claimant → swappedTick.placement.wants claimant = none := by
    decide +kernel
  have first : ¬ swappedTick.placement.Settles 0 := by
    intro settles
    obtain free | gone := settles.free_or_gone wanted.1
    · rw [desk] at free
      exact absurd free (by decide)
    · exact absurd (gone 1 camera).1 (by decide)
  have second : ¬ swappedTick.placement.Settles 1 := by
    intro settles
    obtain free | gone := settles.free_or_gone wanted.2.1
    · rw [camera] at free
      exact absurd free (by decide)
    · exact first (gone 0 desk).2
  intro claimant label slot _ before settles
  obtain ⟨other, wants⟩ := settles.wanted
  by_cases later : 1 < slot
  · rw [wanted.2.2 slot later] at wants
    cases wants
  · have atMost : slot.val ≤ 1 := Nat.le_of_not_lt later
    have isLast : slot.val = 1 := by
      have atLeast : claimant.val < slot.val := before
      omega
    obtain rfl : slot = 1 := Fin.ext isLast
    exact second settles

theorem draws_uploads_desk : DrawsUploads swappedTick true :=
  (draws_uploads swappedTick true (by decide +kernel)).2
    ((slotsApart_of_native (by
      intro item member
      obtain rfl | rfl : item = pixelItem "camera" ∨ item = pixelItem "desk" := by
        simpa [swappedTick, twoSources] using member
      · rfl
      · rfl)).2 undisturbed_swappedTick)

/-- The camera is found in the second slot, and the guest settles there. -/
theorem guest_takes_camera :
    ¬ ∀ tick native, tick.uploadLoop.complete = true → DrawsUploads tick native := by
  intro draws
  have drawn := draws guestTick true (by decide +kernel)
  obtain ⟨slot, bound, _, uploaded⟩ :=
    drawn.kept 0 (CStr.lit "camera") (by decide +kernel)
  have lost : ∀ slot, (guestTick.uploadLoop.sources slot).uploaded ≠ some 0 := by
    decide +kernel
  exact lost ⟨slot, bound⟩ uploaded

end TextureSlots
end Engine
end SbsServer
