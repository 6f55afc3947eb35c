import SbsServer.Engine.ImportTransparency

/-!
# What the render loop knows of an upload

The release of source frames needs of a texture slot which entries of its cache are
valid and which one is active, but not what is read through them.  The texture of the
render loop shows what an upload leaves in the slot, as long as an entry can be evicted.
-/

namespace SbsServer
namespace Engine
namespace ImportCache

open CLib

/-- A slot without what is read through it.  The buffer that direct layers read is known by
the entry that owns it. -/
def Slot.plain
    (slot : Slot)
    (yBuf : Option (Fin dmabufBufCacheSize)) : SourceTexture where
  toSlotState := slot.toSlotState
  cache := fun idx => (slot.cache idx).toBufCacheEntry
  yBuf := yBuf

/-- An upload as the render loop sees it. -/
def Request.plain (request : Request) : UploadRequest where
  toUploadArguments := request.toUploadArguments
  inode := request.buffer.inode
  sizeValid := decide (request.expectedSize.toNat ≤ request.buffer.size)

/-- A free entry is blank, and the entry of a buffer has it. -/
structure Entry.Tidy (entry : Entry) : Prop where
  blank : entry.valid = false → entry.toBufCacheEntry = .zero
  buffer : entry.valid = true → entry.isYcbcr = false → entry.buf.isSome = true

/-- The texture is what the render loop knows of the slot. -/
structure Slot.Shows (slot : Slot) (texture : SourceTexture) : Prop where
  tidy : ∀ idx, (slot.cache idx).Tidy
  texture : ∃ yBuf, yBuf.isSome = slot.yBuf.isSome ∧ texture = slot.plain yBuf

/-- An operation on the texture does what it does on the slot, if that is defined. -/
def Result.Shows (result : Result) (shown : TextureResult) : Prop :=
  result.outcome ≠ .undefined →
    result.slot.Shows shown.texture ∧ shown.success = decide (result.outcome = .accepted)

variable {slot : Slot} {texture : SourceTexture} {config : UploadConfig} {request : Request}
variable {inode : Nat} {idx : Fin dmabufBufCacheSize}

theorem Result.Shows.ite
    {condition shown : Prop} [Decidable condition] [Decidable shown]
    {taken other : Result}
    {shownTaken shownOther : TextureResult}
    (same : condition ↔ shown)
    (first : taken.Shows shownTaken)
    (second : other.Shows shownOther) :
    Result.Shows (if condition then taken else other)
      (if shown then shownTaken else shownOther) := by
  by_cases met : condition
  · rw [if_pos met, if_pos (same.mp met)]
    exact first
  · rw [if_neg met, if_neg (same.not.mp met)]
    exact second

/-- What comes before an import, and the import. -/
theorem Result.Shows.next
    {first : Result}
    {shown later : TextureResult}
    {prepared : Slot}
    {idle : Bool}
    (shows : first.Shows shown)
    (rest : Slot → Result)
    (follows : first.slot.Shows shown.texture → (rest prepared).Shows later) :
    Result.Shows
      (let both : Result := if first.outcome ≠ .accepted then first else ⟨prepared, .accepted⟩
      if both.outcome ≠ .accepted then both else rest both.slot)
      (if !shown.success then ⟨shown.texture, false, idle⟩ else later) := by
  intro known
  by_cases accepted : first.outcome = .accepted
  · obtain ⟨slot, success⟩ := shows (by rw [accepted]; nofun)
    rw [success]
    simp only [accepted] at known ⊢
    exact follows slot known
  · dsimp only at known ⊢
    rw [if_pos accepted, if_pos accepted] at known ⊢
    obtain ⟨slot, failure⟩ := shows known
    rw [failure, decide_eq_false accepted]
    exact ⟨slot, rfl⟩

/-- What is noted beside the import. -/
theorem Result.Shows.noted
    {result : Result}
    {shown : TextureResult}
    (shows : result.Shows shown) :
    Result.Shows
      (if result.outcome ≠ .accepted then result
      else if !result.slot.uploadPending || !result.slot.image || !result.slot.view then
        ⟨{ result.slot with hasContent := true }, .accepted⟩
      else result)
      shown := by
  split_ifs with refused _
  · exact shows
  · have accepted := not_not.mp refused
    obtain ⟨⟨tidy, texture⟩, success⟩ := shows (by rw [accepted]; nofun)
    exact fun _ => ⟨⟨tidy, texture⟩, success.trans (decide_eq_true accepted)⟩
  · exact shows

theorem Slot.Shows.new : Slot.new.Shows .new where
  tidy := fun _ => ⟨fun _ => rfl, nofun⟩
  texture := ⟨none, rfl, rfl⟩

namespace Slot.Shows

/-- The slot after an entry of the cache has changed. -/
theorem update
    {after : Slot}
    {entry : Entry}
    {shown : BufCacheEntry}
    {yBuf : Option (Fin dmabufBufCacheSize)}
    (tidy : ∀ idx, (slot.cache idx).Tidy)
    (cache : after.cache = Function.update slot.cache idx entry)
    (plain : entry.toBufCacheEntry = shown)
    (tidyEntry : entry.Tidy)
    (same : yBuf.isSome = after.yBuf.isSome) :
    after.Shows { after.plain yBuf with
      cache := Function.update (fun idx => (slot.cache idx).toBufCacheEntry) idx shown } := by
  have plain : (fun idx => (after.cache idx).toBufCacheEntry) =
      Function.update (fun idx => (slot.cache idx).toBufCacheEntry) idx shown := by
    rw [cache, ← plain]
    funext other
    by_cases equal : other = idx
    · rw [equal, Function.update_self, Function.update_self]
    · rw [Function.update_of_ne equal, Function.update_of_ne equal]
  rw [← plain]
  refine ⟨?_, yBuf, same, rfl⟩
  rw [cache]
  exact (Function.forall_update_iff slot.cache fun _ entry => entry.Tidy).mpr
    ⟨tidyEntry, fun other _ => tidy other⟩

/-- The oldest entry is the same, if there is one below `UINT32_MAX`. -/
theorem foldl_older
    (slot : Slot)
    (yBuf : Option (Fin dmabufBufCacheSize))
    (indices : List (Fin dmabufBufCacheSize))
    (oldest : Option (Fin dmabufBufCacheSize) × UInt32)
    (best : Fin dmabufBufCacheSize)
    (same : oldest.2 = (slot.cache best).age)
    (known : ∀ idx ∈ oldest.1, idx = best) :
    ∀ idx ∈ (indices.foldl slot.older oldest).1,
      indices.foldl (fun best idx =>
        if ((slot.plain yBuf).cache idx).age < ((slot.plain yBuf).cache best).age then idx
        else best) best = idx := by
  induction indices generalizing oldest best with
  | nil => exact fun idx member => (known idx member).symm
  | cons first rest ih =>
      rw [List.foldl_cons, List.foldl_cons]
      change ∀ idx ∈ _, List.foldl _ (if (slot.cache first).age < (slot.cache best).age then first
        else best) rest = idx
      unfold older
      rw [same]
      split
      · exact ih _ first rfl fun idx member => (Option.some.inj member).symm
      · exact ih oldest best same known

variable (shows : slot.Shows texture)
include shows

theorem state :
    texture.toSlotState = slot.toSlotState := by
  obtain ⟨-, yBuf, -, rfl⟩ := shows
  rfl

theorem discard :
    slot.discard.Shows texture.discard.texture := by
  unfold Slot.discard SourceTexture.discard
  rw [shows.state]
  split
  · exact ⟨fun _ => ⟨fun _ => rfl, nofun⟩, none, rfl, rfl⟩
  · exact shows

theorem reassign
    (sourceId : Option CStr) :
    (slot.reassign sourceId).Shows (texture.reassign sourceId).texture := by
  have discarded := shows.discard
  unfold Slot.reassign SourceTexture.reassign
  rw [shows.state]
  split
  · exact discarded
  · exact shows

theorem allocDirect
    (width height : UInt32) :
    (slot.allocDirect width height).Shows (texture.allocDirect width height).texture := by
  obtain ⟨tidy, yBuf, same, discarded⟩ := shows.discard
  unfold Slot.allocDirect SourceTexture.allocDirect
  rw [shows.state]
  split
  · exact shows
  · dsimp only
    rw [discarded]
    exact ⟨tidy, yBuf, same, rfl⟩

theorem alloc :
    (slot.alloc request).Shows (texture.alloc request.plain) := by
  obtain ⟨tidy, yBuf, same, discarded⟩ := shows.discard
  unfold Slot.alloc SourceTexture.alloc
  rw [shows.state]
  dsimp only
  rw [discarded]
  refine .ite .rfl (fun _ => ⟨shows, rfl⟩) (.ite .rfl (fun _ => ?_) (.ite .rfl ?_ ?_))
  · exact ⟨⟨tidy, yBuf, same, rfl⟩, rfl⟩
  · exact fun _ => ⟨⟨tidy, yBuf, same, rfl⟩, rfl⟩
  · exact fun _ => ⟨⟨tidy, yBuf, same, rfl⟩, rfl⟩

theorem counted :
    slot.counted.Shows { texture with frameCounter := texture.frameCounter + 1 } := by
  obtain ⟨tidy, yBuf, same, rfl⟩ := shows
  exact ⟨tidy, yBuf, same, rfl⟩

/-- The source is noted in the slot. -/
theorem assigned
    (sourceId : CharArray 128)
    (filterFlags : UInt32) :
    Slot.Shows { slot with sourceId := sourceId, uploadFilterFlags := filterFlags }
      { texture with sourceId := sourceId } := by
  obtain ⟨tidy, yBuf, same, rfl⟩ := shows
  exact ⟨tidy, yBuf, same, rfl⟩

theorem hit :
    texture.hit request.plain inode = slot.hit request inode := by
  obtain ⟨-, yBuf, -, rfl⟩ := shows
  rfl

/-- The entry that a new import takes is the same. -/
theorem target
    (taken : slot.target = some idx) :
    texture.target = idx := by
  obtain ⟨-, yBuf, -, rfl⟩ := shows
  unfold Slot.target at taken
  unfold SourceTexture.target
  change ((List.finRange dmabufBufCacheSize).find? fun idx => !(slot.cache idx).valid).getD _ = idx
  cases free : (List.finRange dmabufBufCacheSize).find? fun idx => !(slot.cache idx).valid with
  | some other =>
      rw [free, Option.some_or] at taken
      exact Option.some.inj taken
  | none =>
      rw [free, Option.none_or] at taken
      unfold Slot.oldest at taken
      unfold SourceTexture.oldest
      rw [List.finRange_succ, List.foldl_cons] at taken ⊢
      rw [ite_self]
      refine foldl_older slot yBuf _ (slot.older (none, 4294967295) 0) 0 ?_ ?_ idx taken
      · unfold older
        split
        next => rfl
        next oldest =>
          exact UInt32.le_antisymm (UInt32.not_lt.mp oldest)
            (UInt32.le_iff_toNat_le.mpr (Nat.le_of_lt_succ (slot.cache 0).age.toNat_lt))
      · unfold older
        split
        next => exact fun _ member => (Option.some.inj member).symm
        next => nofun

theorem activate
    (found : slot.hit request inode = some idx) :
    (slot.activate request idx).Shows (texture.activate idx) := by
  obtain ⟨tidy, yBuf, same, rfl⟩ := shows
  obtain ⟨valid, format⟩ :
      (slot.cache idx).valid = true ∧ (slot.cache idx).drmFormat = request.drmFormat := by
    have answers := List.find?_some found
    have matched := BufCacheEntry.of_answers answers
    exact ⟨matched.1, matched.2.2.2.2⟩
  have tidyEntry : Entry.Tidy { slot.cache idx with age := slot.frameCounter } :=
    ⟨fun invalid => absurd (valid.symm.trans invalid) nofun, (tidy idx).buffer⟩
  unfold Slot.activate SourceTexture.activate
  simp only [Function.update_self]
  change Slot.Shows _ (if (slot.cache idx).isYcbcr = true then _ else _)
  by_cases ycbcr : (slot.cache idx).isYcbcr = true
  · rw [if_pos ycbcr, if_pos ycbcr]
    exact update tidy rfl rfl tidyEntry same
  · rw [if_neg ycbcr, if_neg ycbcr]
    have buffer := (tidy idx).buffer valid (Bool.not_eq_true _ ▸ ycbcr)
    rw [← format]
    exact update tidy rfl rfl tidyEntry buffer.symm

theorem evict
    (idx : Fin dmabufBufCacheSize) :
    (slot.evict idx).Shows (texture.clear idx) ∧
      ((slot.evict idx).cache idx).isYcbcr = false := by
  obtain ⟨tidy, yBuf, -, rfl⟩ := shows
  unfold Slot.evict SourceTexture.clear
  cases valid : (slot.cache idx).valid with
  | true =>
      rw [if_pos rfl]
      dsimp only
      rw [Function.update_self]
      exact ⟨update tidy rfl rfl ⟨fun _ => rfl, fun valid => absurd valid nofun⟩ rfl, rfl⟩
  | false =>
      have blank := (tidy idx).blank valid
      rw [if_neg nofun, Function.update_eq_self_iff.mpr blank.symm]
      exact ⟨⟨tidy, none, rfl, rfl⟩, congrArg BufCacheEntry.isYcbcr blank⟩

theorem storeYcbcr :
    (slot.storeYcbcr request inode idx).Shows (texture.store request.plain inode idx true) := by
  obtain ⟨tidy, yBuf, same, rfl⟩ := shows
  exact update tidy rfl rfl
    ⟨fun invalid => absurd invalid nofun, fun _ other => absurd other nofun⟩ same

theorem storeBuffer
    (buffer : (slot.cache idx).isYcbcr = false) :
    (slot.storeBuffer request inode idx).Shows
      (texture.store request.plain inode idx false) := by
  obtain ⟨tidy, yBuf, -, rfl⟩ := shows
  unfold SourceTexture.store
  dsimp only
  rw [if_neg nofun, ← buffer]
  exact update tidy rfl rfl ⟨fun invalid => absurd invalid nofun, fun _ _ => rfl⟩ rfl

/-- The import of a buffer that is not in the cache. -/
theorem importAt
    (taken : slot.target = some idx) :
    (slot.importAt config request inode idx).Shows
      (texture.importNew config request.plain inode) := by
  obtain ⟨evicted, buffer⟩ := shows.evict idx
  unfold Slot.importAt SourceTexture.importNew
  rw [shows.target taken]
  refine .ite ?_ (fun _ => ⟨evicted, rfl⟩) (.ite .rfl (fun _ => ⟨evicted, rfl⟩)
    (.ite .rfl (fun _ => ⟨evicted.storeYcbcr, rfl⟩) (.ite .rfl (fun _ => ⟨evicted, rfl⟩)
      (.ite .rfl (fun _ => ⟨evicted, rfl⟩) fun _ => ⟨evicted.storeBuffer buffer, rfl⟩))))
  simp [Request.plain]

theorem importDmabuf :
    (slot.importDmabuf config request).Shows (texture.importDmabuf config request.plain) := by
  unfold Slot.importDmabuf Slot.importCached SourceTexture.importDmabuf
  refine .ite .rfl (fun _ => ⟨shows, rfl⟩) ?_
  rw [show request.plain.inode = request.buffer.inode from rfl]
  cases request.buffer.inode with
  | none => exact fun _ => ⟨shows, rfl⟩
  | some inode =>
      have counted := shows.counted
      dsimp only
      rw [counted.hit]
      cases found : slot.counted.hit request inode with
      | some idx => exact fun _ => ⟨counted.activate found, rfl⟩
      | none =>
          cases taken : slot.counted.target with
          | some idx => exact counted.importAt taken
          | none => exact fun known => absurd rfl known

theorem allocate
    (config : UploadConfig)
    (request : Request) :
    Result.Shows
      (if !request.forceSampleable && config.canDirectUpload request.drmFormat then
        ⟨slot.allocDirect request.width request.height, .accepted⟩
      else slot.alloc request)
      (if !request.plain.forceSampleable && config.canDirectUpload request.plain.drmFormat then
        texture.allocDirect request.plain.width request.plain.height
      else texture.alloc request.plain) := by
  refine .ite .rfl (fun _ => ⟨shows.allocDirect _ _, ?_⟩) shows.alloc
  unfold SourceTexture.allocDirect
  split <;> rfl

/-- An upload. -/
theorem upload :
    (slot.upload config request).Shows (texture.upload config request.plain) := by
  unfold Slot.upload Slot.prepare SourceTexture.upload
  by_cases foreign : request.drmFormat = .abgr2101010 ∧ request.drmModifier ≠ 0
  · have shown : request.plain.drmFormat = .abgr2101010 ∧ request.plain.drmModifier ≠ 0 := foreign
    rw [if_pos foreign, if_pos shown]
    exact fun _ => ⟨shows, rfl⟩
  have shown : ¬(request.plain.drmFormat = .abgr2101010 ∧ request.plain.drmModifier ≠ 0) := foreign
  rw [if_neg foreign, if_neg shown]
  refine ((shows.reassign request.sourceId).allocate config request).next
    (fun slot =>
      let imported := slot.importDmabuf config request
      if imported.outcome ≠ .accepted then imported
      else if !imported.slot.uploadPending || !imported.slot.image || !imported.slot.view then
        ⟨{ imported.slot with hasContent := true }, .accepted⟩
      else imported) ?_
  exact fun allocated => (allocated.assigned _ _).importDmabuf.noted

end Slot.Shows

/-- As long as the count of the frames has not come around an upload is defined. -/
theorem Recorded.upload_ne_undefined
    {before : List Upload}
    (recorded : Recorded before slot)
    (few : before.length < 4294967295)
    (upload : Upload) :
    (slot.upload upload.1 upload.2).outcome ≠ .undefined := by
  have prepared := slot.prepare_ne_undefined upload.1 upload.2
  by_cases accepted : (slot.prepare upload.1 upload.2).outcome = .accepted
  · obtain ⟨idx, taken⟩ :=
      Option.isSome_iff_exists.mp ((recorded.prepare upload).isSome_target few)
    rw [Slot.outcome_upload accepted]
    generalize (slot.prepare upload.1 upload.2).slot = prepared at taken ⊢
    unfold Slot.importDmabuf
    split
    · exact nofun
    · split
      · exact nofun
      · unfold Slot.importCached
        split
        · exact nofun
        · rw [show prepared.counted.target = some idx from taken]
          exact prepared.counted.importAt_ne_undefined upload.1 upload.2 _ idx
  · rw [Slot.upload_of_unprepared accepted]
    exact prepared

/-- What the render loop knows of a slot after uploads. -/
def plainRun (uploads : List Upload) : SourceTexture :=
  uploads.foldl (fun texture upload => (texture.upload upload.1 upload.2.plain).texture) .new

/-- The render loop knows of a slot what the uploads leave in it, as long as the count of
the frames has not come around. -/
theorem shows_run
    (uploads : List Upload)
    (few : uploads.length ≤ 4294967295) :
    (run .new uploads).Shows (plainRun uploads) := by
  induction uploads using List.reverseRecOn with
  | nil => exact .new
  | append_singleton before upload ih =>
      rw [List.length_append] at few
      have before := ih (Nat.le_of_succ_le few)
      unfold run plainRun
      rw [List.foldl_append, List.foldl_append]
      exact (before.upload ((recorded_run _).upload_ne_undefined few upload)).1

end ImportCache
end Engine
end SbsServer
