import SbsServer.CLib.System
import SbsServer.Engine.NativeCanvas
import SbsServer.Engine.SourceTexture

/-!
# The release of source frames

`compositor_thread.c`: a tick uploads the frames that the sources deliver, renders
and attaches the frames to the entry of the render, which they are released with.
The compositor thread works off a list of instructions, so that the GPU may
complete a render between any two of them.

Which slots are uploaded to and which of them a render reads directly depends on
the scene, its items and their filters, which may change between ticks; here they
are choices of a run.
-/

namespace SbsServer
namespace Engine

open CLib

/-- An element of `source_release_pending`, with its slot and its import; an import
index of -1 is no import. -/
structure SourceRelease where
  frame : Nat
  slot : Fin maxSourceTextures
  dmabufImport : Option (Fin dmabufBufCacheSize × Nat)
  deriving DecidableEq

/-- A buffer that a render reads directly: the frame that supplied its content and
whether it has the AMLY format. -/
structure SourceRead where
  frame : Nat
  amly : Bool
  deriving DecidableEq

/-- An entry of the canvas ring, with what its last submission reads directly. -/
structure RenderEntry where
  state : EntryState
  fence : Bool
  submitted : Bool
  reads : List SourceRead

/-- What a source delivers to an item. -/
structure Delivery where
  /-- The frame has a descriptor. -/
  fd : Bool
  /-- The texture slot of the item. -/
  slot : Fin maxSourceTextures
  request : UploadRequest

/-- The instructions of the compositor thread. -/
inductive TickInstr
  /-- `release_ready_source_frames`, for an entry. -/
  | releaseReady (entry : Fin nativeCanvasRingSize)
  /-- `sbs_frame_slot_take_oldest` and the upload, for an item of the scene. -/
  | item
  /-- `sbs_compositor_native_canvas_republish_last`,
  `sbs_compositor_render_native_frame` and `attach_source_releases_to_entry`. -/
  | render
  /-- The release of the frames that were not attached. -/
  | dropReleases
  /-- `release_all_pending_source_frames`, for an entry. -/
  | releaseAll (entry : Fin nativeCanvasRingSize)
  deriving DecidableEq

/-- How an instruction turns out. -/
inductive TickChoice
  /-- The only way; for an item, that there is no frame to upload. -/
  | proceed
  /-- The source of an item delivers a frame. -/
  | frame (delivery : Delivery)
  /-- The last picture is republished. -/
  | republish
  /-- The render fails before it chooses an entry. -/
  | noEntry
  /-- The render gives up an entry, after or before the reset of its fence. -/
  | giveUp (entry : Fin nativeCanvasRingSize) (reset : Bool)
  /-- The render is submitted; it reads the buffers of some slots directly. -/
  | submit (entry : Fin nativeCanvasRingSize) (reads : List (Fin maxSourceTextures))

/-- The state of the compositor thread.  `releases` and `uploaded` are the locals
`source_releases` and `uploaded_count > 0` of a tick.  The last four fields are a
history: the number of frames taken, the frames released, the frame of each
slot's last upload and whether the tick of that upload submitted no render. -/
structure ReleaseState where
  sources : Fin maxSourceTextures → SourceTexture
  entries : Fin nativeCanvasRingSize → RenderEntry
  pending : Fin nativeCanvasRingSize → List SourceRelease
  releases : List SourceRelease
  uploaded : Bool
  program : List TickInstr
  stopped : Bool
  taken : Nat
  released : List Nat
  supplier : Fin maxSourceTextures → Nat
  orphaned : Fin maxSourceTextures → Bool

namespace ReleaseState

/-- The compositor thread starts. -/
def init : ReleaseState where
  sources := fun _ => .new
  entries := fun _ => ⟨.free, true, false, []⟩
  pending := fun _ => []
  releases := []
  uploaded := false
  program := []
  stopped := false
  taken := 0
  released := []
  supplier := fun _ => 0
  orphaned := fun _ => true

/-- `vkDeviceWaitIdle` completes every submission. -/
def waitIdle
    (idle : Bool)
    (state : ReleaseState) : ReleaseState :=
  if idle then
    { state with
      entries := fun entry =>
        if (state.entries entry).submitted then
          { state.entries entry with fence := true, submitted := false }
        else state.entries entry }
  else state

/-- `sbs_frame_fds_release`. -/
def releaseFrame
    (state : ReleaseState)
    (frame : Nat) : ReleaseState :=
  { state with released := frame :: state.released }

/-- `pending_source_import_still_active`. -/
def stillActive
    (state : ReleaseState)
    (release : SourceRelease) : Bool :=
  match release.dmabufImport with
  | none => false
  | some (idx, inode) =>
      let texture := state.sources release.slot
      texture.activeIdx == some idx && (texture.cache idx).valid &&
        (texture.cache idx).inode == inode

/-- `sbs_compositor_release_source_dmabuf_import`, on the compositor. -/
def releaseImport
    (state : ReleaseState)
    (release : SourceRelease) : ReleaseState :=
  match release.dmabufImport with
  | none => state
  | some (idx, inode) =>
      let result := (state.sources release.slot).releaseDmabufImport idx inode
      { state with
        sources := Function.update state.sources release.slot result.texture }.waitIdle
          result.idle

/-- The loop of `release_pending_source_frames_for_entry`: `kept` is what was kept
so far and the list what is still to be looked at. -/
def releaseLoop
    (force : Bool)
    (entry : Fin nativeCanvasRingSize)
    (kept : List SourceRelease)
    (state : ReleaseState) : List SourceRelease → ReleaseState
  | [] => state
  | release :: rest =>
      if !force && state.stillActive release then
        releaseLoop force entry (kept ++ [release]) state rest
      else
        let after := (state.releaseImport release).releaseFrame release.frame
        releaseLoop force entry kept
          { after with pending := Function.update after.pending entry (kept ++ rest) } rest

/-- `release_pending_source_frames_for_entry`. -/
def releasePending
    (force : Bool)
    (state : ReleaseState)
    (entry : Fin nativeCanvasRingSize) : ReleaseState :=
  releaseLoop force entry [] state (state.pending entry)

/-- `release_ready_source_frames`, for an entry. -/
def releaseReady
    (state : ReleaseState)
    (entry : Fin nativeCanvasRingSize) : ReleaseState :=
  if (state.entries entry).state ≠ .rendering ∨ (state.entries entry).fence = true then
    state.releasePending false entry
  else state

/-- `attach_source_releases_to_entry`. -/
def attach
    (state : ReleaseState)
    (entry : Fin nativeCanvasRingSize) : ReleaseState :=
  let after := state.releasePending false entry
  let room := maxSourceTextures - (after.pending entry).length
  { after with
    pending := Function.update after.pending entry
      (after.pending entry ++ after.releases.take room)
    released := (after.releases.drop room).map SourceRelease.frame ++ after.released
    releases := [] }

/-- A frame is taken from the slot of an item and uploaded. -/
def uploadFrame
    (config : UploadConfig)
    (state : ReleaseState)
    (delivery : Delivery) : ReleaseState :=
  let frame := state.taken
  let state := { state with taken := frame + 1 }
  if !delivery.fd then state.releaseFrame frame
  else
    let result := (state.sources delivery.slot).upload config delivery.request
    let after := { state with
      uploaded := true
      sources := Function.update state.sources delivery.slot result.texture }.waitIdle result.idle
    if !result.success then after.releaseFrame frame
    else
      { after with
        releases := after.releases ++ [⟨frame, delivery.slot, result.texture.amlyImport⟩]
        supplier := Function.update after.supplier delivery.slot frame
        orphaned := Function.update after.orphaned delivery.slot false }

/-- `sbs_compositor_native_canvas_poll_ready`. -/
def pollReady (state : ReleaseState) : ReleaseState :=
  { state with
    entries := fun entry =>
      if (state.entries entry).state = .rendering ∧ (state.entries entry).fence = true then
        { state.entries entry with state := .ready }
      else state.entries entry }

/-- An entry that `sbs_compositor_native_canvas_acquire` may choose. -/
def canAcquire
    (state : ReleaseState)
    (entry : Fin nativeCanvasRingSize) : Bool :=
  (state.entries entry).state != .rendering && (state.entries entry).fence

/-- What a render reads of a slot. -/
def readOf
    (state : ReleaseState)
    (slot : Fin maxSourceTextures) : SourceRead where
  frame := state.supplier slot
  amly := (state.sources slot).drmFormat == .amly

/-- A render is submitted to an entry. -/
def submit
    (state : ReleaseState)
    (entry : Fin nativeCanvasRingSize)
    (reads : List (Fin maxSourceTextures)) : ReleaseState :=
  { state with
    entries := Function.update state.entries entry
      ⟨.rendering, false, true, reads.map state.readOf⟩ }

/-- A render gives up an entry. -/
def giveUp
    (state : ReleaseState)
    (entry : Fin nativeCanvasRingSize)
    (reset : Bool) : ReleaseState :=
  { state with
    entries := Function.update state.entries entry
      { state.entries entry with state := .free, fence := !reset } }

/-- The frames that were not attached are released. -/
def dropReleases (state : ReleaseState) : ReleaseState :=
  { state with
    released := state.releases.map SourceRelease.frame ++ state.released
    orphaned := fun slot =>
      state.orphaned slot || state.releases.any fun release => release.slot == slot
    releases := [] }

/-- Execute an instruction that is taken off the program. -/
def exec
    (config : UploadConfig)
    (state : ReleaseState) : TickInstr → TickChoice → Option ReleaseState
  | .releaseReady entry, .proceed => some (state.releaseReady entry)
  | .item, .proceed => some state
  | .item, .frame delivery => some (state.uploadFrame config delivery)
  | .render, .republish => if state.uploaded then none else some state.pollReady
  | .render, .noEntry => some state.pollReady
  | .render, .giveUp entry reset =>
      if state.pollReady.canAcquire entry then some (state.pollReady.giveUp entry reset)
      else none
  | .render, .submit entry reads =>
      if state.pollReady.canAcquire entry && reads.all fun slot => (state.sources slot).readable
      then some ((state.pollReady.submit entry reads).attach entry)
      else none
  | .dropReleases, .proceed => some state.dropReleases
  | .releaseAll entry, .proceed => some (state.releasePending true entry)
  | _, _ => none

/-- Execute the next instruction. -/
def execNext
    (config : UploadConfig)
    (state : ReleaseState)
    (choice : TickChoice) : Option ReleaseState :=
  match state.program with
  | [] => none
  | instr :: rest => { state with program := rest }.exec config instr choice

end ReleaseState

/-- Every entry of the ring. -/
def ringEntries : List (Fin nativeCanvasRingSize) :=
  List.finRange nativeCanvasRingSize

/-- A step of a run.  A tick that waits in vain for its render target only releases
frames. -/
inductive ReleaseStep
  | lateTick
  | tick (items : Fin (maxSourceTextures + 1))
  | exec (choice : TickChoice)
  | stop
  | complete (entry : Fin nativeCanvasRingSize)

namespace ReleaseState

/-- The compositor thread, done with a tick, goes on with other instructions. -/
def goOn
    (state : ReleaseState)
    (program : List TickInstr) : Option ReleaseState :=
  if state.program = [] ∧ state.stopped = false then
    some { state with program := program, uploaded := false }
  else none

/-- The GPU completes a submission. -/
def complete
    (state : ReleaseState)
    (entry : Fin nativeCanvasRingSize) : Option ReleaseState :=
  if (state.entries entry).submitted then
    some { state with
      entries := Function.update state.entries entry
        { state.entries entry with fence := true, submitted := false } }
  else none

/-- The state after a step, if it is possible. -/
def next
    (config : UploadConfig)
    (state : ReleaseState) : ReleaseStep → Option ReleaseState
  | .lateTick => state.goOn (ringEntries.map .releaseReady)
  | .tick items =>
      state.goOn (ringEntries.map .releaseReady ++ List.replicate items .item ++
        [.render, .dropReleases])
  | .exec choice => state.execNext config choice
  | .stop =>
      (state.goOn (ringEntries.map .releaseAll)).map fun state => { state with stopped := true }
  | .complete entry => state.complete entry

end ReleaseState

/-- The compositor thread and the GPU, interleaved. -/
def releaseSystem (config : UploadConfig) : System ReleaseState ReleaseStep :=
  System.ofNext (· = .init) (ReleaseState.next config)

end Engine
end SbsServer
