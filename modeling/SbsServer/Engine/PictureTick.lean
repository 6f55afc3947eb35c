import SbsServer.CLib.System
import Mathlib.Data.UInt

/-!
# Picture updates and ticks

`compositor_thread_func` with a native canvas: a tick applies the commands in the
queue, uploads the frames that the sources deliver and then renders or publishes
the last picture again.  Which it does depends on the frames of the tick, the flag
`scene_dirty` and the transition, while textures keep what was uploaded before.
-/

namespace SbsServer
namespace Engine

open CLib

/-- The commands that change the picture. -/
inductive SceneCommand
  | clearColor
  | setScene (transitionActive : Bool)
  | setNativePreview
  deriving DecidableEq

/-- What happens in a tick. -/
structure TickInput where
  commands : List SceneCommand
  /-- An active transition has run its time. -/
  transitionEnds : Bool
  /-- The render target is free in time. -/
  reached : Bool
  /-- The frames that are uploaded and whether the upload succeeds. -/
  uploads : List Bool
  /-- `sbs_compositor_native_canvas_republish_last` would publish. -/
  republishes : Bool
  /-- `sbs_compositor_render_native_frame` would succeed. -/
  renders : Bool
  /-- The pictures that `publish_late_native_repeats` publishes. -/
  lateRepeats : Nat
  deriving DecidableEq

/-- A canvas that was rendered, with the number of updates that it shows. -/
structure RenderedCanvas where
  contentFrameNumber : UInt64
  updates : Nat
  deriving DecidableEq

/-- How a tick ends. -/
inductive TickOutcome
  | late
  | republished
  | failed
  | rendered (canvas : RenderedCanvas)
  deriving DecidableEq

/-- The compositor thread between ticks.  The last two fields are a history: the
number of frames uploaded and of commands applied, and how many of them the newest
canvas shows. -/
structure PictureState where
  sceneDirty : Bool
  transitionActive : Bool
  nativeContentSerial : UInt64
  frameCount : UInt64
  lastRendered : Option RenderedCanvas
  updates : Nat
  shown : Nat

namespace PictureState

/-- The thread enters its loop. -/
def init : PictureState where
  sceneDirty := true
  transitionActive := false
  nativeContentSerial := 0
  frameCount := 0
  lastRendered := none
  updates := 0
  shown := 0

/-- A command is taken from the queue. -/
def applyCommand
    (state : PictureState) : SceneCommand → PictureState
  | .setScene transitionActive =>
      { state with
        transitionActive := transitionActive
        sceneDirty := true
        updates := state.updates + 1 }
  | .clearColor | .setNativePreview =>
      { state with sceneDirty := true, updates := state.updates + 1 }

/-- `update_scene_transition`, and the scene is dirty when the transition ends. -/
def updateTransition
    (ends : Bool)
    (state : PictureState) : PictureState :=
  if state.transitionActive && ends then
    { state with transitionActive := false, sceneDirty := true }
  else state

/-- A tick up to its wait for the render target. -/
def prepare
    (state : PictureState)
    (input : TickInput) : PictureState :=
  (input.commands.foldl applyCommand state).updateTransition input.transitionEnds

/-- The frames of a tick are uploaded. -/
def upload
    (state : PictureState)
    (uploads : List Bool) : PictureState :=
  { state with updates := state.updates + uploads.count true }

/-- The picture has changed since the last render. -/
def contentChanged
    (state : PictureState)
    (uploads : List Bool) : Bool :=
  decide (0 < uploads.count true) || state.sceneDirty || state.transitionActive

/-- The content number that a render is given. -/
def contentFrameNumber
    (state : PictureState)
    (uploads : List Bool) : UInt64 :=
  if state.contentChanged uploads || state.nativeContentSerial == 0 then
    state.nativeContentSerial + 1
  else state.nativeContentSerial

/-- The last picture is published again. -/
def repeats
    (state : PictureState)
    (input : TickInput) : Bool :=
  !state.transitionActive && input.uploads.isEmpty && !state.sceneDirty &&
    (input.republishes && state.lastRendered.isSome)

/-- A render is submitted. -/
def render
    (state : PictureState)
    (uploads : List Bool) : PictureState × RenderedCanvas :=
  let number := state.contentFrameNumber uploads
  let canvas : RenderedCanvas :=
    { contentFrameNumber := if number ≠ 0 then number else state.frameCount + 1
      updates := state.updates }
  ({ state with
      nativeContentSerial := number
      sceneDirty := false
      lastRendered := some canvas
      shown := state.updates },
    canvas)

/-- The picture of a tick is counted, and those that are repeated because it was late. -/
def count
    (state : PictureState)
    (input : TickInput) : PictureState :=
  { state with frameCount := state.frameCount + 1 + UInt64.ofNat input.lateRepeats }

/-- A tick. -/
def tick
    (state : PictureState)
    (input : TickInput) : PictureState × TickOutcome :=
  let prepared := state.prepare input
  if !input.reached then (prepared, .late)
  else
    let uploaded := prepared.upload input.uploads
    if uploaded.repeats input then (uploaded.count input, .republished)
    else if input.renders then
      let (after, canvas) := uploaded.render input.uploads
      (after.count input, .rendered canvas)
    else (uploaded.count input, .failed)

end PictureState

/-- The ticks of the compositor thread. -/
def pictureSystem : System PictureState TickInput :=
  System.ofNext (· = .init) fun state input => some (state.tick input).1

namespace PictureState

/-- The next tick will render. -/
def WillRender (state : PictureState) : Prop :=
  state.sceneDirty = true ∨ state.transitionActive = true

/-- An update that the newest canvas does not show makes the next tick render. -/
def Remembers (state : PictureState) : Prop :=
  state.shown < state.updates → state.WillRender

/-- A step that keeps updates in mind: a tick that uploads a frame renders it, or
will render anyhow; and the content number does not run over. -/
def Covered
    (state : PictureState)
    (input : TickInput) : Prop :=
  (input.reached = true → true ∈ input.uploads →
      input.renders = true ∨ (state.prepare input).WillRender) ∧
    state.nativeContentSerial.toNat + 1 < UInt64.size

theorem willRender_applyCommand
    (state : PictureState)
    (command : SceneCommand) :
    (state.applyCommand command).WillRender := by
  left
  cases command with
  | clearColor => rfl
  | setScene transitionActive => rfl
  | setNativePreview => rfl

/-- What commands and transitions leave alone. -/
def SameCanvas (state after : PictureState) : Prop :=
  after.shown = state.shown ∧ after.nativeContentSerial = state.nativeContentSerial

theorem sameCanvas_applyCommand
    (state : PictureState)
    (command : SceneCommand) :
    state.SameCanvas (state.applyCommand command) := by
  cases command with
  | clearColor => exact ⟨rfl, rfl⟩
  | setScene transitionActive => exact ⟨rfl, rfl⟩
  | setNativePreview => exact ⟨rfl, rfl⟩

theorem sameCanvas_prepare
    (state : PictureState)
    (input : TickInput) :
    state.SameCanvas (state.prepare input) := by
  have commands : state.SameCanvas (input.commands.foldl applyCommand state) := by
    generalize input.commands = commands
    induction commands generalizing state with
    | nil => exact ⟨rfl, rfl⟩
    | cons command rest ih =>
        have first := sameCanvas_applyCommand state command
        have later := ih (state.applyCommand command)
        exact ⟨later.1.trans first.1, later.2.trans first.2⟩
  unfold prepare updateTransition
  split
  · exact commands
  · exact commands

variable {state : PictureState}

theorem Remembers.updateTransition
    {ends : Bool}
    (remembers : state.Remembers) :
    (state.updateTransition ends).Remembers := by
  unfold PictureState.updateTransition
  split
  · intro _
    exact .inl rfl
  · exact remembers

/-- Commands are kept in mind. -/
theorem Remembers.prepare
    (input : TickInput)
    (remembers : state.Remembers) :
    (state.prepare input).Remembers := by
  apply Remembers.updateTransition
  generalize input.commands = commands
  induction commands generalizing state with
  | nil => exact remembers
  | cons command rest ih =>
      apply ih
      intro _
      exact willRender_applyCommand state command

variable {input : TickInput}

/-- A tick that will render does not publish the last picture again. -/
theorem repeats_of_willRender
    (will : state.WillRender) :
    state.repeats input = false := by
  rcases will with dirty | active
  · simp [repeats, dirty]
  · simp [repeats, active]

theorem contentChanged_of_willRender
    {uploads : List Bool}
    (will : state.WillRender) :
    state.contentChanged uploads = true := by
  rcases will with dirty | active
  · simp [contentChanged, dirty]
  · simp [contentChanged, active]

/-- An update that is not shown is kept in mind or uploaded in this tick. -/
theorem will_or_uploads
    (remembers : state.Remembers)
    (pending : state.shown < ((state.prepare input).upload input.uploads).updates) :
    (state.prepare input).WillRender ∨ true ∈ input.uploads := by
  by_cases uploads : true ∈ input.uploads
  · exact .inr uploads
  · left
    apply remembers.prepare input
    have none : input.uploads.count true = 0 := List.count_eq_zero.mpr uploads
    simp only [upload, none, Nat.add_zero] at pending
    rw [(sameCanvas_prepare state input).1]
    exact pending

/-- A tick that can render renders what is not shown, under a new number. -/
theorem tick_of_pending
    (remembers : state.Remembers)
    (fits : state.nativeContentSerial.toNat + 1 < UInt64.size)
    (pending : state.shown < ((state.prepare input).upload input.uploads).updates)
    (reached : input.reached = true)
    (renders : input.renders = true) :
    ∃ canvas, (state.tick input).2 = .rendered canvas ∧
      canvas.updates = (state.tick input).1.updates ∧
      state.nativeContentSerial < canvas.contentFrameNumber := by
  have will := will_or_uploads remembers pending
  have changed : ((state.prepare input).upload input.uploads).contentChanged input.uploads =
      true := by
    rcases will with will | uploaded
    · exact contentChanged_of_willRender will
    · simp [contentChanged, List.count_pos_iff.mpr uploaded]
  have fresh : ((state.prepare input).upload input.uploads).repeats input = false := by
    rcases will with will | uploaded
    · exact repeats_of_willRender will
    · cases uploads : input.uploads with
      | nil => simp [uploads] at uploaded
      | cons first rest => simp [repeats, uploads]
  have serial : ((state.prepare input).upload input.uploads).nativeContentSerial =
      state.nativeContentSerial := (sameCanvas_prepare state input).2
  have larger : state.nativeContentSerial < state.nativeContentSerial + 1 := by
    rw [UInt64.lt_iff_toNat_lt, UInt64.toNat_add]
    change _ < (state.nativeContentSerial.toNat + 1) % UInt64.size
    rw [Nat.mod_eq_of_lt fits]
    omega
  have number : ((state.prepare input).upload input.uploads).contentFrameNumber input.uploads =
      state.nativeContentSerial + 1 := by
    simp [contentFrameNumber, changed, serial]
  have positive : state.nativeContentSerial + 1 ≠ 0 := by
    intro zero
    rw [zero] at larger
    exact absurd larger (by simp)
  refine ⟨(((state.prepare input).upload input.uploads).render input.uploads).2, ?_, ?_, ?_⟩
  · simp [tick, reached, renders, fresh]
  · simp [tick, reached, renders, fresh, render, count]
  · simpa [render, number, positive] using larger

/-- A covered tick keeps updates in mind. -/
theorem Remembers.tick
    (remembers : state.Remembers)
    (covered : state.Covered input) :
    (state.tick input).1.Remembers := by
  have prepared := remembers.prepare input
  unfold PictureState.tick
  simp only
  split
  · exact prepared
  next reached =>
    simp only [Bool.not_eq_true', Bool.not_eq_false] at reached
    split
    next repeated =>
      -- The last picture is published again only if nothing was uploaded.
      simp only [repeats, Bool.and_eq_true, List.isEmpty_iff] at repeated
      intro pending
      apply prepared
      simpa [count, upload, repeated.1.1.2] using pending
    · split
      · intro pending
        simp [count, render] at pending
      next failed =>
        intro pending
        by_cases uploaded : true ∈ input.uploads
        · exact (covered.1 reached uploaded).resolve_left failed
        · have none : input.uploads.count true = 0 := List.count_eq_zero.mpr uploaded
          apply prepared
          simpa [count, upload, none] using pending

theorem remembers_of_reachable
    (reachable : pictureSystem.ReachableWhen Covered state) :
    state.Remembers := by
  refine reachable.invariant ?_ ?_
  · rintro _ rfl pending
    simp [init] at pending
  · intro before input after remembers covered stepped
    rw [← Option.some.inj stepped]
    exact remembers.tick covered

/-- A tick in which all works, with commands and frames. -/
def plainTick
    (commands : List SceneCommand)
    (uploads : List Bool) : TickInput where
  commands := commands
  transitionEnds := false
  reached := true
  uploads := uploads
  republishes := true
  renders := true
  lateRepeats := 0

end PictureState
end Engine
end SbsServer
