import SbsServer.Engine.CanvasThread

/-!
# The order of the output mailbox

A poll visits the ring by index and publishes each finished render under the
number of its frame; a republication publishes the last picture under a new
number.  The numbers that leave the output mailbox do not decrease as long as no
poll publishes a render while an earlier one is unpublished and nothing is
republished while a render is in flight.
-/

namespace SbsServer
namespace Engine

open CLib

/-- The entry that a render or a preview is at work on. -/
def Instr.claims : Instr → Option EntryIdx
  | .claimState entry | .claimRefs entry | .reset entry | .begin entry | .finish entry
  | .renderingState entry | .renderingRefs entry | .submit entry | .failedRefs entry
  | .failedState entry => some entry
  | _ => none

namespace CanvasState

variable {consumers : Nat}

/-- The number of a frame that was published to the output mailbox and not
dropped. -/
def Past
    (state : CanvasState consumers)
    (number : UInt64) : Prop :=
  number ∈ state.outputAcquired ∨
    ∃ posted ∈ (state.mailboxes .output).contents, posted.frameNumber = number

/-- A slot of the canvas ring is rendered to. -/
def Rendering
    (state : CanvasState consumers)
    (slot : Fin nativeCanvasRingSize) : Prop :=
  (state.entries ⟨.canvas, slot⟩).state = .rendering

/-- The frame number of a slot of the canvas ring. -/
def numberOf
    (state : CanvasState consumers)
    (slot : Fin nativeCanvasRingSize) : UInt64 :=
  (state.entries ⟨.canvas, slot⟩).frameNumber

/-- A frame number that may be published next. -/
def Publishable
    (state : CanvasState consumers)
    (number : UInt64) : Prop :=
  (∀ past, state.Past past → past ≤ number) ∧ number ≤ state.frame ∧
    ∀ slot, state.Rendering slot → number ≤ state.numberOf slot

/-- What the order of the output mailbox relies on at an instruction. -/
def OrderRelies
    (state : CanvasState consumers) : Instr → Prop
  | .pollFence entry => entry.ring = .canvas → state.Rendering entry.slot
  | .markReady entry frameNumber | .markLast entry frameNumber =>
      entry.ring = .canvas → state.Publishable frameNumber
  | .publishState .output _ frameNumber | .publishRef .output _ frameNumber
  | .publishLocked .output _ frameNumber => state.Publishable frameNumber
  | .submit entry => entry.ring = .canvas → state.numberOf entry.slot = state.frame
  | .republishPreviewFence entry => entry.ring = .preview
  | _ => True

/-- An instruction that the order does not depend on. -/
def Timeless (consumers : Nat) (instr : Instr) : Prop :=
  instr.claims = none ∧ ∀ state : CanvasState consumers, state.OrderRelies instr

/-- Everything published is older than what is in flight, and leaves the output
mailbox in order. -/
structure Chronological (state : CanvasState consumers) : Prop where
  valid : (state.mailboxes .output).Valid
  acquired : state.outputAcquired.Pairwise (· ≤ ·)
  dropped : ∀ pair ∈ state.outputDropped, pair.1 ≤ pair.2
  order : ∀ number ∈ state.outputAcquired,
    ∀ posted ∈ (state.mailboxes .output).contents, number ≤ posted.frameNumber
  current : ∀ number, state.Past number → number ≤ state.frame
  inFlight : ∀ slot, state.Rendering slot →
    (∀ instr ∈ state.program.head?, instr.claims ≠ some ⟨.canvas, slot⟩) →
      (∀ number, state.Past number → number ≤ state.numberOf slot) ∧
        state.numberOf slot ≤ state.frame
  head : ∀ instr ∈ state.program.head?, state.OrderRelies instr
  tail : ∀ instr ∈ state.program.tail, Timeless consumers instr

/-- The condition at an instruction.  A poll that finds a render finished finds no
render of an earlier frame unpublished.  A republication finds no render in flight. -/
def PunctualAt
    (state : CanvasState consumers) : Instr → Prop
  | .pollFence entry =>
      entry.ring = .canvas → (state.entries entry).fence = true →
        ∀ slot, state.Rendering slot → state.numberOf entry.slot ≤ state.numberOf slot
  | .republishFence entry _ =>
      (state.entries entry).fence = true → ∀ slot, ¬ state.Rendering slot
  | _ => True

/-- The condition under which the order holds; frame numbers increase strictly. -/
def Punctual
    (state : CanvasState consumers) : CanvasStep consumers → Prop
  | .start (.render frame) | .start (.republish frame _) => state.frame < frame
  | .exec _ => ∀ instr ∈ state.program.head?, state.PunctualAt instr
  | _ => True

instance (state : CanvasState consumers) (slot : Fin nativeCanvasRingSize) :
    Decidable (state.Rendering slot) :=
  inferInstanceAs (Decidable ((state.entries ⟨.canvas, slot⟩).state = .rendering))

instance (state : CanvasState consumers) (instr : Instr) :
    Decidable (state.PunctualAt instr) := by
  cases instr <;> dsimp only [PunctualAt] <;> infer_instance

instance (state : CanvasState consumers) (step : CanvasStep consumers) :
    Decidable (state.Punctual step) :=
  match step with
  | .start (.render frame) => inferInstanceAs (Decidable (state.frame < frame))
  | .start (.republish frame _) => inferInstanceAs (Decidable (state.frame < frame))
  | .start .capture | .start .release | .consume _ _ _ | .complete _ =>
      inferInstanceAs (Decidable True)
  | .exec _ =>
      inferInstanceAs (Decidable (∀ instr ∈ state.program.head?, state.PunctualAt instr))

variable {instr : Instr} {state after : CanvasState consumers} {entry : EntryIdx}
variable {frameNumber : UInt64} {config : CanvasConfig}

theorem timeless_of_opens
    (opens : instr.opens = true) :
    Timeless consumers instr := by
  cases instr with
  | pollState entry => exact ⟨rfl, fun _ => trivial⟩
  | acquireState ring n => exact ⟨rfl, fun _ => trivial⟩
  | republishState orRender => exact ⟨rfl, fun _ => trivial⟩
  | _ => cases opens

theorem timeless_of_mem_releaseCached
    (member : instr ∈ state.releaseCached) :
    Timeless consumers instr := by
  obtain ⟨slot, -, rfl⟩ := List.mem_map.mp member
  exact ⟨rfl, fun _ => trivial⟩

/-- The states and the frame numbers of the entries stay. -/
def KeepsEntries (state after : CanvasState consumers) : Prop :=
  ∀ entry, (after.entries entry).state = (state.entries entry).state ∧
    (after.entries entry).frameNumber = (state.entries entry).frameNumber

theorem KeepsEntries.refl (state : CanvasState consumers) : state.KeepsEntries state :=
  fun _ => ⟨rfl, rfl⟩

/-- What was published to the output mailbox, the frame and the program stay. -/
structure Unmoved (state after : CanvasState consumers) : Prop where
  mailbox : after.mailboxes .output = state.mailboxes .output
  outputAcquired : after.outputAcquired = state.outputAcquired
  outputDropped : after.outputDropped = state.outputDropped
  frame : after.frame = state.frame
  program : after.program = state.program

theorem Unmoved.past
    {number : UInt64}
    (unmoved : state.Unmoved after) :
    after.Past number ↔ state.Past number := by
  rw [Past, Past, unmoved.mailbox, unmoved.outputAcquired]

/-- What the order relies on stays while the frame and the entries' states and
numbers stay and nothing is published. -/
theorem OrderRelies.mono
    (relies : state.OrderRelies instr)
    (past : ∀ number, after.Past number → state.Past number)
    (frame : after.frame = state.frame)
    (entries : state.KeepsEntries after) :
    after.OrderRelies instr := by
  have rendering : ∀ slot, after.Rendering slot ↔ state.Rendering slot := by
    intro slot
    rw [Rendering, Rendering, (entries _).1]
  have numberOf : ∀ slot, after.numberOf slot = state.numberOf slot :=
    fun slot => (entries _).2
  have publishable : ∀ number, state.Publishable number → after.Publishable number := by
    rintro number ⟨older, current, earlier⟩
    refine ⟨fun n published => older n (past n published), ?_, ?_⟩
    · rw [frame]
      exact current
    · intro slot inFlight
      rw [numberOf]
      exact earlier slot ((rendering slot).mp inFlight)
  cases instr with
  | pollFence entry => exact fun canvas => (rendering _).mpr (relies canvas)
  | markReady entry frameNumber => exact fun canvas => publishable _ (relies canvas)
  | markLast entry frameNumber => exact fun canvas => publishable _ (relies canvas)
  | publishState type entry frameNumber =>
      cases type with
      | output => exact publishable _ relies
      | _ => trivial
  | publishRef type entry frameNumber =>
      cases type with
      | output => exact publishable _ relies
      | _ => trivial
  | publishLocked type entry frameNumber =>
      cases type with
      | output => exact publishable _ relies
      | _ => trivial
  | submit entry =>
      intro canvas
      rw [numberOf, frame]
      exact relies canvas
  | republishPreviewFence entry => exact relies
  | _ => trivial

variable {change : CanvasEntry → CanvasEntry} {succeeds : Bool}

/-- An entry that a change leaves in another state than `RENDERING` is not the one
that renders. -/
theorem rendering_of_modify
    {slot : Fin nativeCanvasRingSize}
    (stops : ∀ stored, (change stored).state ≠ .rendering)
    (rendering : (state.modify entry change).Rendering slot) :
    (⟨.canvas, slot⟩ : EntryIdx) ≠ entry ∧ state.Rendering slot := by
  have apart : (⟨.canvas, slot⟩ : EntryIdx) ≠ entry := by
    rintro rfl
    rw [Rendering, entries_modify_self] at rendering
    exact stops _ rendering
  rw [Rendering, entries_modify_of_ne apart] at rendering
  exact ⟨apart, rendering⟩

theorem numberOf_modify_of_ne
    {slot : Fin nativeCanvasRingSize}
    (apart : (⟨.canvas, slot⟩ : EntryIdx) ≠ entry) :
    (state.modify entry change).numberOf slot = state.numberOf slot := by
  rw [numberOf, entries_modify_of_ne apart, numberOf]

/-- A store to a count leaves the state and the number of every entry. -/
theorem storeRefs_keeps
    (state : CanvasState consumers)
    (entry : EntryIdx)
    (value : UInt32) :
    state.KeepsEntries (state.storeRefs entry value) := by
  intro other
  by_cases same : other = entry
  · subst same
    simp [storeRefs]
  · simp [storeRefs, entries_modify_of_ne same]

/-! ## Steps of the compositor thread -/

/-- The order once the next instruction is taken off the program. -/
structure InOrder
    (state : CanvasState consumers)
    (instr : Instr) : Prop where
  valid : (state.mailboxes .output).Valid
  acquired : state.outputAcquired.Pairwise (· ≤ ·)
  dropped : ∀ pair ∈ state.outputDropped, pair.1 ≤ pair.2
  order : ∀ number ∈ state.outputAcquired,
    ∀ posted ∈ (state.mailboxes .output).contents, number ≤ posted.frameNumber
  current : ∀ number, state.Past number → number ≤ state.frame
  inFlight : ∀ slot, state.Rendering slot → instr.claims ≠ some ⟨.canvas, slot⟩ →
    (∀ number, state.Past number → number ≤ state.numberOf slot) ∧
      state.numberOf slot ≤ state.frame
  relies : state.OrderRelies instr
  free : ∀ later ∈ state.program, Timeless consumers later

/-- A step keeps the order if the output mailbox and the frame stay and what is in
flight afterwards was so before or has the number of the frame. -/
theorem InOrder.chronological_andThen
    {state after : CanvasState consumers}
    {instr : Instr}
    {instrs : List Instr}
    (inOrder : state.InOrder instr)
    (unmoved : state.Unmoved after)
    (inFlight : ∀ slot, after.Rendering slot →
      (∀ first ∈ instrs.head?, first.claims ≠ some ⟨.canvas, slot⟩) →
        state.Rendering slot ∧ instr.claims ≠ some ⟨.canvas, slot⟩ ∧
            after.numberOf slot = state.numberOf slot ∨
          after.numberOf slot = state.frame)
    (head : ∀ first ∈ instrs.head?, after.OrderRelies first)
    (tail : ∀ later ∈ instrs.tail, Timeless consumers later) :
    (after.andThen instrs).Chronological := by
  constructor
  · change (after.mailboxes .output).Valid
    rw [unmoved.mailbox]
    exact inOrder.valid
  · change after.outputAcquired.Pairwise (· ≤ ·)
    rw [unmoved.outputAcquired]
    exact inOrder.acquired
  · change ∀ pair ∈ after.outputDropped, pair.1 ≤ pair.2
    rw [unmoved.outputDropped]
    exact inOrder.dropped
  · change ∀ number ∈ after.outputAcquired,
      ∀ posted ∈ (after.mailboxes .output).contents, number ≤ posted.frameNumber
    rw [unmoved.outputAcquired, unmoved.mailbox]
    exact inOrder.order
  · intro number published
    change number ≤ after.frame
    rw [unmoved.frame]
    exact inOrder.current number (unmoved.past.mp published)
  · intro slot rendering unclaimed
    have first : ∀ first ∈ instrs.head?, first.claims ≠ some ⟨.canvas, slot⟩ := by
      intro first member
      cases instrs with
      | nil => cases member
      | cons _ rest => exact unclaimed first member
    change (∀ number, after.Past number → number ≤ after.numberOf slot) ∧
      after.numberOf slot ≤ after.frame
    rw [unmoved.frame]
    rcases inFlight slot rendering first with ⟨before, own, same⟩ | submitted
    · rw [same]
      obtain ⟨older, current⟩ := inOrder.inFlight slot before own
      exact ⟨fun number published => older number (unmoved.past.mp published), current⟩
    · rw [submitted]
      exact ⟨fun number published => inOrder.current number (unmoved.past.mp published),
        UInt64.le_refl _⟩
  · intro first member
    cases instrs with
    | nil =>
        refine (inOrder.free first ?_).2 _
        rw [← unmoved.program]
        exact List.mem_of_mem_head? member
    | cons _ rest =>
        exact (head first member).mono (fun _ published => published) rfl (.refl _)
  · intro later member
    cases instrs with
    | nil =>
        refine inOrder.free later ?_
        rw [← unmoved.program]
        exact List.mem_of_mem_tail member
    | cons _ rest =>
        rcases List.mem_append.mp member with pushed | waiting
        · exact tail later pushed
        · rw [unmoved.program] at waiting
          exact inOrder.free later waiting

/-- Timeless instructions may be put in front. -/
theorem InOrder.chronological_timeless
    {state after : CanvasState consumers}
    {instr : Instr}
    {instrs : List Instr}
    (inOrder : state.InOrder instr)
    (unmoved : state.Unmoved after)
    (entries : state.KeepsEntries after)
    (unclaimed : instr.claims = none)
    (timeless : ∀ pushed ∈ instrs, Timeless consumers pushed) :
    (after.andThen instrs).Chronological := by
  apply inOrder.chronological_andThen unmoved
  · intro slot rendering _
    refine .inl ⟨?_, by simp [unclaimed], (entries _).2⟩
    rwa [Rendering, (entries _).1] at rendering
  · intro first member
    exact (timeless first (List.mem_of_mem_head? member)).2 _
  · intro later member
    exact timeless later (List.mem_of_mem_tail member)

/-- An instruction that relies on something may be put in front alone. -/
theorem InOrder.chronological_single
    {instr next : Instr}
    (inOrder : state.InOrder instr)
    (unmoved : state.Unmoved after)
    (entries : state.KeepsEntries after)
    (unclaimed : instr.claims = none)
    (relies : state.OrderRelies next) :
    (after.andThen [next]).Chronological := by
  apply inOrder.chronological_andThen unmoved
  · intro slot rendering _
    refine .inl ⟨?_, by simp [unclaimed], (entries _).2⟩
    rwa [Rendering, (entries _).1] at rendering
  · intro first member
    rw [← Option.some.inj member]
    exact relies.mono (fun _ => unmoved.past.mp) unmoved.frame entries
  · simp

/-- Work on a claimed entry keeps the order. -/
theorem InOrder.chronological_claimed
    {instr next : Instr}
    (inOrder : state.InOrder instr)
    (claims : instr.claims = some entry)
    (nextClaims : next.claims = some entry)
    (relies : (state.modify entry change).OrderRelies next) :
    ((state.modify entry change).andThen [next]).Chronological := by
  refine @InOrder.chronological_andThen _ state (state.modify entry change) instr [next]
    inOrder ⟨rfl, rfl, rfl, rfl, rfl⟩ ?_ ?_ (by simp)
  · intro slot rendering unclaimed
    have apart : (⟨.canvas, slot⟩ : EntryIdx) ≠ entry := by
      rintro rfl
      exact unclaimed next rfl nextClaims
    rw [Rendering, entries_modify_of_ne apart] at rendering
    refine .inl ⟨rendering, ?_, ?_⟩
    · rw [claims]
      simpa using Ne.symm apart
    · rw [numberOf, entries_modify_of_ne apart, numberOf]
  · intro first member
    rw [← Option.some.inj member]
    exact relies

/-- An instruction that leaves the claimed entry alone keeps the order. -/
theorem InOrder.chronological_unchanged
    {state : CanvasState consumers}
    {instr next : Instr}
    {entry : EntryIdx}
    (inOrder : state.InOrder instr)
    (claims : instr.claims = some entry)
    (nextClaims : next.claims = some entry)
    (relies : state.OrderRelies next) :
    (state.andThen [next]).Chronological := by
  have same : state.modify entry id = state := by simp [modify]
  rw [← same]
  apply inOrder.chronological_claimed claims nextClaims
  rw [same]
  exact relies

/-- The exits of a render keep the order. -/
theorem InOrder.chronological_releaseFailed
    (inOrder : state.InOrder instr)
    (claims : instr.claims = some entry) :
    (state.andThen (releaseFailed entry)).Chronological := by
  unfold releaseFailed
  split
  · exact inOrder.chronological_unchanged claims rfl trivial
  · exact inOrder.chronological_unchanged claims rfl trivial

theorem timeless_publications
    (preview : entry.ring = .preview)
    (member : instr ∈ publications entry frameNumber) :
    Timeless consumers instr := by
  rw [publications, preview] at member
  rw [List.mem_singleton.mp member]
  exact ⟨rfl, fun _ => trivial⟩

/-- The first of the publications of an entry. -/
theorem orderRelies_publications
    (publishable : entry.ring = .canvas → state.Publishable frameNumber)
    (member : instr ∈ (publications entry frameNumber).head?) :
    state.OrderRelies instr := by
  unfold publications at member
  split at member
  next canvas =>
    rw [← Option.some.inj member]
    exact publishable canvas
  next =>
    rw [← Option.some.inj member]
    trivial

theorem timeless_publications_tail
    (member : instr ∈ (publications entry frameNumber).tail) :
    Timeless consumers instr := by
  unfold publications at member
  split at member
  · rw [List.mem_singleton.mp member]
    exact ⟨rfl, fun _ => trivial⟩
  · cases member

theorem mem_head?_of_mem_head?_publications_append
    {rest : List Instr}
    (member : instr ∈ (publications entry frameNumber ++ rest).head?) :
    instr ∈ (publications entry frameNumber).head? := by
  unfold publications at member ⊢
  split at member <;> exact member

theorem mem_of_mem_tail_publications_append
    {rest : List Instr}
    (member : instr ∈ (publications entry frameNumber ++ rest).tail) :
    instr ∈ (publications entry frameNumber).tail ∨ instr ∈ rest := by
  unfold publications at member ⊢
  split at member <;> simpa using member

/-- What a republication does after its publications. -/
theorem timeless_of_mem_republishPreview
    {config : CanvasConfig}
    {orRender : Bool}
    {instr : Instr}
    (member : instr ∈ (if config.previewInitialized then [Instr.republishPreview] else []) ++
      [Instr.republishEnd orRender]) :
    Timeless consumers instr := by
  rcases List.mem_append.mp member with preview | last
  · split at preview
    · rw [List.mem_singleton.mp preview]
      exact ⟨rfl, fun _ => trivial⟩
    · cases preview
  · rw [List.mem_singleton.mp last]
    exact ⟨rfl, fun _ => trivial⟩

/-- An access to a count keeps the order. -/
theorem InOrder.chronological_storeRefs
    {value : UInt32}
    {cached : Option (Fin nativeCanvasRingSize)}
    (inOrder : state.InOrder instr)
    (unclaimed : instr.claims = none) :
    ({ state.storeRefs entry value with cached := cached } :
      CanvasState consumers).Chronological := by
  exact @InOrder.chronological_timeless _ state
    { state.storeRefs entry value with cached := cached } instr [] inOrder
      ⟨rfl, rfl, rfl, rfl, rfl⟩ (storeRefs_keeps state entry value) unclaimed (by simp)

/-- A publication to another mailbox keeps the order. -/
theorem InOrder.chronological_post_of_ne
    {type : MailboxType}
    {posted : MailboxEntry}
    (inOrder : state.InOrder instr)
    (other : type ≠ .output)
    (unclaimed : instr.claims = none) :
    (state.post type posted).Chronological := by
  refine inOrder.chronological_timeless
    ⟨Function.update_of_ne (Ne.symm other) _ _, rfl, if_neg other, rfl, rfl⟩ (.refl _)
      unclaimed ?_
  · intro pushed member
    obtain ⟨old, -, rfl⟩ := List.mem_map.mp member
    exact ⟨rfl, fun _ => trivial⟩

/-- A publication to the output mailbox keeps the order. -/
theorem InOrder.chronological_post
    (inOrder : state.InOrder (.publishLocked .output entry frameNumber)) :
    (state.post .output ⟨entry, frameNumber⟩).Chronological := by
  obtain ⟨older, current, earlier⟩ := inOrder.relies
  obtain ⟨valid, contents, dropped⟩ :=
    Mailbox.publish_of_valid inOrder.valid ⟨entry, frameNumber⟩
  let result := (state.mailboxes .output).publish ⟨entry, frameNumber⟩
  have mailbox : (state.post .output ⟨entry, frameNumber⟩).mailboxes .output =
      result.1 := by
    change Function.update state.mailboxes MailboxType.output result.1 MailboxType.output = _
    exact Function.update_self _ _ _
  have history : (state.post .output ⟨entry, frameNumber⟩).outputDropped =
      state.outputDropped ++ result.2.toList.map fun old => (old.frameNumber, frameNumber) :=
    rfl
  have program : (state.post .output ⟨entry, frameNumber⟩).program =
      (result.2.toList.map fun old => Instr.unrefLoad old.entryIdx) ++ state.program := rfl
  have free : ∀ later ∈ (state.post .output ⟨entry, frameNumber⟩).program,
      Timeless consumers later := by
    intro later member
    rw [program] at member
    rcases List.mem_append.mp member with given | waiting
    · obtain ⟨old, -, rfl⟩ := List.mem_map.mp given
      exact ⟨rfl, fun _ => trivial⟩
    · exact inOrder.free later waiting
  have past : ∀ number, (state.post .output ⟨entry, frameNumber⟩).Past number →
      state.Past number ∨ number = frameNumber := by
    rintro number (acquired | ⟨posted, member, rfl⟩)
    · exact .inl (.inl acquired)
    · rw [mailbox, contents, List.mem_singleton] at member
      exact .inr (congrArg MailboxEntry.frameNumber member)
  constructor
  · rw [mailbox]
    exact valid
  · exact inOrder.acquired
  · rw [history]
    intro pair member
    rcases List.mem_append.mp member with before | now
    · exact inOrder.dropped pair before
    · obtain ⟨old, lost, rfl⟩ := List.mem_map.mp now
      apply older
      refine .inr ⟨old, List.mem_of_mem_head? ?_, rfl⟩
      rw [← dropped]
      exact Option.mem_toList.mp lost
  · intro number acquired posted member
    rw [mailbox, contents, List.mem_singleton] at member
    rw [member]
    exact older number (.inl acquired)
  · intro number published
    rcases past number published with before | rfl
    · exact inOrder.current number before
    · exact current
  · intro slot rendering _
    obtain ⟨before, bounded⟩ := inOrder.inFlight slot rendering (by simp [Instr.claims])
    refine ⟨?_, bounded⟩
    intro number published
    rcases past number published with was | rfl
    · exact before number was
    · exact earlier slot rendering
  · intro instr member
    exact (free instr (List.mem_of_mem_head? member)).2 _
  · intro instr member
    exact free instr (List.mem_of_mem_tail member)

/-- A submission has the number of the frame. -/
theorem InOrder.chronological_submitted
    (inOrder : state.InOrder (.submit entry)) :
    (state.exec config true (.submit entry)).Chronological := by
  have kept : ∀ slot,
      (state.modify entry fun stored => { stored with submitted := true }).Rendering slot →
      (state.Rendering slot ∧ Instr.claims (.submit entry) ≠ some ⟨.canvas, slot⟩ ∧
          (state.modify entry fun stored => { stored with submitted := true }).numberOf slot =
            state.numberOf slot) ∨
        (state.modify entry fun stored => { stored with submitted := true }).numberOf slot =
          state.frame := by
    intro slot rendering
    by_cases same : (⟨.canvas, slot⟩ : EntryIdx) = entry
    · subst same
      right
      rw [numberOf, entries_modify_self]
      exact inOrder.relies rfl
    · rw [Rendering, entries_modify_of_ne same] at rendering
      exact .inl ⟨rendering, by simpa [Instr.claims] using Ne.symm same,
        numberOf_modify_of_ne same⟩
  simp only [exec, if_true]
  split
  next canvas =>
    have timeless : ∀ pushed ∈ (if state.previewDue then submitNativePreview config else []),
        Timeless consumers pushed := by
      intro pushed member
      split at member
      · exact timeless_of_opens (opens_of_mem_submitNativePreview member)
      · cases member
    refine inOrder.chronological_andThen ⟨rfl, rfl, rfl, rfl, rfl⟩ ?_ ?_ ?_
    · intro slot rendering _
      exact kept slot rendering
    · intro first member
      exact (timeless first (List.mem_of_mem_head? member)).2 _
    · intro later member
      exact timeless later (List.mem_of_mem_tail member)
  next preview =>
    refine @InOrder.chronological_andThen _ state
      { state.modify entry fun stored => { stored with submitted := true } with
        lastSubmitFrame := if state.previewDue then state.frame else state.lastSubmitFrame }
      _ [] inOrder ⟨rfl, rfl, rfl, rfl, rfl⟩ ?_ (by simp) (by simp)
    intro slot rendering _
    exact kept slot rendering

/-- An entry that is marked keeps the order, and is the next to be published. -/
theorem InOrder.chronological_markedReady
    (inOrder : state.InOrder (.markReady entry frameNumber)) :
    (state.exec config succeeds (.markReady entry frameNumber)).Chronological := by
  refine inOrder.chronological_andThen ⟨rfl, rfl, rfl, rfl, rfl⟩ ?_ ?_ (by simp)
  · intro slot rendering _
    obtain ⟨apart, before⟩ := rendering_of_modify (fun _ => by simp) rendering
    refine .inl ⟨before, by simp [Instr.claims], ?_⟩
    exact numberOf_modify_of_ne apart
  · rintro first ⟨⟩ canvas
    obtain ⟨older, current, earlier⟩ := inOrder.relies canvas
    refine ⟨older, current, ?_⟩
    intro slot rendering
    obtain ⟨apart, before⟩ := rendering_of_modify (fun _ => by simp) rendering
    rw [numberOf_modify_of_ne apart]
    exact earlier slot before

/-- The last canvas is published again under the number of the frame when nothing is being
rendered. -/
theorem InOrder.chronological_republished
    {orRender : Bool}
    (inOrder : state.InOrder (.republishFence entry orRender))
    (idle : ∀ slot, ¬state.Rendering slot) :
    ({ state with republished := false, previewDue := false }.andThen
      (publications entry state.frame ++
        (if config.previewInitialized then [Instr.republishPreview] else []) ++
        [Instr.republishEnd orRender])).Chronological := by
  refine inOrder.chronological_andThen ⟨rfl, rfl, rfl, rfl, rfl⟩ ?_ ?_ ?_
  · intro slot rendering _
    exact absurd rendering (idle slot)
  · intro first member
    rw [List.append_assoc] at member
    refine orderRelies_publications (fun _ => ⟨?_, UInt64.le_refl _, ?_⟩)
      (mem_head?_of_mem_head?_publications_append member)
    · exact inOrder.current
    · intro slot rendering
      exact absurd rendering (idle slot)
  · intro later member
    rw [List.append_assoc] at member
    rcases mem_of_mem_tail_publications_append member with published | preview
    · exact timeless_publications_tail published
    · exact timeless_of_mem_republishPreview preview

/-- The compositor thread keeps the order. -/
theorem InOrder.chronological_exec
    (inOrder : state.InOrder instr)
    (punctual : state.PunctualAt instr) :
    (state.exec config succeeds instr).Chronological := by
  have keep : ∀ instrs : List Instr, instr.claims = none →
      (∀ pushed ∈ instrs, Timeless consumers pushed) →
        (state.andThen instrs).Chronological := fun instrs =>
    inOrder.chronological_timeless ⟨rfl, rfl, rfl, rfl, rfl⟩ (.refl state)
  have single : ∀ next : Instr, instr.claims = none → state.OrderRelies next →
      (state.andThen [next]).Chronological := fun next =>
    inOrder.chronological_single ⟨rfl, rfl, rfl, rfl, rfl⟩ (.refl state)
  have nothing : instr.claims = none → state.Chronological :=
    fun unclaimed => keep [] unclaimed (by simp)
  cases instr with
  | pollState entry =>
      simp only [exec]
      split
      next rendering =>
        apply single _ rfl
        obtain ⟨ring, slot⟩ := entry
        rintro rfl
        exact rendering
      next => exact nothing rfl
  | pollFence entry =>
      simp only [exec]
      split
      next finished =>
        apply single _ rfl
        intro canvas
        have rendering := inOrder.relies canvas
        obtain ⟨older, current⟩ :=
          inOrder.inFlight entry.slot rendering (by simp [Instr.claims])
        obtain ⟨ring, slot⟩ := entry
        subst canvas
        exact ⟨older, current, punctual rfl finished⟩
      next => exact nothing rfl
  | markReady entry frameNumber =>
      exact inOrder.chronological_markedReady
  | markLast entry frameNumber =>
      refine inOrder.chronological_andThen ⟨rfl, rfl, rfl, rfl, rfl⟩ ?_ ?_ ?_
      · intro slot rendering _
        exact .inl ⟨rendering, by simp [Instr.claims], rfl⟩
      · intro first member
        exact (orderRelies_publications inOrder.relies member).mono
          (fun _ published => published) rfl (.refl _)
      · intro later member
        exact timeless_publications_tail member
  | publishState type entry frameNumber =>
      simp only [exec]
      split
      · apply single _ rfl
        cases type <;> exact inOrder.relies
      · exact nothing rfl
  | publishRef type entry frameNumber =>
      refine inOrder.chronological_single ⟨rfl, rfl, rfl, rfl, rfl⟩
        (storeRefs_keeps state entry _) rfl ?_
      cases type <;> exact inOrder.relies
  | publishLocked type entry frameNumber =>
      cases type with
      | output => exact inOrder.chronological_post
      | preview => exact inOrder.chronological_post_of_ne (by simp) rfl
      | snapshot => exact inOrder.chronological_post_of_ne (by simp) rfl
  | unrefLoad entry =>
      simp only [exec]
      split
      · exact single _ rfl trivial
      · exact nothing rfl
  | unrefExchange entry prev =>
      simp only [exec]
      split
      · exact inOrder.chronological_storeRefs rfl
      · split
        · exact single _ rfl trivial
        · exact nothing rfl
  | acquireState ring n =>
      simp only [exec]
      split
      · exact single _ rfl trivial
      · exact nothing rfl
  | acquireRefs ring n stored =>
      simp only [exec]
      split
      · exact single _ rfl trivial
      · exact single _ rfl trivial
  | acquireFence ring n =>
      simp only [exec]
      split
      · exact inOrder.chronological_single ⟨rfl, rfl, rfl, rfl, rfl⟩ (.refl state) rfl trivial
      · exact single _ rfl trivial
  | claimState entry => exact inOrder.chronological_claimed rfl rfl trivial
  | claimRefs entry => exact inOrder.chronological_claimed rfl rfl trivial
  | reset entry =>
      simp only [exec]
      split
      · exact inOrder.chronological_claimed rfl rfl trivial
      · exact inOrder.chronological_releaseFailed rfl
  | begin entry =>
      simp only [exec]
      split
      · split
        · refine inOrder.chronological_andThen ⟨rfl, rfl, rfl, rfl, rfl⟩ ?_ ?_ ?_
          · intro slot rendering unclaimed
            exact .inl ⟨rendering, unclaimed (.finish entry) rfl, rfl⟩
          · simp [OrderRelies]
          · simp
        · exact @InOrder.chronological_unchanged _ _ _ (.finish entry) _ inOrder rfl rfl trivial
      · exact inOrder.chronological_releaseFailed rfl
  | finish entry =>
      simp only [exec]
      split
      · split
        · exact @InOrder.chronological_unchanged _ _ _ (.renderingState entry) _ inOrder rfl rfl
            trivial
        next preview =>
          refine inOrder.chronological_claimed rfl rfl ?_
          intro canvas
          rw [preview] at canvas
          cases canvas
      · exact inOrder.chronological_releaseFailed rfl
  | renderingState entry => exact inOrder.chronological_claimed rfl rfl trivial
  | renderingRefs entry =>
      refine inOrder.chronological_claimed rfl rfl ?_
      obtain ⟨ring, slot⟩ := entry
      rintro rfl
      exact congrArg CanvasEntry.frameNumber (entries_modify_self _ _ _)
  | submit entry =>
      simp only [exec]
      split
      · exact inOrder.chronological_submitted
      · exact inOrder.chronological_releaseFailed rfl
  | failedRefs entry => exact inOrder.chronological_claimed rfl rfl trivial
  | failedState entry =>
      refine @InOrder.chronological_andThen _ _ (state.storeState entry .free) _ []
        inOrder ⟨rfl, rfl, rfl, rfl, rfl⟩ ?_ (by simp) (by simp)
      intro slot rendering _
      obtain ⟨apart, before⟩ := rendering_of_modify (fun _ => by simp) rendering
      refine .inl ⟨before, ?_, numberOf_modify_of_ne apart⟩
      simpa [Instr.claims] using Ne.symm apart
  | republishState orRender =>
      simp only [exec]
      split
      · exact keep _ rfl fun _ member => timeless_of_opens (opens_of_mem_notRepublished member)
      · split
        · exact single _ rfl trivial
        · exact keep _ rfl fun _ member =>
            timeless_of_opens (opens_of_mem_notRepublished member)
  | republishFence entry orRender =>
      simp only [exec]
      split
      next finished => exact inOrder.chronological_republished (punctual finished)
      next =>
        exact keep _ rfl fun _ member =>
          timeless_of_opens (opens_of_mem_notRepublished member)
  | republishPreview =>
      simp only [exec]
      split
      · exact keep _ rfl fun _ member =>
          timeless_of_opens (opens_of_mem_submitNativePreview member)
      · split
        · exact single _ rfl rfl
        · exact nothing rfl
  | republishPreviewFence entry =>
      simp only [exec]
      split
      · exact keep _ rfl fun _ member => timeless_publications inOrder.relies member
      · exact nothing rfl
  | republishEnd orRender =>
      simp only [exec]
      split
      · exact nothing rfl
      · exact keep _ rfl fun _ member => timeless_of_opens (opens_of_mem_notRepublished member)
  | captureState =>
      simp only [exec]
      split
      · exact nothing rfl
      · split
        · exact single _ rfl trivial
        · exact nothing rfl
  | captureRef slot => exact inOrder.chronological_storeRefs rfl

/-- An instruction of the compositor thread keeps the order. -/
theorem Chronological.execNext
    (chronological : state.Chronological)
    (punctual : state.Punctual (.exec succeeds))
    (stepped : state.execNext config succeeds = some after) :
    after.Chronological := by
  unfold CanvasState.execNext at stepped
  split at stepped
  next => cases stepped
  next instr rest program =>
    have taken : ({ state with program := rest } : CanvasState consumers).InOrder instr := by
      refine ⟨chronological.valid, chronological.acquired, chronological.dropped,
        chronological.order, chronological.current, ?_, ?_, ?_⟩
      · intro slot rendering unclaimed
        apply chronological.inFlight slot rendering
        simpa [program] using unclaimed
      · have relies := chronological.head instr (by simp [program])
        exact relies.mono (fun _ published => published) rfl (.refl _)
      · intro later member
        exact chronological.tail later (by simpa [program] using member)
    have condition : state.PunctualAt instr := punctual instr (by simp [program])
    rw [← Option.some.inj stepped]
    apply taken.chronological_exec
    cases instr with
    | pollFence entry => exact condition
    | republishFence entry orRender => exact condition
    | _ => trivial

/-- A call that starts keeps the order. -/
theorem Chronological.start
    {call : CompositorCall}
    (chronological : state.Chronological)
    (punctual : state.Punctual (.start call))
    (stepped : state.start config call = some after) :
    after.Chronological := by
  unfold CanvasState.start at stepped
  split at stepped
  next done =>
    have inFlight := fun slot rendering => chronological.inFlight slot rendering
      (by simp [done])
    have starts : ∀ (frame : UInt64) (cached : Option (Fin nativeCanvasRingSize))
        (instrs : List Instr), state.frame ≤ frame →
        (∀ pushed ∈ instrs, Timeless consumers pushed) →
        (({ state with frame := frame, cached := cached } :
          CanvasState consumers).andThen instrs).Chronological := by
      intro frame cached instrs later timeless
      have program : (({ state with frame := frame, cached := cached } :
          CanvasState consumers).andThen instrs).program = instrs := by
        simp [done]
      refine ⟨chronological.valid, chronological.acquired, chronological.dropped,
        chronological.order, ?_, ?_, ?_, ?_⟩
      · intro number published
        exact UInt64.le_trans (chronological.current number published) later
      · intro slot rendering _
        obtain ⟨older, current⟩ := inFlight slot rendering
        exact ⟨older, UInt64.le_trans current later⟩
      · intro instr member
        rw [program] at member
        exact (timeless instr (List.mem_of_mem_head? member)).2 _
      · intro instr member
        rw [program] at member
        exact timeless instr (List.mem_of_mem_tail member)
    cases call with
    | render frame =>
        rw [← Option.some.inj stepped]
        exact starts frame state.cached _ (UInt64.le_of_lt punctual) fun _ member =>
          timeless_of_opens (opens_of_mem_renderNativeFrame member)
    | republish frame orRender =>
        rw [← Option.some.inj stepped]
        exact starts frame state.cached _ (UInt64.le_of_lt punctual) fun _ member =>
          timeless_of_opens (opens_of_mem_republishLast member)
    | capture =>
        rw [← Option.some.inj stepped]
        refine starts state.frame none _ (UInt64.le_refl _) ?_
        intro pushed member
        rcases List.mem_append.mp member with given | last
        · exact timeless_of_mem_releaseCached given
        · rw [List.mem_singleton.mp last]
          exact ⟨rfl, fun _ => trivial⟩
    | release =>
        rw [← Option.some.inj stepped]
        exact starts state.frame none _ (UInt64.le_refl _) fun _ member =>
          timeless_of_mem_releaseCached member
  next => cases stepped

/-! ## Steps of the consumers and of the GPU -/

section

variable (chronological : state.Chronological)
include chronological

/-- A step beside the compositor thread keeps the order if it publishes nothing and
leaves the states and numbers of the entries. -/
theorem Chronological.beside
    (valid : (after.mailboxes .output).Valid)
    (acquired : after.outputAcquired.Pairwise (· ≤ ·))
    (order : ∀ number ∈ after.outputAcquired,
      ∀ posted ∈ (after.mailboxes .output).contents, number ≤ posted.frameNumber)
    (past : ∀ number, after.Past number → state.Past number)
    (outputDropped : after.outputDropped = state.outputDropped)
    (frame : after.frame = state.frame)
    (program : after.program = state.program)
    (entries : state.KeepsEntries after) :
    after.Chronological := by
  refine ⟨valid, acquired, ?_, order, ?_, ?_, ?_, ?_⟩
  · rw [outputDropped]
    exact chronological.dropped
  · intro number published
    rw [frame]
    exact chronological.current number (past number published)
  · intro slot rendering unclaimed
    rw [Rendering, (entries _).1] at rendering
    rw [program] at unclaimed
    obtain ⟨older, current⟩ := chronological.inFlight slot rendering unclaimed
    rw [numberOf, (entries _).2, frame]
    exact ⟨fun number published => older number (past number published), current⟩
  · intro instr member
    rw [program] at member
    exact (chronological.head instr member).mono past frame entries
  · intro instr member
    rw [program] at member
    exact chronological.tail instr member

/-- A step that leaves the output mailbox keeps the order. -/
theorem Chronological.beside_of_same
    (unmoved : state.Unmoved after)
    (entries : state.KeepsEntries after) :
    after.Chronological := by
  have ⟨mailbox, outputAcquired, outputDropped, frame, program⟩ := unmoved
  refine chronological.beside ?_ ?_ ?_ (fun _ => unmoved.past.mp) outputDropped frame program
    entries
  · rw [mailbox]
    exact chronological.valid
  · rw [outputAcquired]
    exact chronological.acquired
  · rw [mailbox, outputAcquired]
    exact chronological.order

/-- What an acquisition from the output mailbox returns is not older than what was
returned before. -/
theorem Chronological.acquireLocked
    (who : Fin consumers)
    (type : MailboxType) :
    (state.acquireLocked who type).Chronological := by
  by_cases output : type = .output
  · subst output
    obtain ⟨valid, contents, taken⟩ := Mailbox.acquire_of_valid chronological.valid
    let result := (state.mailboxes .output).acquire
    have mailbox : (state.acquireLocked who .output).mailboxes .output = result.1 := by
      change Function.update state.mailboxes MailboxType.output result.1 MailboxType.output = _
      exact Function.update_self _ _ _
    have history : (state.acquireLocked who .output).outputAcquired =
        state.outputAcquired ++ result.2.toList.map MailboxEntry.frameNumber := rfl
    have emptied : result.1.contents = [] := by
      rw [contents, Mailbox.contents_eq chronological.valid]
      cases (state.mailboxes .output).contents.head? <;> rfl
    have returned : ∀ number ∈ result.2.toList.map MailboxEntry.frameNumber,
        ∃ posted ∈ (state.mailboxes .output).contents, posted.frameNumber = number := by
      intro number member
      obtain ⟨posted, old, rfl⟩ := List.mem_map.mp member
      refine ⟨posted, List.mem_of_mem_head? ?_, rfl⟩
      rw [← taken]
      exact Option.mem_toList.mp old
    refine chronological.beside ?_ ?_ ?_ ?_ rfl rfl rfl (.refl _)
    · rw [mailbox]
      exact valid
    · rw [history, List.pairwise_append]
      refine ⟨chronological.acquired, ?_, ?_⟩
      · cases result.2 <;> simp
      · intro earlier before number member
        obtain ⟨posted, held, rfl⟩ := returned number member
        exact chronological.order earlier before posted held
    · intro number _ posted member
      rw [mailbox, emptied] at member
      cases member
    · rintro number (member | ⟨posted, member, rfl⟩)
      · rw [history] at member
        rcases List.mem_append.mp member with before | now
        · exact .inl before
        · exact .inr (returned number now)
      · rw [mailbox, emptied] at member
        cases member
  · have mailbox : (state.acquireLocked who type).mailboxes .output =
        state.mailboxes .output := Function.update_of_ne (Ne.symm output) _ _
    have history : (state.acquireLocked who type).outputAcquired = state.outputAcquired :=
      if_neg output
    refine chronological.beside ?_ ?_ ?_ ?_ rfl rfl rfl (.refl _)
    · rw [mailbox]
      exact chronological.valid
    · rw [history]
      exact chronological.acquired
    · rw [mailbox, history]
      exact chronological.order
    · intro number published
      rwa [Past, mailbox, history] at published

/-- A consumer keeps the order. -/
theorem Chronological.consume
    {who : Fin consumers}
    {action : ConsumerAction}
    (stepped : state.consume succeeds who action = some after) :
    after.Chronological := by
  have unchanged : ∀ consumer, (state.setConsumer who consumer).Chronological := fun _ =>
    chronological.beside_of_same ⟨rfl, rfl, rfl, rfl, rfl⟩ (.refl state)
  have counted : ∀ entry value consumer,
      ((state.storeRefs entry value).setConsumer who consumer).Chronological := fun entry value _ =>
    chronological.beside_of_same ⟨rfl, rfl, rfl, rfl, rfl⟩ (storeRefs_keeps state entry value)
  cases action with
  | acquire type =>
      simp only [CanvasState.consume] at stepped
      split at stepped
      · rw [← Option.some.inj stepped]
        exact chronological.acquireLocked who type
      · cases stepped
  | ref entry =>
      simp only [CanvasState.consume] at stepped
      split at stepped
      · rw [← Option.some.inj stepped]
        exact unchanged _
      · cases stepped
  | unref entry =>
      simp only [CanvasState.consume] at stepped
      split at stepped
      · rw [← Option.some.inj stepped]
        exact unchanged _
      · cases stepped
  | proceed =>
      obtain ⟨call, -, proceeds⟩ := Option.map_eq_some_iff.mp stepped
      rw [← proceeds]
      cases call with
      | acquired entry => exact unchanged _
      | refState entry => exact unchanged _
      | refAdd entry => exact counted _ _ _
      | unrefLoad entry => exact unchanged _
      | unrefExchange entry prev =>
          simp only [CanvasState.proceed]
          split
          · exact counted _ _ _
          · exact unchanged _

/-- The GPU keeps the order. -/
theorem Chronological.complete
    (stepped : state.complete entry = some after) :
    after.Chronological := by
  unfold CanvasState.complete at stepped
  split at stepped
  · rw [← Option.some.inj stepped]
    refine chronological.beside_of_same ⟨rfl, rfl, rfl, rfl, rfl⟩ fun other => ?_
    by_cases same : other = entry
    · subst same
      simp
    · rw [entries_modify_of_ne same]
      exact ⟨rfl, rfl⟩
  · cases stepped

end

theorem chronological_init (consumers : Nat) : (init consumers).Chronological where
  valid := Mailbox.valid_new
  acquired := List.Pairwise.nil
  dropped := by simp [init]
  order := by simp [init]
  current := by simp [Past, init]
  inFlight := by simp [Rendering, init, CanvasEntry.new]
  head := by simp [init]
  tail := by simp [init]

/-- Any run whose steps are punctual keeps the order. -/
theorem chronological_of_reachable
    (reachable : (canvasSystem consumers config).ReachableWhen Punctual state) :
    state.Chronological := by
  apply reachable.invariant
  · intro start initial
    rw [show start = init consumers from initial]
    exact chronological_init consumers
  · intro before step after chronological punctual stepped
    cases step with
    | start call => exact chronological.start punctual stepped
    | exec succeeds => exact chronological.execNext punctual stepped
    | consume who action succeeds => exact chronological.consume stepped
    | complete entry => exact chronological.complete stepped

/-- In every run whose steps are punctual the output mailbox never goes back in time. -/
theorem output_mailbox_chronological
    {config : CanvasConfig}
    {state : CanvasState consumers}
    (reachable : (canvasSystem consumers config).ReachableWhen Punctual state) :
    state.outputAcquired.Pairwise (· ≤ ·) ∧
      (∀ pair ∈ state.outputDropped, pair.1 ≤ pair.2) ∧
      (state.mailboxes .output).published =
        (state.mailboxes .output).consumed + (state.mailboxes .output).dropped +
          UInt64.ofNat (state.mailboxes .output).count := by
  have chronological := chronological_of_reachable reachable
  exact ⟨chronological.acquired, chronological.dropped, chronological.valid.balanced⟩

/-- Four frames are published; one is overwritten before it is acquired and two are acquired. -/
def acquireTwice : List (CanvasStep 1) :=
  List.flatten
    [[.start (.render 1)], List.replicate 27 (.exec true),
      [.complete firstEntry, .start (.render 2)], List.replicate 36 (.exec true),
      [.consume 0 (.acquire .output) true, .consume 0 .proceed true,
        .complete ⟨.canvas, 1⟩, .start (.render 3)], List.replicate 38 (.exec true),
      [.complete ⟨.canvas, 2⟩, .start (.render 4)], List.replicate 40 (.exec true),
      [.consume 0 (.acquire .output) true, .consume 0 .proceed true,
        .complete ⟨.canvas, 3⟩, .start (.render 5)], List.replicate 38 (.exec true)]

theorem output_mailbox_chronological_twice :
    ∃ state : CanvasState 1,
      state.outputAcquired = [1, 3] ∧ state.outputDropped = [(2, 3)] ∧
        (state.mailboxes .output).count = 1 ∧
        state.outputAcquired.Pairwise (· ≤ ·) ∧
        (∀ pair ∈ state.outputDropped, pair.1 ≤ pair.2) ∧
        (state.mailboxes .output).published =
          (state.mailboxes .output).consumed + (state.mailboxes .output).dropped + 1 := by
  have computed :
      (System.run (System.guarded Punctual (CanvasState.next plainConfig)) (init 1)
        acquireTwice).map (fun state =>
          (state.outputAcquired, state.outputDropped, (state.mailboxes .output).count)) =
        some ([1, 3], [(2, 3)], 1) := by
    decide +kernel
  obtain ⟨state, runs, fields⟩ := Option.map_eq_some_iff.mp computed
  obtain ⟨acquired, dropped, count⟩ :
      state.outputAcquired = [1, 3] ∧ state.outputDropped = [(2, 3)] ∧
        (state.mailboxes .output).count = 1 := by
    simpa only [Prod.mk.injEq] using fields
  obtain ⟨ordered, forward, balanced⟩ :=
    output_mailbox_chronological (System.reachableWhen_of_run (.initial rfl) runs)
  rw [count] at balanced
  exact ⟨state, acquired, dropped, count, ordered, forward, balanced⟩

/-- Frame numbers increase strictly and fences signal in the order of submission. -/
def Orderly
    (state : CanvasState consumers) : CanvasStep consumers → Prop
  | .start (.render frame) | .start (.republish frame _) => state.frame < frame
  | .complete entry =>
      ∀ slot, (state.entries ⟨.canvas, slot⟩).submitted = true →
        (state.entries entry).frameNumber ≤ state.numberOf slot
  | _ => True

instance (state : CanvasState consumers) (step : CanvasStep consumers) :
    Decidable (state.Orderly step) :=
  match step with
  | .start (.render frame) => inferInstanceAs (Decidable (state.frame < frame))
  | .start (.republish frame _) => inferInstanceAs (Decidable (state.frame < frame))
  | .start .capture | .start .release | .consume _ _ _ | .exec _ =>
      inferInstanceAs (Decidable True)
  | .complete entry =>
      inferInstanceAs (Decidable (∀ slot, (state.entries ⟨.canvas, slot⟩).submitted = true →
        (state.entries entry).frameNumber ≤ state.numberOf slot))

/-- The first two renders complete while a poll is between their entries. -/
def completeBehindPoll : List (CanvasStep 1) :=
  List.flatten
    [[.start (.render 1)], List.replicate 27 (.exec true),
      [.start (.render 2)], List.replicate 28 (.exec true),
      [.start (.render 3), .exec true, .exec true, .complete ⟨.canvas, 0⟩,
        .complete ⟨.canvas, 1⟩], List.replicate 35 (.exec true),
      [.consume 0 (.acquire .output) true, .consume 0 .proceed true, .start (.render 4)],
      List.replicate 39 (.exec true), [.consume 0 (.acquire .output) true]]

/-- The second frame is acquired before the first. -/
theorem output_mailbox_goes_back :
    ∃ state : CanvasState 1,
      (canvasSystem 1 plainConfig).ReachableWhen Orderly state ∧
        state.outputAcquired = [2, 1] ∧ ¬ state.outputAcquired.Pairwise (· ≤ ·) := by
  have computed :
      (System.run (System.guarded Orderly (CanvasState.next plainConfig)) (init 1)
        completeBehindPoll).map outputAcquired = some [2, 1] := by
    decide +kernel
  obtain ⟨state, runs, acquired⟩ := Option.map_eq_some_iff.mp computed
  refine ⟨state, System.reachableWhen_of_run (.initial rfl) runs, acquired, ?_⟩
  rw [acquired]
  decide

end CanvasState
end Engine
end SbsServer
