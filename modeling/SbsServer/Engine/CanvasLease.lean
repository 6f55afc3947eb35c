import Mathlib.Algebra.Order.BigOperators.Group.Finset
import SbsServer.Engine.CanvasThread

/-!
# Leases on the native canvas

The references to an entry are the mailbox slots that contain it, the leases of
consumers, the reference that a transition keeps and those that a call in
progress has added or not yet given back.  In any interleaving the count of an
entry is the number of references to it, and an entry with references is ready:
it is neither chosen to be rendered into nor put into another state.
-/

namespace SbsServer
namespace Engine

open CLib

/-- How often a mailbox contains an entry. -/
def Mailbox.slotsOf
    (mailbox : Mailbox)
    (entry : EntryIdx) : Nat :=
  mailbox.contents.countP fun posted => posted.entryIdx = entry

/-- How many slots of the three mailboxes contain an entry. -/
def slotsIn
    (mailboxes : MailboxType → Mailbox)
    (entry : EntryIdx) : Nat :=
  (mailboxes .preview).slotsOf entry + (mailboxes .output).slotsOf entry +
    (mailboxes .snapshot).slotsOf entry

theorem slotsIn_update
    (mailboxes : MailboxType → Mailbox)
    (type : MailboxType)
    (mailbox : Mailbox)
    (entry : EntryIdx) :
    slotsIn (Function.update mailboxes type mailbox) entry +
        (mailboxes type).slotsOf entry =
      slotsIn mailboxes entry + mailbox.slotsOf entry := by
  cases type <;> simp [slotsIn, Function.update] <;> omega

namespace Mailbox

/-- A publication adds a slot and takes away what it drops. -/
theorem slotsOf_publish
    {mailbox : Mailbox}
    (valid : mailbox.Valid)
    (posted : MailboxEntry)
    (entry : EntryIdx) :
    (mailbox.publish posted).1.slotsOf entry = (if posted.entryIdx = entry then 1 else 0) ∧
      mailbox.slotsOf entry =
        ((mailbox.publish posted).2.toList.map fun old =>
          if old.entryIdx = entry then 1 else 0).sum := by
  obtain ⟨-, contents, dropped⟩ := publish_of_valid valid posted
  constructor
  · simp [slotsOf, contents, List.countP_singleton]
  · rw [slotsOf, dropped, contents_eq valid]
    cases mailbox.contents.head? <;> simp [List.countP_singleton]

/-- An acquisition takes away what it returns. -/
theorem slotsOf_acquire
    {mailbox : Mailbox}
    (valid : mailbox.Valid)
    (entry : EntryIdx) :
    mailbox.acquire.1.slotsOf entry = 0 ∧
      mailbox.slotsOf entry =
        (mailbox.acquire.2.map fun posted =>
          if posted.entryIdx = entry then 1 else 0).getD 0 := by
  obtain ⟨-, contents, acquired⟩ := acquire_of_valid valid
  rw [slotsOf, slotsOf, contents, acquired, contents_eq valid]
  cases mailbox.contents.head? <;> simp [List.countP_singleton]

end Mailbox

/-- The references that a call of the compositor thread has to an entry between
two of its accesses. -/
def Instr.credit
    (instr : Instr)
    (entry : EntryIdx) : Nat :=
  match instr with
  | .publishLocked _ own _ | .unrefLoad own | .unrefExchange own _ =>
      if own = entry then 1 else 0
  | _ => 0

/-- The instructions that capture an entry for a transition. -/
def Instr.captures : Instr → Bool
  | .captureState | .captureRef _ => true
  | _ => false

/-- The same for a call of a consumer. -/
def ConsumerCall.credit
    (call : ConsumerCall)
    (entry : EntryIdx) : Nat :=
  match call with
  | .acquired own | .unrefLoad own | .unrefExchange own _ => if own = entry then 1 else 0
  | .refState _ | .refAdd _ => 0

/-- The references of a consumer. -/
def CanvasConsumer.references
    (consumer : CanvasConsumer)
    (entry : EntryIdx) : Nat :=
  consumer.leases entry + (consumer.call.map (·.credit entry)).getD 0

namespace CanvasState

variable {consumers : Nat}

/-- How many mailbox slots contain an entry. -/
def slots
    (state : CanvasState consumers)
    (entry : EntryIdx) : Nat :=
  slotsIn state.mailboxes entry

/-- The reference that a transition keeps. -/
def cachedRef
    (state : CanvasState consumers)
    (entry : EntryIdx) : Nat :=
  if state.cached.map (EntryIdx.mk .canvas) = some entry then 1 else 0

/-- The leases on an entry that consumers and the transition hold. -/
def leases
    (state : CanvasState consumers)
    (entry : EntryIdx) : Nat :=
  state.cachedRef entry + ∑ who, (state.consumer who).leases entry

/-- All references to an entry. -/
def references
    (state : CanvasState consumers)
    (entry : EntryIdx) : Nat :=
  state.slots entry + state.cachedRef entry +
    (state.program.map (·.credit entry)).sum +
      ∑ who, (state.consumer who).references entry

/-- No call is in progress. -/
def Idle (state : CanvasState consumers) : Prop :=
  state.program = [] ∧ ∀ who, (state.consumer who).call = none

variable {state after : CanvasState consumers} {instr : Instr} {entry : EntryIdx}
variable {instrs : List Instr} {config : CanvasConfig} {succeeds : Bool}

/-- Between calls, the references are the mailbox slots and the leases. -/
theorem references_of_idle
    (idle : state.Idle)
    (entry : EntryIdx) :
    state.references entry = state.slots entry + state.leases entry := by
  obtain ⟨done, calls⟩ := idle
  simp only [references, leases, done, CanvasConsumer.references, calls]
  simp
  omega

/-- Mailbox slots and leases are references. -/
theorem slots_add_leases_le
    (state : CanvasState consumers)
    (entry : EntryIdx) :
    state.slots entry + state.leases entry ≤ state.references entry := by
  have each : ∑ who, (state.consumer who).leases entry ≤
      ∑ who, (state.consumer who).references entry := by
    apply Finset.sum_le_sum
    intro who _
    exact Nat.le_add_right _ _
  simp only [leases, references]
  omega

@[simp] theorem references_andThen
    (state : CanvasState consumers)
    (instrs : List Instr)
    (entry : EntryIdx) :
    (state.andThen instrs).references entry =
      state.references entry + (instrs.map (·.credit entry)).sum := by
  have slots : (state.andThen instrs).slots entry = state.slots entry := rfl
  have cachedRef : (state.andThen instrs).cachedRef entry = state.cachedRef entry := rfl
  simp only [references, slots, cachedRef]
  simp only [andThen, List.map_append, List.sum_append]
  omega

@[simp] theorem references_modify
    (state : CanvasState consumers)
    (changed : EntryIdx)
    (change : CanvasEntry → CanvasEntry)
    (entry : EntryIdx) :
    (state.modify changed change).references entry = state.references entry := rfl

@[simp] theorem references_storeState
    (state : CanvasState consumers)
    (changed : EntryIdx)
    (value : EntryState)
    (entry : EntryIdx) :
    (state.storeState changed value).references entry = state.references entry := rfl

@[simp] theorem references_storeRefs
    (state : CanvasState consumers)
    (changed : EntryIdx)
    (value : UInt32)
    (entry : EntryIdx) :
    (state.storeRefs changed value).references entry = state.references entry := rfl

/-- Only the references of the consumer itself change. -/
theorem references_setConsumer
    (state : CanvasState consumers)
    (who : Fin consumers)
    (consumer : CanvasConsumer)
    (entry : EntryIdx) :
    (state.setConsumer who consumer).references entry +
        (state.consumer who).references entry =
      state.references entry + consumer.references entry := by
  have slots : (state.setConsumer who consumer).slots entry = state.slots entry := rfl
  have cachedRef :
      (state.setConsumer who consumer).cachedRef entry = state.cachedRef entry := rfl
  have before :=
    Finset.add_sum_erase Finset.univ (fun other => (state.consumer other).references entry)
      (Finset.mem_univ who)
  have after :=
    Finset.add_sum_erase Finset.univ
      (fun other => ((state.setConsumer who consumer).consumer other).references entry)
      (Finset.mem_univ who)
  have others :
      ∑ other ∈ Finset.univ.erase who,
          ((state.setConsumer who consumer).consumer other).references entry =
        ∑ other ∈ Finset.univ.erase who, (state.consumer other).references entry := by
    apply Finset.sum_congr rfl
    intro other member
    simp [setConsumer, Function.update_of_ne (Finset.ne_of_mem_erase member)]
  have own : (state.setConsumer who consumer).consumer who = consumer := by
    simp [setConsumer]
  have program : (state.setConsumer who consumer).program = state.program := rfl
  rw [own, others] at after
  simp only [references, slots, cachedRef, program]
  omega

/-- Where only the mailboxes differ, so do the references. -/
theorem references_of_same
    {state after : CanvasState consumers}
    (cached : after.cached = state.cached)
    (program : after.program = state.program)
    (consumer : after.consumer = state.consumer)
    (entry : EntryIdx) :
    after.references entry + state.slots entry =
      state.references entry + after.slots entry := by
  simp only [references, cachedRef, cached, program, consumer]
  omega

/-- A publication passes its reference on to the mailbox. -/
theorem references_post
    (state : CanvasState consumers)
    (type : MailboxType)
    (posted : MailboxEntry)
    (valid : (state.mailboxes type).Valid)
    (entry : EntryIdx) :
    (state.post type posted).references entry =
      state.references entry + if posted.entryIdx = entry then 1 else 0 := by
  obtain ⟨added, lost⟩ := Mailbox.slotsOf_publish valid posted entry
  have slots := slotsIn_update state.mailboxes type
    ((state.mailboxes type).publish posted).1 entry
  have credits :
      ((((state.mailboxes type).publish posted).2.toList.map fun old =>
          Instr.unrefLoad old.entryIdx).map (·.credit entry)).sum =
        (state.mailboxes type).slotsOf entry := by
    rw [lost, List.map_map]
    rfl
  let after : CanvasState consumers := { state with
    mailboxes := Function.update state.mailboxes type
      ((state.mailboxes type).publish posted).1 }
  have moved : after.references entry + slotsIn state.mailboxes entry =
      state.references entry + slotsIn after.mailboxes entry :=
    @references_of_same _ state after rfl rfl rfl entry
  have total : (state.post type posted).references entry =
      after.references entry + (state.mailboxes type).slotsOf entry := by
    rw [← credits]
    exact references_andThen _ _ entry
  have slotsAfter : slotsIn after.mailboxes entry =
      slotsIn (Function.update state.mailboxes type
        ((state.mailboxes type).publish posted).1) entry := rfl
  omega

/-- An acquisition passes the reference of the mailbox on to its caller. -/
theorem references_acquireLocked
    (state : CanvasState consumers)
    (who : Fin consumers)
    (type : MailboxType)
    (valid : (state.mailboxes type).Valid)
    (idle : (state.consumer who).call = none)
    (entry : EntryIdx) :
    (state.acquireLocked who type).references entry = state.references entry := by
  obtain ⟨emptied, lost⟩ := Mailbox.slotsOf_acquire valid entry
  have slots := slotsIn_update state.mailboxes type (state.mailboxes type).acquire.1 entry
  let after : CanvasState consumers := { state with
    mailboxes := Function.update state.mailboxes type (state.mailboxes type).acquire.1 }
  have moved : after.references entry + slotsIn state.mailboxes entry =
      state.references entry + slotsIn after.mailboxes entry :=
    @references_of_same _ state after rfl rfl rfl entry
  let call := (state.mailboxes type).acquire.2.map
    fun posted => ConsumerCall.acquired posted.entryIdx
  have passed : (state.acquireLocked who type).references entry +
        (state.consumer who).references entry =
      after.references entry + ((state.consumer who).goOn call).references entry :=
    references_setConsumer _ who _ entry
  have gained : ((state.consumer who).goOn call).references entry =
      (state.consumer who).references entry + (state.mailboxes type).slotsOf entry := by
    rw [lost]
    simp only [CanvasConsumer.references, CanvasConsumer.goOn, idle, call]
    cases (state.mailboxes type).acquire.2 <;> simp [ConsumerCall.credit]
  have slotsAfter : slotsIn after.mailboxes entry =
      slotsIn (Function.update state.mailboxes type
        (state.mailboxes type).acquire.1) entry := rfl
  omega

/-- What the compositor thread relies on at an instruction: an entry that it has
chosen has no references, and one that it is about to add a reference to is
ready. -/
def ReliesOn
    (state : CanvasState consumers) : Instr → Prop
  | .acquireFence ring n => state.references (state.candidate ring n) = 0
  | .claimState entry | .claimRefs entry | .reset entry | .begin entry | .finish entry
  | .renderingState entry | .renderingRefs entry | .submit entry | .failedRefs entry
  | .failedState entry => state.references entry = 0
  | .publishRef _ entry _ => (state.entries entry).state = .ready
  | .captureRef slot => (state.entries ⟨.canvas, slot⟩).state = .ready
  | _ => True

/-- What an instruction relies on stays while no entry gains its first reference and
the states and write indices stay. -/
theorem ReliesOn.mono
    (relies : state.ReliesOn instr)
    (unreferenced : ∀ entry, state.references entry = 0 → after.references entry = 0)
    (states : ∀ entry, (after.entries entry).state = (state.entries entry).state)
    (writeIdx : after.writeIdx = state.writeIdx) :
    after.ReliesOn instr := by
  have candidates : after.candidate = state.candidate := by
    funext ring n
    simp [candidate, writeIdx]
  cases instr with
  | acquireFence ring n =>
      simp only [ReliesOn, candidates] at relies ⊢
      exact unreferenced _ relies
  | publishRef type entry frameNumber => exact (states entry).trans relies
  | captureRef slot => exact (states _).trans relies
  | claimState entry => exact unreferenced _ relies
  | claimRefs entry => exact unreferenced _ relies
  | reset entry => exact unreferenced _ relies
  | begin entry => exact unreferenced _ relies
  | finish entry => exact unreferenced _ relies
  | renderingState entry => exact unreferenced _ relies
  | renderingRefs entry => exact unreferenced _ relies
  | submit entry => exact unreferenced _ relies
  | failedRefs entry => exact unreferenced _ relies
  | failedState entry => exact unreferenced _ relies
  | _ => trivial

/-- The invariant of all interleavings.  A transition captures one entry at a time
and keeps no other meanwhile. -/
structure Leased (state : CanvasState consumers) : Prop where
  mailboxes : ∀ type, (state.mailboxes type).Valid
  counted : ∀ entry,
    (state.entries entry).refcount = UInt32.ofNat (state.references entry)
  ready : ∀ entry,
    0 < state.references entry → (state.entries entry).state = .ready
  capturing : state.program.countP Instr.captures + state.cached.toList.length ≤ 1
  holding : ∀ who entry,
    (state.consumer who).call = some (.refState entry) ∨
      (state.consumer who).call = some (.refAdd entry) →
    0 < (state.consumer who).leases entry
  head : ∀ instr ∈ state.program.head?, state.ReliesOn instr
  tail : ∀ instr ∈ state.program.tail, ∀ other : CanvasState consumers,
    other.ReliesOn instr

/-- No count can overflow. -/
def Countable (state : CanvasState consumers) : Prop :=
  ∀ entry, state.references entry < 2 ^ 32

instance (state : CanvasState consumers) : Decidable state.Countable :=
  decidable_of_iff
    (∀ slot, state.references ⟨.canvas, slot⟩ < 2 ^ 32 ∧
      state.references ⟨.preview, slot⟩ < 2 ^ 32)
    ⟨fun countable entry => match entry with
      | ⟨.canvas, slot⟩ => (countable slot).1
      | ⟨.preview, slot⟩ => (countable slot).2,
    fun countable _ => ⟨countable _, countable _⟩⟩

/-- An instruction that relies on nothing and has no references. -/
def Plain (consumers : Nat) (instr : Instr) : Prop :=
  (∀ state : CanvasState consumers, state.ReliesOn instr) ∧
    (∀ entry, instr.credit entry = 0) ∧ instr.captures = false

theorem plain_of_opens
    (opens : instr.opens = true) :
    Plain consumers instr := by
  cases instr with
  | pollState entry => exact ⟨fun _ => trivial, fun _ => rfl, rfl⟩
  | acquireState ring n => exact ⟨fun _ => trivial, fun _ => rfl, rfl⟩
  | republishState orRender => exact ⟨fun _ => trivial, fun _ => rfl, rfl⟩
  | _ => cases opens

theorem plain_publications
    {frameNumber : UInt64}
    (member : instr ∈ publications entry frameNumber) :
    Plain consumers instr := by
  unfold publications at member
  split at member <;>
    simp only [List.mem_cons, List.not_mem_nil, or_false] at member <;>
    rcases member with rfl | rfl <;>
    exact ⟨fun _ => trivial, fun _ => rfl, rfl⟩

theorem countP_captures
    (none : ∀ instr ∈ instrs, instr.captures = false) :
    instrs.countP Instr.captures = 0 := by
  rw [List.countP_eq_zero]
  intro instr member captures
  rw [none instr member] at captures
  cases captures

/-- The references that plain instructions have. -/
theorem credit_of_plain
    (plain : ∀ instr ∈ instrs, Plain consumers instr)
    (entry : EntryIdx) :
    (instrs.map (·.credit entry)).sum = 0 := by
  apply List.sum_eq_zero
  intro credit member
  obtain ⟨instr, inside, rfl⟩ := List.mem_map.mp member
  exact (plain instr inside).2.1 entry

/-! ## Steps of the compositor thread -/

/-- The invariant once the next instruction is taken off the program. -/
structure Taken
    (state : CanvasState consumers)
    (instr : Instr) : Prop where
  mailboxes : ∀ type, (state.mailboxes type).Valid
  counted : ∀ entry, (state.entries entry).refcount =
    UInt32.ofNat (state.references entry + instr.credit entry)
  ready : ∀ entry, 0 < state.references entry + instr.credit entry →
    (state.entries entry).state = .ready
  capturing :
    (instr :: state.program).countP Instr.captures + state.cached.toList.length ≤ 1
  holding : ∀ who entry,
    (state.consumer who).call = some (.refState entry) ∨
      (state.consumer who).call = some (.refAdd entry) →
    0 < (state.consumer who).leases entry
  relies : state.ReliesOn instr
  free : ∀ later ∈ state.program, ∀ other : CanvasState consumers, other.ReliesOn later
  countable : ∀ entry, state.references entry + instr.credit entry < 2 ^ 32

/-- What a step of the compositor thread must establish for the invariant. -/
theorem leased_push
    (mailboxes : ∀ type, (state.mailboxes type).Valid)
    (counted : ∀ entry, (state.entries entry).refcount =
      UInt32.ofNat (state.references entry + (instrs.map (·.credit entry)).sum))
    (ready : ∀ entry, 0 < state.references entry + (instrs.map (·.credit entry)).sum →
      (state.entries entry).state = .ready)
    (capturing :
      (instrs ++ state.program).countP Instr.captures + state.cached.toList.length ≤ 1)
    (holding : ∀ who entry,
      (state.consumer who).call = some (.refState entry) ∨
        (state.consumer who).call = some (.refAdd entry) →
      0 < (state.consumer who).leases entry)
    (head : ∀ first ∈ instrs.head?, (state.andThen instrs).ReliesOn first)
    (tail : ∀ later ∈ instrs.tail, ∀ other : CanvasState consumers, other.ReliesOn later)
    (free : ∀ later ∈ state.program, ∀ other : CanvasState consumers,
      other.ReliesOn later) :
    (state.andThen instrs).Leased where
  mailboxes := mailboxes
  counted := by
    intro entry
    rw [references_andThen]
    exact counted entry
  ready := by
    intro entry referenced
    rw [references_andThen] at referenced
    exact ready entry referenced
  capturing := capturing
  holding := holding
  head := by
    cases instrs with
    | nil =>
        intro first member
        exact free first (List.mem_of_mem_head? member) _
    | cons first rest =>
        intro other member
        exact head other member
  tail := by
    intro later member other
    cases instrs with
    | nil => exact free later (List.mem_of_mem_tail member) other
    | cons first rest =>
        rcases List.mem_append.mp member with pushed | waiting
        · exact tail later pushed other
        · exact free later waiting other

/-- The same for an instruction that was taken off the program. -/
theorem Taken.leased_step
    (taken : state.Taken instr)
    (mailboxes : ∀ type, (after.mailboxes type).Valid)
    (program : after.program = state.program)
    (consumer : after.consumer = state.consumer)
    (counted : ∀ entry, (after.entries entry).refcount =
      UInt32.ofNat (after.references entry + (instrs.map (·.credit entry)).sum))
    (ready : ∀ entry, 0 < after.references entry + (instrs.map (·.credit entry)).sum →
      (after.entries entry).state = .ready)
    (capturing :
      (instrs ++ state.program).countP Instr.captures + after.cached.toList.length ≤ 1)
    (head : ∀ first ∈ instrs.head?, (after.andThen instrs).ReliesOn first)
    (tail : ∀ later ∈ instrs.tail, ∀ other : CanvasState consumers, other.ReliesOn later) :
    (after.andThen instrs).Leased := by
  apply leased_push mailboxes counted ready _ _ head tail
  · rw [program]
    exact taken.free
  · rw [program]
    exact capturing
  · rw [consumer]
    exact taken.holding

/-- A step that keeps the counts and the references, and the readiness of what is
referenced, keeps the invariant. -/
theorem Taken.leased_andThen
    {state after : CanvasState consumers}
    {instr : Instr}
    {instrs : List Instr}
    (taken : state.Taken instr)
    (mailboxes : after.mailboxes = state.mailboxes)
    (program : after.program = state.program)
    (cached : after.cached = state.cached)
    (consumer : after.consumer = state.consumer)
    (references : ∀ entry,
      after.references entry + (instrs.map (·.credit entry)).sum =
        state.references entry + instr.credit entry)
    (refcount : ∀ entry, (after.entries entry).refcount = (state.entries entry).refcount)
    (ready : ∀ entry, 0 < state.references entry + instr.credit entry →
      (after.entries entry).state = .ready)
    (captures : instrs.countP Instr.captures ≤ [instr].countP Instr.captures)
    (head : ∀ first ∈ instrs.head?, (after.andThen instrs).ReliesOn first)
    (tail : ∀ later ∈ instrs.tail, ∀ other : CanvasState consumers, other.ReliesOn later) :
    (after.andThen instrs).Leased := by
  apply taken.leased_step (by rw [mailboxes]; exact taken.mailboxes) program consumer
  · intro entry
    rw [references]
    exact (refcount entry).trans (taken.counted entry)
  · intro entry referenced
    rw [references] at referenced
    exact ready entry referenced
  · have capturing := taken.capturing
    rw [← List.singleton_append, List.countP_append] at capturing
    rw [List.countP_append, cached]
    omega
  · exact head
  · exact tail

/-- Plain instructions may be put in front where the entries stay. -/
theorem Taken.leased_plain_after
    (taken : state.Taken instr)
    (mailboxes : after.mailboxes = state.mailboxes)
    (program : after.program = state.program)
    (cached : after.cached = state.cached)
    (consumer : after.consumer = state.consumer)
    (references : ∀ entry, after.references entry = state.references entry)
    (entries : after.entries = state.entries)
    (none : ∀ entry, instr.credit entry = 0)
    (plain : ∀ pushed ∈ instrs, Plain consumers pushed) :
    (after.andThen instrs).Leased := by
  apply taken.leased_andThen mailboxes program cached consumer
  · intro entry
    rw [credit_of_plain plain, none, references]
  · intro entry
    rw [entries]
  · rw [entries]
    exact taken.ready
  · rw [countP_captures fun later member => (plain later member).2.2]
    exact Nat.zero_le _
  · intro first member
    exact (plain first (List.mem_of_mem_head? member)).1 _
  · intro later member other
    exact (plain later (List.mem_of_mem_tail member)).1 other

/-- Plain instructions may be put in front. -/
theorem Taken.leased_plain
    {state : CanvasState consumers}
    {instr : Instr}
    {instrs : List Instr}
    (taken : state.Taken instr)
    (none : ∀ entry, instr.credit entry = 0)
    (plain : ∀ pushed ∈ instrs, Plain consumers pushed) :
    (state.andThen instrs).Leased :=
  taken.leased_plain_after rfl rfl rfl rfl (fun _ => rfl) rfl none plain

/-- A plain instruction may be put in front. -/
theorem Taken.leased_single
    {next : Instr}
    (taken : state.Taken instr)
    (none : ∀ entry, instr.credit entry = 0)
    (plain : Plain consumers next) :
    (state.andThen [next]).Leased :=
  taken.leased_plain none fun _ member => List.mem_singleton.mp member ▸ plain

/-- Instructions that open a call may be put in front. -/
theorem Taken.leased_opening
    (taken : state.Taken instr)
    (none : ∀ entry, instr.credit entry = 0)
    (opening : ∀ pushed ∈ instrs, pushed.opens = true) :
    (state.andThen instrs).Leased :=
  taken.leased_plain none fun pushed member => plain_of_opens (opening pushed member)

/-- The count of an entry without references is 0. -/
theorem Taken.refcount_eq_zero
    (taken : state.Taken instr)
    (none : state.references entry + instr.credit entry = 0) :
    (state.entries entry).refcount = 0 := by
  rw [taken.counted, none]
  rfl

/-- An entry whose count is 0 has no references. -/
theorem Taken.unreferenced
    (taken : state.Taken instr)
    (zero : (state.entries entry).refcount = 0) :
    state.references entry + instr.credit entry = 0 := by
  have counted := taken.counted entry
  rw [zero] at counted
  have values := congrArg UInt32.toNat counted
  rw [UInt32.toNat_ofNat_of_lt' (taken.countable entry)] at values
  exact values.symm

/-- An instruction that relies at most on an entry without references. -/
def ReliesAtMost (consumers : Nat) (entry : EntryIdx) (instr : Instr) : Prop :=
  (∀ state : CanvasState consumers, state.references entry = 0 → state.ReliesOn instr) ∧
    (∀ other, instr.credit other = 0) ∧ instr.captures = false

theorem ReliesAtMost.reliesOn
    {next : Instr}
    (relies : ReliesAtMost consumers entry next)
    (unreferenced : state.references entry = 0) :
    (state.andThen [next]).ReliesOn next := by
  apply relies.1
  rw [references_andThen, unreferenced]
  simp [relies.2.1]

/-- An entry that was chosen may be changed, except for its count. -/
theorem Taken.leased_claimed
    {change : CanvasEntry → CanvasEntry}
    (taken : state.Taken instr)
    (none : ∀ other, instr.credit other = 0)
    (unreferenced : state.references entry = 0)
    (refcount : (change (state.entries entry)).refcount = 0)
    (short : instrs.length ≤ 1)
    (relies : ∀ next ∈ instrs, ReliesAtMost consumers entry next) :
    ((state.modify entry change).andThen instrs).Leased := by
  have credits : ∀ other, (instrs.map (·.credit other)).sum = 0 := by
    intro other
    apply List.sum_eq_zero
    intro credit member
    obtain ⟨next, inside, rfl⟩ := List.mem_map.mp member
    exact (relies next inside).2.1 other
  refine @Taken.leased_andThen _ state (state.modify entry change) instr instrs taken rfl rfl
    rfl rfl ?_ ?_ ?_ ?_ ?_ ?_
  · intro other
    rw [credits, none, references_modify]
  · intro other
    by_cases same : other = entry
    · subst same
      rw [taken.refcount_eq_zero (by rw [none, unreferenced]), entries_modify_self]
      exact refcount
    · rw [entries_modify_of_ne same]
  · intro other referenced
    have apart : other ≠ entry := by
      rintro rfl
      rw [none, unreferenced] at referenced
      omega
    rw [entries_modify_of_ne apart]
    exact taken.ready other referenced
  · rw [countP_captures fun later member => (relies later member).2.2]
    exact Nat.zero_le _
  · intro first member
    apply (relies first (List.mem_of_mem_head? member)).1
    rw [references_andThen, credits, references_modify, unreferenced]
  · intro later member
    have empty : instrs.tail = [] := List.eq_nil_of_length_eq_zero (by simp; omega)
    rw [empty] at member
    cases member

/-- The same without a change. -/
theorem Taken.leased_unchanged
    (taken : state.Taken instr)
    (none : ∀ other, instr.credit other = 0)
    (unreferenced : state.references entry = 0)
    (short : instrs.length ≤ 1)
    (relies : ∀ next ∈ instrs, ReliesAtMost consumers entry next) :
    (state.andThen instrs).Leased := by
  have same : state.modify entry id = state := by
    simp [modify]
  rw [← same]
  apply taken.leased_claimed none unreferenced _ short relies
  exact taken.refcount_eq_zero (by rw [none, unreferenced])

/-- A chosen entry is changed, and one instruction follows. -/
theorem Taken.leased_changes
    {next : Instr}
    {change : CanvasEntry → CanvasEntry}
    (taken : state.Taken instr)
    (none : ∀ other, instr.credit other = 0)
    (unreferenced : state.references entry = 0)
    (refcount : (change (state.entries entry)).refcount = 0)
    (relies : ReliesAtMost consumers entry next) :
    ((state.modify entry change).andThen [next]).Leased := by
  refine taken.leased_claimed none unreferenced refcount (Nat.le_refl _) ?_
  intro later member
  rw [List.mem_singleton.mp member]
  exact relies

/-- One instruction follows that goes on with a chosen entry. -/
theorem Taken.leased_continues
    {next : Instr}
    (taken : state.Taken instr)
    (none : ∀ other, instr.credit other = 0)
    (unreferenced : state.references entry = 0)
    (relies : ReliesAtMost consumers entry next) :
    (state.andThen [next]).Leased := by
  refine taken.leased_unchanged none unreferenced (Nat.le_refl _) ?_
  intro later member
  rw [List.mem_singleton.mp member]
  exact relies

theorem reliesAtMost_releaseFailed
    (member : instr ∈ releaseFailed entry) :
    ReliesAtMost consumers entry instr := by
  unfold releaseFailed at member
  split at member <;>
    rw [List.mem_singleton.mp member] <;>
    exact ⟨fun _ unreferenced => unreferenced, fun _ => rfl, rfl⟩

theorem length_submitNativePreview (config : CanvasConfig) :
    (submitNativePreview config).length ≤ 1 := by
  unfold submitNativePreview
  split <;> simp

theorem length_releaseFailed (entry : EntryIdx) :
    (releaseFailed entry).length ≤ 1 := by
  unfold releaseFailed
  split <;> simp

section

variable (taken : state.Taken instr)
include taken

/-- An instruction may do nothing. -/
theorem Taken.leased_nothing
    (none : ∀ entry, instr.credit entry = 0) :
    state.Leased :=
  @Taken.leased_plain _ _ _ [] taken none fun _ member => nomatch member

/-- The count of an entry that the call has a reference to is not 0. -/
theorem Taken.refcount_pos
    (own : 0 < instr.credit entry) :
    0 < (state.entries entry).refcount := by
  by_contra zero
  have := taken.unreferenced (UInt32.le_zero_iff.mp (UInt32.not_lt.mp zero))
  omega

/-- An instruction that takes over what the one before holds may be put in front. -/
theorem Taken.leased_next
    {next : Instr}
    (credit : ∀ entry, next.credit entry = instr.credit entry)
    (captures : [next].countP Instr.captures ≤ [instr].countP Instr.captures)
    (relies : (state.andThen [next]).ReliesOn next) :
    (state.andThen [next]).Leased := by
  apply taken.leased_andThen rfl rfl rfl rfl
  · intro entry
    rw [List.map_singleton, List.sum_singleton, credit]
  · intro entry
    rfl
  · exact taken.ready
  · exact captures
  · intro first member
    rw [← Option.some.inj member]
    exact relies
  · nofun

/-- An entry that was chosen may be given up. -/
theorem Taken.leased_releaseFailed
    (none : ∀ other, instr.credit other = 0)
    (unreferenced : state.references entry = 0) :
    (state.andThen (releaseFailed entry)).Leased :=
  taken.leased_unchanged none unreferenced (length_releaseFailed entry) fun _ =>
    reliesAtMost_releaseFailed

/-- Adding a reference counts it. -/
theorem Taken.counted_addRef
    (none : ∀ other, instr.credit other = 0)
    (entry other : EntryIdx) :
    ((state.storeRefs entry ((state.entries entry).refcount + 1)).entries other).refcount =
      UInt32.ofNat (state.references other + if entry = other then 1 else 0) := by
  have counted := taken.counted other
  rw [none, Nat.add_zero] at counted
  by_cases same : entry = other
  · subst same
    rw [storeRefs, entries_modify_self, counted]
    simp [UInt32.ofNat_add]
  · rw [storeRefs, entries_modify_of_ne (Ne.symm same), counted]
    simp [same]

/-- Adding a reference to a ready entry leaves what is referenced ready. -/
theorem Taken.ready_addRef
    (none : ∀ other, instr.credit other = 0)
    {entry other : EntryIdx}
    (ready : (state.entries entry).state = .ready)
    (referenced : 0 < state.references other + if entry = other then 1 else 0)
    (refs : UInt32) :
    ((state.storeRefs entry refs).entries other).state = .ready := by
  by_cases same : entry = other
  · subst same
    rw [storeRefs, entries_modify_self]
    exact ready
  · rw [storeRefs, entries_modify_of_ne (Ne.symm same)]
    apply taken.ready
    rw [if_neg same] at referenced
    rwa [none]

end

/-- What a slot held is to be unreferenced when an entry is posted. -/
theorem Taken.leased_publishLocked
    {type : MailboxType}
    {frameNumber : UInt64}
    (taken : state.Taken (.publishLocked type entry frameNumber)) :
    (state.exec config succeeds (.publishLocked type entry frameNumber)).Leased := by
  have total : ∀ other, (state.post type ⟨entry, frameNumber⟩).references other =
      state.references other + Instr.credit (.publishLocked type entry frameNumber) other :=
    references_post state type ⟨entry, frameNumber⟩ (taken.mailboxes type)
  refine taken.leased_step ?_ rfl rfl ?_ ?_ ?_ ?_ ?_
  · intro other
    by_cases same : other = type
    · subst same
      simpa using (Mailbox.publish_of_valid (taken.mailboxes other) _).1
    · simpa [Function.update_of_ne same] using taken.mailboxes other
  · intro other
    rw [← references_andThen]
    exact (taken.counted other).trans (by rw [← total]; rfl)
  · intro other referenced
    rw [← references_andThen] at referenced
    exact taken.ready other (by rw [← total]; exact referenced)
  · rw [List.countP_append, countP_captures, Nat.zero_add]
    · exact taken.capturing
    · intro pushed member
      obtain ⟨old, -, rfl⟩ := List.mem_map.mp member
      rfl
  · intro first member
    obtain ⟨old, -, rfl⟩ := List.mem_map.mp (List.mem_of_mem_head? member)
    trivial
  · intro later member other
    obtain ⟨old, -, rfl⟩ := List.mem_map.mp (List.mem_of_mem_tail member)
    trivial

/-- A reference is dropped by an exchange. -/
theorem Taken.leased_unrefExchange
    {prev : UInt32}
    (taken : state.Taken (.unrefExchange entry prev)) :
    (state.exec config succeeds (.unrefExchange entry prev)).Leased := by
  have own : Instr.credit (.unrefExchange entry prev) entry = 1 := by simp [Instr.credit]
  have positive : 0 < (state.entries entry).refcount :=
    taken.refcount_pos (by rw [own]; exact Nat.one_pos)
  simp only [exec]
  split
  next exchanged =>
    have current : (state.entries entry).refcount = prev := by
      simp only [Bool.and_eq_true, beq_iff_eq] at exchanged
      exact exchanged.2
    change ((state.storeRefs entry (prev - 1)).andThen []).Leased
    refine taken.leased_step taken.mailboxes rfl rfl ?_ ?_ ?_ ?_ ?_
    · intro other
      have counted := taken.counted other
      by_cases same : entry = other
      · subst same
        rw [storeRefs, entries_modify_self, ← current, counted, own]
        simp [UInt32.ofNat_add]
      · rw [storeRefs, entries_modify_of_ne (Ne.symm same), counted]
        simp [Instr.credit, same]
    · intro other referenced
      have before := taken.ready other (by simp at referenced; omega)
      by_cases same : other = entry
      · subst same
        rw [storeRefs, entries_modify_self]
        exact before
      · rw [storeRefs, entries_modify_of_ne same]
        exact before
    · exact taken.capturing
    · simp
    · simp
  next =>
    exact taken.leased_next (fun _ => rfl) (Nat.le_refl _) trivial

/-- The capture takes a reference and keeps the entry. -/
theorem Taken.leased_captureRef
    {slot : Fin nativeCanvasRingSize}
    (taken : state.Taken (.captureRef slot)) :
    (state.exec config succeeds (.captureRef slot)).Leased := by
  have capturing := taken.capturing
  rw [List.countP_cons_of_pos rfl] at capturing
  have keptNone : state.cached = none := by
    cases cached : state.cached
    · rfl
    · rw [cached] at capturing
      simp at capturing
  have gained : ∀ other,
      (state.exec config succeeds (.captureRef slot)).references other =
        state.references other + if (⟨.canvas, slot⟩ : EntryIdx) = other then 1 else 0 := by
    intro other
    have before : state.cachedRef other = 0 := by
      simp [cachedRef, keptNone]
    have after : (state.exec config succeeds (.captureRef slot)).cachedRef other =
        if (⟨.canvas, slot⟩ : EntryIdx) = other then 1 else 0 := by
      simp [cachedRef, exec]
    have slots : (state.exec config succeeds (.captureRef slot)).slots other =
        state.slots other := rfl
    have program : (state.exec config succeeds (.captureRef slot)).program =
        state.program := rfl
    have consumer : (state.exec config succeeds (.captureRef slot)).consumer =
        state.consumer := rfl
    simp only [references, before, after, slots, program, consumer]
    omega
  change ((state.exec config succeeds (.captureRef slot)).andThen []).Leased
  refine taken.leased_step taken.mailboxes rfl rfl ?_ ?_ ?_ ?_ ?_
  · intro other
    rw [gained, List.map_nil, List.sum_nil, Nat.add_zero]
    exact taken.counted_addRef (fun _ => rfl) ⟨.canvas, slot⟩ other
  · intro other referenced
    rw [gained, List.map_nil, List.sum_nil, Nat.add_zero] at referenced
    exact taken.ready_addRef (fun _ => rfl) taken.relies referenced _
  · simp only [List.nil_append, exec, Option.toList_some, List.length_singleton]
    omega
  · simp
  · simp

/-- The compositor thread keeps the invariant. -/
theorem Taken.leased_exec
    (taken : state.Taken instr) :
    (state.exec config succeeds instr).Leased := by
  cases instr with
  | pollState entry =>
      simp only [exec]
      split
      · exact taken.leased_single (fun _ => rfl) ⟨fun _ => trivial, fun _ => rfl, rfl⟩
      · exact taken.leased_nothing fun _ => rfl
  | pollFence entry =>
      simp only [exec]
      split
      · exact taken.leased_single (fun _ => rfl) ⟨fun _ => trivial, fun _ => rfl, rfl⟩
      · exact taken.leased_nothing fun _ => rfl
  | markReady entry frameNumber =>
      refine taken.leased_andThen rfl rfl rfl rfl (fun _ => rfl) ?_ ?_ ?_ ?_ ?_
      · intro other
        by_cases same : other = entry
        · rw [same, entries_modify_self]
        · rw [entries_modify_of_ne same]
      · intro other referenced
        by_cases same : other = entry
        · rw [same, entries_modify_self]
        · rw [entries_modify_of_ne same]
          exact taken.ready other referenced
      · simp [Instr.captures]
      · simp [ReliesOn]
      · simp
  | markLast entry frameNumber =>
      exact taken.leased_plain_after rfl rfl rfl rfl (fun _ => rfl) rfl (fun _ => rfl)
        fun _ => plain_publications
  | publishState type entry frameNumber =>
      simp only [exec]
      split
      next ready =>
        exact taken.leased_next (fun _ => rfl) (Nat.le_refl _) ready
      next => exact taken.leased_nothing fun _ => rfl
  | publishRef type entry frameNumber =>
      refine taken.leased_step taken.mailboxes rfl rfl ?_ ?_ ?_ ?_ ?_
      · exact taken.counted_addRef (fun _ => rfl) entry
      · intro other referenced
        exact taken.ready_addRef (fun _ => rfl) taken.relies referenced _
      · exact taken.capturing
      · simp [ReliesOn]
      · simp
  | publishLocked type entry frameNumber => exact taken.leased_publishLocked
  | unrefLoad entry =>
      simp only [exec]
      rw [if_pos (taken.refcount_pos (by simp [Instr.credit]))]
      exact taken.leased_next (fun _ => rfl) (Nat.le_refl _) trivial
  | unrefExchange entry prev => exact taken.leased_unrefExchange
  | acquireState ring n =>
      simp only [exec]
      split
      · exact taken.leased_single (fun _ => rfl) ⟨fun _ => trivial, fun _ => rfl, rfl⟩
      · exact taken.leased_nothing fun _ => rfl
  | acquireRefs ring n stored =>
      simp only [exec]
      split
      next chosen =>
        have zero : (state.entries (state.candidate ring n)).refcount = 0 := by
          simp only [Bool.and_eq_true, beq_iff_eq] at chosen
          exact chosen.1.2
        refine taken.leased_next (fun _ => rfl) (Nat.le_refl _) ?_
        change (state.andThen _).references (state.candidate ring n) = 0
        rw [references_andThen]
        exact taken.unreferenced zero
      next => exact taken.leased_single (fun _ => rfl) ⟨fun _ => trivial, fun _ => rfl, rfl⟩
  | acquireFence ring n =>
      simp only [exec]
      split
      next =>
        refine taken.leased_andThen rfl rfl rfl rfl (fun _ => rfl) (fun _ => rfl) taken.ready
          ?_ ?_ ?_
        · simp [Instr.captures]
        · intro first member
          rw [← Option.some.inj member]
          refine ReliesAtMost.reliesOn ?_ taken.relies
          exact ⟨fun _ => id, fun _ => rfl, rfl⟩
        · simp
      next => exact taken.leased_single (fun _ => rfl) ⟨fun _ => trivial, fun _ => rfl, rfl⟩
  | claimState entry =>
      exact taken.leased_changes (fun _ => rfl) taken.relies
        (taken.refcount_eq_zero taken.relies) ⟨fun _ => id, fun _ => rfl, rfl⟩
  | claimRefs entry =>
      exact taken.leased_changes (fun _ => rfl) taken.relies rfl
        ⟨fun _ => id, fun _ => rfl, rfl⟩
  | reset entry =>
      simp only [exec]
      split
      · refine taken.leased_changes (fun _ => rfl) taken.relies ?_
          ⟨fun _ => id, fun _ => rfl, rfl⟩
        exact taken.refcount_eq_zero taken.relies
      · exact taken.leased_releaseFailed (fun _ => rfl) taken.relies
  | begin entry =>
      simp only [exec]
      split
      · split
        · refine taken.leased_andThen rfl rfl rfl rfl (fun _ => rfl) (fun _ => rfl) taken.ready
            ?_ ?_ ?_
          · simp [Instr.captures]
          · intro first member
            rw [← Option.some.inj member]
            refine ReliesAtMost.reliesOn ?_ taken.relies
            exact ⟨fun _ => id, fun _ => rfl, rfl⟩
          · simp
        · exact taken.leased_continues (fun _ => rfl) taken.relies
            ⟨fun _ => id, fun _ => rfl, rfl⟩
      · exact taken.leased_releaseFailed (fun _ => rfl) taken.relies
  | finish entry =>
      simp only [exec]
      split
      · split
        · exact taken.leased_continues (fun _ => rfl) taken.relies
            ⟨fun _ => id, fun _ => rfl, rfl⟩
        · refine taken.leased_changes (fun _ => rfl) taken.relies ?_
            ⟨fun _ => id, fun _ => rfl, rfl⟩
          exact taken.refcount_eq_zero taken.relies
      · exact taken.leased_releaseFailed (fun _ => rfl) taken.relies
  | renderingState entry =>
      refine taken.leased_changes (fun _ => rfl) taken.relies ?_
        ⟨fun _ => id, fun _ => rfl, rfl⟩
      exact taken.refcount_eq_zero taken.relies
  | renderingRefs entry =>
      exact taken.leased_changes (fun _ => rfl) taken.relies rfl
        ⟨fun _ => id, fun _ => rfl, rfl⟩
  | submit entry =>
      simp only [exec]
      split
      · split
        · refine taken.leased_claimed (fun _ => rfl) taken.relies ?_ ?_ ?_
          · exact taken.refcount_eq_zero taken.relies
          · split
            · exact length_submitNativePreview config
            · simp
          · intro next member
            split at member
            · have plain : Plain consumers next :=
                plain_of_opens (opens_of_mem_submitNativePreview member)
              exact ⟨fun _ _ => plain.1 _, plain.2⟩
            · cases member
        · have submitted : ((state.modify entry fun stored =>
              { stored with submitted := true }).andThen []).Leased := by
            refine taken.leased_claimed (fun _ => rfl) taken.relies ?_ (by simp) (by simp)
            exact taken.refcount_eq_zero taken.relies
          exact ⟨submitted.mailboxes, submitted.counted, submitted.ready,
            submitted.capturing, submitted.holding, submitted.head, submitted.tail⟩
      · exact taken.leased_releaseFailed (fun _ => rfl) taken.relies
  | failedRefs entry =>
      exact taken.leased_changes (fun _ => rfl) taken.relies rfl
        ⟨fun _ => id, fun _ => rfl, rfl⟩
  | failedState entry =>
      change ((state.storeState entry .free).andThen []).Leased
      refine taken.leased_claimed (fun _ => rfl) taken.relies ?_ (by simp) (by simp)
      exact taken.refcount_eq_zero taken.relies
  | republishState orRender =>
      simp only [exec]
      split
      · exact taken.leased_opening (fun _ => rfl) fun _ => opens_of_mem_notRepublished
      · split
        · exact taken.leased_single (fun _ => rfl) ⟨fun _ => trivial, fun _ => rfl, rfl⟩
        · exact taken.leased_opening (fun _ => rfl) fun _ => opens_of_mem_notRepublished
  | republishFence entry orRender =>
      simp only [exec]
      split
      · refine taken.leased_plain_after rfl rfl rfl rfl (fun _ => rfl) rfl (fun _ => rfl) ?_
        intro pushed member
        rcases List.mem_append.mp member with before | last
        · rcases List.mem_append.mp before with publication | preview
          · exact plain_publications publication
          · split at preview
            · rw [List.mem_singleton.mp preview]
              exact ⟨fun _ => trivial, fun _ => rfl, rfl⟩
            · cases preview
        · rw [List.mem_singleton.mp last]
          exact ⟨fun _ => trivial, fun _ => rfl, rfl⟩
      · exact taken.leased_opening (fun _ => rfl) fun _ => opens_of_mem_notRepublished
  | republishPreview =>
      simp only [exec]
      split
      · exact taken.leased_opening (fun _ => rfl) fun _ => opens_of_mem_submitNativePreview
      · split
        · exact taken.leased_single (fun _ => rfl) ⟨fun _ => trivial, fun _ => rfl, rfl⟩
        · exact taken.leased_nothing fun _ => rfl
  | republishPreviewFence entry =>
      simp only [exec]
      split
      · exact taken.leased_plain (fun _ => rfl) fun _ => plain_publications
      · exact taken.leased_nothing fun _ => rfl
  | republishEnd orRender =>
      simp only [exec]
      split
      · exact taken.leased_nothing fun _ => rfl
      · exact taken.leased_opening (fun _ => rfl) fun _ => opens_of_mem_notRepublished
  | captureState =>
      simp only [exec]
      split
      · exact taken.leased_nothing fun _ => rfl
      next slot _ =>
        split
        next ready =>
          exact taken.leased_next (fun _ => rfl) (Nat.le_refl _) ready
        next => exact taken.leased_nothing fun _ => rfl
  | captureRef slot => exact taken.leased_captureRef

/-- The invariant without the instruction at the front. -/
theorem Leased.taken
    {rest : List Instr}
    (leased : state.Leased)
    (countable : state.Countable)
    (program : state.program = instr :: rest) :
    ({ state with program := rest } : CanvasState consumers).Taken instr := by
  have total : ∀ entry, state.references entry =
      ({ state with program := rest } : CanvasState consumers).references entry +
        instr.credit entry := by
    intro entry
    simp only [references, program, List.map_cons, List.sum_cons, slots, cachedRef]
    omega
  refine ⟨leased.mailboxes, ?_, ?_, ?_, leased.holding, ?_, ?_, ?_⟩
  · intro entry
    rw [← total]
    exact leased.counted entry
  · intro entry
    rw [← total]
    exact leased.ready entry
  · rw [← program]
    exact leased.capturing
  · have relies := leased.head instr (by rw [program]; rfl)
    refine relies.mono ?_ (fun _ => rfl) rfl
    intro entry none
    rw [total] at none
    omega
  · intro later member
    apply leased.tail later
    rw [program]
    exact member
  · intro entry
    rw [← total]
    exact countable entry

theorem Leased.execNext
    (leased : state.Leased)
    (countable : state.Countable)
    (stepped : state.execNext config succeeds = some after) :
    after.Leased := by
  unfold CanvasState.execNext at stepped
  split at stepped
  · cases stepped
  next instr rest program =>
    rw [← Option.some.inj stepped]
    exact (leased.taken countable program).leased_exec

/-- Starting to work off the instructions of a call keeps the invariant. -/
theorem Leased.start_opening
    (leased : state.Leased)
    (done : state.program = [])
    (opening : ∀ instr ∈ instrs, instr.opens = true)
    (frame : UInt64) :
    (({ state with frame := frame } : CanvasState consumers).andThen instrs).Leased := by
  have plain : ∀ instr ∈ instrs, Plain consumers instr :=
    fun instr member => plain_of_opens (opening instr member)
  apply leased_push
  · exact leased.mailboxes
  · intro entry
    rw [credit_of_plain plain]
    exact leased.counted entry
  · intro entry referenced
    rw [credit_of_plain plain] at referenced
    exact leased.ready entry referenced
  · rw [List.countP_append, countP_captures fun instr member => (plain instr member).2.2]
    rw [Nat.zero_add]
    exact leased.capturing
  · exact leased.holding
  · intro first member
    exact (plain first (List.mem_of_mem_head? member)).1 _
  · intro later member other
    exact (plain later (List.mem_of_mem_tail member)).1 other
  · intro later member
    change later ∈ state.program at member
    rw [done] at member
    cases member

/-- Starting to give back what a transition keeps keeps the invariant. -/
theorem Leased.start_release
    {state : CanvasState consumers}
    {instrs : List Instr}
    (leased : state.Leased)
    (done : state.program = [])
    (single : instrs.length ≤ 1)
    (free : ∀ instr ∈ instrs,
      (∀ other : CanvasState consumers, other.ReliesOn instr) ∧
        ∀ entry, instr.credit entry = 0) :
    (({ state with cached := none } : CanvasState consumers).andThen
      (state.releaseCached ++ instrs)).Leased := by
  have moved : ∀ entry,
      ({ state with cached := none } : CanvasState consumers).references entry +
          ((state.releaseCached ++ instrs).map (·.credit entry)).sum =
        state.references entry := by
    intro entry
    have none : (instrs.map (·.credit entry)).sum = 0 := by
      apply List.sum_eq_zero
      intro credit member
      obtain ⟨instr, inside, rfl⟩ := List.mem_map.mp member
      exact (free instr inside).2 entry
    have kept : (state.releaseCached.map (·.credit entry)).sum = state.cachedRef entry := by
      unfold releaseCached cachedRef
      cases state.cached <;> simp [Instr.credit]
    rw [List.map_append, List.sum_append, kept, none]
    simp only [references, slots, cachedRef]
    simp
    omega
  have relies : ∀ instr ∈ state.releaseCached ++ instrs,
      ∀ other : CanvasState consumers, other.ReliesOn instr := by
    intro instr member other
    rcases List.mem_append.mp member with release | last
    · obtain ⟨slot, -, rfl⟩ := List.mem_map.mp release
      trivial
    · exact (free instr last).1 other
  apply leased_push
  · exact leased.mailboxes
  · intro entry
    rw [moved]
    exact leased.counted entry
  · intro entry referenced
    rw [moved] at referenced
    exact leased.ready entry referenced
  · have release : state.releaseCached.countP Instr.captures = 0 := by
      apply countP_captures
      intro instr member
      obtain ⟨slot, -, rfl⟩ := List.mem_map.mp member
      rfl
    have last : instrs.countP Instr.captures ≤ instrs.length := List.countP_le_length
    simp only [List.countP_append, release, done, List.countP_nil, Option.toList_none,
      List.length_nil]
    omega
  · exact leased.holding
  · intro first member
    exact relies first (List.mem_of_mem_head? member) _
  · intro later member
    exact relies later (List.mem_of_mem_tail member)
  · intro later member
    change later ∈ state.program at member
    rw [done] at member
    cases member

/-- Starting a call keeps the invariant. -/
theorem Leased.start
    {call : CompositorCall}
    (leased : state.Leased)
    (stepped : state.start config call = some after) :
    after.Leased := by
  unfold CanvasState.start at stepped
  split at stepped
  next done =>
    cases call with
    | render frame =>
        rw [← Option.some.inj stepped]
        exact leased.start_opening done (fun _ => opens_of_mem_renderNativeFrame) frame
    | republish frame orRender =>
        rw [← Option.some.inj stepped]
        exact leased.start_opening done (fun _ => opens_of_mem_republishLast) frame
    | capture =>
        rw [← Option.some.inj stepped]
        apply leased.start_release done (by simp)
        simp [ReliesOn, Instr.credit]
    | release =>
        rw [← Option.some.inj stepped]
        have released := @Leased.start_release _ _ [] leased done (by simp) (by simp)
        rwa [List.append_nil] at released
  next => cases stepped

/-! ## Steps of the consumers and of the GPU -/

/-- A step of another thread keeps the invariant if no entry gains its first
reference by it. -/
theorem Leased.of_other
    {state after : CanvasState consumers}
    (leased : state.Leased)
    (mailboxes : ∀ type, (after.mailboxes type).Valid)
    (program : after.program = state.program)
    (cached : after.cached = state.cached)
    (writeIdx : after.writeIdx = state.writeIdx)
    (states : ∀ entry, (after.entries entry).state = (state.entries entry).state)
    (counted : ∀ entry,
      (after.entries entry).refcount = UInt32.ofNat (after.references entry))
    (unreferenced : ∀ entry, state.references entry = 0 → after.references entry = 0)
    (holding : ∀ who entry,
      (after.consumer who).call = some (.refState entry) ∨
        (after.consumer who).call = some (.refAdd entry) →
      0 < (after.consumer who).leases entry) :
    after.Leased where
  mailboxes := mailboxes
  counted := counted
  ready := by
    intro entry referenced
    rw [states]
    apply leased.ready
    by_contra none
    rw [unreferenced entry (Nat.eq_zero_of_not_pos none)] at referenced
    exact Nat.lt_irrefl 0 referenced
  capturing := by
    rw [program, cached]
    exact leased.capturing
  holding := holding
  head := by
    intro instr member
    rw [program] at member
    exact (leased.head instr member).mono unreferenced states writeIdx
  tail := by
    rw [program]
    exact leased.tail

theorem Leased.holding_setConsumer
    {who : Fin consumers}
    {consumer : CanvasConsumer}
    (leased : state.Leased)
    (holding : ∀ entry,
      consumer.call = some (.refState entry) ∨ consumer.call = some (.refAdd entry) →
      0 < consumer.leases entry)
    (other : Fin consumers)
    (entry : EntryIdx)
    (calls : ((state.setConsumer who consumer).consumer other).call = some (.refState entry) ∨
      ((state.setConsumer who consumer).consumer other).call = some (.refAdd entry)) :
    0 < ((state.setConsumer who consumer).consumer other).leases entry := by
  by_cases own : other = who
  · subst own
    simp only [CanvasState.setConsumer, Function.update_self] at calls ⊢
    exact holding entry calls
  · simp only [CanvasState.setConsumer, Function.update_of_ne own] at calls ⊢
    exact leased.holding other entry calls

/-- A consumer that goes on without a change of the counts. -/
theorem Leased.setConsumer
    {who : Fin consumers}
    {consumer : CanvasConsumer}
    (leased : state.Leased)
    (same : ∀ entry, consumer.references entry = (state.consumer who).references entry)
    (holding : ∀ entry,
      consumer.call = some (.refState entry) ∨ consumer.call = some (.refAdd entry) →
      0 < consumer.leases entry) :
    (state.setConsumer who consumer).Leased := by
  have references : ∀ entry,
      (state.setConsumer who consumer).references entry = state.references entry := by
    intro entry
    have moved := references_setConsumer state who consumer entry
    rw [same] at moved
    omega
  refine @Leased.of_other _ state _ leased leased.mailboxes rfl rfl rfl (fun _ => rfl)
    ?_ ?_ (leased.holding_setConsumer holding)
  · intro entry
    rw [references]
    exact leased.counted entry
  · intro entry none
    rw [references, none]

/-- A consumer that adds a reference to an entry that it holds, or gives one
back. -/
theorem Leased.setConsumer_storeRefs
    {who : Fin consumers}
    {consumer : CanvasConsumer}
    {refs : UInt32}
    (leased : state.Leased)
    (elsewhere : ∀ other, other ≠ entry →
      consumer.references other = (state.consumer who).references other)
    (referenced : 0 < state.references entry)
    (counted : refs =
      UInt32.ofNat ((state.setConsumer who consumer).references entry))
    (holding : ∀ entry,
      consumer.call = some (.refState entry) ∨ consumer.call = some (.refAdd entry) →
      0 < consumer.leases entry) :
    ((state.storeRefs entry refs).setConsumer who consumer).Leased := by
  have references : ∀ other, other ≠ entry →
      (state.setConsumer who consumer).references other = state.references other := by
    intro other apart
    have moved := references_setConsumer state who consumer other
    rw [elsewhere other apart] at moved
    omega
  have moved : ∀ other,
      ((state.storeRefs entry refs).setConsumer who consumer).references other =
        (state.setConsumer who consumer).references other := fun _ => rfl
  refine @Leased.of_other _ state _ leased leased.mailboxes rfl rfl rfl ?_
    ?_ ?_ (leased.holding_setConsumer holding)
  · intro other
    rw [entries_setConsumer, storeRefs]
    by_cases same : other = entry
    · rw [same, entries_modify_self]
    · rw [entries_modify_of_ne same]
  · intro other
    rw [moved, entries_setConsumer, storeRefs]
    by_cases same : other = entry
    · rw [same, entries_modify_self]
      exact counted
    · rw [entries_modify_of_ne same, references other same]
      exact leased.counted other
  · intro other none
    rw [moved]
    by_cases same : other = entry
    · rw [same] at none
      omega
    · rw [references other same, none]

/-- The GPU keeps the invariant. -/
theorem Leased.complete
    (leased : state.Leased)
    (stepped : state.complete entry = some after) :
    after.Leased := by
  unfold CanvasState.complete at stepped
  split at stepped
  next =>
    rw [← Option.some.inj stepped]
    refine @Leased.of_other _ state _ leased leased.mailboxes rfl rfl rfl ?_
      ?_ (fun _ none => none) leased.holding
    · intro other
      by_cases same : other = entry
      · rw [same, entries_modify_self]
      · rw [entries_modify_of_ne same]
    · intro other
      by_cases same : other = entry
      · rw [same, entries_modify_self]
        exact leased.counted entry
      · rw [entries_modify_of_ne same]
        exact leased.counted other
  next => cases stepped

theorem consumer_references_le
    (state : CanvasState consumers)
    (who : Fin consumers)
    (entry : EntryIdx) :
    (state.consumer who).references entry ≤ state.references entry := by
  have part := Finset.single_le_sum
    (fun other _ => Nat.zero_le ((state.consumer other).references entry))
    (Finset.mem_univ who)
  simp only [references]
  omega

/-- The count of an entry with references is not 0. -/
theorem Leased.refcount_pos
    (leased : state.Leased)
    (countable : state.Countable)
    (referenced : 0 < state.references entry) :
    0 < (state.entries entry).refcount := by
  rw [UInt32.lt_iff_toNat_lt, leased.counted,
    UInt32.toNat_ofNat_of_lt' (countable entry)]
  exact referenced

theorem references_of_calling
    {consumer : CanvasConsumer}
    {call : ConsumerCall}
    (calling : consumer.call = some call)
    (entry : EntryIdx) :
    consumer.references entry = consumer.leases entry + call.credit entry := by
  simp [CanvasConsumer.references, calling]

/-- A consumer that goes on with its call keeps the invariant. -/
theorem Leased.proceed
    {who : Fin consumers}
    {call : ConsumerCall}
    (leased : state.Leased)
    (countable : state.Countable)
    (calling : (state.consumer who).call = some call) :
    (state.proceed succeeds who call).Leased := by
  have own := references_of_calling calling
  have total := consumer_references_le state who
  cases call with
  | acquired entry =>
      apply leased.setConsumer
      · intro other
        rw [own]
        by_cases same : entry = other
        · subst same
          simp [CanvasConsumer.references, CanvasConsumer.take, ConsumerCall.credit]
        · simp [CanvasConsumer.references, CanvasConsumer.take,
            Function.update_of_ne (Ne.symm same), ConsumerCall.credit, same]
      · intro other calls
        simp [CanvasConsumer.take] at calls
  | refState entry =>
      apply leased.setConsumer
      · intro other
        rw [own]
        split <;> simp [CanvasConsumer.references, CanvasConsumer.goOn, ConsumerCall.credit]
      · intro other calls
        have holds := leased.holding who entry (.inl calling)
        split at calls
        · simp only [CanvasConsumer.goOn, Option.some.injEq, reduceCtorEq, false_or,
            ConsumerCall.refAdd.injEq] at calls
          rw [← calls]
          exact holds
        · simp [CanvasConsumer.goOn] at calls
  | refAdd entry =>
      have holds := leased.holding who entry (.inr calling)
      have referenced : 0 < state.references entry := by
        have := total entry
        rw [own] at this
        omega
      apply leased.setConsumer_storeRefs _ referenced
      · have moved := references_setConsumer state who ((state.consumer who).take entry) entry
        have gained : ((state.consumer who).take entry).references entry =
            (state.consumer who).references entry + 1 := by
          rw [own]
          simp [CanvasConsumer.references, CanvasConsumer.take, ConsumerCall.credit]
        rw [leased.counted, show (state.setConsumer who
          ((state.consumer who).take entry)).references entry =
            state.references entry + 1 by omega]
        simp [UInt32.ofNat_add]
      · intro other calls
        simp [CanvasConsumer.take] at calls
      · intro other apart
        rw [own]
        simp [CanvasConsumer.references, CanvasConsumer.take, Function.update_of_ne apart,
          ConsumerCall.credit]
  | unrefLoad entry =>
      have referenced : 0 < state.references entry := by
        have := total entry
        rw [own] at this
        simp [ConsumerCall.credit] at this
        omega
      simp only [CanvasState.proceed, leased.refcount_pos countable referenced, if_true]
      apply leased.setConsumer
      · intro other
        rw [own]
        simp [CanvasConsumer.references, CanvasConsumer.goOn, ConsumerCall.credit]
      · intro other calls
        simp [CanvasConsumer.goOn] at calls
  | unrefExchange entry prev =>
      have referenced : 0 < state.references entry := by
        have := total entry
        rw [own] at this
        simp [ConsumerCall.credit] at this
        omega
      simp only [CanvasState.proceed]
      split
      next exchanged =>
        have current : (state.entries entry).refcount = prev := by
          simp only [Bool.and_eq_true, beq_iff_eq] at exchanged
          exact exchanged.2
        apply leased.setConsumer_storeRefs _ referenced
        · have moved := references_setConsumer state who ((state.consumer who).goOn none) entry
          have lost : ((state.consumer who).goOn none).references entry + 1 =
              (state.consumer who).references entry := by
            rw [own]
            simp [CanvasConsumer.references, CanvasConsumer.goOn, ConsumerCall.credit]
          rw [← current, leased.counted, show state.references entry =
            (state.setConsumer who ((state.consumer who).goOn none)).references entry + 1
              by omega]
          simp [UInt32.ofNat_add]
        · intro other calls
          simp [CanvasConsumer.goOn] at calls
        · intro other apart
          rw [own]
          simp [CanvasConsumer.references, CanvasConsumer.goOn, ConsumerCall.credit,
            Ne.symm apart]
      next =>
        simp only [leased.refcount_pos countable referenced, if_true]
        apply leased.setConsumer
        · intro other
          rw [own]
          simp [CanvasConsumer.references, CanvasConsumer.goOn, ConsumerCall.credit]
        · intro other calls
          simp [CanvasConsumer.goOn] at calls

/-- A consumer keeps the invariant. -/
theorem Leased.consume
    {who : Fin consumers}
    {action : ConsumerAction}
    (leased : state.Leased)
    (countable : state.Countable)
    (stepped : state.consume succeeds who action = some after) :
    after.Leased := by
  cases action with
  | acquire type =>
      simp only [CanvasState.consume] at stepped
      split at stepped
      next idle =>
        rw [← Option.some.inj stepped]
        have references := references_acquireLocked state who type (leased.mailboxes type) idle
        refine @Leased.of_other _ state _ leased ?_ rfl rfl rfl (fun _ => rfl) ?_ ?_ ?_
        · intro other
          by_cases same : other = type
          · subst same
            simpa [acquireLocked, CanvasState.setConsumer] using
              (Mailbox.acquire_of_valid (leased.mailboxes other)).1
          · simpa [acquireLocked, CanvasState.setConsumer, Function.update_of_ne same]
              using leased.mailboxes other
        · intro entry
          rw [references]
          exact leased.counted entry
        · intro entry none
          rw [references, none]
        · apply leased.holding_setConsumer
          intro entry calls
          simp only [CanvasConsumer.goOn, Option.map_eq_some_iff, reduceCtorEq, and_false,
            exists_false, or_self] at calls
      next => cases stepped
  | ref entry =>
      simp only [CanvasState.consume] at stepped
      split at stepped
      next can =>
        rw [← Option.some.inj stepped]
        apply leased.setConsumer
        · intro other
          simp [CanvasConsumer.references, CanvasConsumer.goOn, can.1, ConsumerCall.credit]
        · intro other calls
          simp only [CanvasConsumer.goOn, Option.some.injEq, ConsumerCall.refState.injEq,
            reduceCtorEq, or_false] at calls
          rw [← calls]
          exact can.2
      next => cases stepped
  | unref entry =>
      simp only [CanvasState.consume] at stepped
      split at stepped
      next can =>
        rw [← Option.some.inj stepped]
        apply leased.setConsumer
        · intro other
          by_cases same : entry = other
          · subst same
            simp only [CanvasConsumer.references, CanvasConsumer.giveBack, can.1,
              Function.update_self, Option.map_some, Option.getD_some, ConsumerCall.credit,
              if_true, Option.map_none, Option.getD_none]
            omega
          · simp [CanvasConsumer.references, CanvasConsumer.giveBack, can.1,
              Function.update_of_ne (Ne.symm same), ConsumerCall.credit, same]
        · intro other calls
          simp [CanvasConsumer.giveBack] at calls
      next => cases stepped
  | proceed =>
      obtain ⟨call, calling, proceeds⟩ := Option.map_eq_some_iff.mp stepped
      rw [← proceeds]
      exact leased.proceed countable calling

@[simp] theorem references_init
    (consumers : Nat)
    (entry : EntryIdx) :
    (init consumers).references entry = 0 := by
  simp [references, slots, slotsIn, Mailbox.slotsOf, init, cachedRef,
    CanvasConsumer.references]

theorem leased_init (consumers : Nat) : (init consumers).Leased where
  mailboxes := fun _ => Mailbox.valid_new
  counted := by
    intro entry
    rw [references_init]
    rfl
  ready := by
    intro entry referenced
    simp at referenced
  capturing := by simp [init]
  holding := by simp [init]
  head := by simp [init]
  tail := by simp [init]

/-- Any step keeps the invariant. -/
theorem Leased.next
    {step : CanvasStep consumers}
    (leased : state.Leased)
    (countable : state.Countable)
    (stepped : state.next config step = some after) :
    after.Leased := by
  cases step with
  | start call => exact leased.start stepped
  | exec succeeds => exact leased.execNext countable stepped
  | consume who action succeeds => exact leased.consume countable stepped
  | complete entry => exact leased.complete stepped

/-- Any run in which the counts do not overflow keeps the invariant. -/
theorem leased_of_reachable
    (reachable : (canvasSystem consumers config).ReachableWhen
      (fun before _ => before.Countable) state) :
    state.Leased := by
  apply reachable.invariant
  · intro start initial
    rw [show start = init consumers from initial]
    exact leased_init consumers
  · intro before step after leased countable stepped
    exact leased.next countable stepped

/-- The compositor thread is about to put an entry into `RENDERING`: an
acquisition has chosen it or `mark_rendering` stores the state. -/
def Renders
    (state : CanvasState consumers)
    (entry : EntryIdx) : Prop :=
  .claimState entry ∈ state.program ∨ .renderingState entry ∈ state.program

/-- An entry that is about to be put into `RENDERING` has no references. -/
theorem Leased.unreferenced_of_renders
    (leased : state.Leased)
    (renders : state.Renders entry) :
    state.references entry = 0 := by
  -- Behind the front stands no instruction that relies on anything.
  have front : ∀ instr ∈ state.program,
      (∀ other : CanvasState consumers, other.ReliesOn instr ↔ other.references entry = 0) →
      state.references entry = 0 := by
    intro instr member relies
    cases program : state.program with
    | nil => simp [program] at member
    | cons first rest =>
        rw [program] at member
        rcases List.mem_cons.mp member with rfl | waiting
        · exact (relies state).mp (leased.head instr (by simp [program]))
        · have everywhere := leased.tail instr (by simpa [program] using waiting)
          exact (relies state).mp (everywhere state)
  rcases renders with claim | rendering
  · exact front _ claim fun _ => Iff.rfl
  · exact front _ rendering fun _ => Iff.rfl

/-- In every interleaving in which no entry ever has 2^32 references, the count of
an entry is, between calls, the number of mailbox slots and leases, and an entry
in a mailbox or leased is ready and never put into `RENDERING`. -/
theorem refcount_eq_and_not_renders
    {config : CanvasConfig}
    {state : CanvasState consumers}
    (reachable : (canvasSystem consumers config).ReachableWhen
      (fun before _ => before.Countable) state)
    (countable : state.Countable) :
    (state.Idle → ∀ entry,
        (state.entries entry).refcount.toNat = state.slots entry + state.leases entry) ∧
      ∀ entry, 0 < state.slots entry + state.leases entry →
        (state.entries entry).state = .ready ∧ ¬ state.Renders entry := by
  have leased := leased_of_reachable reachable
  constructor
  · intro idle entry
    rw [leased.counted, UInt32.toNat_ofNat_of_lt' (countable entry),
      references_of_idle idle]
  · intro entry held
    have referenced : 0 < state.references entry :=
      held.trans_le (slots_add_leases_le state entry)
    refine ⟨leased.ready entry referenced, ?_⟩
    intro renders
    have := leased.unreferenced_of_renders renders
    omega

/-- Two renders publish the first entry, and a consumer acquires and references it. -/
def publishAndLease : List (CanvasStep 1) :=
  List.flatten
    [[.start (.render 1)], List.replicate 27 (.exec true),
      [.complete firstEntry, .start (.render 2)], List.replicate 36 (.exec true),
      [.consume 0 (.acquire .output) true, .consume 0 .proceed true,
        .consume 0 (.ref firstEntry) true, .consume 0 .proceed true,
        .consume 0 .proceed true]]

/-- An entry in one mailbox and with two leases. -/
theorem refcount_eq_and_not_renders_leased :
    ∃ state : CanvasState 1,
      state.slots firstEntry = 1 ∧ state.leases firstEntry = 2 ∧
        (state.entries firstEntry).refcount.toNat = 3 ∧
        (state.entries firstEntry).state = .ready ∧ ¬ state.Renders firstEntry := by
  have computed :
      (System.run (System.guarded (fun before _ => before.Countable)
        (CanvasState.next plainConfig)) (init 1) publishAndLease).map
          (fun state => decide (state.program = [] ∧ (state.consumer 0).call = none ∧
            state.slots firstEntry = 1 ∧ state.leases firstEntry = 2 ∧ state.Countable)) =
        some true := by
    decide +kernel
  obtain ⟨state, runs, fields⟩ := Option.map_eq_some_iff.mp computed
  obtain ⟨program, call, slots, leases, countable⟩ := of_decide_eq_true fields
  obtain ⟨counts, held⟩ :=
    refcount_eq_and_not_renders (System.reachableWhen_of_run (.initial rfl) runs) countable
  have idle : state.Idle := by
    refine ⟨program, fun who => ?_⟩
    rw [Subsingleton.elim who 0]
    exact call
  have count := counts idle firstEntry
  rw [slots, leases] at count
  obtain ⟨ready, keeps⟩ := held firstEntry (by omega)
  exact ⟨state, slots, leases, count, ready, keeps⟩

/-- A consumer comes to hold two leases on the first entry. -/
def leaseTwice : List (CanvasStep 1) :=
  List.flatten
    [[.start (.render 1)], List.replicate 27 (.exec true),
      [.complete firstEntry, .start (.render 2)], List.replicate 36 (.exec true),
      [.consume 0 (.acquire .output) true, .consume 0 .proceed true,
        .consume 0 (.acquire .snapshot) true, .consume 0 .proceed true]]

/-- The only references to the first entry are leases of the first consumer. -/
structure LeasedTimes
    (state : CanvasState 1)
    (times : Nat) : Prop where
  reachable : (canvasSystem 1 plainConfig).Reachable state
  program : state.program = []
  call : (state.consumer 0).call = none
  leases : (state.consumer 0).leases firstEntry = times
  ready : (state.entries firstEntry).state = .ready
  refcount : (state.entries firstEntry).refcount = UInt32.ofNat times
  slots : state.slots firstEntry = 0
  cached : state.cached = none

theorem leasedTimes_two : ∃ state, LeasedTimes state 2 := by
  have computed :
      (System.run (CanvasState.next plainConfig) (init 1) leaseTwice).map
          (fun state => decide (state.program = [] ∧ (state.consumer 0).call = none ∧
            (state.consumer 0).leases firstEntry = 2 ∧
            (state.entries firstEntry).state = .ready ∧
            (state.entries firstEntry).refcount = 2 ∧
            state.slots firstEntry = 0 ∧ state.cached = none)) =
        some true := by
    decide +kernel
  obtain ⟨state, runs, fields⟩ := Option.map_eq_some_iff.mp computed
  obtain ⟨program, call, leases, ready, refcount, slots, cached⟩ := of_decide_eq_true fields
  exact ⟨state, System.reachable_of_run (.initial rfl) runs, program, call, leases, ready,
    refcount, slots, cached⟩

/-- A consumer that holds a lease may take another. -/
theorem LeasedTimes.succ
    {state : CanvasState 1}
    {times : Nat}
    (leased : LeasedTimes state times)
    (positive : 0 < times) :
    ∃ after, LeasedTimes after (times + 1) := by
  have can : (state.consumer 0).call = none ∧ 0 < (state.consumer 0).leases firstEntry :=
    ⟨leased.call, by rw [leased.leases]; exact positive⟩
  let started := state.setConsumer 0 ((state.consumer 0).goOn (some (.refState firstEntry)))
  let loaded := started.setConsumer 0 ((started.consumer 0).goOn (some (.refAdd firstEntry)))
  let added := (loaded.storeRefs firstEntry
    ((loaded.entries firstEntry).refcount + 1)).setConsumer 0
      ((loaded.consumer 0).take firstEntry)
  have runs : System.run (CanvasState.next plainConfig) state
      [.consume 0 (.ref firstEntry) true, .consume 0 .proceed true,
        .consume 0 .proceed true] = some added := by
    have start : state.next plainConfig (.consume 0 (.ref firstEntry) true) = some started := by
      simp only [CanvasState.next, CanvasState.consume, if_pos can]
      rfl
    have load : started.next plainConfig (.consume 0 .proceed true) = some loaded := by
      have ready : (started.entries firstEntry).state = .ready := leased.ready
      simp [CanvasState.next, CanvasState.consume, CanvasState.proceed, started,
        CanvasState.setConsumer, CanvasConsumer.goOn, loaded, leased.ready]
    have add : loaded.next plainConfig (.consume 0 .proceed true) = some added := by
      simp [CanvasState.next, CanvasState.consume, CanvasState.proceed, loaded, added,
        CanvasState.setConsumer, CanvasConsumer.goOn]
    simp [System.run, start, load, add]
  have leases : (added.consumer 0).leases firstEntry = times + 1 := by
    simp [added, loaded, started, CanvasState.setConsumer, CanvasConsumer.take,
      CanvasConsumer.goOn, leased.leases]
  refine ⟨added, System.reachable_of_run leased.reachable runs, leased.program, ?_, leases,
    ?_, ?_, leased.slots, leased.cached⟩
  · simp [added, CanvasState.setConsumer, CanvasConsumer.take]
  · simpa [added, loaded, started, storeRefs] using leased.ready
  · simp [added, loaded, started, storeRefs, leased.refcount, UInt32.ofNat_add]

/-- With 2^32 leases the count of an entry is 0. -/
theorem refcount_overflows :
    ∃ state : CanvasState 1, (canvasSystem 1 plainConfig).Reachable state ∧ state.Idle ∧
      (state.entries firstEntry).refcount.toNat = 0 ∧
      state.slots firstEntry + state.leases firstEntry = 2 ^ 32 := by
  have each : ∀ times, ∃ state, LeasedTimes state (times + 2) := by
    intro times
    induction times with
    | zero => exact leasedTimes_two
    | succ times ih =>
        obtain ⟨state, leased⟩ := ih
        exact leased.succ (Nat.succ_pos _)
  obtain ⟨state, leased⟩ := each (2 ^ 32 - 2)
  refine ⟨state, leased.reachable, ⟨leased.program, ?_⟩, ?_, ?_⟩
  · intro who
    rw [Subsingleton.elim who 0]
    exact leased.call
  · rw [leased.refcount]
    rfl
  · simp only [leased.slots, CanvasState.leases, cachedRef, leased.cached, Fin.sum_univ_one,
      leased.leases]
    rfl

end CanvasState
end Engine
end SbsServer
