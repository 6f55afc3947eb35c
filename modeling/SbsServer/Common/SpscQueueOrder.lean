import Mathlib.Data.Fintype.Defs
import Mathlib.Data.Nat.ModEq
import SbsServer.Common.SpscQueue

/-!
# The queue keeps its items in order

The invariant of a queue between two threads.  Head and tail are the numbers of
items popped and pushed, counted around the ring; the slots between them hold the
items that are not popped yet, and the others are empty.  The thread that stores
an item must be the only one that does, which holds by itself if a single thread
pushes.
-/

namespace SbsServer
namespace Common

open CLib

/-- The slot of the item with a number, in a ring of some size. -/
def slotOf (size number : Nat) : UInt32 :=
  UInt32.ofNat (number % size)

/-- The size of a ring that a queue uses: a power of two. -/
structure SpscQueue.Sized
    {Item : Type}
    (queue : SpscQueue Item)
    (size : Nat) : Prop where
  mask : queue.mask.toNat = size - 1
  power : ∃ exponent ≤ 12, size = 2 ^ exponent

theorem nextPow2_spec
    {capacity : UInt32}
    (positive : capacity ≠ 0)
    (accepted : capacity ≤ spscMaxCapacity) :
    ∃ exponent ≤ 12, (nextPow2 capacity).toNat = 2 ^ exponent := by
  have small : capacity.toNat ≤ 4096 := UInt32.le_iff_toNat_le.mp accepted
  have nonzero : 0 < capacity.toNat := by
    refine Nat.pos_of_ne_zero fun zero => positive ?_
    exact UInt32.toNat_inj.mp zero
  have before : (capacity - 1).toNat = capacity.toNat - 1 :=
    UInt32.toNat_sub_of_le _ _ (UInt32.le_iff_toNat_le.mpr nonzero)
  have smeared : (nextPow2 capacity - 1).toNat =
      PowerOfTwo.smear 16 (PowerOfTwo.smear 8 (PowerOfTwo.smear 4 (PowerOfTwo.smear 2
        (PowerOfTwo.smear 1 (capacity.toNat - 1))))) := by
    simp [nextPow2, PowerOfTwo.smear, before, UInt32.toNat_or, UInt32.toNat_shiftRight]
  have covers := (((((PowerOfTwo.covers_self (capacity.toNat - 1)).smear
    (Nat.le_refl 1)).smear (Nat.le_refl 2)).smear (Nat.le_refl 4)).smear
    (Nat.le_refl 8)).smear (Nat.le_refl 16)
  obtain ⟨exponent, bound, same⟩ := covers.eq_two_pow_sub_one
    (show 12 ≤ 16 + (8 + (4 + (2 + (1 + 1)))) by decide)
    (show capacity.toNat - 1 < 2 ^ 12 by omega)
  refine ⟨exponent, bound, ?_⟩
  have powers := Nat.two_pow_pos exponent
  have below : 2 ^ exponent ≤ 2 ^ 12 := Nat.pow_le_pow_right Nat.two_pos bound
  have next : (nextPow2 capacity - 1 + 1).toNat = 2 ^ exponent := by
    rw [UInt32.toNat_add, smeared, same, UInt32.toNat_one]
    omega
  rwa [UInt32.sub_add_cancel] at next

/-- A queue that was made has a power of two as its size. -/
theorem SpscQueue.sized_of_new
    {Item : Type}
    {capacity : UInt32}
    {queue : SpscQueue Item}
    (made : SpscQueue.new capacity = some queue) :
    ∃ size, queue.Sized size ∧ queue.itemCapacity.toNat = size - 1 ∧ queue.head = 0 ∧
      queue.tail = 0 ∧ queue.slots = fun _ => none := by
  unfold SpscQueue.new at made
  split at made
  next => cases made
  next accepted =>
    rw [not_or, UInt32.not_lt] at accepted
    cases made
    obtain ⟨exponent, bound, power⟩ := nextPow2_spec accepted.1 accepted.2
    have one : 1 ≤ nextPow2 capacity :=
      UInt32.le_iff_toNat_le.mpr (power ▸ Nat.two_pow_pos exponent)
    have less : (nextPow2 capacity - 1).toNat = 2 ^ exponent - 1 := by
      rw [UInt32.toNat_sub_of_le _ _ one, power]
      rfl
    exact ⟨2 ^ exponent, ⟨less, exponent, bound, rfl⟩, less, rfl, rfl, rfl⟩

namespace SpscQueue.Sized

variable {Item : Type} {queue : SpscQueue Item} {size : Nat}

theorem bounds (sized : queue.Sized size) :
    0 < size ∧ size ≤ 4096 := by
  obtain ⟨exponent, bound, rfl⟩ := sized.power
  exact ⟨Nat.two_pow_pos exponent, Nat.pow_le_pow_right Nat.two_pos bound⟩

theorem toNat_slotOf
    (sized : queue.Sized size)
    (number : Nat) :
    (slotOf size number).toNat = number % size := by
  have bounds := sized.bounds
  have inside := Nat.mod_lt number bounds.1
  rw [slotOf, UInt32.toNat_ofNat_of_lt'
    (Nat.lt_trans inside (Nat.lt_of_le_of_lt bounds.2 (by decide)))]

theorem slotOf_succ
    (sized : queue.Sized size)
    (number : Nat) :
    (slotOf size number + 1) &&& queue.mask = slotOf size (number + 1) := by
  have bounds := sized.bounds
  have inside := Nat.mod_lt number bounds.1
  obtain ⟨exponent, bound, power⟩ := sized.power
  refine UInt32.toNat_inj.mp ?_
  rw [UInt32.toNat_and, UInt32.toNat_add, sized.toNat_slotOf, sized.toNat_slotOf, sized.mask,
    UInt32.toNat_one, Nat.mod_eq_of_lt (by omega), power, Nat.and_two_pow_sub_one_eq_mod,
    Nat.mod_add_mod]

/-- Numbers that are less than a turn apart have different slots. -/
theorem slotOf_ne
    (sized : queue.Sized size)
    {first second : Nat}
    (before : first < second)
    (near : second < first + size) :
    slotOf size first ≠ slotOf size second := by
  intro same
  have values := congrArg UInt32.toNat same
  rw [sized.toNat_slotOf, sized.toNat_slotOf] at values
  obtain ⟨turns, apart⟩ := (Nat.modEq_iff_dvd' before.le).mp values
  have positive : 0 < turns := by
    refine Nat.pos_of_ne_zero fun zero => ?_
    rw [zero, Nat.mul_zero] at apart
    omega
  have turn := Nat.le_mul_of_pos_right size positive
  omega

/-- A turn leads back to the slot. -/
theorem slotOf_turn
    (size number : Nat) :
    slotOf size (number + size) = slotOf size number := by
  rw [slotOf, slotOf, Nat.add_mod_right]

end SpscQueue.Sized

namespace SpscState

variable {Producer Item : Type} {size : Nat}

/-- Whether a thread has found room and has not stored `tail` yet. -/
def isStoring : PushPoint Item → Bool
  | .admitted .. => true
  | .written .. => true
  | _ => false

/-- What a point of a push that has found room says about the queue. -/
def PushSound
    (size : Nat)
    (state : SpscState Producer Item) : PushPoint Item → Prop
  | .admitted _ tail next =>
      tail = slotOf size state.pushed.length ∧ next = slotOf size (state.pushed.length + 1) ∧
        state.pushed.length + 1 < state.popped.length + size
  | .written item next =>
      state.queue.slots (slotOf size state.pushed.length) = some item ∧
        next = slotOf size (state.pushed.length + 1) ∧
        state.pushed.length + 1 < state.popped.length + size
  | _ => True

/-- What a point of a pop says about the queue. -/
def PopSound (state : SpscState Producer Item) : PopPoint Item → Prop
  | .idle => True
  | .headLoaded head => head = state.queue.head
  | .ready head => head = state.queue.head ∧ state.popped.length < state.pushed.length
  | .taken head item =>
      head = state.queue.head ∧ state.popped.length < state.pushed.length ∧
        item = state.pushed[state.popped.length]?
  | .cleared head item =>
      head = state.queue.head ∧ state.popped.length < state.pushed.length ∧
        item = state.pushed[state.popped.length]? ∧ state.queue.slots head = none

/-- Whether the slot of the next item was cleared. -/
def isCleared : PopPoint Item → Bool
  | .cleared .. => true
  | _ => false

/-- What holds of a queue whose items are stored by one thread at a time. -/
structure Sound
    (size : Nat)
    (state : SpscState Producer Item) : Prop where
  sized : state.queue.Sized size
  head : state.queue.head = slotOf size state.popped.length
  tail : state.queue.tail = slotOf size state.pushed.length
  order : state.popped <+: state.pushed
  room : state.pushed.length < state.popped.length + size
  push : ∀ producer, state.PushSound size (state.pushing producer)
  alone : ∀ first second, isStoring (state.pushing first) = true →
    isStoring (state.pushing second) = true → first = second
  pop : state.PopSound state.popping
  full : ∀ number, state.popped.length ≤ number → number < state.pushed.length →
    (number = state.popped.length → isCleared state.popping = false) →
    state.queue.slots (slotOf size number) = state.pushed[number]?
  free : ∀ number, state.pushed.length ≤ number → number < state.popped.length + size →
    (number = state.pushed.length → ∀ producer item next,
      state.pushing producer ≠ .written item next) →
    state.queue.slots (slotOf size number) = none
  emptyAt : ∀ count ∈ state.emptyAt, count = 0

/-- A queue that was made. -/
theorem sound_start
    {queue : SpscQueue Item}
    (sized : queue.Sized size)
    (head : queue.head = 0)
    (tail : queue.tail = 0)
    (slots : queue.slots = fun _ => none) :
    (start queue : SpscState Producer Item).Sound size where
  sized := sized
  head := head.trans (by simp [slotOf, start])
  tail := tail.trans (by simp [slotOf, start])
  order := List.nil_prefix
  room := by
    have bounds := sized.bounds
    simp only [start, List.length_nil]
    omega
  push _ := trivial
  alone _ _ storing := nomatch storing
  pop := trivial
  full _ _ inside := by simp [start] at inside
  free _ _ _ _ := by
    rw [start, slots]
  emptyAt _ member := nomatch member

variable {state : SpscState Producer Item}

/-- The number of items held is what tail is ahead of head. -/
theorem Sound.held_eq
    (sound : state.Sound size) :
    state.held + state.popped.length = state.pushed.length := by
  have lengths := sound.order.length_le
  rw [held]
  omega

/-- The count is the number of items held. -/
theorem Sound.count_eq
    (sound : state.Sound size) :
    state.queue.count.toNat = state.held := by
  have total := sound.held_eq
  have room := sound.room
  obtain ⟨exponent, bound, power⟩ := sound.sized.power
  have inside := Nat.mod_lt state.popped.length sound.sized.bounds.1
  have divides : size ∣ 2 ^ 32 := power ▸ Nat.pow_dvd_pow 2 (Nat.le_trans bound (by decide))
  have parts := Nat.mod_add_div state.popped.length size
  obtain ⟨turns, word⟩ := divides
  have apart : (2 ^ 32 - state.popped.length % size + state.pushed.length % size) ≡
      state.held [MOD size] := by
    refine Nat.ModEq.add_right_cancel' state.popped.length ?_
    have whole : 2 ^ 32 - state.popped.length % size + state.pushed.length % size +
        state.popped.length =
        state.pushed.length % size + size * (turns + state.popped.length / size) := by
      rw [Nat.mul_add, ← word]
      have below := sound.sized.bounds.2
      omega
    rw [whole, total, Nat.ModEq, Nat.add_mul_mod_self_left, Nat.mod_mod]
  rw [SpscQueue.count, UInt32.toNat_and, UInt32.toNat_sub, sound.tail, sound.head,
    sound.sized.toNat_slotOf, sound.sized.toNat_slotOf, sound.sized.mask, power,
    Nat.and_two_pow_sub_one_eq_mod, ← power, Nat.mod_mod_of_dvd _ ⟨turns, word⟩, apart]
  exact Nat.mod_eq_of_lt (by omega)

section

variable (sound : state.Sound size)
include sound

/-- A push that finds no room finds the ring full. -/
theorem Sound.held_of_full
    (full : (state.queue.tail + 1) &&& state.queue.mask = state.queue.head) :
    state.held + 1 = size := by
  rw [sound.tail, sound.sized.slotOf_succ, sound.head] at full
  have total := sound.held_eq
  have room := sound.room
  have order := sound.order.length_le
  by_contra different
  exact sound.sized.slotOf_ne (Nat.lt_succ_of_le order) (by omega) full.symm

/-- The consumer loads, compares or reads. -/
theorem Sound.popTo
    (point : PopPoint Item)
    (pops : state.PopSound point)
    (uncleared : isCleared state.popping = false)
    {emptyAt : List Nat}
    (empty : ∀ count ∈ emptyAt, count = 0) :
    { state with
      popping := point
      emptyAt := emptyAt }.Sound size :=
  { sound with
    pop := pops
    full := fun number after inside _ => sound.full number after inside fun _ => uncleared
    emptyAt := empty }

/-- The next item is where head points. -/
theorem Sound.slots_head
    (some : state.popped.length < state.pushed.length)
    (uncleared : isCleared state.popping = false) :
    state.queue.slots state.queue.head = state.pushed[state.popped.length]? := by
  rw [sound.head]
  exact sound.full _ (Nat.le_refl _) some fun _ => uncleared

/-- Head meets tail only when no item is held. -/
theorem Sound.length_eq
    (meets : state.queue.head = state.queue.tail) :
    state.popped.length = state.pushed.length := by
  have before := sound.order.length_le
  by_contra different
  rw [sound.head, sound.tail] at meets
  exact sound.sized.slotOf_ne (by omega) sound.room meets

/-- The slot of the next item is cleared. -/
theorem Sound.clear
    {head : UInt32}
    {item : Option Item}
    (pops : state.popping = .taken head item) :
    { state with
      queue := { state.queue with
        slots := fun slot => if slot = head then none else state.queue.slots slot }
      popping := .cleared head item }.Sound size := by
  obtain ⟨headIs, some, itemIs⟩ : state.PopSound (.taken head item) := pops ▸ sound.pop
  have room := sound.room
  have kept : ∀ number, state.popped.length < number → number < state.popped.length + size →
      (if slotOf size number = head then none else state.queue.slots (slotOf size number)) =
        state.queue.slots (slotOf size number) := by
    intro number after inside
    refine if_neg ?_
    rw [headIs, sound.head]
    exact (sound.sized.slotOf_ne after inside).symm
  refine { sound with
    sized := ⟨sound.sized.mask, sound.sized.power⟩
    push := ?_
    pop := ⟨headIs, some, itemIs, if_pos rfl⟩
    full := ?_
    free := ?_ }
  · intro producer
    have point := sound.push producer
    dsimp only
    cases stands : state.pushing producer with
    | idle => trivial
    | tailLoaded => trivial
    | admitted =>
        rw [stands] at point
        exact point
    | written =>
        rw [stands] at point
        obtain ⟨slot, nextIs, bounded⟩ := point
        refine ⟨?_, nextIs, bounded⟩
        dsimp only
        rw [kept _ some room]
        exact slot
  · intro number after inside uncleared
    dsimp only at after inside uncleared ⊢
    have different : number ≠ state.popped.length := fun same => nomatch uncleared same
    rw [kept number (by omega) (by omega)]
    exact sound.full number after inside fun same => absurd same different
  · intro number after inside unwritten
    dsimp only at after inside unwritten ⊢
    rw [kept number (by omega) inside]
    exact sound.free number after inside unwritten

/-- Head leaves the next item behind. -/
theorem Sound.popStore
    {head : UInt32}
    {item : Option Item}
    (pops : state.popping = .cleared head item) :
    ∃ first, item = some first ∧
      { state with
        queue := { state.queue with head := (head + 1) &&& state.queue.mask }
        popping := .idle
        popped := state.popped ++ [first] }.Sound size := by
  obtain ⟨headIs, some, itemIs, empty⟩ : state.PopSound (.cleared head item) :=
    pops ▸ sound.pop
  have room := sound.room
  refine ⟨state.pushed[state.popped.length], ?_, ?_⟩
  · rw [itemIs, List.getElem?_eq_getElem some]
  · have longer : (state.popped ++ [state.pushed[state.popped.length]]).length =
        state.popped.length + 1 := by simp
    refine { sound with
      sized := ⟨sound.sized.mask, sound.sized.power⟩
      head := ?_
      order := ?_
      room := ?_
      push := ?_
      pop := trivial
      full := ?_
      free := ?_ }
    · dsimp only
      rw [longer, headIs, sound.head, sound.sized.slotOf_succ]
    · dsimp only
      have taken := List.prefix_iff_eq_take.mp sound.order
      have longerTaken : state.popped ++ [state.pushed[state.popped.length]] =
          state.pushed.take (state.popped.length + 1) := by
        rw [List.take_succ_eq_append_getElem some, ← taken]
      rw [longerTaken]
      exact List.take_prefix _ _
    · dsimp only
      rw [longer]
      omega
    · intro producer
      have point := sound.push producer
      dsimp only
      cases stands : state.pushing producer with
      | idle => trivial
      | tailLoaded => trivial
      | admitted =>
          rw [stands] at point
          refine ⟨point.1, point.2.1, ?_⟩
          have bounded := point.2.2
          dsimp only
          rw [longer]
          omega
      | written =>
          rw [stands] at point
          refine ⟨point.1, point.2.1, ?_⟩
          have bounded := point.2.2
          dsimp only
          rw [longer]
          omega
    · intro number after inside _
      dsimp only at after inside ⊢
      rw [longer] at after
      exact sound.full number (by omega) inside fun same => absurd same (by omega)
    · intro number after inside unwritten
      dsimp only at after inside unwritten ⊢
      rw [longer] at inside
      by_cases turn : number = state.popped.length + size
      · rw [turn, SpscQueue.Sized.slotOf_turn, ← sound.head, ← headIs]
        exact empty
      · exact sound.free number after (by omega) unwritten

end

/-! ## Pushes -/

/-- A thread that found room writes the slot behind the items, which is empty. -/
theorem Sound.free_tail
    (sound : state.Sound size)
    {producer : Producer}
    {item : Item}
    {tail next : UInt32}
    (stands : state.pushing producer = .admitted item tail next) :
    state.queue.slots tail = none := by
  have point := sound.push producer
  rw [stands] at point
  rw [point.1]
  refine sound.free _ (Nat.le_refl _) (by have := point.2.2; omega) fun _ other _ _ written => ?_
  have same := sound.alone producer other (by rw [stands]; rfl) (by rw [written]; rfl)
  rw [same, written] at stands
  cases stands

variable [DecidableEq Producer]

/-- What holds of a thread's point holds of every point when the others did not move. -/
theorem forall_setPushing
    {state : SpscState Producer Item}
    {producer : Producer}
    {point : PushPoint Item}
    {holds : PushPoint Item → Prop}
    (this : holds point)
    (others : ∀ other, holds (state.pushing other)) :
    ∀ other, holds (state.setPushing producer point other) := by
  intro other
  rw [setPushing]
  split
  next => exact this
  next => exact others other

/-- A thread that is not storing changes nothing but its own point. -/
theorem Sound.move
    (sound : state.Sound size)
    {producer : Producer}
    {point : PushPoint Item}
    (wasIdle : isStoring (state.pushing producer) = false)
    (idle : isStoring point = false)
    (fullAt : List Nat) :
    { state with
      pushing := state.setPushing producer point
      fullAt := fullAt }.Sound size := by
  have stays : ∀ other, isStoring (state.setPushing producer point other) =
      isStoring (state.pushing other) := by
    intro other
    rw [SpscState.setPushing]
    split
    next same => rw [same, idle, wasIdle]
    next => rfl
  refine { sound with push := ?_, alone := ?_, free := ?_ }
  · refine @forall_setPushing _ _ _ _ _ _ (PushSound size state) ?_ sound.push
    cases point with
    | idle => trivial
    | tailLoaded => trivial
    | admitted => cases idle
    | written => cases idle
  · intro first second storing alsoStoring
    rw [stays] at storing alsoStoring
    exact sound.alone first second storing alsoStoring
  · intro number after inside unwritten
    refine sound.free number after inside fun same other item next written => ?_
    refine unwritten same other item next ?_
    have different : other ≠ producer := by
      rintro rfl
      rw [written] at wasIdle
      cases wasIdle
    exact (if_neg different).trans written

/-- A push that finds room starts to store. -/
theorem Sound.admit
    (sound : state.Sound size)
    {producer : Producer}
    {item : Item}
    {next : UInt32}
    (wasIdle : isStoring (state.pushing producer) = false)
    (nextIs : next = (state.queue.tail + 1) &&& state.queue.mask)
    (room : next ≠ state.queue.head)
    (others : ∀ other, other ≠ producer → isStoring (state.pushing other) = false) :
    { state with
      pushing := state.setPushing producer (.admitted item state.queue.tail next) }.Sound
        size := by
  rw [sound.tail, sound.sized.slotOf_succ] at nextIs
  have bounded : state.pushed.length + 1 < state.popped.length + size := by
    have less := sound.room
    refine Nat.lt_of_le_of_ne less fun turn => room ?_
    rw [nextIs, sound.head, ← SpscQueue.Sized.slotOf_turn size state.popped.length, turn]
  refine { sound with push := ?_, alone := ?_, free := ?_ }
  · exact @forall_setPushing _ _ _ _ _ _ (PushSound size state) ⟨sound.tail, nextIs, bounded⟩
      sound.push
  · have only : ∀ other, isStoring (state.setPushing producer
        (.admitted item state.queue.tail next) other) = true → other = producer := by
      intro other storing
      by_contra different
      rw [SpscState.setPushing, if_neg different, others other different] at storing
      cases storing
    intro first second storing alsoStoring
    rw [only first storing, only second alsoStoring]
  · intro number after inside _
    refine sound.free number after inside fun _ other otherItem otherNext written => ?_
    have storing : isStoring (state.pushing other) = true := by
      rw [written]
      rfl
    by_cases same : other = producer
    · rw [same, wasIdle] at storing
      cases storing
    · rw [others other same] at storing
      cases storing

/-- The slot behind the items is written. -/
theorem Sound.write
    (sound : state.Sound size)
    {producer : Producer}
    {item : Item}
    {tail next : UInt32}
    (stands : state.pushing producer = .admitted item tail next) :
    { state with
      queue := { state.queue with
        slots := fun slot => if slot = tail then some item else state.queue.slots slot }
      pushing := state.setPushing producer (.written item next) }.Sound size := by
  obtain ⟨tailIs, nextIs, bounded⟩ : state.PushSound size (.admitted item tail next) :=
    stands ▸ sound.push producer
  have storing : isStoring (state.pushing producer) = true := by
    rw [stands]
    rfl
  have only : ∀ other, other ≠ producer → isStoring (state.pushing other) = false :=
    fun other different => Bool.eq_false_iff.mpr fun also =>
      different (sound.alone other producer also storing)
  -- Every slot of the ring but the one behind the items is left alone.
  have kept : ∀ number, state.popped.length ≤ number → number < state.popped.length + size →
      number ≠ state.pushed.length →
      (if slotOf size number = tail then some item else
        state.queue.slots (slotOf size number)) = state.queue.slots (slotOf size number) := by
    intro number after inside different
    refine if_neg ?_
    rw [tailIs]
    have before := sound.order.length_le
    rcases Nat.lt_or_gt_of_ne different with less | more
    · exact sound.sized.slotOf_ne less (by omega)
    · exact (sound.sized.slotOf_ne more (by omega)).symm
  refine { sound with
    sized := ⟨sound.sized.mask, sound.sized.power⟩
    push := ?_
    alone := ?_
    pop := ?_
    full := ?_
    free := ?_ }
  · intro other
    by_cases same : other = producer
    · rw [same]
      have point : state.setPushing producer (.written item next) producer = .written item next :=
        if_pos rfl
      dsimp only
      rw [point]
      refine ⟨?_, nextIs, bounded⟩
      dsimp only
      rw [← tailIs, if_pos rfl]
    · have point : state.setPushing producer (.written item next) other = state.pushing other :=
        if_neg same
      dsimp only
      rw [point]
      cases stood : state.pushing other with
      | idle => trivial
      | tailLoaded => trivial
      | admitted =>
          have not := only other same
          rw [stood] at not
          cases not
      | written =>
          have not := only other same
          rw [stood] at not
          cases not
  · have stays : ∀ other, isStoring (state.setPushing producer (.written item next) other) =
        isStoring (state.pushing other) := by
      intro other
      unfold setPushing
      split
      next same =>
        rw [same, storing]
        rfl
      next => rfl
    intro first second firstStoring secondStoring
    rw [stays] at firstStoring secondStoring
    exact sound.alone first second firstStoring secondStoring
  · have point := sound.pop
    dsimp only
    cases pops : state.popping with
    | idle => trivial
    | headLoaded head =>
        rw [pops] at point
        exact point
    | ready head =>
        rw [pops] at point
        exact point
    | taken head taken =>
        rw [pops] at point
        exact point
    | cleared head taken =>
        rw [pops] at point
        obtain ⟨headIs, some, takenIs, empty⟩ := point
        refine ⟨headIs, some, takenIs, ?_⟩
        dsimp only
        rw [headIs, sound.head, kept _ (Nat.le_refl _) (by omega) (by omega), ← sound.head,
          ← headIs]
        exact empty
  · intro number after before uncleared
    have room := sound.room
    dsimp only at after before uncleared ⊢
    rw [kept number after (by omega) (by omega)]
    exact sound.full number after before uncleared
  · intro number after inside unwritten
    have different : number ≠ state.pushed.length :=
      fun same => unwritten same producer item next (if_pos rfl)
    have before := sound.order.length_le
    dsimp only at after inside ⊢
    rw [kept number (by omega) inside different]
    exact sound.free number after inside fun same => absurd same different

/-- The item behind the others joins them. -/
theorem Sound.store
    (sound : state.Sound size)
    {producer : Producer}
    {item : Item}
    {next : UInt32}
    (stands : state.pushing producer = .written item next) :
    { state with
      queue := { state.queue with tail := next }
      pushing := state.setPushing producer .idle
      pushed := state.pushed ++ [item] }.Sound size := by
  obtain ⟨slot, nextIs, bounded⟩ : state.PushSound size (.written item next) :=
    stands ▸ sound.push producer
  have storing : isStoring (state.pushing producer) = true := by
    rw [stands]
    rfl
  have idle : ∀ other, isStoring (state.setPushing producer .idle other) = false := by
    intro other
    unfold setPushing
    split
    next => rfl
    next different =>
      refine Bool.eq_false_iff.mpr fun also => different ?_
      exact sound.alone other producer also storing
  have before := sound.order.length_le
  have longer : (state.pushed ++ [item]).length = state.pushed.length + 1 := by simp
  have kept : ∀ number, number < state.pushed.length →
      (state.pushed ++ [item])[number]? = state.pushed[number]? :=
    fun number inside => List.getElem?_append_left inside
  refine { sound with
    sized := ⟨sound.sized.mask, sound.sized.power⟩
    tail := ?_
    order := sound.order.trans (List.prefix_append _ _)
    room := ?_
    push := ?_
    alone := ?_
    pop := ?_
    full := ?_
    free := ?_ }
  · dsimp only
    rw [longer]
    exact nextIs
  · dsimp only
    rw [longer]
    exact bounded
  · intro other
    have not := idle other
    dsimp only at not ⊢
    cases point : state.setPushing producer .idle other with
    | idle => trivial
    | tailLoaded => trivial
    | admitted =>
        rw [point] at not
        cases not
    | written =>
        rw [point] at not
        cases not
  · intro first second firstStoring
    dsimp only at firstStoring
    rw [idle first] at firstStoring
    cases firstStoring
  · have point := sound.pop
    dsimp only
    cases pops : state.popping with
    | idle => trivial
    | headLoaded head =>
        rw [pops] at point
        exact point
    | ready head =>
        rw [pops] at point
        exact ⟨point.1, by dsimp only; rw [longer]; exact Nat.lt_succ_of_lt point.2⟩
    | taken head taken =>
        rw [pops] at point
        obtain ⟨headIs, some, takenIs⟩ := point
        refine ⟨headIs, by dsimp only; rw [longer]; exact Nat.lt_succ_of_lt some, ?_⟩
        dsimp only
        rw [kept _ some]
        exact takenIs
    | cleared head taken =>
        rw [pops] at point
        obtain ⟨headIs, some, takenIs, empty⟩ := point
        refine ⟨headIs, by dsimp only; rw [longer]; exact Nat.lt_succ_of_lt some, ?_, empty⟩
        dsimp only
        rw [kept _ some]
        exact takenIs
  · intro number after inside uncleared
    dsimp only at after inside uncleared ⊢
    rw [longer] at inside
    rcases Nat.lt_succ_iff_lt_or_eq.mp inside with old | rfl
    · rw [kept number old]
      exact sound.full number after old uncleared
    · rw [slot, List.getElem?_concat_length]
  · intro number after inside _
    dsimp only at after inside ⊢
    rw [longer] at after
    exact sound.free number (by omega) inside fun same => absurd same (by omega)

/-! ## Runs -/

/-- A push that finds room has loaded the current tail, and no other push is storing. -/
def AdmitsAlone
    (state : SpscState Producer Item)
    (producer : Producer) : PushPoint Item → Prop
  | .tailLoaded _ tail =>
      (tail + 1) &&& state.queue.mask ≠ state.queue.head →
        tail = state.queue.tail ∧
          ∀ other, other ≠ producer → isStoring (state.pushing other) = false
  | _ => True

/-- A step after which at most one thread stores. -/
def StoresAlone (state : SpscState Producer Item) : SpscEvent Producer Item → Prop
  | .pushOn producer => state.AdmitsAlone producer (state.pushing producer)
  | _ => True

instance [Fintype Producer]
    (state : SpscState Producer Item)
    (producer : Producer) :
    ∀ point, Decidable (state.AdmitsAlone producer point)
  | .idle => isTrue trivial
  | .tailLoaded _ tail =>
      inferInstanceAs (Decidable ((tail + 1) &&& state.queue.mask ≠ state.queue.head →
        tail = state.queue.tail ∧
          ∀ other, other ≠ producer → isStoring (state.pushing other) = false))
  | .admitted .. => isTrue trivial
  | .written .. => isTrue trivial

instance [Fintype Producer]
    (state : SpscState Producer Item) :
    ∀ event, Decidable (state.StoresAlone event)
  | .pushOn producer =>
      inferInstanceAs (Decidable (state.AdmitsAlone producer (state.pushing producer)))
  | .push .. => isTrue trivial
  | .pop => isTrue trivial

/-- A step that stores alone keeps the invariant. -/
theorem Sound.next
    {state after : SpscState Producer Item}
    (sound : state.Sound size)
    {event : SpscEvent Producer Item}
    (alone : state.StoresAlone event)
    (stepped : state.next event = some after) :
    after.Sound size := by
  cases event with
  | push producer item =>
      simp only [SpscState.next] at stepped
      split at stepped
      next stands =>
        cases stepped
        exact sound.move (by rw [stands]; rfl) rfl state.fullAt
      next => cases stepped
  | pushOn producer =>
      simp only [SpscState.next] at stepped
      cases stands : state.pushing producer with
      | idle =>
          rw [stands] at stepped
          cases stepped
      | tailLoaded item tail =>
          simp only [stands, SpscQueue.pushStep] at stepped
          split at stepped
          next =>
            cases stepped
            exact sound.move (by rw [stands]; rfl) rfl _
          next room =>
            cases stepped
            have admits : state.AdmitsAlone producer (.tailLoaded item tail) := stands ▸ alone
            obtain ⟨rfl, others⟩ := admits room
            exact sound.admit (by rw [stands]; rfl) rfl room others
      | admitted item tail next =>
          simp only [stands, SpscQueue.pushStep] at stepped
          cases stepped
          exact sound.write stands
      | written item next =>
          simp only [stands, SpscQueue.pushStep] at stepped
          cases stepped
          exact sound.store stands
  | pop =>
      have point := sound.pop
      simp only [SpscState.next] at stepped
      cases pops : state.popping with
      | idle =>
          simp only [pops, SpscQueue.popStep] at stepped
          cases stepped
          rw [Option.join_none, Option.toList_none, List.append_nil]
          exact sound.popTo (.headLoaded state.queue.head) rfl (by rw [pops]; rfl) sound.emptyAt
      | headLoaded head =>
          rw [pops] at point
          simp only [pops, SpscQueue.popStep] at stepped
          split at stepped
          next meets =>
            cases stepped
            rw [Option.join_some, Option.toList_none, List.append_nil]
            refine sound.popTo .idle trivial (by rw [pops]; rfl) fun count member => ?_
            rcases List.mem_append.mp member with old | new
            · exact sound.emptyAt count old
            · have none := sound.length_eq (point ▸ meets)
              have total := sound.held_eq
              rw [List.mem_singleton.mp new]
              omega
          next apart =>
            cases stepped
            rw [Option.join_none, Option.toList_none, List.append_nil]
            refine sound.popTo (.ready head) ⟨point, ?_⟩ (by rw [pops]; rfl) sound.emptyAt
            refine Nat.lt_of_le_of_ne sound.order.length_le fun same => apart ?_
            rw [show head = state.queue.head from point, sound.head, sound.tail, same]
      | ready head =>
          rw [pops] at point
          obtain ⟨rfl, some⟩ := point
          simp only [pops, SpscQueue.popStep] at stepped
          cases stepped
          rw [Option.join_none, Option.toList_none, List.append_nil]
          have uncleared : isCleared state.popping = false := by
            rw [pops]
            rfl
          exact sound.popTo (.taken state.queue.head (state.queue.slots state.queue.head))
            ⟨rfl, some, sound.slots_head some uncleared⟩ uncleared sound.emptyAt
      | taken head item =>
          simp only [pops, SpscQueue.popStep] at stepped
          cases stepped
          rw [Option.join_none, Option.toList_none, List.append_nil]
          exact sound.clear pops
      | cleared head item =>
          obtain ⟨first, rfl, popped⟩ := sound.popStore pops
          simp only [pops, SpscQueue.popStep] at stepped
          cases stepped
          exact popped

/-- How many steps of a pop were taken. -/
def rank : PopPoint Item → Nat
  | .idle => 0
  | .headLoaded _ => 1
  | .ready _ => 2
  | .taken .. => 3
  | .cleared .. => 4

/-- As long as items are held, each step of the consumer gets it closer to the next one. -/
theorem Sound.progress
    (sound : state.Sound size)
    (holds : state.popped.length < state.pushed.length) :
    ∃ after, state.next .pop = some after ∧ after.Sound size ∧ after.pushed = state.pushed ∧
      5 * after.popped.length + rank after.popping =
        5 * state.popped.length + rank state.popping + 1 := by
  have always : ∃ after, state.next .pop = some after := ⟨_, rfl⟩
  obtain ⟨after, stepped⟩ := always
  have alone : state.StoresAlone .pop := trivial
  refine ⟨after, stepped, sound.next alone stepped, ?_⟩
  have point := sound.pop
  simp only [SpscState.next] at stepped
  cases pops : state.popping with
  | idle =>
      simp only [pops, SpscQueue.popStep] at stepped
      cases stepped
      simp [rank]
  | headLoaded head =>
      rw [pops] at point
      simp only [pops, SpscQueue.popStep] at stepped
      split at stepped
      next meets => exact absurd (sound.length_eq (point ▸ meets)) (Nat.ne_of_lt holds)
      next =>
        cases stepped
        simp [rank]
  | ready head =>
      simp only [pops, SpscQueue.popStep] at stepped
      cases stepped
      simp [rank]
  | taken head item =>
      simp only [pops, SpscQueue.popStep] at stepped
      cases stepped
      simp [rank]
  | cleared head item =>
      obtain ⟨first, rfl, _⟩ := sound.popStore pops
      simp only [pops, SpscQueue.popStep] at stepped
      cases stepped
      simp [rank]
      omega

/-- A consumer that goes on alone pops every item. -/
theorem Sound.drains
    (sound : state.Sound size) :
    ∃ pops final, System.run SpscState.next state (List.replicate pops .pop) = some final ∧
      final.popped = state.pushed := by
  -- The induction is on how many steps are left until the last item is popped.
  induction left : 5 * state.pushed.length - (5 * state.popped.length + rank state.popping)
    using Nat.strong_induction_on generalizing state with
  | _ left ih =>
      by_cases holds : state.popped.length < state.pushed.length
      · obtain ⟨after, stepped, soundAfter, pushed, closer⟩ := sound.progress holds
        have bound : rank state.popping < 5 := by
          cases state.popping <;> simp [rank]
        obtain ⟨pops, final, runs, popped⟩ :=
          ih _ (by rw [pushed, closer]; omega) soundAfter rfl
        refine ⟨pops + 1, final, ?_, popped.trans pushed⟩
        rw [List.replicate_succ, System.run, stepped]
        exact runs
      · refine ⟨0, state, rfl, ?_⟩
        exact sound.order.eq_of_length_le (Nat.le_of_not_lt holds)

/-- What holds of a queue that one thread fills. -/
structure SoundAlone
    (size : Nat)
    (state : SpscState Unit Item) : Prop where
  sound : state.Sound size
  fresh : ∀ item tail, state.pushing () = .tailLoaded item tail → tail = state.queue.tail
  fullAt : ∀ count ∈ state.fullAt, count + 1 = size

theorem SoundAlone.storesAlone
    {state : SpscState Unit Item}
    (alone : state.SoundAlone size)
    (event : SpscEvent Unit Item) :
    state.StoresAlone event := by
  cases event with
  | push => trivial
  | pushOn producer =>
      change state.AdmitsAlone producer (state.pushing producer)
      cases stands : state.pushing producer with
      | idle => trivial
      | tailLoaded item tail =>
          exact fun _ => ⟨alone.fresh item tail stands, fun _ different => absurd rfl different⟩
      | admitted => trivial
      | written => trivial
  | pop => trivial

theorem SoundAlone.next
    {state after : SpscState Unit Item}
    (alone : state.SoundAlone size)
    {event : SpscEvent Unit Item}
    (stepped : state.next event = some after) :
    after.SoundAlone size := by
  have sound := alone.sound.next (alone.storesAlone event) stepped
  cases event with
  | push producer item =>
      simp only [SpscState.next] at stepped
      split at stepped
      next =>
        cases stepped
        refine ⟨sound, fun item tail stands => ?_, alone.fullAt⟩
        cases stands
        rfl
      next => cases stepped
  | pushOn producer =>
      simp only [SpscState.next] at stepped
      cases stands : state.pushing producer with
      | idle =>
          rw [stands] at stepped
          cases stepped
      | tailLoaded item tail =>
          simp only [stands, SpscQueue.pushStep] at stepped
          split at stepped
          next full =>
            cases stepped
            refine ⟨sound, fun _ _ other => (nomatch other), fun count member => ?_⟩
            rcases List.mem_append.mp member with old | new
            · exact alone.fullAt count old
            · rw [List.mem_singleton.mp new]
              exact alone.sound.held_of_full (alone.fresh item tail stands ▸ full)
          next =>
            cases stepped
            exact ⟨sound, fun _ _ other => (nomatch other), alone.fullAt⟩
      | admitted item tail next =>
          simp only [stands, SpscQueue.pushStep] at stepped
          cases stepped
          exact ⟨sound, fun _ _ other => (nomatch other), alone.fullAt⟩
      | written item next =>
          simp only [stands, SpscQueue.pushStep] at stepped
          cases stepped
          exact ⟨sound, fun _ _ other => (nomatch other), alone.fullAt⟩
  | pop =>
      have kept : after.pushing = state.pushing ∧ after.queue.tail = state.queue.tail ∧
          after.fullAt = state.fullAt := by
        simp only [SpscState.next] at stepped
        cases stepped
        refine ⟨rfl, ?_, rfl⟩
        cases state.popping with
        | idle => rfl
        | headLoaded head =>
            simp only [SpscQueue.popStep]
            split <;> rfl
        | ready head => rfl
        | taken head item => rfl
        | cleared head item => rfl
      refine ⟨sound, fun item tail stands => ?_, kept.2.2 ▸ alone.fullAt⟩
      rw [kept.1] at stands
      rw [kept.2.1]
      exact alone.fresh item tail stands

theorem soundAlone_of_reachable
    {capacity : UInt32}
    {queue : SpscQueue Item}
    (made : SpscQueue.new capacity = some queue)
    {state : SpscState Unit Item}
    (reachable : (system queue).Reachable state) :
    ∃ size, queue.itemCapacity.toNat = size - 1 ∧ state.SoundAlone size := by
  obtain ⟨size, sized, itemCapacity, head, tail, slots⟩ := SpscQueue.sized_of_new made
  refine ⟨size, itemCapacity, ?_⟩
  refine reachable.invariant ?_ ?_
  · rintro _ rfl
    exact ⟨sound_start sized head tail slots, fun _ _ other => (nomatch other),
      fun _ member => (nomatch member)⟩
  · intro before event after alone _ stepped
    exact alone.next stepped

/-- In every run of one producer and one consumer, step by step, the items popped are the first
items pushed; the slot that a push is going to write is empty; a push that returned false found
the queue full; and a pop that returned NULL found it empty. -/
theorem fifo_of_reachable
    {capacity : UInt32}
    {queue : SpscQueue Item}
    (made : SpscQueue.new capacity = some queue)
    {state : SpscState Unit Item}
    (reachable : (system queue).Reachable state) :
    state.popped <+: state.pushed ∧
      (∀ item tail next, state.pushing () = .admitted item tail next →
        state.queue.slots tail = none) ∧
      (∀ count ∈ state.fullAt, count = queue.itemCapacity.toNat) ∧
      ∀ count ∈ state.emptyAt, count = 0 := by
  obtain ⟨size, itemCapacity, alone⟩ := soundAlone_of_reachable made reachable
  refine ⟨alone.sound.order, fun item tail next stands => alone.sound.free_tail stands, ?_,
    alone.sound.emptyAt⟩
  intro count member
  have full := alone.fullAt count member
  omega

/-- A queue for one item is filled, refuses the next one, is emptied, goes around the ring and
is emptied again. -/
def aroundTheRing : List (SpscEvent Unit Nat) :=
  [.push () 1, .pushOn (), .pushOn (), .pushOn (), .push () 2, .pushOn (),
    .pop, .pop, .pop, .pop, .pop,
    .push () 3, .pushOn (), .pushOn (), .pushOn (), .pop, .pop, .pop, .pop, .pop, .pop, .pop]

theorem fifo_aroundTheRing :
    ∃ queue state, SpscQueue.new 2 = some queue ∧
      System.run SpscState.next (start queue) aroundTheRing = some state ∧
      state.popped = [1, 3] ∧ state.fullAt = [1] ∧ state.emptyAt = [0] ∧
      state.popped <+: state.pushed := by
  have runs : ((SpscQueue.new 2).bind fun queue =>
      (System.run SpscState.next (start queue) aroundTheRing).map fun state =>
        (state.popped, state.fullAt, state.emptyAt)) = some ([1, 3], [1], [0]) := by
    decide +kernel
  obtain ⟨queue, made, runs⟩ := Option.bind_eq_some_iff.mp runs
  obtain ⟨state, runs, results⟩ := Option.map_eq_some_iff.mp runs
  simp only [Prod.mk.injEq] at results
  obtain ⟨popped, fullAt, emptyAt⟩ := results
  have fifo := fifo_of_reachable made (System.reachable_of_run (.initial rfl) runs)
  exact ⟨queue, state, made, runs, popped, fullAt, emptyAt, fifo.1⟩

/-- In every run `sbs_spsc_queue_count` tells how many items are in the queue, and there is
never one too many. -/
theorem count_of_reachable
    {capacity : UInt32}
    {queue : SpscQueue Item}
    (made : SpscQueue.new capacity = some queue)
    {state : SpscState Unit Item}
    (reachable : (system queue).Reachable state) :
    state.queue.count.toNat = state.pushed.length - state.popped.length ∧
      state.queue.count.toNat ≤ queue.itemCapacity.toNat := by
  obtain ⟨size, itemCapacity, alone⟩ := soundAlone_of_reachable made reachable
  have count := alone.sound.count_eq
  have total := alone.sound.held_eq
  have room := alone.sound.room
  exact ⟨count, by omega⟩

/-- The steps of a push. -/
def pushSteps (item : Nat) : List (SpscEvent Unit Nat) :=
  [.push () item, .pushOn (), .pushOn (), .pushOn ()]

/-- Two items are popped, and the third push after that goes around the ring. -/
theorem count_of_reachable_pushed :
    ∃ (queue : SpscQueue Nat) (state : SpscState Unit Nat), SpscQueue.new 4 = some queue ∧
      System.run SpscState.next (start queue)
          ([1, 2, 3].flatMap pushSteps ++ List.replicate 10 .pop ++ [4, 5].flatMap pushSteps) =
        some state ∧
      state.pushed = [1, 2, 3, 4, 5] ∧ state.popped = [1, 2] ∧ state.queue.count.toNat = 3 := by
  have runs : ((SpscQueue.new 4).bind fun queue =>
      (System.run SpscState.next (start queue)
          ([1, 2, 3].flatMap pushSteps ++ List.replicate 10 .pop ++ [4, 5].flatMap pushSteps)).map
        fun state : SpscState Unit Nat => (state.pushed, state.popped)) =
          some ([1, 2, 3, 4, 5], [1, 2]) := by
    decide +kernel
  obtain ⟨queue, made, runs⟩ := Option.bind_eq_some_iff.mp runs
  obtain ⟨state, runs, items⟩ := Option.map_eq_some_iff.mp runs
  simp only [Prod.mk.injEq] at items
  obtain ⟨pushed, popped⟩ := items
  have count := count_of_reachable made (System.reachable_of_run (.initial rfl) runs)
  rw [pushed, popped] at count
  exact ⟨queue, state, made, runs, pushed, popped, count.1⟩

end SpscState
end Common
end SbsServer
