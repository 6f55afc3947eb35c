import SbsServer.CLib.PowerOfTwo
import SbsServer.CLib.System

/-!
# The queue between two threads

`spsc_queue.c`: a ring of pointers that one thread fills and another empties
without a lock.  Items are pointers that are not NULL.  A call is a sequence of
loads and stores, so the model keeps for each thread where in its call it
stands; several threads may push, as long as the reader wants to know what
happens then.
-/

namespace SbsServer
namespace Common

open CLib

/-- `SBS_SPSC_MAX_CAPACITY` -/
def spscMaxCapacity : UInt32 := 4096

/-- `next_pow2` -/
def nextPow2 (v : UInt32) : UInt32 :=
  let v := v - 1
  let v := v ||| v >>> 1
  let v := v ||| v >>> 2
  let v := v ||| v >>> 4
  let v := v ||| v >>> 8
  let v := v ||| v >>> 16
  v + 1

/-- `sbs_spsc_queue_t` -/
structure SpscQueue (Item : Type) where
  slots : UInt32 → Option Item
  capacity : UInt32
  mask : UInt32
  head : UInt32
  tail : UInt32

/-- Where a thread stands in `sbs_spsc_queue_push`. -/
inductive PushPoint (Item : Type)
  | idle
  /-- `tail` was loaded. -/
  | tailLoaded (item : Item) (tail : UInt32)
  /-- `head` was loaded and there is room. -/
  | admitted (item : Item) (tail next : UInt32)
  /-- The slot was written. -/
  | written (item : Item) (next : UInt32)
  deriving DecidableEq

/-- Where a thread stands in `sbs_spsc_queue_pop`. -/
inductive PopPoint (Item : Type)
  | idle
  /-- `head` was loaded. -/
  | headLoaded (head : UInt32)
  /-- `tail` was loaded and there is an item. -/
  | ready (head : UInt32)
  /-- The slot was read. -/
  | taken (head : UInt32) (item : Option Item)
  /-- The slot was cleared. -/
  | cleared (head : UInt32) (item : Option Item)
  deriving DecidableEq

namespace SpscQueue

variable {Item : Type}

/-- `sbs_spsc_queue_new`, with enough memory. -/
def new (capacity : UInt32) : Option (SpscQueue Item) :=
  if capacity = 0 ∨ spscMaxCapacity < capacity then none
  else
    some {
      slots := fun _ => none
      capacity := nextPow2 capacity
      mask := nextPow2 capacity - 1
      head := 0
      tail := 0 }

/-- `sbs_spsc_queue_count`, if nobody stores in between. -/
def count (queue : SpscQueue Item) : UInt32 :=
  (queue.tail - queue.head) &&& queue.mask

/-- `sbs_spsc_queue_capacity` -/
def itemCapacity (queue : SpscQueue Item) : UInt32 :=
  queue.capacity - 1

/-- The next load or store of a call of `sbs_spsc_queue_push`, and what the call returns if it
ends with it. -/
def pushStep
    (queue : SpscQueue Item) : PushPoint Item → SpscQueue Item × PushPoint Item × Option Bool
  | .idle => (queue, .idle, none)
  | .tailLoaded item tail =>
      let next := (tail + 1) &&& queue.mask
      if next = queue.head then (queue, .idle, some false)
      else (queue, .admitted item tail next, none)
  | .admitted item tail next =>
      ({ queue with
        slots := fun slot => if slot = tail then some item else queue.slots slot },
        .written item next, none)
  | .written _ next => ({ queue with tail := next }, .idle, some true)

/-- The next load or store of a call of `sbs_spsc_queue_pop`, and what the call returns if it
ends with it. -/
def popStep
    (queue : SpscQueue Item) :
    PopPoint Item → SpscQueue Item × PopPoint Item × Option (Option Item)
  | .idle => (queue, .headLoaded queue.head, none)
  | .headLoaded head =>
      if head = queue.tail then (queue, .idle, some none) else (queue, .ready head, none)
  | .ready head => (queue, .taken head (queue.slots head), none)
  | .taken head item =>
      ({ queue with slots := fun slot => if slot = head then none else queue.slots slot },
        .cleared head item, none)
  | .cleared head item =>
      ({ queue with head := (head + 1) &&& queue.mask }, .idle, some item)

end SpscQueue

/-- A queue with the threads that push and the thread that pops.  The last four fields are a
history: the items whose push returned true, the items popped, and how many items the queue
held whenever a push returned false and whenever a pop returned NULL. -/
structure SpscState (Producer Item : Type) where
  queue : SpscQueue Item
  pushing : Producer → PushPoint Item
  popping : PopPoint Item
  pushed : List Item
  popped : List Item
  fullAt : List Nat
  emptyAt : List Nat

/-- What the threads do. -/
inductive SpscEvent (Producer Item : Type)
  /-- A thread calls push and loads `tail`. -/
  | push (producer : Producer) (item : Item)
  /-- A thread goes on with its push. -/
  | pushOn (producer : Producer)
  /-- The consumer calls pop or goes on with it. -/
  | pop
  deriving DecidableEq

namespace SpscState

variable {Producer Item : Type} [DecidableEq Producer]

/-- A queue that nobody uses yet. -/
def start (queue : SpscQueue Item) : SpscState Producer Item where
  queue := queue
  pushing _ := .idle
  popping := .idle
  pushed := []
  popped := []
  fullAt := []
  emptyAt := []

/-- How many items the queue holds. -/
def held (state : SpscState Producer Item) : Nat :=
  state.pushed.length - state.popped.length

/-- A thread stands at a point of its push. -/
def setPushing
    (state : SpscState Producer Item)
    (producer : Producer)
    (point : PushPoint Item) : Producer → PushPoint Item :=
  fun other => if other = producer then point else state.pushing other

/-- The item that a thread is pushing. -/
def itemOf : PushPoint Item → List Item
  | .idle => []
  | .tailLoaded item _ => [item]
  | .admitted item _ _ => [item]
  | .written item _ => [item]

/-- The state after an event, if it can happen. -/
def next
    (state : SpscState Producer Item) :
    SpscEvent Producer Item → Option (SpscState Producer Item)
  | .push producer item =>
      match state.pushing producer with
      | .idle =>
          some { state with
            pushing := state.setPushing producer (.tailLoaded item state.queue.tail) }
      | _ => none
  | .pushOn producer =>
      match state.pushing producer with
      | .idle => none
      | point =>
          let (queue, after, result) := state.queue.pushStep point
          some { state with
            queue := queue
            pushing := state.setPushing producer after
            pushed := if result = some true then state.pushed ++ itemOf point else state.pushed
            fullAt :=
              if result = some false then state.fullAt ++ [state.held] else state.fullAt }
  | .pop =>
      let (queue, after, result) := state.queue.popStep state.popping
      some { state with
        queue := queue
        popping := after
        popped := state.popped ++ (result.join).toList
        emptyAt := match result with
          | some none => state.emptyAt ++ [state.held]
          | _ => state.emptyAt }

/-- Runs of a queue. -/
def system (queue : SpscQueue Item) :
    System (SpscState Producer Item) (SpscEvent Producer Item) :=
  .ofNext (· = start queue) next

end SpscState
end Common
end SbsServer
