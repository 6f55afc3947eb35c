import Mathlib.Data.List.Basic

/-!
# Queues that drop the oldest element

A queue of a fixed capacity makes room by giving up its head.  What leaves and what
stays is always what came, in order.
-/

namespace CLib
namespace Fifo

variable {α : Type}

/-- Append an element; a full queue gives up its head first. -/
def push
    (capacity : Nat)
    (queue : List α)
    (element : α) : Option α × List α :=
  if capacity ≤ queue.length then (queue.head?, queue.tail ++ [element])
  else (none, queue ++ [element])

/-- What a removal of the head takes and leaves. -/
theorem head?_append_tail (queue : List α) :
    queue.head?.toList ++ queue.tail = queue := by
  cases queue with
  | nil => rfl
  | cons head rest => rfl

/-- A queue has room, or its head is dropped. -/
theorem push_cases
    {capacity : Nat}
    (positive : 0 < capacity)
    (queue : List α)
    (element : α) :
    (queue.length < capacity ∧ push capacity queue element = (none, queue ++ [element])) ∨
      ∃ head rest, queue = head :: rest ∧
        push capacity queue element = (some head, rest ++ [element]) := by
  unfold push
  split
  next full =>
    cases queue with
    | nil => exact absurd full (Nat.not_le.mpr positive)
    | cons head rest => exact .inr ⟨head, rest, rfl, rfl⟩
  next room => exact .inl ⟨Nat.lt_of_not_le room, rfl⟩

theorem push_order
    (capacity : Nat)
    (queue : List α)
    (element : α) :
    (push capacity queue element).1.toList ++ (push capacity queue element).2 =
      queue ++ [element] := by
  unfold push
  split
  · dsimp only
    rw [← List.append_assoc, head?_append_tail]
  · rfl

theorem length_push_le
    {capacity : Nat}
    {queue : List α}
    (positive : 0 < capacity)
    (fits : queue.length ≤ capacity)
    (element : α) :
    (push capacity queue element).2.length ≤ capacity := by
  obtain ⟨room, pushed⟩ | ⟨head, rest, rfl, pushed⟩ := push_cases positive queue element
  · rw [pushed, List.length_append]
    exact room
  · rw [pushed, List.length_append]
    exact fits

end Fifo
end CLib
