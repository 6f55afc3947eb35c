import Mathlib.Data.List.Basic
import Mathlib.Data.List.Nodup
import Mathlib.Data.Nat.ModEq
import Mathlib.Data.Fintype.Basic
import Mathlib.Logic.Function.Basic

/-!
# Ring buffers

A ring buffer keeps its live elements in consecutive slots of a circular array,
from a head on.  Its window is the list of these elements, oldest first; the
lemmas say what the window becomes when a slot is written, when the count grows
at the tail and when the head moves.
-/

namespace CLib

/-! ## Sizes

Positions of arrays of these sizes are written as numbers. -/

instance neZero_one : NeZero 1 := ⟨by decide⟩

instance neZero_three : NeZero 3 := ⟨by decide⟩

instance neZero_four : NeZero 4 := ⟨by decide⟩

instance neZero_eight : NeZero 8 := ⟨by decide⟩

instance neZero_sixteen : NeZero 16 := ⟨by decide⟩

namespace Ring

variable {size : Nat} [NeZero size] {α : Type}

/-- The slot that stands some places behind the head. -/
def index (size : Nat) [NeZero size] (head offset : Nat) : Fin size :=
  Fin.ofNat size (head + offset)

/-- The live elements of a ring, oldest first. -/
def window
    (slots : Fin size → α)
    (head count : Nat) : List α :=
  (List.range count).map fun offset => slots (index size head offset)

@[simp] theorem length_window
    (slots : Fin size → α)
    (head count : Nat) :
    (window slots head count).length = count := by
  simp [window]

@[simp] theorem window_zero
    (slots : Fin size → α)
    (head : Nat) :
    window slots head 0 = [] := by
  simp [window]

/-- The head may be counted once around the ring. -/
theorem index_mod
    (head offset : Nat) :
    index size (head % size) offset = index size head offset := by
  apply Fin.ext
  simp [index]

/-- Moving the head shifts the offsets. -/
theorem index_succ
    (head offset : Nat) :
    index size ((head + 1) % size) offset = index size head (offset + 1) := by
  rw [index_mod]
  apply Fin.ext
  simp only [index, Fin.val_ofNat]
  congr 1
  omega

/-- A separate index of the slot behind the window advances with its length. -/
theorem ofNat_succ
    {tail head offset : Nat}
    (behind : Fin.ofNat size tail = index size head offset) :
    Fin.ofNat size ((tail + 1) % size) = index size head (offset + 1) := by
  have values : tail % size = (head + offset) % size := congrArg Fin.val behind
  apply Fin.ext
  simp only [index, Fin.val_ofNat, Nat.mod_mod]
  rw [← Nat.add_assoc, Nat.add_mod, values, ← Nat.add_mod]

/-- Less than one turn leads to different slots. -/
theorem index_injective
    {head first second : Nat}
    (firstInside : first < size)
    (secondInside : second < size)
    (same : index size head first = index size head second) :
    first = second := by
  have values := congrArg Fin.val same
  simp only [index, Fin.val_ofNat] at values
  have remainders : first % size = second % size :=
    Nat.ModEq.add_left_cancel' head values
  rwa [Nat.mod_eq_of_lt firstInside, Nat.mod_eq_of_lt secondInside] at remainders

/-- The last element of a longer window. -/
theorem window_succ
    (slots : Fin size → α)
    (head count : Nat) :
    window slots head (count + 1) =
      window slots head count ++ [slots (index size head count)] := by
  simp [window, List.range_succ]

/-- The first element of a longer window. -/
theorem window_succ_head
    (slots : Fin size → α)
    (head count : Nat) :
    window slots head (count + 1) =
      slots (index size head 0) :: window slots ((head + 1) % size) count := by
  simp [window, List.range_succ_eq_map, index_succ]

variable {head count : Nat} {slots : Fin size → α}

/-- Writing outside the window leaves it. -/
theorem window_update_of_ne
    {slot : Fin size}
    (outside : ∀ offset < count, index size head offset ≠ slot)
    (element : α) :
    window (Function.update slots slot element) head count =
      window slots head count := by
  simp only [window]
  apply List.map_congr_left
  intro offset member
  exact Function.update_of_ne (outside offset (List.mem_range.mp member)) _ _

/-- Writing behind the window appends to it. -/
theorem window_push
    (room : count < size)
    (element : α) :
    window (Function.update slots (index size head count) element) head (count + 1) =
      window slots head count ++ [element] := by
  rw [window_succ, Function.update_self, window_update_of_ne]
  intro offset inside same
  have := index_injective (inside.trans room) room same
  omega

/-- Writing the head leaves the rest of the window. -/
theorem window_update_head
    (room : count < size)
    (element : α) :
    window (Function.update slots (index size head 0) element)
        ((head + 1) % size) count =
      window slots ((head + 1) % size) count := by
  apply window_update_of_ne
  intro offset inside same
  rw [index_succ] at same
  have := index_injective (by omega) (by omega) same
  omega

/-- A ring with its head and its count. -/
structure Buffer (α : Type) (size : Nat) where
  slots : Fin size → α
  head : Nat
  count : Nat
  /-- No more elements are live than there are slots. -/
  fits : count ≤ size

namespace Buffer

variable {buffer : Buffer α size}

/-- A buffer without live elements. -/
def empty (blank : α) : Buffer α size where
  slots _ := blank
  head := 0
  count := 0
  fits := Nat.zero_le size

/-- The live elements, oldest first. -/
def contents (buffer : Buffer α size) : List α :=
  window buffer.slots buffer.head buffer.count

/-- The oldest live element. -/
def first (buffer : Buffer α size) : α :=
  buffer.slots (index size buffer.head 0)

/-- The buffer without its oldest element, whose slot is blanked. -/
def pop
    (buffer : Buffer α size)
    (blank : α) : Buffer α size where
  slots := Function.update buffer.slots (index size buffer.head 0) blank
  head := (buffer.head + 1) % size
  count := buffer.count - 1
  fits := (Nat.sub_le _ _).trans buffer.fits

/-- The buffer with one more element. -/
def push
    (buffer : Buffer α size)
    (room : buffer.count < size)
    (element : α) : Buffer α size where
  slots := Function.update buffer.slots (index size buffer.head buffer.count) element
  head := buffer.head
  count := buffer.count + 1
  fits := room

/-- The buffer with its head at the first slot. -/
def rewind (buffer : Buffer α size) : Buffer α size :=
  { buffer with head := 0 }

/-- Take at most a number of elements out of a buffer. -/
def takeUpTo
    (blank : α) : Nat → Buffer α size → List α × Buffer α size
  | 0, buffer => ([], buffer)
  | limit + 1, buffer =>
      if 0 < buffer.count then
        (buffer.first :: (takeUpTo blank limit (buffer.pop blank)).1,
          (takeUpTo blank limit (buffer.pop blank)).2)
      else ([], buffer)

@[simp] theorem contents_empty (blank : α) :
    (empty blank : Buffer α size).contents = [] :=
  window_zero _ _

@[simp] theorem length_contents (buffer : Buffer α size) :
    buffer.contents.length = buffer.count :=
  length_window _ _ _

theorem contents_eq_nil
    (none : buffer.count = 0) :
    buffer.contents = [] := by
  rw [← List.length_eq_zero_iff, length_contents, none]

theorem contents_rewind
    (none : buffer.count = 0) :
    buffer.rewind.contents = buffer.contents := by
  have rewound : buffer.rewind.count = 0 := none
  rw [contents_eq_nil none, contents_eq_nil rewound]

@[simp] theorem contents_push
    (room : buffer.count < size)
    (element : α) :
    (buffer.push room element).contents = buffer.contents ++ [element] :=
  window_push room element

theorem contents_pop
    (some : 0 < buffer.count)
    (blank : α) :
    buffer.contents = [buffer.first] ++ (buffer.pop blank).contents := by
  obtain ⟨rest, count⟩ := Nat.exists_eq_succ_of_ne_zero some.ne'
  have room : rest < size := by
    have := buffer.fits
    omega
  simp only [contents, pop, first, count, Nat.succ_sub_one]
  rw [Nat.succ_eq_add_one, window_succ_head, window_update_head room]
  rfl

@[simp] theorem count_pop (blank : α) :
    (buffer.pop blank).count = buffer.count - 1 :=
  rfl

@[simp] theorem count_push
    (room : buffer.count < size)
    (element : α) :
    (buffer.push room element).count = buffer.count + 1 :=
  rfl

/-- There is room after an element was taken out. -/
theorem room_pop
    (buffer : Buffer α size)
    (blank : α) :
    (buffer.pop blank).count < size := by
  have slots := Nat.pos_of_neZero size
  have fits := buffer.fits
  rw [count_pop]
  omega

/-- Taking as many elements as there may be takes all. -/
theorem takeUpTo_all
    (blank : α)
    {limit : Nat}
    (enough : buffer.count ≤ limit) :
    (takeUpTo blank limit buffer).1 = buffer.contents ∧
      (takeUpTo blank limit buffer).2.count = 0 := by
  induction limit generalizing buffer with
  | zero => exact ⟨(contents_eq_nil (Nat.le_zero.mp enough)).symm, Nat.le_zero.mp enough⟩
  | succ limit ih =>
      unfold takeUpTo
      split
      next some =>
        obtain ⟨rest, none⟩ := @ih (buffer.pop blank) (by
          rw [count_pop]
          omega)
        rw [contents_pop some blank, rest]
        exact ⟨rfl, none⟩
      next none =>
        have zero : buffer.count = 0 := by omega
        exact ⟨(contents_eq_nil zero).symm, zero⟩

end Buffer

end Ring
end CLib
