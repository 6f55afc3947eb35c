import Mathlib.Algebra.Order.Group.Nat
import Mathlib.Data.List.Basic
import Mathlib.Logic.Function.Basic

/-!
# Arrays with a used front

The cells of an array are in use up to a count.  A loop moves the cells that it
keeps to the front and takes the others out; another one stores elements behind the
front until the array is full.
-/

namespace CLib
namespace Compaction

variable {α : Type}

/-- The cells in use. -/
def front
    (cells : Nat → α)
    (count : Nat) : List α :=
  (List.range count).map cells

theorem front_succ
    (cells : Nat → α)
    (count : Nat) :
    front cells (count + 1) = front cells count ++ [cells count] := by
  unfold front
  rw [List.range_succ, List.map_append]
  rfl

theorem front_cons
    (cells : Nat → α)
    (count : Nat) :
    front cells (count + 1) = cells 0 :: front (fun i => cells (i + 1)) count := by
  unfold front
  rw [List.range_succ_eq_map, List.map_cons, List.map_map]
  rfl

@[simp] theorem length_front
    (cells : Nat → α)
    (count : Nat) :
    (front cells count).length = count := by
  simp [front]

/-- What lies behind the front does not matter. -/
theorem front_congr
    {left right : Nat → α}
    {count : Nat}
    (agree : ∀ i < count, left i = right i) :
    front left count = front right count :=
  List.map_congr_left fun i member => agree i (List.mem_range.mp member)

/-- The cells so far, how many of them were kept, and what was taken out. -/
structure State (α : Type) where
  cells : Nat → α
  kept : Nat
  removed : List α

/-- Look at a cell: keep it behind those that were kept, or take it out. -/
def visit
    (keeps : Nat → α → Bool)
    (clear : α → α)
    (state : State α)
    (i : Nat) : State α :=
  if keeps i (state.cells i) then
    { state with
      cells := Function.update state.cells state.kept (state.cells i)
      kept := state.kept + 1 }
  else
    { state with
      cells := Function.update state.cells i (clear (state.cells i))
      removed := state.removed ++ [state.cells i] }

/-- The loop over the cells in use. -/
def run
    (keeps : Nat → α → Bool)
    (clear : α → α)
    (cells : Nat → α)
    (count : Nat) : State α :=
  (List.range count).foldl (visit keeps clear) ⟨cells, 0, []⟩

/-- The cells that a loop keeps. -/
def survivors
    (keeps : Nat → α → Bool)
    (cells : Nat → α)
    (count : Nat) : List α :=
  ((List.range count).filter fun i => keeps i (cells i)).map cells

/-- The cells that a loop takes out. -/
def leavers
    (keeps : Nat → α → Bool)
    (cells : Nat → α)
    (count : Nat) : List α :=
  ((List.range count).filter fun i => !keeps i (cells i)).map cells

variable (keeps : Nat → α → Bool)

theorem survivors_cons
    (cells : Nat → α)
    (count : Nat) :
    survivors keeps cells (count + 1) =
      if keeps 0 (cells 0) then
        cells 0 :: survivors (fun i => keeps (i + 1)) (fun i => cells (i + 1)) count
      else survivors (fun i => keeps (i + 1)) (fun i => cells (i + 1)) count := by
  unfold survivors
  rw [List.range_succ_eq_map, List.filter_cons, List.filter_map]
  cases keeps 0 (cells 0) <;> simp [Function.comp_def]

theorem leavers_cons
    (cells : Nat → α)
    (count : Nat) :
    leavers keeps cells (count + 1) =
      if keeps 0 (cells 0) then
        leavers (fun i => keeps (i + 1)) (fun i => cells (i + 1)) count
      else cells 0 :: leavers (fun i => keeps (i + 1)) (fun i => cells (i + 1)) count := by
  unfold leavers
  rw [List.range_succ_eq_map, List.filter_cons, List.filter_map]
  cases keeps 0 (cells 0) <;> simp [Function.comp_def]

theorem survivors_append_leavers_perm
    (cells : Nat → α)
    (count : Nat) :
    (survivors keeps cells count ++ leavers keeps cells count).Perm (front cells count) := by
  unfold survivors leavers front
  rw [← List.map_append]
  exact (List.filter_append_perm _ _).map cells

theorem length_survivors_le
    (cells : Nat → α)
    (count : Nat) :
    (survivors keeps cells count).length ≤ count := by
  unfold survivors
  rw [List.length_map]
  exact (List.length_filter_le _ _).trans_eq List.length_range

/-- After so many cells. -/
structure Compacted
    (keeps : Nat → α → Bool)
    (cells : Nat → α)
    (count : Nat)
    (state : State α) : Prop where
  front : front state.cells state.kept = survivors keeps cells count
  removed : state.removed = leavers keeps cells count
  rest : ∀ i, count ≤ i → state.cells i = cells i

namespace Compacted

variable
  {keeps : Nat → α → Bool}
  {cells : Nat → α}
  {count : Nat}
  {state : State α}

theorem kept_eq (compacted : Compacted keeps cells count state) :
    state.kept = (survivors keeps cells count).length := by
  rw [← compacted.front, length_front]

theorem kept_le (compacted : Compacted keeps cells count state) :
    state.kept ≤ count := by
  rw [compacted.kept_eq]
  exact length_survivors_le keeps cells count

/-- The next cell is where it was, since what is kept never gets ahead of the loop. -/
theorem visit
    (clear : α → α)
    (compacted : Compacted keeps cells count state) :
    Compacted keeps cells (count + 1) (visit keeps clear state count) := by
  have same := compacted.rest count le_rfl
  have before := compacted.kept_le
  unfold Compaction.visit
  rw [same]
  cases keep : keeps count (cells count) with
  | true =>
      rw [if_pos rfl]
      constructor
      · have kept : Compaction.front
            (Function.update state.cells state.kept (cells count)) state.kept =
            Compaction.front state.cells state.kept :=
          front_congr fun i less => Function.update_of_ne (ne_of_lt less) _ _
        rw [front_succ, kept, compacted.front]
        dsimp only
        rw [Function.update_self]
        unfold survivors
        rw [List.range_succ, List.filter_append, List.map_append]
        simp [keep]
      · unfold leavers
        rw [List.range_succ, List.filter_append, List.map_append, compacted.removed]
        simp [keep, leavers]
      · intro i after
        dsimp only
        rw [Function.update_of_ne (by omega)]
        exact compacted.rest i (by omega)
  | false =>
      rw [if_neg Bool.false_ne_true]
      constructor
      · have kept : Compaction.front
            (Function.update state.cells count (clear (cells count))) state.kept =
            Compaction.front state.cells state.kept :=
          front_congr fun i less => Function.update_of_ne (by omega) _ _
        dsimp only
        rw [kept, compacted.front]
        unfold survivors
        rw [List.range_succ, List.filter_append, List.map_append]
        simp [keep]
      · unfold leavers
        rw [List.range_succ, List.filter_append, List.map_append]
        simp [keep, compacted.removed, leavers]
      · intro i after
        dsimp only
        rw [Function.update_of_ne (by omega)]
        exact compacted.rest i (by omega)

end Compacted

theorem compacted_run
    (clear : α → α)
    (cells : Nat → α)
    (count : Nat) :
    Compacted keeps cells count (run keeps clear cells count) := by
  induction count with
  | zero => exact ⟨rfl, rfl, fun i _ => rfl⟩
  | succ count ih =>
      unfold run at ih ⊢
      rw [List.range_succ, List.foldl_append]
      exact ih.visit clear

/-- Store an element behind the front, or give it up when the array is full. -/
def store
    (capacity start : Nat)
    (elements : Nat → α)
    (state : (Nat → α) × List α)
    (i : Nat) : (Nat → α) × List α :=
  if capacity ≤ start + i then (state.1, state.2 ++ [elements i])
  else (Function.update state.1 (start + i) (elements i), state.2)

/-- The loop over the elements. -/
def fill
    (capacity start : Nat)
    (elements : Nat → α)
    (cells : Nat → α)
    (count : Nat) : (Nat → α) × List α :=
  (List.range count).foldl (store capacity start elements) (cells, [])

/-- After so many elements. -/
structure Filled
    (capacity start : Nat)
    (elements cells : Nat → α)
    (count : Nat)
    (state : (Nat → α) × List α) : Prop where
  front : front state.1 (min (start + count) capacity) =
    Compaction.front cells start ++
      (Compaction.front elements count).take (capacity - start)
  overflow : state.2 = (Compaction.front elements count).drop (capacity - start)
  rest : ∀ i, min (start + count) capacity ≤ i → state.1 i = cells i

/-- The next element goes behind the last one that was stored, if there is room. -/
theorem Filled.store
    {capacity start count : Nat}
    {elements cells : Nat → α}
    {state : (Nat → α) × List α}
    (filled : Filled capacity start elements cells count state) :
    Filled capacity start elements cells (count + 1)
      (store capacity start elements state count) := by
  unfold Compaction.store
  by_cases full : capacity ≤ start + count
  · rw [if_pos full]
    have ends : min (start + (count + 1)) capacity = min (start + count) capacity := by
      omega
    have past : capacity - start ≤ (Compaction.front elements count).length := by
      rw [length_front]
      omega
    refine ⟨?_, ?_, ?_⟩
    · rw [ends, filled.front, front_succ, List.take_append_of_le_length past]
    · dsimp only
      rw [filled.overflow, front_succ, List.drop_append_of_le_length past]
    · rw [ends]
      exact filled.rest
  · rw [if_neg full]
    have here : min (start + count) capacity = start + count := by omega
    have next : min (start + (count + 1)) capacity = start + count + 1 := by omega
    have room : (Compaction.front elements (count + 1)).length ≤ capacity - start := by
      rw [length_front]
      omega
    have before : (Compaction.front elements count).length ≤ capacity - start := by
      rw [length_front]
      omega
    refine ⟨?_, ?_, ?_⟩
    · have front := filled.front
      rw [here, List.take_of_length_le before] at front
      have kept : Compaction.front
          (Function.update state.1 (start + count) (elements count)) (start + count) =
          Compaction.front state.1 (start + count) :=
        front_congr fun i less => Function.update_of_ne (ne_of_lt less) _ _
      dsimp only
      rw [next, front_succ, Function.update_self, kept, front, List.take_of_length_le room,
        front_succ, List.append_assoc]
    · dsimp only
      rw [filled.overflow, List.drop_of_length_le before, List.drop_of_length_le room]
    · intro i after
      dsimp only
      rw [Function.update_of_ne (by omega)]
      exact filled.rest i (by omega)

theorem filled_fill
    {capacity start : Nat}
    (room : start ≤ capacity)
    (elements cells : Nat → α)
    (count : Nat) :
    Filled capacity start elements cells count (fill capacity start elements cells count) := by
  induction count with
  | zero =>
      refine ⟨?_, ?_, fun i _ => rfl⟩
      · rw [Nat.add_zero, Nat.min_eq_left room]
        simp [fill, front]
      · simp [fill, front]
  | succ count ih =>
      unfold fill at ih ⊢
      rw [List.range_succ, List.foldl_append]
      exact ih.store

end Compaction
end CLib
