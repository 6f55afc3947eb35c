import Mathlib.Data.List.Basic

/-!
# Loops over the indices of an array

A loop that removes elements from the array it walks over stays at an index when it removed
the element there, and goes on with the next one otherwise.  It leaves the elements that do
not match, in their order.
-/

namespace CLib
namespace IndexLoop

variable {α : Type}

/-- The rest of a loop that removes what matches, from an index on. -/
def removeFrom
    (test : α → Bool)
    (elements : List α)
    (index : Nat) : List α :=
  if within : index < elements.length then
    if test elements[index] then removeFrom test (elements.eraseIdx index) index
    else removeFrom test elements (index + 1)
  else elements
termination_by elements.length - index
decreasing_by
  · rw [List.length_eraseIdx_of_lt within]
    omega
  · omega

/-- The rest of a loop that counts what matches, from an index on. -/
def countFrom
    (test : α → Bool)
    (elements : List α)
    (index : Nat)
    (count : Int32) : Int32 :=
  if within : index < elements.length then
    countFrom test elements (index + 1) (if test elements[index] then count + 1 else count)
  else count
termination_by elements.length - index

/-- What is before the index stays, and what is behind it stays unless it matches. -/
theorem removeFrom_eq
    (test : α → Bool)
    (elements : List α)
    (index : Nat) :
    removeFrom test elements index =
      elements.take index ++ (elements.drop index).filter fun element => !test element := by
  fun_induction removeFrom test elements index with
  | case1 elements index within removed ih =>
      have gone : elements.eraseIdx index = elements.take index ++ elements.drop (index + 1) :=
        List.eraseIdx_eq_take_drop_succ elements index
      have front : (elements.take index).length = index :=
        List.length_take_of_le (Nat.le_of_lt within)
      rw [ih, gone, List.take_left' front, List.drop_left' front,
        List.drop_eq_getElem_cons within, List.filter_cons_of_neg]
      simp [removed]
  | case2 elements index within kept ih =>
      rw [ih, List.drop_eq_getElem_cons within, List.filter_cons_of_pos (by simp [kept]),
        List.take_succ_eq_append_getElem within, List.append_assoc]
      rfl
  | case3 elements index beyond =>
      rw [List.drop_eq_nil_of_le (Nat.le_of_not_lt beyond),
        List.take_of_length_le (Nat.le_of_not_lt beyond)]
      simp

theorem removeFrom_zero
    (test : α → Bool)
    (elements : List α) :
    removeFrom test elements 0 = elements.filter fun element => !test element := by
  rw [removeFrom_eq]
  rfl

/-- The count grows by the number of matches. -/
theorem countFrom_eq
    (test : α → Bool)
    (elements : List α)
    (index : Nat)
    (count : Int32) :
    countFrom test elements index count =
      count + Int32.ofNat ((elements.drop index).countP test) := by
  fun_induction countFrom test elements index count with
  | case1 index count within ih =>
      rw [dite_eq_ite] at ih
      rw [ih, List.drop_eq_getElem_cons within, List.countP_cons]
      split
      next =>
        rw [Int32.add_assoc, Int32.ofNat_add, Int32.add_comm 1]
        rfl
      next => rfl
  | case2 index count beyond =>
      rw [List.drop_eq_nil_of_le (Nat.le_of_not_lt beyond)]
      exact (Int32.add_zero count).symm

/-- What a removal drops is what a count counts. -/
theorem length_removeFrom_add
    (test : α → Bool)
    (elements : List α) :
    (removeFrom test elements 0).length + elements.countP test = elements.length := by
  rw [removeFrom_zero, ← List.countP_eq_length_filter, Nat.add_comm,
    @List.length_eq_countP_add_countP _ test elements]
  simp

end IndexLoop
end CLib
