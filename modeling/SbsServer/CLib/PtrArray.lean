import Mathlib.Data.List.Sort

/-!
# Pointer arrays

A pointer array that owns its elements is the list of them.  Loops that look an
element up stop at the first match, and so do the changes made through the
pointer they return.
-/

namespace CLib
namespace PtrArray

variable {α β : Type}

/-- Change through a pointer to the first element that satisfies a test. -/
def modifyFirst (test : α → Bool) (change : α → α) : List α → List α
  | [] => []
  | element :: rest =>
      if test element then change element :: rest
      else element :: modifyFirst test change rest

/-- `g_ptr_array_sort`, a stable sort by a comparison. -/
def sort
    (below : α → α → Prop)
    [DecidableRel below]
    (elements : List α) : List α :=
  elements.insertionSort below

/-- A change that keeps a view of its element keeps the view of the array. -/
theorem map_modifyFirst
    {test : α → Bool}
    {change : α → α}
    (view : α → β)
    (keeps : ∀ element, test element = true → view (change element) = view element)
    (elements : List α) :
    (modifyFirst test change elements).map view = elements.map view := by
  induction elements with
  | nil => rfl
  | cons element rest ih =>
      unfold modifyFirst
      split
      · next holds => simp only [List.map_cons, keeps element holds]
      · simp only [List.map_cons, ih]

/-- Every element of a changed array is an old one or the changed one. -/
theorem mem_modifyFirst
    {test : α → Bool}
    {change : α → α}
    {elements : List α}
    {element : α}
    (member : element ∈ modifyFirst test change elements) :
    element ∈ elements ∨
      ∃ before ∈ elements, test before = true ∧ element = change before := by
  induction elements with
  | nil => cases member
  | cons head rest ih =>
      unfold modifyFirst at member
      split at member
      · next holds =>
          rcases List.mem_cons.mp member with equal | later
          · exact Or.inr ⟨head, List.mem_cons_self, holds, equal⟩
          · exact Or.inl (List.mem_cons_of_mem head later)
      · rcases List.mem_cons.mp member with equal | later
        · exact Or.inl (equal ▸ List.mem_cons_self)
        · rcases ih later with old | ⟨before, present, holds, equal⟩
          · exact Or.inl (List.mem_cons_of_mem head old)
          · exact Or.inr
              ⟨before, List.mem_cons_of_mem head present, holds, equal⟩

/-- The element that is changed is the first that satisfies the test. -/
theorem getElem?_modifyFirst
    (test : α → Bool)
    (change : α → α)
    (elements : List α)
    (index : Nat) :
    (modifyFirst test change elements)[index]? =
      if index = elements.findIdx test then elements[index]?.map change else elements[index]? := by
  induction elements generalizing index with
  | nil => simp [modifyFirst]
  | cons element rest ih =>
      unfold modifyFirst
      rw [List.findIdx_cons]
      cases holds : test element with
      | true =>
          cases index with
          | zero => rfl
          | succ index => simp
      | false =>
          cases index with
          | zero => simp
          | succ index => simpa using ih index

variable (below : α → α → Prop) [DecidableRel below]

theorem sort_perm (elements : List α) : (sort below elements).Perm elements :=
  List.perm_insertionSort below elements

@[simp] theorem mem_sort {elements : List α} {element : α} :
    element ∈ sort below elements ↔ element ∈ elements :=
  (sort_perm below elements).mem_iff

/-- A sorted array has the same views, up to their order. -/
theorem map_sort_perm (view : α → β) (elements : List α) :
    ((sort below elements).map view).Perm (elements.map view) :=
  (sort_perm below elements).map view

theorem pairwise_sort
    [Std.Total below]
    [IsTrans α below]
    (elements : List α) :
    (sort below elements).Pairwise below :=
  List.pairwise_insertionSort below elements

/-- Sorting leaves a sorted array alone. -/
theorem sort_eq_self
    {elements : List α}
    (sorted : elements.Pairwise below) :
    sort below elements = elements :=
  sorted.insertionSort_eq

end PtrArray
end CLib
