import Mathlib.Data.List.FinRange
import Mathlib.Data.List.Perm.Basic
import Mathlib.Data.List.Perm.Subperm
import Mathlib.Logic.Function.Basic

/-!
# Tables

An array of entries of which some are in use, as code keeps it that looks for a
free entry and marks it.  What counts is the list of the items in use.
-/

namespace CLib
namespace Table

variable {Item : Type} {size : Nat}

/-- The items of a table, by their index. -/
def items (table : Fin size → Option Item) : List Item :=
  (List.finRange size).filterMap table

variable {table : Fin size → Option Item}

theorem mem_items
    {item : Item} :
    item ∈ items table ↔ ∃ index, table index = some item := by
  simp [items]

theorem items_empty :
    items (fun _ : Fin size => (none : Option Item)) = [] := by
  simp [items]

theorem length_items_le (table : Fin size → Option Item) :
    (items table).length ≤ size := by
  have bound := List.length_filterMap_le table (List.finRange size)
  rw [List.length_finRange] at bound
  exact bound

/-- The items of a table whose entry was written are the item in that entry and those of the
other entries. -/
theorem items_update_perm
    (table : Fin size → Option Item)
    (index : Fin size)
    (entry : Option Item) :
    (items (Function.update table index entry)).Perm
      (entry.toList ++ ((List.finRange size).erase index).filterMap table) := by
  have order : (List.finRange size).Perm (index :: (List.finRange size).erase index) :=
    List.perm_cons_erase (List.mem_finRange index)
  have others : ((List.finRange size).erase index).filterMap (Function.update table index entry) =
      ((List.finRange size).erase index).filterMap table := by
    refine List.filterMap_congr fun other member => ?_
    rw [(List.nodup_finRange size).mem_erase_iff] at member
    exact Function.update_of_ne member.1 entry table
  refine (order.filterMap _).trans ?_
  rw [List.filterMap_cons, others, Function.update_self]
  cases entry with
  | none => exact .refl _
  | some item => exact .refl _

/-- An item that is put into a free entry joins the others. -/
theorem items_store
    {index : Fin size}
    (free : table index = none)
    (item : Item) :
    (items (Function.update table index (some item))).Perm (item :: items table) := by
  have before := items_update_perm table index none
  rw [← free, Function.update_eq_self, free] at before
  exact (items_update_perm table index (some item)).trans (before.symm.cons item)

/-- An item that is removed leaves the others. -/
theorem items_remove
    {index : Fin size}
    {item : Item}
    (holds : table index = some item) :
    (items table).Perm (item :: items (Function.update table index none)) := by
  have before := items_update_perm table index (some item)
  rw [← holds, Function.update_eq_self, holds] at before
  exact before.trans ((items_update_perm table index none).symm.cons item)

end Table
end CLib
