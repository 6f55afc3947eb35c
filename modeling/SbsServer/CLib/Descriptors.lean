import Mathlib.Data.Finset.Card
import Mathlib.Algebra.Order.Group.Multiset

/-!
# Descriptor tables

The table of a process holds its open descriptors.  A new descriptor gets the lowest number
that is not open, so a number that was closed comes back; what was opened and closed is kept
beside the table, in order.
-/

namespace CLib

/-- A table of descriptors since some time. -/
structure Descriptors where
  /-- The descriptors that are open. -/
  current : Finset Nat
  /-- The descriptors that were opened. -/
  opened : List Nat
  /-- The descriptors that were closed. -/
  closed : List Nat

namespace Descriptors

/-- A table of which nothing is known but what is open. -/
def start (current : Finset Nat) : Descriptors where
  current := current
  opened := []
  closed := []

/-- The lowest number that is not open. -/
def lowest (current : Finset Nat) : Nat :=
  ((List.range (current.card + 1)).find? fun number => number ∉ current).getD current.card

/-- `dup` of an open descriptor, when the table has room: the new descriptor. -/
def dup (table : Descriptors) : Nat × Descriptors :=
  (lowest table.current,
    { table with
      current := insert (lowest table.current) table.current
      opened := table.opened ++ [lowest table.current] })

/-- `close` -/
def close (table : Descriptors) (descriptor : Nat) : Descriptors :=
  { table with
    current := table.current.erase descriptor
    closed := table.closed ++ [descriptor] }

theorem lowest_notMem (current : Finset Nat) : lowest current ∉ current := by
  unfold lowest
  cases found : (List.range (current.card + 1)).find? fun number => number ∉ current with
  | some number => simpa using List.find?_some found
  | none =>
      -- all of `card + 1` numbers would be open
      exfalso
      rw [List.find?_eq_none] at found
      have subset : Finset.range (current.card + 1) ⊆ current := by
        intro number present
        simpa using found number (List.mem_range.mpr (Finset.mem_range.mp present))
      have fewer := Finset.card_le_card subset
      rw [Finset.card_range] at fewer
      omega

variable {table : Descriptors} {before : Finset Nat} {descriptor : Nat}

theorem dup_fst_notMem (table : Descriptors) : table.dup.1 ∉ table.current :=
  lowest_notMem table.current

@[simp] theorem opened_dup (table : Descriptors) :
    table.dup.2.opened = table.opened ++ [table.dup.1] := rfl

@[simp] theorem closed_dup (table : Descriptors) : table.dup.2.closed = table.closed := rfl

@[simp] theorem opened_close (table : Descriptors) (descriptor : Nat) :
    (table.close descriptor).opened = table.opened := rfl

@[simp] theorem closed_close (table : Descriptors) (descriptor : Nat) :
    (table.close descriptor).closed = table.closed ++ [descriptor] := rfl

@[simp] theorem current_close (table : Descriptors) (descriptor : Nat) :
    (table.close descriptor).current = table.current.erase descriptor := rfl

/-- What was opened and closed again leaves no trace among the open descriptors. -/
theorem current_close_dup (table : Descriptors) :
    (table.dup.2.close table.dup.1).current = table.current :=
  Finset.erase_insert (dup_fst_notMem table)

/-- What was open before and what was opened is open or was closed. -/
def Balanced (before : Finset Nat) (table : Descriptors) : Prop :=
  before.val + (table.opened : Multiset Nat) = table.current.val + (table.closed : Multiset Nat)

theorem balanced_start (current : Finset Nat) : (start current).Balanced current := rfl

theorem Balanced.dup (balanced : table.Balanced before) : table.dup.2.Balanced before := by
  unfold Balanced Descriptors.dup at *
  dsimp only
  rw [Finset.insert_val_of_notMem (lowest_notMem table.current), ← Multiset.coe_add, ← add_assoc,
    balanced, Multiset.coe_singleton, ← Multiset.singleton_add, add_comm _ {_}, add_assoc]

theorem Balanced.close
    (balanced : table.Balanced before)
    (isOpen : descriptor ∈ table.current) :
    (table.close descriptor).Balanced before := by
  have erased : {descriptor} + (table.current.erase descriptor).val = table.current.val := by
    rw [Finset.erase_val, Multiset.singleton_add]
    exact Multiset.cons_erase isOpen
  unfold Balanced Descriptors.close at *
  dsimp only
  rw [balanced, ← erased, ← Multiset.coe_add, Multiset.coe_singleton, add_assoc, add_comm,
    add_assoc]

/-- Where what was opened was closed, the others that were closed are missing. -/
theorem Balanced.current_eq
    {others : List Nat}
    (balanced : table.Balanced before)
    (closes : table.closed.Perm (table.opened ++ others)) :
    table.current = before \ others.toFinset := by
  have same : before.val = table.current.val + (others : Multiset Nat) := by
    have closed : (table.closed : Multiset Nat) = table.opened + others :=
      Multiset.coe_eq_coe.mpr closes
    unfold Balanced at balanced
    rw [closed, add_comm (table.opened : Multiset Nat), ← add_assoc] at balanced
    exact add_right_cancel balanced
  have nodup := before.nodup
  rw [same, Multiset.nodup_add] at nodup
  ext number
  rw [Finset.mem_sdiff, List.mem_toFinset, ← Finset.mem_val, ← Finset.mem_val, same,
    Multiset.mem_add, Multiset.mem_coe]
  constructor
  · intro present
    exact ⟨.inl present, fun gone => Multiset.disjoint_left.mp nodup.2.2 present gone⟩
  · rintro ⟨present | gone, kept⟩
    · exact present
    · exact absurd gone kept

end Descriptors
end CLib
