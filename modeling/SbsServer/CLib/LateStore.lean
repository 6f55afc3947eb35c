import Mathlib.Data.List.Basic

/-!
# Values that are stored late

A value changes in critical sections, and who changed it stores what it saw in a
register later, outside the section.  Stamps number the sections.  If no value is
stored after one with a later stamp, the register holds the value whenever nothing is
left to store.
-/

namespace CLib

variable {Value : Type}

/-- What was seen in a section, with the number of the section. -/
structure Stamped (Value : Type) where
  value : Value
  stamp : Nat
  deriving DecidableEq

/-- A value that was changed in some sections, a register with the stamp of the value
in it and what is still to be stored. -/
structure LateStores (Value : Type) where
  current : Value
  sections : Nat
  register : Value
  storedStamp : Nat
  pending : List (Stamped Value)

namespace LateStores

variable {stores after : LateStores Value} {late : Stamped Value}

/-- The newest value is in the register or still to be stored. -/
structure Agrees (stores : LateStores Value) : Prop where
  bounded : stores.storedStamp ≤ stores.sections
  stored : stores.storedStamp = stores.sections → stores.register = stores.current
  pendingBounded : ∀ late ∈ stores.pending, late.stamp ≤ stores.sections
  newest : ∀ late ∈ stores.pending, late.stamp = stores.sections →
    late.value = stores.current
  last : stores.storedStamp = stores.sections ∨
    ∃ late ∈ stores.pending, late.stamp = stores.sections

/-- With nothing left to store the register holds the value. -/
theorem Agrees.settled
    (agrees : stores.Agrees)
    (nothing : stores.pending = []) :
    stores.register = stores.current := by
  apply agrees.stored
  obtain stored | ⟨late, member, _⟩ := agrees.last
  · exact stored
  · rw [nothing] at member
    cases member

/-- A register that was stored in the last section holds the value. -/
theorem Agrees.reset
    (sections : stores.storedStamp = stores.sections)
    (register : stores.register = stores.current)
    (nothing : stores.pending = []) :
    stores.Agrees where
  bounded := Nat.le_of_eq sections
  stored _ := register
  pendingBounded late member := by
    rw [nothing] at member
    cases member
  newest late member := by
    rw [nothing] at member
    cases member
  last := .inl sections

/-- A section changes the value and leaves its count to be stored. -/
theorem Agrees.change
    (agrees : stores.Agrees)
    (sections : after.sections = stores.sections + 1)
    (storedStamp : after.storedStamp = stores.storedStamp)
    (isLate : late = ⟨after.current, after.sections⟩)
    (pending : ∀ other, other ∈ after.pending ↔ other = late ∨ other ∈ stores.pending) :
    after.Agrees where
  bounded := by
    have bounded := agrees.bounded
    omega
  stored same := by
    have bounded := agrees.bounded
    omega
  pendingBounded other member := by
    obtain new | old := (pending other).mp member
    · exact Nat.le_of_eq (by rw [new, isLate])
    · have bounded := agrees.pendingBounded other old
      omega
  newest other member same := by
    obtain new | old := (pending other).mp member
    · rw [new, isLate]
    · have bounded := agrees.pendingBounded other old
      omega
  last := by
    right
    refine ⟨late, (pending late).mpr (.inl rfl), ?_⟩
    rw [isLate]

/-- What was seen in a later section than the value of the register is stored. -/
theorem Agrees.store
    (agrees : stores.Agrees)
    (member : late ∈ stores.pending)
    (inOrder : stores.storedStamp < late.stamp ∨ late.stamp = stores.sections)
    (current : after.current = stores.current)
    (sections : after.sections = stores.sections)
    (register : after.register = late.value)
    (storedStamp : after.storedStamp = late.stamp)
    (fewer : ∀ other ∈ after.pending, other ∈ stores.pending)
    (others : ∀ other ∈ stores.pending, other = late ∨ other ∈ after.pending) :
    after.Agrees where
  bounded := by
    rw [storedStamp, sections]
    exact agrees.pendingBounded late member
  stored same := by
    rw [register, current]
    apply agrees.newest late member
    rw [← storedStamp, same, sections]
  pendingBounded other stillPending := by
    rw [sections]
    exact agrees.pendingBounded other (fewer other stillPending)
  newest other stillPending same := by
    rw [current]
    exact agrees.newest other (fewer other stillPending) (same.trans sections)
  last := by
    by_cases isLast : late.stamp = stores.sections
    · left
      rw [storedStamp, isLast, sections]
    · right
      have older : stores.storedStamp ≠ stores.sections := by
        have bounded := agrees.pendingBounded late member
        omega
      obtain stored | ⟨other, isPending, isNewest⟩ := agrees.last
      · exact absurd stored older
      · obtain same | stillPending := others other isPending
        · rw [same] at isNewest
          exact absurd isNewest isLast
        · exact ⟨other, stillPending, isNewest.trans sections.symm⟩

/-- Nothing was changed or stored. -/
theorem Agrees.unchanged
    (agrees : stores.Agrees)
    (current : after.current = stores.current)
    (sections : after.sections = stores.sections)
    (register : after.register = stores.register)
    (storedStamp : after.storedStamp = stores.storedStamp)
    (pending : after.pending = stores.pending) :
    after.Agrees := by
  cases after with
  | mk afterCurrent afterSections afterRegister afterStamp afterPending =>
      cases current
      cases sections
      cases register
      cases storedStamp
      cases pending
      exact agrees

end LateStores
end CLib
