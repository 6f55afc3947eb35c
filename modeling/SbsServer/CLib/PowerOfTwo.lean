import Mathlib.Data.Nat.Bitwise

/-!
# Rounding up to a power of two

Code rounds a number up to a power of two by spreading its highest bit to the right:
each round joins the bits with themselves, shifted by twice as much as before.
-/

namespace CLib
namespace PowerOfTwo

/-- One round: the bits joined with themselves, shifted to the right. -/
def smear (shift value : Nat) : Nat :=
  value ||| value >>> shift

/-- A number whose bits tell whether another one has a bit in the next few places. -/
def Covers (width value smeared : Nat) : Prop :=
  ∀ place, smeared.testBit place = true ↔ ∃ offset < width, value.testBit (place + offset) = true

theorem covers_self (value : Nat) :
    Covers 1 value value := by
  intro place
  constructor
  · exact fun bit => ⟨0, Nat.one_pos, bit⟩
  · rintro ⟨offset, inside, bit⟩
    rw [Nat.lt_one_iff.mp inside] at bit
    exact bit

/-- A round widens the places that are covered. -/
theorem Covers.smear
    {width value smeared : Nat}
    (covers : Covers width value smeared)
    {shift : Nat}
    (near : shift ≤ width) :
    Covers (shift + width) value (smear shift smeared) := by
  intro place
  have either : (PowerOfTwo.smear shift smeared).testBit place =
      (smeared.testBit place || smeared.testBit (place + shift)) := by
    simp [PowerOfTwo.smear, Nat.testBit_or, Nat.testBit_shiftRight, Nat.add_comm]
  rw [either, Bool.or_eq_true, covers, covers]
  constructor
  · rintro (⟨offset, inside, bit⟩ | ⟨offset, inside, bit⟩)
    · exact ⟨offset, by omega, bit⟩
    · refine ⟨shift + offset, by omega, ?_⟩
      rw [← Nat.add_assoc]
      exact bit
  · rintro ⟨offset, inside, bit⟩
    by_cases first : offset < width
    · exact .inl ⟨offset, first, bit⟩
    · refine .inr ⟨offset - shift, by omega, ?_⟩
      rw [show place + shift + (offset - shift) = place + offset by omega]
      exact bit

/-- What covers all places of a number below a power of two is one less than a power of two. -/
theorem Covers.eq_two_pow_sub_one
    {width value smeared bound : Nat}
    (covers : Covers width value smeared)
    (wide : bound ≤ width)
    (below : value < 2 ^ bound) :
    ∃ exponent ≤ bound, smeared = 2 ^ exponent - 1 := by
  by_cases zero : value = 0
  · refine ⟨0, Nat.zero_le _, Nat.eq_of_testBit_eq fun place => ?_⟩
    have none : smeared.testBit place = false := by
      refine Bool.eq_false_iff.mpr fun bit => ?_
      obtain ⟨offset, _, bit⟩ := (covers place).mp bit
      rw [zero, Nat.zero_testBit] at bit
      cases bit
    simp [none]
  · obtain ⟨highest, bit, above⟩ := Nat.exists_most_significant_bit zero
    have inside : highest < bound := by
      by_contra outside
      have small := Nat.lt_of_lt_of_le below
        (Nat.pow_le_pow_right Nat.two_pos (Nat.le_of_not_lt outside))
      rw [Nat.testBit_lt_two_pow small] at bit
      cases bit
    refine ⟨highest + 1, inside, Nat.eq_of_testBit_eq fun place => ?_⟩
    rw [Nat.testBit_two_pow_sub_one, Bool.eq_iff_iff, covers, decide_eq_true_eq]
    constructor
    · rintro ⟨offset, _, set⟩
      by_contra outside
      rw [above (place + offset) (by omega)] at set
      cases set
    · intro small
      refine ⟨highest - place, by omega, ?_⟩
      rw [show place + (highest - place) = highest by omega]
      exact bit

end PowerOfTwo
end CLib
