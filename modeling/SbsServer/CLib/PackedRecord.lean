import Mathlib.Data.List.TakeDrop
import SbsServer.CLib.Str

/-!
# Packed records

A packed record is its fields' bytes one after the other: numbers with the least
significant byte first, and texts in arrays filled with zeros.  A record that is cut and
filled up with zeros has the fields that end before the cut, and of a text the bytes before
the cut.
-/

namespace CLib
namespace Packed

/-- A number in `width` bytes, the least significant one first. -/
def numeral : Nat → Nat → List UInt8
  | 0, _ => []
  | width + 1, value => UInt8.ofNat value :: numeral width (value / 256)

/-- The number in some bytes. -/
def value : List UInt8 → Nat
  | [] => 0
  | byte :: rest => byte.toNat + 256 * value rest

@[simp] theorem length_numeral (width number : Nat) : (numeral width number).length = width := by
  induction width generalizing number with
  | zero => rfl
  | succ width ih => rw [numeral, List.length_cons, ih]

theorem value_numeral
    {width number : Nat}
    (small : number < 256 ^ width) :
    value (numeral width number) = number := by
  induction width generalizing number with
  | zero =>
      rw [Nat.pow_zero] at small
      exact (Nat.lt_one_iff.mp small).symm
  | succ width ih =>
      have rest : number / 256 < 256 ^ width := by
        rw [Nat.pow_succ] at small
        exact Nat.div_lt_of_lt_mul (by omega)
      rw [numeral, value, ih rest]
      exact Nat.mod_add_div number 256

/-- The number at an offset. -/
def numberAt (offset width : Nat) (bytes : List UInt8) : Nat :=
  value ((bytes.drop offset).take width)

/-- The text that begins at an offset. -/
def textAt (offset : Nat) (bytes : List UInt8) : CStr :=
  .ofBytes (bytes.drop offset)

/-- The bytes of an array with a text. -/
def array {capacity : Nat} (text : CharArray capacity) : List UInt8 :=
  text.text.bytes ++ List.replicate (capacity - text.text.bytes.length) 0

@[simp] theorem length_array {capacity : Nat} (text : CharArray capacity) :
    (array text).length = capacity := by
  have fits := text.fits
  rw [array, List.length_append, List.length_replicate]
  omega

section Flatten

variable {fields : List (List UInt8)} {field : List UInt8} {offset : Nat}

/-- A field begins where the fields before it end. -/
theorem drop_flatten
    (index : Nat)
    (starts : (fields.take index).flatten.length = offset)
    (present : fields[index]? = some field) :
    fields.flatten.drop offset = field ++ (fields.drop (index + 1)).flatten := by
  obtain ⟨within, rfl⟩ := List.getElem?_eq_some_iff.mp present
  conv => lhs; rw [← List.take_append_drop index fields, List.flatten_append]
  rw [List.drop_left' starts, List.drop_eq_getElem_cons within, List.flatten_cons]

theorem numberAt_flatten
    {width number : Nat}
    (index : Nat)
    (starts : (fields.take index).flatten.length = offset)
    (present : fields[index]? = some (numeral width number))
    (small : number < 256 ^ width) :
    numberAt offset width fields.flatten = number := by
  rw [numberAt, drop_flatten index starts present,
    List.take_left' (length_numeral width number), value_numeral small]

theorem textAt_flatten
    {capacity : Nat}
    {text : CharArray capacity}
    (index : Nat)
    (starts : (fields.take index).flatten.length = offset)
    (present : fields[index]? = some (array text)) :
    textAt offset fields.flatten = text.text := by
  obtain ⟨zeros, filled⟩ : ∃ zeros, capacity - text.text.bytes.length = zeros + 1 :=
    ⟨capacity - text.text.bytes.length - 1, by have := text.fits; omega⟩
  have nonzero : ∀ byte ∈ text.text.bytes, decide (byte ≠ 0) = true := by
    intro byte present
    exact decide_eq_true fun zero => text.text.nulFree (zero ▸ present)
  rw [textAt, drop_flatten index starts present, array, filled, List.replicate_succ]
  apply CStr.ext
  unfold CStr.ofBytes
  dsimp only
  rw [List.append_assoc, List.takeWhile_append_of_pos nonzero, List.cons_append,
    List.takeWhile_cons_of_neg (by simp), List.append_nil]

end Flatten

/-- The first `kept` bytes, and zeros behind them. -/
def cut (kept zeros : Nat) (bytes : List UInt8) : List UInt8 :=
  bytes.take kept ++ List.replicate zeros 0

section Cut

variable {kept zeros offset width : Nat} {bytes : List UInt8}

theorem drop_cut
    (begins : offset ≤ kept)
    (enough : kept ≤ bytes.length) :
    (cut kept zeros bytes).drop offset = cut (kept - offset) zeros (bytes.drop offset) := by
  rw [cut, cut, List.drop_append_of_le_length, List.drop_take]
  rw [List.length_take]
  omega

/-- A number before the cut stays. -/
theorem numberAt_cut
    (ends : offset + width ≤ kept)
    (enough : kept ≤ bytes.length) :
    numberAt offset width (cut kept zeros bytes) = numberAt offset width bytes := by
  rw [numberAt, drop_cut (by omega) enough, cut, List.take_append_of_le_length, List.take_take,
    Nat.min_eq_left (by omega)]
  · rfl
  · rw [List.length_take, List.length_drop]
    omega

theorem takeWhile_zeros (zeros : Nat) :
    (List.replicate zeros (0 : UInt8)).takeWhile (· ≠ 0) = [] := by
  cases zeros with
  | zero => rfl
  | succ zeros => rw [List.replicate_succ, List.takeWhile_cons_of_neg (by simp)]

theorem takeWhile_cut (bytes : List UInt8) :
    (cut kept zeros bytes).takeWhile (· ≠ 0) = (bytes.takeWhile (· ≠ 0)).take kept := by
  induction bytes generalizing kept with
  | nil =>
      rw [cut, List.take_nil, List.nil_append, List.takeWhile_nil, List.take_nil]
      exact takeWhile_zeros zeros
  | cons byte rest ih =>
      cases kept with
      | zero => exact takeWhile_zeros zeros
      | succ kept =>
          have front : cut (kept + 1) zeros (byte :: rest) = byte :: cut kept zeros rest := rfl
          rw [front, List.takeWhile_cons, List.takeWhile_cons, ih]
          split
          · rfl
          · exact List.take_nil.symm

/-- A text is cut where the record is. -/
theorem bytes_textAt_cut
    (begins : offset ≤ kept)
    (enough : kept ≤ bytes.length) :
    (textAt offset (cut kept zeros bytes)).bytes =
      (textAt offset bytes).bytes.take (kept - offset) := by
  unfold textAt CStr.ofBytes
  rw [drop_cut begins enough]
  exact takeWhile_cut _

end Cut
end Packed
end CLib
