import Mathlib.Data.List.Basic

/-!
# Lines of a text

`fgets` reads a text in strings that end after a newline or where the buffer is full.  If
no line is longer than the buffer, these strings are the lines.
-/

namespace CLib
namespace Lines

/-- The byte that ends a line. -/
def newline : UInt8 := 10

/-- The lines of a text behind the head of the first one, each with its newline. -/
def lines (head : List UInt8) : List UInt8 → List (List UInt8)
  | [] => if head = [] then [] else [head]
  | byte :: rest =>
      if byte = newline then (head ++ [byte]) :: lines [] rest
      else lines (head ++ [byte]) rest

/-- The strings that calls of `fgets` read, where a string has at most `capacity` bytes. -/
def fgetsAll
    (capacity : Nat)
    (head : List UInt8) : List UInt8 → List (List UInt8)
  | [] => if head = [] then [] else [head]
  | byte :: rest =>
      if byte = newline ∨ capacity ≤ head.length + 1 then
        (head ++ [byte]) :: fgetsAll capacity [] rest
      else fgetsAll capacity (head ++ [byte]) rest

/-- Some line begins with the head. -/
theorem exists_line_of_head
    (head text : List UInt8)
    (nonempty : head ≠ []) :
    ∃ line ∈ lines head text, head.length ≤ line.length := by
  induction text generalizing head with
  | nil =>
      unfold lines
      rw [if_neg nonempty]
      exact ⟨head, List.mem_singleton_self head, Nat.le_refl _⟩
  | cons byte rest ih =>
      have longer : head.length ≤ (head ++ [byte]).length := by
        rw [List.length_append]
        exact Nat.le_add_right _ _
      unfold lines
      split
      · exact ⟨head ++ [byte], List.mem_cons_self, longer⟩
      · obtain ⟨line, member, bound⟩ :=
          ih (head ++ [byte]) (List.append_ne_nil_of_right_ne_nil _ (by simp))
        exact ⟨line, member, Nat.le_trans longer bound⟩

/-- Behind a head that is not the whole text some line is longer. -/
theorem exists_longer_line
    (head : List UInt8)
    (byte : UInt8)
    (rest : List UInt8) :
    ∃ line ∈ lines head (byte :: rest), head.length < line.length := by
  have longer : head.length < (head ++ [byte]).length := by
    rw [List.length_append]
    exact Nat.lt_succ_self _
  unfold lines
  split
  · exact ⟨head ++ [byte], List.mem_cons_self, longer⟩
  · obtain ⟨line, member, bound⟩ := exists_line_of_head (head ++ [byte]) rest (by simp)
    exact ⟨line, member, Nat.lt_of_lt_of_le longer bound⟩

/-- A text whose lines fit the buffer is read line by line. -/
theorem fgetsAll_eq_lines
    {capacity : Nat}
    (head text : List UInt8)
    (fits : ∀ line ∈ lines head text, line.length ≤ capacity) :
    fgetsAll capacity head text = lines head text := by
  induction text generalizing head with
  | nil => rfl
  | cons byte rest ih =>
      unfold fgetsAll lines
      unfold lines at fits
      by_cases ends : byte = newline
      · rw [if_pos ends] at fits ⊢
        rw [if_pos (.inl ends), ih [] fun line member =>
          fits line (List.mem_cons_of_mem _ member)]
      · rw [if_neg ends] at fits ⊢
        split
        next full =>
          -- the line is as long as the buffer, so the text ends with it
          have long : capacity ≤ head.length + 1 := full.resolve_left ends
          cases rest with
          | nil => simp [lines, fgetsAll]
          | cons next rest =>
              obtain ⟨line, member, longer⟩ := exists_longer_line (head ++ [byte]) next rest
              have short := fits line member
              rw [List.length_append, List.length_singleton] at longer
              omega
        next => exact ih _ fits

end Lines
end CLib
