import Mathlib.Data.List.Basic

/-!
# The last writer wins

Elements of a chain write some of the fields of a state, one element after the other.
What a field holds at the end is what the last element that writes it has written, and
an element finds its own value there iff the last writer behind it agrees with it.
-/

namespace CLib

/-- A step for each element of a chain, and what it writes into the fields that are read
off the state. -/
structure Overwriting (Element State Field Value : Type) where
  step : Element → State → State
  read : State → Field → Value
  written : Element → Field → Option Value
  read_step : ∀ element state field,
    read (step element state) field = (written element field).getD (read state field)

namespace Overwriting

variable {Element State Field Value : Type}
variable (writer : Overwriting Element State Field Value)

/-- The state after a chain. -/
def run
    (chain : List Element)
    (state : State) : State :=
  chain.foldl (fun state element => writer.step element state) state

/-- What the last element that writes a field has written. -/
def lastWritten : List Element → Field → Option Value
  | [], _ => none
  | element :: rest, field => (lastWritten rest field).or (writer.written element field)

theorem lastWritten_append
    (first second : List Element)
    (field : Field) :
    writer.lastWritten (first ++ second) field =
      (writer.lastWritten second field).or (writer.lastWritten first field) := by
  induction first with
  | nil => exact (Option.or_none).symm
  | cons element rest ih =>
      rw [List.cons_append, lastWritten, ih, lastWritten, Option.or_assoc]

theorem lastWritten_eq_none
    {chain : List Element}
    {field : Field} :
    writer.lastWritten chain field = none ↔
      ∀ element ∈ chain, writer.written element field = none := by
  induction chain with
  | nil => simp [lastWritten]
  | cons element rest ih =>
      rw [lastWritten, Option.or_eq_none_iff, ih, List.forall_mem_cons]
      exact and_comm

variable {field : Field}

theorem lastWritten_eq_some
    {chain : List Element}
    {value : Value} :
    writer.lastWritten chain field = some value ↔
      ∃ before element after, chain = before ++ element :: after ∧
        writer.written element field = some value ∧
        ∀ later ∈ after, writer.written later field = none := by
  constructor
  · intro last
    induction chain with
    | nil => cases last
    | cons element rest ih =>
        rw [lastWritten, Option.or_eq_some_iff] at last
        rcases last with behind | ⟨silent, own⟩
        · obtain ⟨before, writing, after, rfl, wrote, quiet⟩ := ih behind
          exact ⟨element :: before, writing, after, rfl, wrote, quiet⟩
        · exact ⟨[], element, rest, rfl, own, writer.lastWritten_eq_none.mp silent⟩
  · rintro ⟨before, element, after, rfl, wrote, quiet⟩
    rw [lastWritten_append, lastWritten, writer.lastWritten_eq_none.mpr quiet, wrote]
    rfl

/-- A field holds what the last writer has written, else what it held before. -/
theorem read_run
    (chain : List Element)
    (state : State)
    (field : Field) :
    writer.read (writer.run chain state) field =
      (writer.lastWritten chain field).getD (writer.read state field) := by
  induction chain generalizing state with
  | nil => rfl
  | cons element rest ih =>
      have later := ih (writer.step element state)
      rw [writer.read_step] at later
      rw [lastWritten, Option.getD_or]
      exact later

/-- An element that writes a field finds its value there iff the last writer behind it has
written the same. -/
theorem kept_iff
    (before after : List Element)
    {element : Element}
    (state : State)
    {value : Value}
    (own : writer.written element field = some value) :
    writer.read (writer.run (before ++ element :: after) state) field = value ↔
      ∀ other, writer.lastWritten after field = some other → other = value := by
  rw [read_run, lastWritten_append, lastWritten, own]
  cases writer.lastWritten after field with
  | none => simp
  | some other => simp

/-- A value that nothing writes is in a field iff nothing wrote the field and it was there
before. -/
theorem unwritten_iff
    (chain : List Element)
    (state : State)
    {value : Value}
    (initial : writer.read state field = value)
    (never : ∀ element ∈ chain, writer.written element field ≠ some value) :
    writer.read (writer.run chain state) field = value ↔
      ∀ element ∈ chain, writer.written element field = none := by
  rw [read_run, ← lastWritten_eq_none, initial]
  cases last : writer.lastWritten chain field with
  | none => simp
  | some other =>
      obtain ⟨before, element, after, rfl, wrote, -⟩ := writer.lastWritten_eq_some.mp last
      have apart : other ≠ value := by
        rintro rfl
        exact never element (by simp) wrote
      simp [apart]

end Overwriting
end CLib
