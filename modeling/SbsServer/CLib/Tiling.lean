import Mathlib.Data.Set.Lattice
import Mathlib.Data.Set.Prod
import Mathlib.Order.CompletePartialOrder
import Mathlib.Order.Interval.Set.Basic
import Mathlib.Order.MinMax
import Mathlib.Tactic.Tauto

/-!
# Boxes and tilings

A box is a product of two half-open intervals of linear orders.  What another box
leaves of it falls into at most four boxes: above, below, to the left and to the
right.  A list of boxes that tiles a region goes on tiling what is left of the region
when a box is subtracted from each of its members.
-/

namespace CLib

/-- A box: the columns from `left` up to `right` and the rows from `top` up to `bottom`, the
ends not included. -/
structure Box (Column Row : Type) where
  left : Column
  top : Row
  right : Column
  bottom : Row

namespace Box

variable {Column Row : Type} [LinearOrder Column] [LinearOrder Row]

/-- The cells of a box. -/
def cells (box : Box Column Row) : Set (Column × Row) :=
  Set.Ico box.left box.right ×ˢ Set.Ico box.top box.bottom

/-- A box with a cell. -/
def Proper (box : Box Column Row) : Prop :=
  box.left < box.right ∧ box.top < box.bottom

instance (box : Box Column Row) : Decidable box.Proper :=
  inferInstanceAs (Decidable (_ ∧ _))

/-- The cells that two boxes share. -/
def meet (first second : Box Column Row) : Box Column Row where
  left := max first.left second.left
  top := max first.top second.top
  right := min first.right second.right
  bottom := min first.bottom second.bottom

/-- What is left of a box beside another: the rows above and below, and between them the
columns to the left and to the right. -/
def subtract (box other : Box Column Row) : List (Box Column Row) :=
  let shared := box.meet other
  if shared.Proper then
    [⟨box.left, box.top, box.right, shared.top⟩,
      ⟨box.left, shared.bottom, box.right, box.bottom⟩,
      ⟨box.left, shared.top, shared.left, shared.bottom⟩,
      ⟨shared.right, shared.top, box.right, shared.bottom⟩].filter (·.Proper)
  else [box]

variable {box other : Box Column Row} {cell : Column × Row}

theorem mem_cells :
    cell ∈ box.cells ↔
      (box.left ≤ cell.1 ∧ cell.1 < box.right) ∧ box.top ≤ cell.2 ∧ cell.2 < box.bottom :=
  Iff.rfl

theorem proper_of_mem (member : cell ∈ box.cells) : box.Proper :=
  ⟨member.1.1.trans_lt member.1.2, member.2.1.trans_lt member.2.2⟩

theorem mem_meet :
    cell ∈ (box.meet other).cells ↔ cell ∈ box.cells ∧ cell ∈ other.cells := by
  simp only [mem_cells, meet, max_le_iff, lt_min_iff]
  tauto

/-- A cell in one of some boxes is in a proper one. -/
theorem exists_mem_filter_proper (boxes : List (Box Column Row)) :
    (∃ part ∈ boxes.filter (·.Proper), cell ∈ part.cells) ↔ ∃ part ∈ boxes, cell ∈ part.cells := by
  constructor
  · rintro ⟨part, present, member⟩
    exact ⟨part, (List.mem_filter.mp present).1, member⟩
  · rintro ⟨part, present, member⟩
    refine ⟨part, List.mem_filter.mpr ⟨present, ?_⟩, member⟩
    exact decide_eq_true (proper_of_mem member)

/-- The shared box lies in the box. -/
theorem meet_le (box other : Box Column Row) :
    (box.left ≤ (box.meet other).left ∧ (box.meet other).right ≤ box.right) ∧
      box.top ≤ (box.meet other).top ∧ (box.meet other).bottom ≤ box.bottom :=
  ⟨⟨le_max_left _ _, min_le_left _ _⟩, le_max_left _ _, min_le_left _ _⟩

/-- The parts hold exactly the cells that are not in the other box. -/
theorem exists_mem_subtract :
    (∃ part ∈ box.subtract other, cell ∈ part.cells) ↔ cell ∈ box.cells ∧ cell ∉ other.cells := by
  have same : cell ∈ box.cells ∧ cell ∉ other.cells ↔
      cell ∈ box.cells ∧ cell ∉ (box.meet other).cells := by
    rw [mem_meet]
    tauto
  obtain ⟨⟨left, right⟩, top, bottom⟩ := meet_le box other
  rw [same]
  unfold subtract
  generalize box.meet other = shared at *
  dsimp only
  split
  next proper =>
    obtain ⟨columns, rows⟩ := proper
    rw [exists_mem_filter_proper]
    simp only [List.mem_cons, List.not_mem_nil, or_false, exists_eq_or_imp, exists_eq_left,
      mem_cells]
    grind
  next apart =>
    have empty : cell ∉ shared.cells := fun member => apart (proper_of_mem member)
    simp [empty]

theorem disjoint_of_rows
    {first second : Box Column Row}
    (above : first.bottom ≤ second.top) :
    Disjoint first.cells second.cells := by
  rw [Set.disjoint_left]
  intro cell inFirst inSecond
  exact absurd (inFirst.2.2.trans_le above) inSecond.2.1.not_gt

theorem disjoint_of_columns
    {first second : Box Column Row}
    (before : first.right ≤ second.left) :
    Disjoint first.cells second.cells := by
  rw [Set.disjoint_left]
  intro cell inFirst inSecond
  exact absurd (inFirst.1.2.trans_le before) inSecond.1.1.not_gt

/-- No two parts share a cell. -/
theorem pairwise_subtract (box other : Box Column Row) :
    (box.subtract other).Pairwise fun first second => Disjoint first.cells second.cells := by
  obtain ⟨⟨left, right⟩, top, bottom⟩ := meet_le box other
  unfold subtract
  generalize box.meet other = shared at *
  dsimp only
  split
  next proper =>
    obtain ⟨columns, rows⟩ := proper
    apply List.Pairwise.filter
    simp only [List.pairwise_cons, List.mem_cons, List.not_mem_nil, or_false, forall_eq_or_imp,
      forall_eq, false_imp_iff, implies_true, List.Pairwise.nil, and_true]
    refine ⟨⟨?_, ?_, ?_⟩, ⟨?_, ?_⟩, ?_⟩
    · exact disjoint_of_rows rows.le
    · exact disjoint_of_rows le_rfl
    · exact disjoint_of_rows le_rfl
    · exact (disjoint_of_rows le_rfl).symm
    · exact (disjoint_of_rows le_rfl).symm
    · exact disjoint_of_columns columns.le
  next => exact List.pairwise_singleton _ _

/-- The parts of a proper box are proper. -/
theorem proper_subtract
    (proper : box.Proper) :
    ∀ part ∈ box.subtract other, part.Proper := by
  intro part present
  unfold subtract at present
  dsimp only at present
  split at present
  · simpa using (List.mem_filter.mp present).2
  · rw [List.mem_singleton.mp present]
    exact proper

/-- The ends of the parts are ends of the two boxes. -/
theorem ends_subtract
    {column : Column → Prop}
    {row : Row → Prop}
    (columns : (column box.left ∧ column box.right) ∧ column other.left ∧ column other.right)
    (rows : (row box.top ∧ row box.bottom) ∧ row other.top ∧ row other.bottom) :
    ∀ part ∈ box.subtract other,
      (column part.left ∧ column part.right) ∧ row part.top ∧ row part.bottom := by
  have left : column (max box.left other.left) := max_rec' column columns.1.1 columns.2.1
  have right : column (min box.right other.right) := min_rec' column columns.1.2 columns.2.2
  have top : row (max box.top other.top) := max_rec' row rows.1.1 rows.2.1
  have bottom : row (min box.bottom other.bottom) := min_rec' row rows.1.2 rows.2.2
  intro part present
  unfold subtract meet at present
  dsimp only at present
  split at present
  · have listed := (List.mem_filter.mp present).1
    simp only [List.mem_cons, List.not_mem_nil, or_false] at listed
    obtain rfl | rfl | rfl | rfl := listed
    · exact ⟨columns.1, rows.1.1, top⟩
    · exact ⟨columns.1, bottom, rows.1.2⟩
    · exact ⟨⟨columns.1.1, left⟩, top, bottom⟩
    · exact ⟨⟨right, columns.1.2⟩, top, bottom⟩
  · rw [List.mem_singleton.mp present]
    exact ⟨columns.1, rows.1⟩

end Box

/-- Boxes that share no cell and hold exactly the cells of a region. -/
structure Tiles
    {Column Row : Type}
    [LinearOrder Column]
    [LinearOrder Row]
    (boxes : List (Box Column Row))
    (region : Set (Column × Row)) : Prop where
  apart : boxes.Pairwise fun first second => Disjoint first.cells second.cells
  covers : ∀ cell, (∃ box ∈ boxes, cell ∈ box.cells) ↔ cell ∈ region

namespace Tiles

variable {Column Row : Type} [LinearOrder Column] [LinearOrder Row]
variable {boxes : List (Box Column Row)} {region : Set (Column × Row)}

theorem singleton (box : Box Column Row) : Tiles [box] box.cells where
  apart := List.pairwise_singleton _ _
  covers := by simp

/-- A tiling of what is left when a box is subtracted from every box. -/
theorem subtract
    (tiles : Tiles boxes region)
    (other : Box Column Row) :
    Tiles (boxes.flatMap (·.subtract other)) (region \ other.cells) where
  apart := by
    rw [List.pairwise_flatMap]
    refine ⟨fun box _ => box.pairwise_subtract other, ?_⟩
    refine tiles.apart.imp fun {first second} disjoint => ?_
    intro firstPart isFirst secondPart isSecond
    rw [Set.disjoint_left] at disjoint ⊢
    intro cell inFirst inSecond
    exact disjoint (Box.exists_mem_subtract.mp ⟨firstPart, isFirst, inFirst⟩).1
      (Box.exists_mem_subtract.mp ⟨secondPart, isSecond, inSecond⟩).1
  covers := by
    intro cell
    rw [Set.mem_sdiff, ← tiles.covers cell]
    constructor
    · rintro ⟨part, present, inPart⟩
      obtain ⟨box, isBox, isPart⟩ := List.mem_flatMap.mp present
      obtain ⟨inBox, outside⟩ := Box.exists_mem_subtract.mp ⟨part, isPart, inPart⟩
      exact ⟨⟨box, isBox, inBox⟩, outside⟩
    · rintro ⟨⟨box, isBox, inBox⟩, outside⟩
      obtain ⟨part, isPart, inPart⟩ := Box.exists_mem_subtract.mpr ⟨inBox, outside⟩
      exact ⟨part, List.mem_flatMap.mpr ⟨box, isBox, isPart⟩, inPart⟩

end Tiles
end CLib
