import Mathlib.Data.List.Basic

/-!
# Paths

Where a path leads by its names alone, that is without symbolic links: an empty name and
`.` stay, `..` goes up.
-/

namespace CLib
namespace Path

/-- The names between the slashes of a path. -/
def names (path : List UInt8) : List (List UInt8) :=
  path.splitOn 47

/-- The place that names lead to, as the names from the root. -/
def walk (place : List (List UInt8)) : List (List UInt8) → List (List UInt8)
  | [] => place
  | name :: rest =>
      if name = [] ∨ name = [46] then walk place rest
      else if name = [46, 46] then walk place.dropLast rest
      else walk (place ++ [name]) rest

/-- Where a path leads from the root. -/
def resolve (path : List UInt8) : List (List UInt8) :=
  walk [] (names path)

theorem walk_append (place first second : List (List UInt8)) :
    walk place (first ++ second) = walk (walk place first) second := by
  induction first generalizing place with
  | nil => rfl
  | cons name rest ih =>
      simp only [List.cons_append, walk]
      split
      · exact ih _
      · split <;> exact ih _

theorem resolve_append (directory rest : List UInt8) :
    resolve (directory ++ 47 :: rest) = walk (resolve directory) (names rest) := by
  unfold resolve names
  rw [List.splitOn_append_cons_self, walk_append]

/-- A name that leads into a directory. -/
def Plain (name : List UInt8) : Prop :=
  47 ∉ name ∧ name ∉ [[], [46], [46, 46]]
  deriving Decidable

theorem Plain.resolve_append
    {name : List UInt8}
    (plain : Plain name)
    (directory : List UInt8) :
    resolve (directory ++ 47 :: name) = resolve directory ++ [name] := by
  obtain ⟨noSlash, others⟩ := plain
  simp only [List.mem_cons, List.not_mem_nil, or_false, not_or] at others
  rw [Path.resolve_append, names, List.splitOn_eq_singleton noSlash]
  simp [walk, others]

/-- Without `..` names lead down. -/
theorem prefix_walk
    {path : List (List UInt8)}
    (noUp : [46, 46] ∉ path)
    (place : List (List UInt8)) :
    place <+: walk place path := by
  induction path generalizing place with
  | nil => exact List.prefix_refl _
  | cons name rest ih =>
      obtain ⟨notUp, later⟩ := not_or.mp (List.mem_cons.not.mp noUp)
      rw [walk, if_neg (Ne.symm notUp)]
      split
      · exact ih later _
      · exact (List.prefix_append _ _).trans (ih later _)

theorem infix_intercalate
    {separator part : List UInt8}
    {parts : List (List UInt8)}
    (member : part ∈ parts) :
    part <:+: separator.intercalate parts := by
  induction parts with
  | nil => cases member
  | cons first rest ih =>
      by_cases last : rest = []
      · simp_all
      · rw [List.intercalate_cons_of_ne_nil last, List.append_assoc]
        obtain rfl | later := List.mem_cons.mp member
        · exact (List.prefix_append _ _).isInfix
        · refine (ih later).trans ?_
          rw [← List.append_assoc]
          exact (List.suffix_append _ _).isInfix

/-- A path below a directory that has no `..` in it leads below the directory. -/
theorem prefix_resolve_append
    {rest : List UInt8}
    (noUp : ¬[46, 46] <:+: rest)
    (directory : List UInt8) :
    resolve directory <+: resolve (directory ++ 47 :: rest) := by
  rw [resolve_append]
  refine prefix_walk (fun member => noUp ?_) _
  have inside := @infix_intercalate [47] _ _ member
  rwa [names, List.intercalate_splitOn] at inside

end Path
end CLib
