import Mathlib.Data.List.Range
import Mathlib.Data.List.Nodup

/-!
# Requests answered out of order

Requests are numbered in the order in which they are accepted, and answered in any
order.  The outstanding ones are the accepted ones without those answered, in order.
-/

namespace CLib

/-- The requests below a number that are not answered. -/
def outstanding (accepted : ℕ) (answered : List ℕ) : List ℕ :=
  (List.range accepted).filter fun request => request ∉ answered

namespace Outstanding

variable {accepted request : ℕ} {answered : List ℕ}

theorem mem :
    request ∈ outstanding accepted answered ↔ request < accepted ∧ request ∉ answered := by
  unfold outstanding
  rw [List.mem_filter, List.mem_range, decide_eq_true_iff]

theorem nodup (accepted : ℕ) (answered : List ℕ) : (outstanding accepted answered).Nodup :=
  List.nodup_range.filter _

@[simp] theorem of_nil (accepted : ℕ) : outstanding accepted [] = List.range accepted := by
  unfold outstanding
  simp

/-- A new request comes last. -/
theorem accept
    (below : ∀ request ∈ answered, request < accepted) :
    outstanding (accepted + 1) answered = outstanding accepted answered ++ [accepted] := by
  have new : accepted ∉ answered := fun member => absurd (below accepted member) (by omega)
  unfold outstanding
  rw [List.range_succ, List.filter_append]
  simp [new]

/-- An answered request is taken out. -/
theorem answer (request : ℕ) :
    (outstanding accepted answered).erase request =
      outstanding accepted (answered ++ [request]) := by
  rw [(nodup accepted answered).erase_eq_filter]
  unfold outstanding
  rw [List.filter_filter]
  congr 1
  funext other
  simp only [List.mem_append, List.mem_singleton, not_or, Bool.decide_and]
  grind

end Outstanding
end CLib
