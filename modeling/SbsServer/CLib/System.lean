import Mathlib.Logic.Relation

/-!
# Transition systems

A system has initial states and labelled steps.  A run may be restricted to the
steps that meet a condition on the state before the step and its label; the
invariant rule below is the one induction over runs.
-/

namespace CLib

/-- A labelled transition system. -/
structure System (State Label : Type) where
  /-- States in which a run may start. -/
  initial : State → Prop
  /-- Steps of a run. -/
  step : State → Label → State → Prop

namespace System

variable {State Label : Type} {system : System State Label}

/-- States reached by runs whose steps all meet a condition. -/
inductive ReachableWhen
    (system : System State Label)
    (condition : State → Label → Prop) : State → Prop
  | initial {state : State}
      (starts : system.initial state) :
      ReachableWhen system condition state
  | step {state next : State} {label : Label}
      (reachable : ReachableWhen system condition state)
      (meets : condition state label)
      (stepped : system.step state label next) :
      ReachableWhen system condition next

/-- States reached by any run. -/
def Reachable (system : System State Label) : State → Prop :=
  system.ReachableWhen fun _ _ => True

namespace ReachableWhen

/-- The invariant rule: what holds at the start and is kept by every step that
meets the condition holds in every state reached. -/
theorem invariant
    {condition : State → Label → Prop}
    {holds : State → Prop}
    (starts : ∀ state, system.initial state → holds state)
    (keeps : ∀ state label next,
      holds state → condition state label → system.step state label next →
        holds next)
    {state : State}
    (reachable : system.ReachableWhen condition state) :
    holds state := by
  induction reachable with
  | initial initial => exact starts _ initial
  | step _ meets stepped ih =>
      exact keeps _ _ _ ih meets stepped

theorem mono
    {condition weaker : State → Label → Prop}
    (implies : ∀ state label, condition state label → weaker state label)
    {state : State}
    (reachable : system.ReachableWhen condition state) :
    system.ReachableWhen weaker state := by
  induction reachable with
  | initial starts => exact .initial starts
  | step _ meets stepped ih =>
      exact .step ih (implies _ _ meets) stepped

end ReachableWhen

/-- The system whose step is a partial function. -/
def ofNext
    (initial : State → Prop)
    (next : State → Label → Option State) : System State Label where
  initial := initial
  step state label after := next state label = some after

/-- The state after a list of labels, if every step is possible. -/
def run
    (next : State → Label → Option State)
    (state : State) : List Label → Option State
  | [] => some state
  | label :: rest => (next state label).bind fun after => run next after rest

/-- A run of the function is a run of the system. -/
theorem reachable_of_run
    {initial : State → Prop}
    {next : State → Label → Option State}
    {state final : State}
    {labels : List Label}
    (reachable : (ofNext initial next).Reachable state)
    (runs : run next state labels = some final) :
    (ofNext initial next).Reachable final := by
  induction labels generalizing state with
  | nil =>
      cases runs
      exact reachable
  | cons label rest ih =>
      obtain ⟨after, stepped, restRuns⟩ := Option.bind_eq_some_iff.mp runs
      exact ih (.step reachable trivial stepped) restRuns

/-- A step that is taken only if a condition is met. -/
def guarded
    (condition : State → Label → Prop)
    [∀ state label, Decidable (condition state label)]
    (next : State → Label → Option State)
    (state : State)
    (label : Label) : Option State :=
  if condition state label then next state label else none

/-- A run whose steps are guarded is a run whose steps meet the condition. -/
theorem reachableWhen_of_run
    {condition : State → Label → Prop}
    [∀ state label, Decidable (condition state label)]
    {initial : State → Prop}
    {next : State → Label → Option State}
    {state final : State}
    {labels : List Label}
    (reachable : (ofNext initial next).ReachableWhen condition state)
    (runs : run (guarded condition next) state labels = some final) :
    (ofNext initial next).ReachableWhen condition final := by
  induction labels generalizing state with
  | nil =>
      cases runs
      exact reachable
  | cons label rest ih =>
      obtain ⟨after, stepped, restRuns⟩ := Option.bind_eq_some_iff.mp runs
      unfold guarded at stepped
      split at stepped
      next meets => exact ih (.step reachable meets stepped) restRuns
      next => cases stepped

/-- Every label of a list meets the condition when its turn comes. -/
def AllMeet
    (condition : State → Label → Prop)
    (next : State → Label → State) : State → List Label → Prop
  | _, [] => True
  | state, label :: rest => condition state label ∧ AllMeet condition next (next state label) rest

instance decidableAllMeet
    (condition : State → Label → Prop)
    [∀ state label, Decidable (condition state label)]
    (next : State → Label → State) :
    ∀ state labels, Decidable (AllMeet condition next state labels)
  | _, [] => isTrue trivial
  | state, label :: rest =>
      have := decidableAllMeet condition next (next state label) rest
      inferInstanceAs (Decidable (_ ∧ _))

/-- Where the steps are those of a function, a list of labels that all meet the condition is a
run. -/
theorem reachableWhen_foldl
    {condition : State → Label → Prop}
    {next : State → Label → State}
    (steps : ∀ state label, system.step state label (next state label))
    {state : State}
    {labels : List Label}
    (reachable : system.ReachableWhen condition state)
    (meet : AllMeet condition next state labels) :
    system.ReachableWhen condition (labels.foldl next state) := by
  induction labels generalizing state with
  | nil => exact reachable
  | cons label rest ih =>
      exact ih (.step reachable meet.1 (steps state label)) meet.2

/-- Without a condition every list is one. -/
theorem reachable_foldl
    {next : State → Label → State}
    (steps : ∀ state label, system.step state label (next state label))
    {state : State}
    (reachable : system.Reachable state)
    (labels : List Label) :
    system.Reachable (labels.foldl next state) := by
  apply reachableWhen_foldl steps reachable
  induction labels generalizing state with
  | nil => trivial
  | cons label rest ih =>
      exact ⟨trivial, ih (.step reachable trivial (steps state label))⟩

end System

/-- A history whose entries are related stays so if the next entry is related to all before. -/
theorem pairwise_concat
    {Entry : Type}
    {related : Entry → Entry → Prop}
    {history : List Entry}
    {next : Entry}
    (pairwise : history.Pairwise related)
    (later : ∀ entry ∈ history, related entry next) :
    (history ++ [next]).Pairwise related := by
  rw [List.pairwise_append]
  refine ⟨pairwise, List.pairwise_singleton _ _, ?_⟩
  intro entry member new isNew
  rw [List.mem_singleton.mp isNew]
  exact later entry member

end CLib
