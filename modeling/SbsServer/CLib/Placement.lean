import Mathlib.Data.Fintype.Basic
import Mathlib.Data.List.FinRange
import Mathlib.Logic.Function.Basic
import Mathlib.Order.Fin.Basic

/-!
# Placement by position or by label

Claimants come in order to a table of labelled slots.  A claimant takes the slot
at its own position if that is blank or bears its label, else the first slot that
bears its label; if there is none, it displaces what its own slot holds.  What a
run leaves is read off the labels that the table had before it.
-/

namespace CLib

/-- A table before the claimants come and the labels that they bring.  No two
claimants bring the same label. -/
structure Placement (n : Nat) (Label : Type) where
  blank : Label
  initial : Fin n → Label
  wants : Fin n → Option Label
  unique : ∀ i j label, wants i = some label → wants j = some label → i = j

namespace Placement

variable {n : Nat} {Label : Type}

section Rule

variable [DecidableEq Label]

/-- The first slot that bears the label. -/
def search
    (labels : Fin n → Label)
    (label : Label) : Option (Fin n) :=
  (List.finRange n).find? fun slot => labels slot = label

/-- The slot that the rule finds from the position `home`. -/
def slotFor
    (blank : Label)
    (labels : Fin n → Label)
    (label : Label)
    (home : Fin n) : Fin n :=
  if label = blank ∨ labels home = blank ∨ labels home = label then home
  else (search labels label).getD home

variable {labels : Fin n → Label}

variable {label blank : Label}

theorem search_eq_some
    {slot : Fin n} :
    search labels label = some slot ↔
      labels slot = label ∧ ∀ other < slot, labels other ≠ label := by
  unfold search
  rw [List.find?_eq_some_iff_getElem]
  constructor
  · rintro ⟨bears, i, bound, rfl, first⟩
    refine ⟨by simpa using bears, ?_⟩
    intro other before same
    have earlier := first other.val (by simpa [Fin.lt_def] using before)
    simp [same] at earlier
  · rintro ⟨bears, first⟩
    refine ⟨by simpa using bears, slot.val, by simp, by simp, ?_⟩
    intro j before
    simpa using first ⟨j, by omega⟩ before

theorem search_eq_none
    {label : Label} :
    search labels label = none ↔ ∀ slot, labels slot ≠ label := by
  simp [search]

theorem slotFor_of_home
    {home : Fin n}
    (free : label = blank ∨ labels home = blank ∨ labels home = label) :
    slotFor blank labels label home = home :=
  if_pos free

theorem slotFor_of_absent
    {home : Fin n}
    (absent : ∀ slot, labels slot ≠ label) :
    slotFor blank labels label home = home := by
  unfold slotFor
  rw [search_eq_none.mpr absent]
  split <;> rfl

theorem slotFor_of_first
    {home slot : Fin n}
    (taken : ¬(label = blank ∨ labels home = blank ∨ labels home = label))
    (bears : labels slot = label)
    (first : ∀ other < slot, labels other ≠ label) :
    slotFor blank labels label home = slot := by
  unfold slotFor
  rw [if_neg taken, search_eq_some.mpr ⟨bears, first⟩]
  rfl

/-- The rule finds the position it starts from, or the first slot with the label. -/
theorem slotFor_cases
    (blank label : Label)
    (labels : Fin n → Label)
    (home : Fin n) :
    slotFor blank labels label home = home ∧
        (label = blank ∨ labels home = blank ∨ labels home = label) ∨
      slotFor blank labels label home = home ∧ (∀ slot, labels slot ≠ label) ∨
      ¬(label = blank ∨ labels home = blank ∨ labels home = label) ∧
        labels (slotFor blank labels label home) = label ∧
        ∀ other < slotFor blank labels label home, labels other ≠ label := by
  by_cases free : label = blank ∨ labels home = blank ∨ labels home = label
  · exact .inl ⟨slotFor_of_home free, free⟩
  · cases found : search labels label with
    | none =>
        rw [search_eq_none] at found
        exact .inr (.inl ⟨slotFor_of_absent found, found⟩)
    | some slot =>
        rw [search_eq_some] at found
        rw [slotFor_of_first free found.1 found.2]
        exact .inr (.inr ⟨free, found⟩)

end Rule

/-- The labels of the slots and the claimants that took them. -/
structure Table (n : Nat) (Label : Type) where
  labels : Fin n → Label
  owner : Fin n → Option (Fin n)

/-- The table before the claimants come. -/
def start (placement : Placement n Label) : Table n Label :=
  ⟨placement.initial, fun _ => none⟩

section Runs

variable [DecidableEq Label]

/-- A claimant takes a slot. -/
def take
    (placement : Placement n Label)
    (table : Table n Label)
    (claimant : Fin n)
    (label : Label) : Table n Label :=
  let slot := slotFor placement.blank table.labels label claimant
  ⟨Function.update table.labels slot label,
    Function.update table.owner slot (some claimant)⟩

/-- The turn of a claimant. -/
def turn
    (placement : Placement n Label)
    (table : Table n Label)
    (claimant : Fin n) : Table n Label :=
  match placement.wants claimant with
  | some label => placement.take table claimant label
  | none => table

/-- The table after the turns of the first claimants. -/
def after (placement : Placement n Label) : Nat → Table n Label
  | 0 => placement.start
  | turns + 1 =>
      if bound : turns < n then placement.turn (placement.after turns) ⟨turns, bound⟩
      else placement.after turns

/-- The slot that a claimant takes. -/
def slotOf
    (placement : Placement n Label)
    (claimant : Fin n)
    (label : Label) : Fin n :=
  slotFor placement.blank (placement.after claimant).labels label claimant

theorem after_succ
    (placement : Placement n Label)
    (claimant : Fin n) :
    placement.after (claimant + 1) =
      placement.turn (placement.after claimant) claimant := by
  rw [after, dif_pos claimant.isLt]

theorem after_succ_of_none
    {placement : Placement n Label}
    (claimant : Fin n)
    (absent : placement.wants claimant = none) :
    placement.after (claimant + 1) = placement.after claimant := by
  rw [after_succ, turn, absent]

theorem after_succ_of_some
    {placement : Placement n Label}
    (claimant : Fin n)
    {label : Label}
    (wanted : placement.wants claimant = some label) :
    placement.after (claimant + 1) =
      ⟨Function.update (placement.after claimant).labels
          (placement.slotOf claimant label) label,
        Function.update (placement.after claimant).owner
          (placement.slotOf claimant label) (some claimant)⟩ := by
  rw [after_succ, turn, wanted]
  rfl

end Runs

/-- A claimant takes the slot at its own position. -/
inductive Settles (placement : Placement n Label) : Fin n → Prop
  | home
      {claimant : Fin n}
      {label : Label}
      (wanted : placement.wants claimant = some label)
      (free : label = placement.blank ∨ placement.initial claimant = placement.blank ∨
        placement.initial claimant = label) : Settles placement claimant
  | displaces
      {claimant : Fin n}
      {label : Label}
      (wanted : placement.wants claimant = some label)
      (earlier : ∀ slot, placement.initial slot = label → slot < claimant)
      (gone : ∀ slot, placement.initial slot = label → Settles placement slot) :
      Settles placement claimant

/-- When the claimant comes, the slot bears the label that it always had. -/
def Bears
    (placement : Placement n Label)
    (claimant : Fin n)
    (label : Label)
    (slot : Fin n) : Prop :=
  placement.initial slot = label ∧ ¬(slot < claimant ∧ placement.Settles slot)

/-- The claimant finds its label at another position. -/
structure Finds
    (placement : Placement n Label)
    (claimant : Fin n)
    (label : Label)
    (slot : Fin n) : Prop where
  wanted : placement.wants claimant = some label
  away : ¬placement.Settles claimant
  bears : placement.Bears claimant label slot
  first : ∀ other < slot, ¬placement.Bears claimant label other

/-- No claimant settles in a slot in which an earlier one found its label. -/
def Undisturbed (placement : Placement n Label) : Prop :=
  ∀ claimant label slot, placement.Finds claimant label slot → claimant < slot →
    ¬placement.Settles slot

variable {placement : Placement n Label}

variable {claimant : Fin n} {label : Label}

theorem Settles.wanted
    (settles : placement.Settles claimant) :
    ∃ label, placement.wants claimant = some label := by
  cases settles with
  | home wanted _ => exact ⟨_, wanted⟩
  | displaces wanted _ _ => exact ⟨_, wanted⟩

/-- A claimant that settles away from home finds its label nowhere. -/
theorem Settles.free_or_gone
    (settles : placement.Settles claimant)
    (wanted : placement.wants claimant = some label) :
    (label = placement.blank ∨ placement.initial claimant = placement.blank ∨
        placement.initial claimant = label) ∨
      ∀ slot, placement.initial slot = label →
        slot < claimant ∧ placement.Settles slot := by
  cases settles with
  | home same free =>
      cases Option.some.inj (wanted.symm.trans same)
      exact .inl free
  | displaces same earlier gone =>
      cases Option.some.inj (wanted.symm.trans same)
      exact .inr fun slot bears => ⟨earlier slot bears, gone slot bears⟩

/-- The labels are those of the claimants that settled and else the first ones. -/
structure Tracks
    (placement : Placement n Label)
    (turns : Nat)
    (labels : Fin n → Label) : Prop where
  settled : ∀ slot label, slot.val < turns → placement.Settles slot →
    placement.wants slot = some label → labels slot = label
  others : ∀ slot, ¬(slot.val < turns ∧ placement.Settles slot) →
    labels slot = placement.initial slot

namespace Tracks

variable
  {placement : Placement n Label}
  {labels : Fin n → Label}
  {claimant : Fin n}
  {label : Label}

/-- A slot bears the label of a claimant that comes iff it had it from the start. -/
theorem bears_iff
    (tracks : placement.Tracks claimant labels)
    (wanted : placement.wants claimant = some label)
    (slot : Fin n) :
    labels slot = label ↔ placement.Bears claimant label slot := by
  by_cases settled : slot < claimant ∧ placement.Settles slot
  · obtain ⟨other, claims⟩ := settled.2.wanted
    have shown := tracks.settled slot other settled.1 settled.2 claims
    constructor
    · intro same
      rw [shown] at same
      rw [same] at claims
      exact absurd (placement.unique _ _ _ claims wanted) (ne_of_lt settled.1)
    · exact fun bears => absurd settled bears.2
  · have shown := tracks.others slot settled
    rw [shown]
    exact ⟨fun same => ⟨same, settled⟩, fun bears => bears.1⟩

theorem home
    (tracks : placement.Tracks claimant labels) :
    labels claimant = placement.initial claimant :=
  tracks.others claimant fun settled => absurd settled.1 (lt_irrefl _)

variable [DecidableEq Label]

theorem slotFor_of_settles
    (tracks : placement.Tracks claimant labels)
    (wanted : placement.wants claimant = some label)
    (settles : placement.Settles claimant) :
    slotFor placement.blank labels label claimant = claimant := by
  obtain free | gone := settles.free_or_gone wanted
  · rw [← tracks.home] at free
    exact slotFor_of_home free
  · apply slotFor_of_absent
    intro slot same
    rw [tracks.bears_iff wanted] at same
    exact same.2 (gone slot same.1)

/-- Who does not settle finds the label at another position. -/
theorem finds
    (tracks : placement.Tracks claimant labels)
    (wanted : placement.wants claimant = some label)
    (away : ¬placement.Settles claimant) :
    placement.Finds claimant label (slotFor placement.blank labels label claimant) := by
  obtain ⟨_, free⟩ | ⟨_, absent⟩ | ⟨_, bears, first⟩ :=
    slotFor_cases placement.blank label labels claimant
  · rw [tracks.home] at free
    exact absurd (.home wanted free) away
  · refine absurd (.displaces wanted ?_ ?_) away
    all_goals
      intro slot same
      have shown := absent slot
      rw [ne_eq, tracks.bears_iff wanted] at shown
      have settled : slot < claimant ∧ placement.Settles slot :=
        Classical.not_not.mp fun unsettled => shown ⟨same, unsettled⟩
    · exact settled.1
    · exact settled.2
  · refine ⟨wanted, away, (tracks.bears_iff wanted _).1 bears, ?_⟩
    intro other before
    rw [← tracks.bears_iff wanted]
    exact first other before

end Tracks

theorem Finds.unique
    {left right : Fin n}
    (atLeft : placement.Finds claimant label left)
    (atRight : placement.Finds claimant label right) :
    left = right := by
  rcases lt_trichotomy left right with before | same | before
  · exact absurd atLeft.bears (atRight.first left before)
  · exact same
  · exact absurd atRight.bears (atLeft.first right before)

/-- A label is never found in the finder's own slot. -/
theorem Finds.ne
    {claimant slot : Fin n}
    (finds : placement.Finds claimant label slot) :
    slot ≠ claimant := by
  intro same
  rw [same] at finds
  exact finds.away (.home finds.wanted (.inr (.inr finds.bears.1)))

section Runs

variable [DecidableEq Label] (placement : Placement n Label)

/-- One turn: a claimant that settles changes the label of its own slot, one that
finds its label changes none. -/
theorem Tracks.turn
    {placement : Placement n Label}
    {table : Table n Label}
    (claimant : Fin n)
    (tracks : placement.Tracks claimant table.labels) :
    placement.Tracks (claimant + 1) (placement.turn table claimant).labels := by
  unfold Placement.turn
  cases wanted : placement.wants claimant with
  | none =>
      have unsettled : ¬placement.Settles claimant := by
        intro settles
        obtain ⟨label, claims⟩ := settles.wanted
        rw [wanted] at claims
        cases claims
      constructor
      · intro slot label before settles claims
        have apart : slot.val ≠ claimant.val :=
          fun same => unsettled (Fin.ext same ▸ settles)
        exact tracks.settled slot label (by omega) settles claims
      · intro slot unsettledSlot
        apply tracks.others slot
        exact fun settled => unsettledSlot ⟨by omega, settled.2⟩
  | some label =>
      dsimp only [take]
      by_cases settles : placement.Settles claimant
      · rw [tracks.slotFor_of_settles wanted settles]
        constructor
        · intro slot other before settlesSlot claims
          by_cases same : slot = claimant
          · rw [same] at claims ⊢
            rw [Function.update_self]
            exact Option.some.inj (wanted.symm.trans claims)
          · rw [Function.update_of_ne same]
            have apart : slot.val ≠ claimant.val := fun equal => same (Fin.ext equal)
            exact tracks.settled slot other (by omega) settlesSlot claims
        · intro slot unsettled
          have apart : slot ≠ claimant := by
            intro same
            exact unsettled ⟨by rw [same]; exact Nat.lt_succ_self _, same ▸ settles⟩
          rw [Function.update_of_ne apart]
          exact tracks.others slot fun settled => unsettled ⟨by omega, settled.2⟩
      · have bears := (tracks.bears_iff wanted _).2 (tracks.finds wanted settles).bears
        have unchanged : Function.update table.labels
            (slotFor placement.blank table.labels label claimant) label = table.labels := by
          rw [Function.update_eq_self_iff]
          exact bears.symm
        rw [unchanged]
        constructor
        · intro slot other before settlesSlot claims
          have apart : slot.val ≠ claimant.val :=
            fun same => settles (Fin.ext same ▸ settlesSlot)
          exact tracks.settled slot other (by omega) settlesSlot claims
        · intro slot unsettled
          exact tracks.others slot fun settled => unsettled ⟨by omega, settled.2⟩

theorem tracks_after (turns : Nat) : placement.Tracks turns (placement.after turns).labels := by
  induction turns with
  | zero =>
      constructor
      · exact fun slot label before => absurd before (Nat.not_lt_zero _)
      · exact fun slot _ => rfl
  | succ turns ih =>
      unfold after
      split
      next bound => exact Tracks.turn ⟨turns, bound⟩ ih
      next full =>
        constructor
        · exact fun slot label _ => ih.settled slot label (by omega)
        · exact fun slot unsettled => ih.others slot fun settled =>
            unsettled ⟨by omega, settled.2⟩

variable {placement}

variable {claimant slot : Fin n} {label : Label}

theorem slotOf_of_settles
    (wanted : placement.wants claimant = some label)
    (settles : placement.Settles claimant) :
    placement.slotOf claimant label = claimant :=
  (placement.tracks_after claimant).slotFor_of_settles wanted settles

theorem finds_slotOf
    (wanted : placement.wants claimant = some label)
    (away : ¬placement.Settles claimant) :
    placement.Finds claimant label (placement.slotOf claimant label) :=
  (placement.tracks_after claimant).finds wanted away

/-- A claimant that takes the slot of an earlier one settles in it. -/
theorem slotOf_eq_slotOf_iff
    {claimant later : Fin n}
    {label other : Label}
    (wanted : placement.wants claimant = some label)
    (wantedLater : placement.wants later = some other)
    (before : claimant < later) :
    placement.slotOf later other = placement.slotOf claimant label ↔
      placement.Finds claimant label later ∧ placement.Settles later := by
  constructor
  · intro same
    by_cases settles : placement.Settles later
    · rw [slotOf_of_settles wantedLater settles] at same
      by_cases settled : placement.Settles claimant
      · rw [slotOf_of_settles wanted settled] at same
        exact absurd same.symm (ne_of_lt before)
      · exact ⟨same ▸ finds_slotOf wanted settled, settles⟩
    · exfalso
      have found := (finds_slotOf wantedLater settles).bears
      rw [same] at found
      have labels : label = other := by
        by_cases settled : placement.Settles claimant
        · rw [slotOf_of_settles wanted settled] at found
          exact absurd ⟨before, settled⟩ found.2
        · exact (finds_slotOf wanted settled).bears.1.symm.trans found.1
      rw [labels] at wanted
      exact ne_of_lt before (placement.unique _ _ _ wanted wantedLater)
  · rintro ⟨finds, settles⟩
    rw [slotOf_of_settles wantedLater settles]
    exact finds.unique (finds_slotOf wanted finds.away)

/-- A later claimant leaves a slot to its owner unless it takes that slot. -/
theorem owner_after_succ_iff
    {claimant later : Fin n}
    (apart : claimant ≠ later) :
    (placement.after (later + 1)).owner slot = some claimant ↔
      (placement.after later).owner slot = some claimant ∧
        ∀ other, placement.wants later = some other → placement.slotOf later other ≠ slot := by
  cases claims : placement.wants later with
  | none =>
      rw [after_succ_of_none later claims]
      simp
  | some other =>
      rw [after_succ_of_some later claims]
      dsimp only
      by_cases same : slot = placement.slotOf later other
      · rw [same, Function.update_self]
        refine iff_of_false ?_ ?_
        · exact fun equal => apart (Option.some.inj equal).symm
        · exact fun keeps => keeps.2 other rfl rfl
      · rw [Function.update_of_ne same]
        refine ⟨fun kept => ⟨kept, ?_⟩, fun keeps => keeps.1⟩
        rintro label claimed taken
        rw [← Option.some.inj claimed] at taken
        exact same taken.symm

/-- A claimant keeps its slot iff no later one takes it. -/
theorem owner_after_iff
    (wanted : placement.wants claimant = some label)
    (turns : Nat)
    (past : claimant < turns) :
    (placement.after turns).owner (placement.slotOf claimant label) = some claimant ↔
      ∀ later other, claimant < later → later.val < turns →
        placement.wants later = some other →
          placement.slotOf later other ≠ placement.slotOf claimant label := by
  induction turns with
  | zero => exact absurd past (Nat.not_lt_zero _)
  | succ turns ih =>
      by_cases last : turns = claimant.val
      · subst last
        rw [after_succ_of_some claimant wanted]
        dsimp only
        rw [Function.update_self]
        refine iff_of_true rfl fun later other after before => ?_
        exact absurd (Fin.lt_def.mp after) (by omega)
      · have ih := ih (by omega)
        by_cases bound : turns < n
        · have apart : claimant ≠ ⟨turns, bound⟩ := fun same => last (congrArg Fin.val same).symm
          rw [show turns + 1 = (⟨turns, bound⟩ : Fin n).val + 1 from rfl,
            owner_after_succ_iff apart, ih]
          constructor
          · rintro ⟨keeps, keepsLast⟩ later other after before claims
            by_cases atLast : later = ⟨turns, bound⟩
            · rw [atLast] at claims ⊢
              exact keepsLast other claims
            · have differs : later.val ≠ turns := fun same => atLast (Fin.ext same)
              exact keeps later other after (by change later.val < turns + 1 at before; omega)
                claims
          · intro keeps
            constructor
            · exact fun later other after before => keeps later other after
                (Nat.lt_succ_of_lt before)
            · exact fun other => keeps ⟨turns, bound⟩ other
                (Fin.lt_def.mpr (by change claimant.val < turns; omega)) (Nat.lt_succ_self _)
        · rw [after, dif_neg bound, ih]
          refine forall₃_congr fun later other after => ?_
          have few : later.val < turns := by omega
          simp [few, Nat.lt_succ_of_lt few]

/-! ## What a run leaves -/

/-- The table after all turns. -/
def final (placement : Placement n Label) : Table n Label :=
  placement.after n

/-- Nothing is put later into the slot that the claimant takes. -/
theorem owner_final_iff
    (wanted : placement.wants claimant = some label) :
    placement.final.owner (placement.slotOf claimant label) = some claimant ↔
      ∀ slot, placement.Finds claimant label slot → claimant < slot →
        ¬placement.Settles slot := by
  rw [final, owner_after_iff wanted n claimant.isLt]
  constructor
  · intro keeps slot finds before settles
    obtain ⟨other, claims⟩ := settles.wanted
    exact keeps slot other before slot.isLt claims
      ((slotOf_eq_slotOf_iff wanted claims before).2 ⟨finds, settles⟩)
  · intro undisturbed later other before _ claims same
    have taken := (slotOf_eq_slotOf_iff wanted claims before).1 same
    exact undisturbed later taken.1 before taken.2

/-- A claimant owns no slot but the one that it takes. -/
theorem slotOf_of_owner
    (wanted : placement.wants claimant = some label)
    (turns : Nat)
    (owned : (placement.after turns).owner slot = some claimant) :
    slot = placement.slotOf claimant label := by
  induction turns with
  | zero => cases owned
  | succ turns ih =>
      by_cases bound : turns < n
      · by_cases same : claimant = ⟨turns, bound⟩
        · have turn : turns = claimant.val := by rw [same]
          rw [turn, after_succ_of_some claimant wanted] at owned
          dsimp only at owned
          by_contra apart
          rw [Function.update_of_ne apart] at owned
          exact apart (ih (turn ▸ owned))
        · rw [show turns + 1 = (⟨turns, bound⟩ : Fin n).val + 1 from rfl,
            owner_after_succ_iff same] at owned
          exact ih owned.1
      · rw [after, dif_neg bound] at owned
        exact ih owned

/-- The label of a slot in the end, if its claimant settles. -/
theorem label_final_of_settles
    (wanted : placement.wants slot = some label)
    (settles : placement.Settles slot) :
    placement.final.labels slot = label :=
  (placement.tracks_after n).settled slot label slot.isLt settles wanted

theorem label_final_of_not_settles
    (away : ¬placement.Settles slot) :
    placement.final.labels slot = placement.initial slot :=
  (placement.tracks_after n).others slot fun settled => away settled.2

/-- What bears a claimant's label in the end. -/
theorem label_final_iff
    (wanted : placement.wants claimant = some label)
    (slot : Fin n) :
    placement.final.labels slot = label ↔
      (slot = claimant ∧ placement.Settles claimant) ∨
        (placement.initial slot = label ∧ ¬placement.Settles slot) := by
  by_cases settles : placement.Settles slot
  · obtain ⟨other, claims⟩ := settles.wanted
    rw [label_final_of_settles claims settles]
    constructor
    · intro same
      rw [same] at claims
      have equal := placement.unique _ _ _ claims wanted
      exact .inl ⟨equal, equal ▸ settles⟩
    · rintro (⟨rfl, _⟩ | ⟨_, away⟩)
      · exact Option.some.inj (claims.symm.trans wanted)
      · exact absurd settles away
  · rw [label_final_of_not_settles settles]
    constructor
    · exact fun same => .inr ⟨same, settles⟩
    · rintro (⟨same, settled⟩ | ⟨same, _⟩)
      · exact absurd (same ▸ settled) settles
      · exact same

end Runs

/-- A search that starts at the position `home` passes it by and comes to the slot
of the claimant. -/
structure Passes
    (placement : Placement n Label)
    (home claimant : Fin n)
    (label : Label) : Prop where
  named : label ≠ placement.blank
  settled : placement.Settles home → placement.wants home ≠ some placement.blank
  unsettled : ¬placement.Settles home →
    placement.initial home ≠ placement.blank ∧ placement.initial home ≠ label
  first : placement.Settles claimant → ∀ slot < claimant, placement.initial slot = label →
    placement.Settles slot

/-- The position is where the claimant is put. -/
def Holds
    (placement : Placement n Label)
    (home claimant : Fin n)
    (label : Label) : Prop :=
  (home = claimant ∧ placement.Settles claimant) ∨ placement.Finds claimant label home

section Runs

variable [DecidableEq Label] {placement : Placement n Label}

variable {label : Label}

theorem holds_iff
    {home claimant : Fin n}
    (wanted : placement.wants claimant = some label) :
    placement.Holds home claimant label ↔ home = placement.slotOf claimant label := by
  by_cases settles : placement.Settles claimant
  · rw [slotOf_of_settles wanted settles]
    constructor
    · rintro (⟨same, _⟩ | finds)
      · exact same
      · exact absurd settles finds.away
    · exact fun same => .inl ⟨same, settles⟩
  · constructor
    · rintro (⟨_, settled⟩ | finds)
      · exact absurd settled settles
      · exact finds.unique (finds_slotOf wanted settles)
    · rintro rfl
      exact .inr (finds_slotOf wanted settles)

/-- A slot that nothing is put into later bears the label of its owner. -/
theorem label_slotOf
    {claimant : Fin n}
    (wanted : placement.wants claimant = some label)
    (kept : placement.final.owner (placement.slotOf claimant label) = some claimant) :
    placement.final.labels (placement.slotOf claimant label) = label := by
  rw [label_final_iff wanted]
  by_cases settles : placement.Settles claimant
  · exact .inl ⟨slotOf_of_settles wanted settles, settles⟩
  · have finds := finds_slotOf wanted settles
    refine .inr ⟨finds.bears.1, fun settled => ?_⟩
    rcases lt_trichotomy claimant (placement.slotOf claimant label) with before | same | after
    · exact (owner_final_iff wanted).1 kept _ finds before settled
    · exact finds.ne same.symm
    · exact finds.bears.2 ⟨after, settled⟩

/-- No slot before the one where the label was found bears it in the end. -/
theorem Finds.first_final
    {claimant slot other : Fin n}
    (finds : placement.Finds claimant label slot)
    (before : other < slot) :
    placement.final.labels other ≠ label := by
  rw [ne_eq, label_final_iff finds.wanted]
  rintro (⟨rfl, settles⟩ | ⟨same, unsettled⟩)
  · exact finds.away settles
  · exact finds.first other before ⟨same, fun settled => unsettled settled.2⟩

/-- From the claimant's own position the rule finds the slot again. -/
theorem slotFor_final_self
    {claimant : Fin n}
    (wanted : placement.wants claimant = some label)
    (kept : placement.final.owner (placement.slotOf claimant label) = some claimant) :
    slotFor placement.blank placement.final.labels label claimant =
      placement.slotOf claimant label := by
  have bears := label_slotOf wanted kept
  by_cases settles : placement.Settles claimant
  · rw [slotOf_of_settles wanted settles] at bears ⊢
    exact slotFor_of_home (.inr (.inr bears))
  · have finds := finds_slotOf wanted settles
    refine slotFor_of_first ?_ bears fun other => finds.first_final
    rw [label_final_of_not_settles settles]
    exact fun free => settles (.home wanted free)

/-- From any position the rule finds the slot again iff it starts there or passes on
to it. -/
theorem slotFor_final_iff
    {home claimant : Fin n}
    (wanted : placement.wants claimant = some label)
    (kept : placement.final.owner (placement.slotOf claimant label) = some claimant)
    (apart : home ≠ claimant) :
    slotFor placement.blank placement.final.labels label home =
        placement.slotOf claimant label ↔
      placement.Holds home claimant label ∨ placement.Passes home claimant label := by
  have bears := label_slotOf wanted kept
  constructor
  · intro found
    obtain ⟨same, _⟩ | ⟨same, _⟩ | ⟨taken, _, first⟩ :=
      slotFor_cases placement.blank label placement.final.labels home
    · exact .inl ((holds_iff wanted).2 (same.symm.trans found))
    · exact .inl ((holds_iff wanted).2 (same.symm.trans found))
    · right
      refine ⟨fun blank => taken (.inl blank), ?_, ?_, ?_⟩
      · intro settles claims
        exact taken (.inr (.inl (label_final_of_settles claims settles)))
      · intro away
        rw [label_final_of_not_settles away] at taken
        exact ⟨fun blank => taken (.inr (.inl blank)), fun same => taken (.inr (.inr same))⟩
      · intro settles slot before same
        rw [found, slotOf_of_settles wanted settles] at first
        by_contra unsettled
        exact first slot before ((label_final_iff wanted slot).2 (.inr ⟨same, unsettled⟩))
  · rintro (holds | passes)
    · rw [← (holds_iff wanted).1 holds] at bears ⊢
      exact slotFor_of_home (.inr (.inr bears))
    · refine slotFor_of_first ?_ bears ?_
      · rintro (blank | blank | same)
        · exact passes.named blank
        · by_cases settles : placement.Settles home
          · obtain ⟨other, claims⟩ := settles.wanted
            rw [label_final_of_settles claims settles] at blank
            exact passes.settled settles (blank ▸ claims)
          · rw [label_final_of_not_settles settles] at blank
            exact (passes.unsettled settles).1 blank
        · rw [label_final_iff wanted] at same
          obtain ⟨equal, _⟩ | ⟨same, unsettled⟩ := same
          · exact apart equal
          · exact (passes.unsettled unsettled).2 same
      · intro other before
        by_cases settles : placement.Settles claimant
        · rw [slotOf_of_settles wanted settles] at before
          rw [ne_eq, label_final_iff wanted]
          rintro (⟨same, _⟩ | ⟨same, unsettled⟩)
          · exact ne_of_lt before same
          · exact unsettled (passes.first settles other before same)
        · exact (finds_slotOf wanted settles).first_final before

end Runs
end Placement
end CLib
