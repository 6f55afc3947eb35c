import Mathlib.Data.List.Count
import SbsServer.Engine.PreviewRing

/-!
# Reconfigurations of the preview ring and leases

The count of an entry is the number of references to the memory that it has now,
and every reference names that memory, as long as no wait for the consumers ends
with an entry still referenced.
-/

namespace SbsServer
namespace Engine

open CLib

section Accounts

variable {entries : Fin nativeCanvasRingSize → PreviewEntry} {holds : List PreviewLease}

/-- The counts are those of the references, and every reference is to an entry as it is now. -/
structure Accounts
    (entries : Fin nativeCanvasRingSize → PreviewEntry)
    (holds : List PreviewLease) : Prop where
  counted : ∀ slot,
    (entries slot).refcount.toNat = holds.count ⟨slot, (entries slot).created⟩
  present : ∀ lease ∈ holds, lease.created = (entries lease.slot).created

namespace Accounts

section

variable (accounts : Accounts entries holds)
include accounts

/-- A reference is the present index of its entry. -/
theorem eq_current
    {lease : PreviewLease}
    (held : lease ∈ holds) :
    lease = ⟨lease.slot, (entries lease.slot).created⟩ := by
  rw [← accounts.present lease held]

/-- The entry of a reference is counted. -/
theorem positive
    {lease : PreviewLease}
    (held : lease ∈ holds) :
    0 < (entries lease.slot).refcount.toNat := by
  rw [accounts.counted, ← accounts.eq_current held]
  exact List.count_pos_iff.mpr held

/-- An entry whose count is zero has no reference. -/
theorem absent
    {slot : Fin nativeCanvasRingSize}
    (zero : (entries slot).refcount = 0) :
    ∀ lease ∈ holds, lease.slot ≠ slot := by
  rintro lease held rfl
  have counted := accounts.positive held
  rw [zero] at counted
  exact absurd counted (lt_irrefl 0)

/-- References may be handed on, and states may change. -/
theorem congr
    {after : Fin nativeCanvasRingSize → PreviewEntry}
    {others : List PreviewLease}
    (same : ∀ slot, (after slot).refcount = (entries slot).refcount ∧
      (after slot).created = (entries slot).created)
    (order : others.Perm holds) :
    Accounts after others where
  counted := by
    intro slot
    rw [(same slot).1, (same slot).2, order.count_eq]
    exact accounts.counted slot
  present := by
    intro lease held
    rw [(same lease.slot).2]
    exact accounts.present lease (order.mem_iff.mp held)

/-- One more reference. -/
theorem increment
    {slot : Fin nativeCanvasRingSize}
    (room : (entries slot).refcount.toNat + 1 < 2 ^ 32) :
    Accounts
      (Function.update entries slot
        { entries slot with refcount := (entries slot).refcount + 1 })
      (⟨slot, (entries slot).created⟩ :: holds) where
  counted := by
    intro other
    by_cases same : other = slot
    · subst same
      rw [Function.update_self]
      dsimp only
      rw [List.count_cons_self, ← accounts.counted, UInt32.toNat_add]
      exact Nat.mod_eq_of_lt room
    · rw [Function.update_of_ne same, List.count_cons_of_ne, ← accounts.counted]
      exact fun equal => same (congrArg PreviewLease.slot equal).symm
  present := by
    intro lease held
    have created : (Function.update entries slot
        { entries slot with refcount := (entries slot).refcount + 1 } lease.slot).created =
          (entries lease.slot).created := by
      by_cases same : lease.slot = slot
      · rw [same, Function.update_self]
      · rw [Function.update_of_ne same]
    rw [created]
    rcases List.mem_cons.mp held with rfl | older
    · rfl
    · exact accounts.present lease older

end

/-- One reference less. -/
theorem decrement
    {lease : PreviewLease}
    {rest : List PreviewLease}
    (accounts : Accounts entries (lease :: rest)) :
    Accounts
      (Function.update entries lease.slot
        { entries lease.slot with refcount := (entries lease.slot).refcount - 1 })
      rest where
  counted := by
    intro other
    have held : lease ∈ lease :: rest := List.mem_cons_self
    have one : (1 : UInt32) ≤ (entries lease.slot).refcount :=
      UInt32.le_iff_toNat_le.mpr (accounts.positive held)
    have counted := accounts.counted other
    by_cases same : other = lease.slot
    · subst same
      rw [Function.update_self]
      dsimp only
      rw [← accounts.eq_current held, List.count_cons_self] at counted
      rw [← accounts.eq_current held, UInt32.toNat_sub_of_le _ _ one, counted]
      rfl
    · rw [Function.update_of_ne same, counted, List.count_cons_of_ne]
      exact fun equal => same (congrArg PreviewLease.slot equal).symm
  present := by
    intro other held
    have created : (Function.update entries lease.slot
        { entries lease.slot with refcount := (entries lease.slot).refcount - 1 }
          other.slot).created = (entries other.slot).created := by
      by_cases same : other.slot = lease.slot
      · rw [same, Function.update_self]
      · rw [Function.update_of_ne same]
    rw [created]
    exact accounts.present other (List.mem_cons_of_mem _ held)

/-- An entry without references is cleared. -/
theorem clear
    (accounts : Accounts entries holds)
    {slot : Fin nativeCanvasRingSize}
    (unheld : ∀ lease ∈ holds, lease.slot ≠ slot)
    {cleared : PreviewEntry}
    (zero : cleared.refcount = 0) :
    Accounts (Function.update entries slot cleared) holds where
  counted := by
    intro other
    by_cases same : other = slot
    · subst same
      rw [Function.update_self, zero, List.count_eq_zero.mpr]
      · rfl
      · exact fun held => unheld _ held rfl
    · rw [Function.update_of_ne same]
      exact accounts.counted other
  present := by
    intro lease held
    rw [Function.update_of_ne (unheld lease held)]
    exact accounts.present lease held

end Accounts
end Accounts

namespace PreviewRing

/-- What holds at a point of the compositor thread. -/
def PointSound (ring : PreviewRing) : CompositorPoint → Prop
  | .waiting _ slot _ => ∀ lease ∈ ring.holds, slot ≤ lease.slot.val
  | .destroying _ _ => ring.holds = []
  | .creating _ _ => ring.holds = []
  | .publishRef _ _ => ring.initialized = true
  | .claiming slot => ∀ lease ∈ ring.holds, lease.slot ≠ slot
  | .claimingRefs slot => ∀ lease ∈ ring.holds, lease.slot ≠ slot
  | _ => True

/-- What holds in every run that meets the condition. -/
structure Sound (ring : PreviewRing) : Prop where
  accounts : Accounts ring.entries ring.holds
  closed : ring.initialized = false → ring.holds = []
  atPoint : ring.PointSound ring.point
  respects : ring.RespectsLeases

variable {ring after : PreviewRing}

/-- References are handed on, and nothing else of account happens. -/
theorem Sound.moved
    (sound : ring.Sound)
    (same : ∀ slot, (after.entries slot).refcount = (ring.entries slot).refcount ∧
      (after.entries slot).created = (ring.entries slot).created)
    (order : after.holds.Perm ring.holds)
    (initialized : after.initialized = ring.initialized)
    (ended : after.ended = ring.ended)
    (released : after.released = ring.released)
    (atPoint : after.PointSound after.point) :
    after.Sound where
  accounts := sound.accounts.congr same order
  closed := by
    intro closed
    have none := sound.closed (initialized ▸ closed)
    exact List.perm_nil.mp (none ▸ order)
  atPoint := atPoint
  respects := ⟨ended ▸ sound.respects.ended, released ▸ sound.respects.released⟩

/-- The references stand at four places. -/
theorem count_holds
    (lease : PreviewLease) :
    ring.holds.count lease = ring.mailbox.count lease + ring.point.holds.count lease +
      ring.leases.count lease + (ring.calls.map PreviewCall.lease).count lease := by
  unfold holds
  rw [List.count_append, List.count_append, List.count_append]

/-- The ring after an exchange that succeeds. -/
def givenBack (ring : PreviewRing) (lease : PreviewLease) : PreviewRing :=
  (ring.modify lease.slot fun entry => { entry with refcount := entry.refcount - 1 }).record
    lease (some lease)

/-- A reference that is held is given back to the entry that counted it. -/
theorem unrefStep_cases
    (accounts : Accounts ring.entries ring.holds)
    (initialized : ring.initialized = true)
    {point : UnrefPoint}
    (held : point.lease ∈ ring.holds)
    (succeeds : Bool) :
    (∃ later, ring.unrefStep succeeds point = (ring, some later) ∧
        later.lease = point.lease) ∨
      ring.unrefStep succeeds point = (ring.givenBack point.lease, none) := by
  have positive : 0 < (ring.entries point.lease.slot).refcount :=
    UInt32.lt_iff_toNat_lt.mpr (accounts.positive held)
  cases point with
  | lookup lease =>
      left
      refine ⟨.load lease, ?_, rfl⟩
      rw [unrefStep, if_pos initialized]
  | load lease =>
      left
      refine ⟨.exchange lease (ring.entries lease.slot).refcount, ?_, rfl⟩
      rw [unrefStep]
      exact if_pos positive
  | exchange lease prev =>
      rw [unrefStep]
      dsimp only
      split
      next exchanged =>
        right
        rw [Bool.and_eq_true, beq_iff_eq] at exchanged
        have current : ring.current lease.slot = lease :=
          (accounts.eq_current held).symm
        rw [current, ← exchanged.2]
        rfl
      next =>
        left
        refine ⟨.exchange lease (ring.entries lease.slot).refcount, ?_, rfl⟩
        exact if_pos positive

/-- A reference was given back. -/
theorem Sound.gaveBack
    (sound : ring.Sound)
    {lease : PreviewLease}
    (order : ring.holds.Perm (lease :: after.holds))
    (entries : after.entries = (ring.givenBack lease).entries)
    (initialized : after.initialized = ring.initialized)
    (ended : after.ended = ring.ended)
    (released : after.released = (ring.givenBack lease).released)
    (atPoint : after.PointSound after.point) :
    after.Sound where
  accounts := by
    have split := sound.accounts.congr (fun _ => ⟨rfl, rfl⟩) order.symm
    rw [entries]
    exact split.decrement
  closed := by
    intro closed
    have none := sound.closed (initialized ▸ closed)
    rw [none] at order
    exact absurd (List.perm_nil.mp order.symm) (List.cons_ne_nil _ _)
  atPoint := atPoint
  respects := by
    constructor
    · rw [ended]
      exact sound.respects.ended
    · rw [released]
      intro reference member
      rcases List.mem_append.mp member with older | new
      · exact sound.respects.released reference older
      · rw [List.mem_singleton.mp new]

/-- While there are references the ring is there. -/
theorem Sound.initialized
    (sound : ring.Sound)
    {lease : PreviewLease}
    (held : lease ∈ ring.holds) :
    ring.initialized = true := by
  by_contra closed
  rw [sound.closed (Bool.eq_false_iff.mpr closed)] at held
  cases held

/-- References are handed on as long as each is counted as often. -/
theorem holds_perm
    (counts : ∀ lease, after.holds.count lease = ring.holds.count lease) :
    after.holds.Perm ring.holds :=
  List.perm_iff_count.mpr counts

variable {point : CompositorPoint}

/-- What holds at a point still does when there are no more references. -/
theorem PointSound.fewer
    (atPoint : ring.PointSound point)
    (initialized : after.initialized = ring.initialized)
    (fewer : ∀ lease ∈ after.holds, lease ∈ ring.holds) :
    after.PointSound point := by
  have none (empty : ring.holds = []) : after.holds = [] := by
    refine List.eq_nil_iff_forall_not_mem.mpr fun lease held => ?_
    have older := fewer lease held
    rw [empty] at older
    cases older
  cases point with
  | waiting attempt slot next => exact fun lease held => atPoint lease (fewer lease held)
  | destroying slot next => exact none atPoint
  | creating slot params => exact none atPoint
  | publishRef slot poll => exact initialized.trans atPoint
  | claiming slot => exact fun lease held => atPoint lease (fewer lease held)
  | claimingRefs slot => exact fun lease held => atPoint lease (fewer lease held)
  | _ => exact trivial

/-! ## Steps of the compositor thread -/

/-- The compositor thread has given back the reference that it was handling. -/
theorem Sound.gaveBackAt
    (sound : ring.Sound)
    {lease : PreviewLease}
    (handling : ring.point.holds = [lease])
    (still : point.holds = [])
    (atPoint : ((ring.givenBack lease).goTo point).PointSound point) :
    ((ring.givenBack lease).goTo point).Sound := by
  refine sound.gaveBack (List.perm_iff_count.mpr fun other => ?_) rfl rfl rfl rfl atPoint
  have before := ring.count_holds other
  have later := ((ring.givenBack lease).goTo point).count_holds other
  rw [handling] at before
  rw [List.count_cons, later, before]
  dsimp only [givenBack, goTo, modify, record]
  rw [still, List.count_nil, List.count_singleton]
  omega

/-- The references are those of the point and those elsewhere. -/
theorem holds_goTo
    (same : point.holds = ring.point.holds) :
    (ring.goTo point).holds = ring.holds := by
  unfold holds
  dsimp only [goTo]
  rw [same]

/-- The compositor thread handles the same reference at another point. -/
theorem Sound.handles
    (sound : ring.Sound)
    (same : point.holds = ring.point.holds)
    (atPoint : ring.PointSound point) :
    (ring.goTo point).Sound := by
  have holds := holds_goTo same
  refine sound.moved (fun _ => ⟨rfl, rfl⟩) (List.Perm.of_eq holds) rfl rfl rfl ?_
  refine atPoint.fewer rfl fun lease held => ?_
  rw [← holds]
  exact held

/-- The state of an entry is not of account. -/
theorem modify_state
    (ring : PreviewRing)
    (slot : Fin nativeCanvasRingSize)
    (state : EntryState)
    (other : Fin nativeCanvasRingSize) :
    ((ring.modify slot ({ · with state := state })).entries other).refcount =
        (ring.entries other).refcount ∧
      ((ring.modify slot ({ · with state := state })).entries other).created =
        (ring.entries other).created := by
  dsimp only [modify]
  by_cases same : other = slot
  · subst same
    rw [Function.update_self]
    exact ⟨rfl, rfl⟩
  · rw [Function.update_of_ne same]
    exact ⟨rfl, rfl⟩

/-- The state of an entry is stored on the way to another point. -/
theorem Sound.marks
    (sound : ring.Sound)
    (slot : Fin nativeCanvasRingSize)
    (state : EntryState)
    (lastRendered : Option (Fin nativeCanvasRingSize))
    (same : point.holds = ring.point.holds)
    (atPoint : ring.PointSound point) :
    ({ ring.modify slot ({ · with state := state }) with
      lastRendered := lastRendered }.goTo point).Sound := by
  have holds := holds_goTo same
  refine sound.moved (ring.modify_state slot state) (List.Perm.of_eq holds) rfl rfl rfl ?_
  refine atPoint.fewer rfl fun lease held => ?_
  rw [← holds]
  exact held

/-- Without references an entry is set anew. -/
theorem Sound.resets
    (sound : ring.Sound)
    (unheld : ring.holds = [])
    (slot : Fin nativeCanvasRingSize)
    (quiet : ring.point.holds = [])
    (still : point.holds = [])
    (atPoint : ((ring.reset slot).goTo point).holds = [] →
      ((ring.reset slot).goTo point).PointSound point) :
    ((ring.reset slot).goTo point).Sound := by
  have holds : ((ring.reset slot).goTo point).holds = ring.holds := by
    unfold PreviewRing.holds
    dsimp only [goTo, reset, modify]
    rw [quiet, still]
  refine ⟨?_, ?_, ?_, ?_⟩
  · rw [holds]
    refine sound.accounts.clear ?_ rfl
    rw [unheld]
    exact fun lease held => (nomatch held)
  · exact fun _ => holds.trans unheld
  · exact atPoint (holds.trans unheld)
  · refine ⟨fun entry member => ?_, sound.respects.released⟩
    rcases List.mem_append.mp member with older | new
    · exact sound.respects.ended entry older
    · rw [List.mem_singleton.mp new, unheld]
      rfl

/-- Once every entry was seen without references there are none. -/
theorem unheld_of_seen
    {attempt slot : Nat}
    {next : Option PreviewParams}
    (atPoint : ring.PointSound (.waiting attempt slot next))
    (all : ¬ slot < nativeCanvasRingSize) :
    ring.holds = [] := by
  refine List.eq_nil_iff_forall_not_mem.mpr fun lease held => ?_
  have above : slot ≤ lease.slot.val := atPoint lease held
  have bound := lease.slot.isLt
  omega

/-- A reference that the compositor thread gives back, step by step. -/
theorem Sound.unrefs
    (sound : ring.Sound)
    {unref : UnrefPoint}
    (handling : ring.point.holds = [unref.lease])
    (succeeds : Bool) :
    (∃ later, ring.unrefStep succeeds unref = (ring, some later) ∧
        later.lease = unref.lease) ∨
      ring.unrefStep succeeds unref = (ring.givenBack unref.lease, none) := by
  have held : unref.lease ∈ ring.holds := by
    refine List.count_pos_iff.mp ?_
    rw [count_holds, handling, List.count_singleton_self]
    omega
  exact unrefStep_cases sound.accounts (sound.initialized held) held succeeds

/-- After a publication. -/
theorem pollsOrReturns
    {later : PreviewRing}
    (goes : ∀ point : CompositorPoint, point.holds = [] →
      (∀ other : PreviewRing, other.PointSound point) → (later.goTo point).Sound)
    (poll : Option Nat) :
    (later.pollOrReturn poll).Sound := by
  cases poll with
  | none => exact goes .idle rfl fun _ => trivial
  | some slot => exact goes (.polling slot) rfl fun _ => trivial

/-- A ring is created only where no reference is left. -/
theorem createsOrReturns
    {later : PreviewRing}
    (unheld : later.holds = [])
    (goes : ∀ point : CompositorPoint, point.holds = [] →
      (later.holds = [] → later.PointSound point) → (later.goTo point).Sound)
    (next : Option PreviewParams) :
    (later.createOrReturn next).Sound := by
  cases next with
  | none => exact goes .idle rfl fun _ => trivial
  | some params =>
      dsimp only [createOrReturn]
      split
      next => exact goes .idle rfl fun _ => trivial
      next => exact goes (.creating 0 params) rfl fun _ => unheld

section

variable (sound : ring.Sound)
include sound

/-- Without references the ring is opened or closed. -/
theorem Sound.opensOrCloses
    (unheld : ring.holds = [])
    (quiet : ring.point.holds = [])
    (initialized : Bool)
    (params : PreviewParams)
    (still : point.holds = []) :
    let later := { ring with
      initialized := initialized
      params := params
      writeIdx := 0
      lastRendered := none }
    (later.holds = [] → later.PointSound point) → (later.goTo point).Sound := by
  intro later atPoint
  have none : later.holds = [] := unheld
  have same : point.holds = later.point.holds := still.trans quiet.symm
  have holds : (later.goTo point).holds = ring.holds := holds_goTo same
  refine ⟨?_, ?_, ?_, ⟨sound.respects.ended, sound.respects.released⟩⟩
  · rw [holds]
    exact sound.accounts
  · exact fun _ => holds.trans unheld
  · refine (atPoint none).fewer rfl fun lease held => ?_
    rw [holds, unheld] at held
    cases held

/-- An entry of the mailbox is taken to be given back. -/
theorem Sound.drains
    {next : Option PreviewParams}
    (point : ring.point = .draining next)
    (succeeds : Bool) :
    (ring.goOn succeeds).Sound := by
  unfold goOn
  rw [point]
  dsimp only
  split
  next lease rest mailbox =>
    refine sound.moved (fun _ => ⟨rfl, rfl⟩) (holds_perm fun other => ?_) rfl rfl rfl trivial
    rw [count_holds, count_holds, mailbox, point, List.count_cons]
    dsimp only [goTo, CompositorPoint.holds, UnrefPoint.lease]
    rw [List.count_nil, List.count_singleton]
    omega
  next =>
    exact sound.handles (by rw [point]; rfl) fun lease _ => Nat.zero_le _

/-- Entries are seen without references, one after the other. -/
theorem Sound.waits
    {attempt slot : Nat}
    {next : Option PreviewParams}
    (point : ring.point = .waiting attempt slot next)
    (succeeds : Bool) :
    (ring.goOn succeeds).Sound := by
  have atPoint := sound.atPoint
  rw [point] at atPoint
  unfold goOn
  rw [point]
  dsimp only
  split
  next bound =>
    split
    next =>
      split
      next => exact sound.handles (by rw [point]; rfl) fun lease _ => Nat.zero_le _
      next => exact sound.handles (by rw [point]; rfl) trivial
    next unreferenced =>
      refine sound.handles (by rw [point]; rfl) fun lease held => ?_
      have zero : (ring.entries ⟨slot, bound⟩).refcount = 0 := by
        rw [UInt32.lt_iff_toNat_lt, UInt32.toNat_zero] at unreferenced
        refine UInt32.toNat_inj.mp ?_
        rw [UInt32.toNat_zero]
        omega
      have older : lease ∈ ring.holds := held
      have other : lease.slot.val ≠ slot := fun same =>
        sound.accounts.absent zero lease older (Fin.ext same)
      have above : slot ≤ lease.slot.val := atPoint lease older
      omega
  next all =>
    refine sound.handles (by rw [point]; rfl) ?_
    exact unheld_of_seen atPoint all

/-- A reference is added for the mailbox. -/
theorem Sound.publishes
    {slot : Fin nativeCanvasRingSize}
    {poll : Option Nat}
    (point : ring.point = .publishRef slot poll)
    (room : (ring.entries slot).refcount.toNat + 1 < 2 ^ 32)
    (succeeds : Bool) :
    (ring.goOn succeeds).Sound := by
  have atPoint := sound.atPoint
  unfold goOn
  rw [point] at atPoint ⊢
  dsimp only
  refine ⟨?_, ?_, trivial, ⟨sound.respects.ended, sound.respects.released⟩⟩
  · refine (sound.accounts.increment room).congr (fun _ => ⟨rfl, rfl⟩) ?_
    refine List.perm_iff_count.mpr fun other => ?_
    rw [count_holds, List.count_cons, count_holds, point]
    dsimp only [goTo, modify, CompositorPoint.holds, current]
    rw [List.count_nil, List.count_singleton]
    omega
  · intro closed
    have opened : ring.initialized = true := atPoint
    have closed : ring.initialized = false := closed
    rw [opened] at closed
    cases closed

/-- The new entry of the mailbox takes the place of the older one. -/
theorem Sound.posts
    {lease : PreviewLease}
    {poll : Option Nat}
    (point : ring.point = .posting lease poll)
    (succeeds : Bool) :
    (ring.goOn succeeds).Sound := by
  unfold goOn
  rw [point]
  dsimp only
  split
  next dropped rest mailbox =>
    refine sound.moved (fun _ => ⟨rfl, rfl⟩) (holds_perm fun other => ?_) rfl rfl rfl trivial
    rw [count_holds, count_holds, mailbox, point, List.count_cons]
    dsimp only [goTo, CompositorPoint.holds, UnrefPoint.lease]
    rw [List.count_append, List.count_singleton, List.count_singleton]
    omega
  next mailbox =>
    refine pollsOrReturns (fun later still atPoint => ?_) poll
    refine sound.moved (fun _ => ⟨rfl, rfl⟩) (holds_perm fun other => ?_) rfl rfl rfl (atPoint _)
    rw [count_holds, count_holds, mailbox, point]
    dsimp only [goTo]
    rw [still]
    dsimp only [CompositorPoint.holds]
    rw [List.count_nil]
    omega

/-- An entry of the preview is claimed for rendering only without references. -/
theorem Sound.claims
    {n : Nat}
    (point : ring.point = .acquiring n)
    (succeeds : Bool) :
    (ring.goOn succeeds).Sound := by
  unfold goOn
  rw [point]
  dsimp only
  split
  next =>
    split
    next free =>
      refine sound.moved (fun _ => ⟨rfl, rfl⟩) (holds_perm fun other => ?_) rfl rfl rfl ?_
      · rw [count_holds, count_holds, point]
        rfl
      · intro lease held
        refine sound.accounts.absent free.1 lease ?_
        revert held
        unfold holds
        dsimp only [goTo]
        rw [point]
        exact id
    next => exact sound.handles (by rw [point]; rfl) trivial
  next => exact sound.handles (by rw [point]; rfl) trivial

/-- The count of an entry that is claimed is zero already. -/
theorem Sound.zeroesClaimed
    {slot : Fin nativeCanvasRingSize}
    (point : ring.point = .claimingRefs slot)
    (succeeds : Bool) :
    (ring.goOn succeeds).Sound := by
  have atPoint := sound.atPoint
  have same : CompositorPoint.holds (.recording slot) = ring.point.holds := by
    rw [point]
    rfl
  have holds := holds_goTo same
  unfold goOn
  rw [point] at atPoint ⊢
  dsimp only
  refine ⟨?_, fun closed => ?_, trivial, ⟨sound.respects.ended, sound.respects.released⟩⟩
  · have unheld : ∀ lease ∈ ring.holds, lease.slot ≠ slot := atPoint
    have cleared : Accounts
        (Function.update ring.entries slot { ring.entries slot with refcount := 0 })
        ring.holds := sound.accounts.clear unheld rfl
    rw [← holds] at cleared
    exact cleared
  · exact holds.trans (sound.closed closed)

/-- The entries are destroyed without references. -/
theorem Sound.destroys
    {slot : Nat}
    {next : Option PreviewParams}
    (point : ring.point = .destroying slot next)
    (succeeds : Bool) :
    (ring.goOn succeeds).Sound := by
  have unheld := sound.atPoint
  have quiet : ring.point.holds = [] := by
    rw [point]
    rfl
  rw [point] at unheld
  unfold goOn
  rw [point]
  dsimp only
  split
  next => exact sound.resets unheld _ quiet rfl id
  next =>
    rw [← point]
    refine createsOrReturns ?_ (fun point still atPoint => ?_) next
    · exact unheld
    · exact sound.opensOrCloses unheld quiet false .zero still atPoint

/-- The entries are created without references. -/
theorem Sound.creates
    {slot : Nat}
    {params : PreviewParams}
    (point : ring.point = .creating slot params)
    (succeeds : Bool) :
    (ring.goOn succeeds).Sound := by
  have unheld := sound.atPoint
  have quiet : ring.point.holds = [] := by
    rw [point]
    rfl
  rw [point] at unheld
  unfold goOn
  rw [point]
  dsimp only
  split
  next =>
    split
    next => exact sound.resets unheld _ quiet rfl id
    next => exact sound.resets unheld _ quiet rfl fun _ => trivial
  next =>
    rw [← point]
    exact sound.opensOrCloses unheld quiet true _ rfl fun _ => trivial

/-- The compositor thread goes on. -/
theorem Sound.goesOn
    {succeeds : Bool}
    (meets : ring.ReleasedInTime (.goOn succeeds)) :
    (ring.goOn succeeds).Sound := by
  cases point : ring.point with
  | idle =>
      unfold goOn
      rw [point]
      exact sound
  | draining next => exact sound.drains point succeeds
  | dropping unref next =>
      have handling : ring.point.holds = [unref.lease] := by
        rw [point]
        rfl
      unfold goOn
      rw [point]
      dsimp only
      rcases sound.unrefs handling succeeds with ⟨later, step, lease⟩ | step
      · rw [step]
        refine sound.handles ?_ trivial
        rw [handling, ← lease]
        rfl
      · rw [step]
        exact sound.gaveBackAt handling rfl trivial
  | waiting attempt slot next => exact sound.waits point succeeds
  | gaveUp next =>
      unfold ReleasedInTime at meets
      rw [point] at meets
      have unheld : ring.holds = [] := by
        refine List.eq_nil_iff_forall_not_mem.mpr fun lease held => ?_
        exact sound.accounts.absent (meets lease.slot) lease held rfl
      unfold goOn
      rw [point]
      exact sound.handles (by rw [point]; rfl) unheld
  | destroying slot next => exact sound.destroys point succeeds
  | creating slot params => exact sound.creates point succeeds
  | polling slot =>
      unfold goOn
      rw [point]
      dsimp only
      split
      next =>
        split
        next => exact sound.handles (by rw [point]; rfl) trivial
        next => exact sound.handles (by rw [point]; rfl) trivial
      next => exact sound.handles (by rw [point]; rfl) trivial
  | marking slot =>
      unfold goOn
      rw [point]
      exact sound.marks slot .ready (some slot) (by rw [point]; rfl) trivial
  | publishState slot poll =>
      unfold goOn
      rw [point]
      dsimp only
      split
      next ready => exact sound.handles (by rw [point]; rfl) ready.1
      next =>
        refine pollsOrReturns (fun later still atPoint => ?_) poll
        refine sound.handles ?_ (atPoint ring)
        rw [still, point]
        rfl
  | publishRef slot poll =>
      unfold ReleasedInTime at meets
      rw [point] at meets
      exact sound.publishes point meets succeeds
  | posting lease poll => exact sound.posts point succeeds
  | replacing unref poll =>
      have handling : ring.point.holds = [unref.lease] := by
        rw [point]
        rfl
      unfold goOn
      rw [point]
      dsimp only
      rcases sound.unrefs handling succeeds with ⟨later, step, lease⟩ | step
      · rw [step]
        refine sound.handles ?_ trivial
        rw [handling, ← lease]
        rfl
      · rw [step]
        refine pollsOrReturns (fun later still atPoint => ?_) poll
        exact sound.gaveBackAt handling still (atPoint _)
  | acquiring n => exact sound.claims point succeeds
  | claiming slot =>
      have atPoint := sound.atPoint
      unfold goOn
      rw [point] at atPoint ⊢
      exact sound.marks slot .rendering ring.lastRendered (by rw [point]; rfl) atPoint
  | claimingRefs slot => exact sound.zeroesClaimed point succeeds
  | recording slot =>
      unfold goOn
      rw [point]
      dsimp only
      split
      next => exact sound.handles (by rw [point]; rfl) trivial
      next => exact sound.marks slot .free ring.lastRendered (by rw [point]; rfl) trivial

end

/-! ## Steps of the consumers -/

/-- A consumer's step hands references on. -/
theorem Sound.consumes
    (sound : ring.Sound)
    (counts : ∀ lease, after.holds.count lease = ring.holds.count lease)
    (entries : after.entries = ring.entries)
    (initialized : after.initialized = ring.initialized)
    (point : after.point = ring.point)
    (ended : after.ended = ring.ended)
    (released : after.released = ring.released) :
    after.Sound := by
  have order := holds_perm counts
  refine sound.moved (fun slot => ?_) order initialized ended released ?_
  · rw [entries]
    exact ⟨rfl, rfl⟩
  · rw [point]
    exact sound.atPoint.fewer initialized fun lease held => order.mem_iff.mp held

/-- An item that is taken out of a list is counted once less. -/
theorem count_eraseIdx
    {Item : Type}
    {items : List Item}
    {index : Nat}
    {item : Item}
    (found : items[index]? = some item)
    (lease : Item → PreviewLease)
    (other : PreviewLease) :
    (items.map lease).count other =
      ((items.eraseIdx index).map lease).count other + [lease item].count other := by
  obtain ⟨inside, rfl⟩ := List.getElem?_eq_some_iff.mp found
  have order := (List.getElem_cons_eraseIdx_perm inside).map lease
  rw [← order.count_eq, List.map_cons, List.count_cons, List.count_singleton]

/-- A call that goes on handles the same reference. -/
theorem map_lease_set
    {calls : List PreviewCall}
    {index : Nat}
    {call later : PreviewCall}
    (found : calls[index]? = some call)
    (same : later.lease = call.lease) :
    (calls.set index later).map PreviewCall.lease = calls.map PreviewCall.lease := by
  obtain ⟨inside, rfl⟩ := List.getElem?_eq_some_iff.mp found
  have inside' : index < (calls.map PreviewCall.lease).length := by rwa [List.length_map]
  rw [List.map_set, same, ← List.getElem_map PreviewCall.lease (h := inside')]
  exact List.set_getElem_self inside'

/-- A call of a consumer goes on. -/
theorem Sound.proceeds
    (sound : ring.Sound)
    {index : Nat}
    {call : PreviewCall}
    (found : ring.calls[index]? = some call)
    (succeeds : Bool) :
    (ring.proceed index succeeds call).Sound := by
  have taken := count_eraseIdx found PreviewCall.lease
  have held : call.lease ∈ ring.holds := by
    refine List.count_pos_iff.mp ?_
    rw [count_holds, taken, List.count_singleton_self]
    omega
  have initialized := sound.initialized held
  cases call with
  | acquired lease =>
      rw [proceed, if_pos initialized]
      refine sound.consumes (fun other => ?_) rfl rfl rfl rfl rfl
      rw [count_holds, count_holds, taken, List.count_append]
      dsimp only [PreviewCall.lease]
      omega
  | unref point =>
      rw [proceed]
      rcases unrefStep_cases sound.accounts initialized held succeeds with
        ⟨later, step, lease⟩ | step
      · rw [step]
        refine sound.consumes (fun other => ?_) rfl rfl rfl rfl rfl
        rw [count_holds, count_holds]
        dsimp only
        have same : (PreviewCall.unref later).lease = (PreviewCall.unref point).lease := lease
        rw [map_lease_set found same]
      · rw [step]
        have order : ring.holds.Perm (point.lease ::
            { ring.givenBack point.lease with calls := ring.calls.eraseIdx index }.holds) := by
          refine List.perm_iff_count.mpr fun other => ?_
          rw [List.count_cons, count_holds, count_holds, taken]
          dsimp only [givenBack, modify, record, PreviewCall.lease]
          rw [List.count_singleton]
          omega
        refine sound.gaveBack order rfl rfl rfl rfl ?_
        refine sound.atPoint.fewer rfl fun other held => ?_
        exact order.mem_iff.mpr (List.mem_cons_of_mem _ held)

/-- The compositor thread reconfigures the preview. -/
theorem Sound.configures
    (sound : ring.Sound)
    (idle : ring.point = .idle)
    (params : PreviewParams) :
    (ring.configure params).Sound := by
  have same (point : CompositorPoint) (still : point.holds = []) :
      point.holds = ring.point.holds := by
    rw [idle]
    exact still
  have drains (next : Option PreviewParams) : (ring.goTo (.draining next)).Sound :=
    sound.handles (same _ rfl) trivial
  unfold configure
  split
  next =>
    split
    next => exact drains none
    next => exact sound
  next =>
    split
    next =>
      split
      next => exact sound.consumes (fun _ => rfl) rfl rfl rfl rfl rfl
      next => exact drains (some params)
    next closed =>
      have unheld : ring.holds = [] := sound.closed (Bool.eq_false_iff.mpr closed)
      refine createsOrReturns unheld (fun point still atPoint => ?_) (some params)
      exact sound.handles (same point still) (atPoint unheld)

/-- Every step that meets the condition keeps the invariant. -/
theorem Sound.next
    (sound : ring.Sound)
    {event : PreviewRingEvent}
    (meets : ring.ReleasedInTime event)
    (stepped : ring.next event = some after) :
    after.Sound := by
  cases event with
  | configure params =>
      obtain ⟨idle, stepped⟩ := Option.ite_none_right_eq_some.mp stepped
      cases stepped
      exact sound.configures idle params
  | pollReady =>
      obtain ⟨⟨idle, -⟩, stepped⟩ := Option.ite_none_right_eq_some.mp stepped
      cases stepped
      exact sound.handles (by rw [idle]; rfl) trivial
  | submit =>
      obtain ⟨⟨idle, -⟩, stepped⟩ := Option.ite_none_right_eq_some.mp stepped
      cases stepped
      exact sound.handles (by rw [idle]; rfl) trivial
  | republish =>
      unfold PreviewRing.next at stepped
      dsimp only at stepped
      split at stepped
      next slot _ =>
        obtain ⟨⟨idle, -⟩, stepped⟩ := Option.ite_none_right_eq_some.mp stepped
        cases stepped
        exact sound.handles (by rw [idle]; rfl) trivial
      next => cases stepped
  | goOn succeeds =>
      obtain ⟨-, stepped⟩ := Option.ite_none_left_eq_some.mp stepped
      cases stepped
      exact sound.goesOn meets
  | acquire =>
      unfold PreviewRing.next at stepped
      dsimp only at stepped
      split at stepped
      next lease rest mailbox =>
        cases stepped
        refine sound.consumes (fun other => ?_) rfl rfl rfl rfl rfl
        rw [count_holds, count_holds, mailbox, List.count_cons]
        dsimp only
        rw [List.map_append, List.count_append, List.map_singleton]
        dsimp only [PreviewCall.lease]
        rw [List.count_singleton]
        omega
      next =>
        cases stepped
        exact sound
  | release index =>
      obtain ⟨lease, found, rfl⟩ := Option.map_eq_some_iff.mp stepped
      have taken := count_eraseIdx found id
      rw [List.map_id, List.map_id] at taken
      refine sound.consumes (fun other => ?_) rfl rfl rfl rfl rfl
      rw [count_holds, count_holds, taken]
      dsimp only
      rw [List.map_append, List.count_append, List.map_singleton]
      dsimp only [PreviewCall.lease, UnrefPoint.lease, id]
      omega
  | proceed index succeeds =>
      obtain ⟨call, found, rfl⟩ := Option.map_eq_some_iff.mp stepped
      exact sound.proceeds found succeeds

/-- A new compositor meets the invariant. -/
theorem sound_start :
    start.Sound where
  accounts := ⟨fun _ => rfl, fun _ held => (nomatch held)⟩
  closed := fun _ => rfl
  atPoint := trivial
  respects := ⟨fun _ member => (nomatch member), fun _ member => (nomatch member)⟩

/-- Leases are respected in every run in which the consumers release in time. -/
theorem respects_of_reachable
    (reachable : system.ReachableWhen ReleasedInTime ring) :
    ring.RespectsLeases := by
  have sound : ring.Sound := by
    refine @System.ReachableWhen.invariant _ _ system ReleasedInTime Sound ?_ ?_ ring reachable
    · rintro state rfl
      exact sound_start
    · intro state event after sound meets stepped
      exact sound.next meets stepped
  exact sound.respects

/-- A preview of a size. -/
def previewOf (width height : UInt32) : PreviewParams where
  width := width
  height := height
  frameInterval := 1
  colorMode := .sdr

/-- The compositor thread goes on. -/
def goesOnTimes (steps : Nat) : List PreviewRingEvent :=
  List.replicate steps (.goOn true)

/-- A first picture is rendered and published in the mailbox. -/
def firstPicture : List PreviewRingEvent :=
  [.submit] ++ goesOnTimes 4 ++ [.pollReady] ++ goesOnTimes 21

/-- The only lease is released. -/
def releaseOnly : List PreviewRingEvent :=
  [.release 0] ++ List.replicate 3 (.proceed 0 true)

/-- A consumer holds the first picture while the preview gets another size. -/
def leaseOverReconfigure : List PreviewRingEvent :=
  [.configure (previewOf 640 360)] ++ goesOnTimes 17 ++ firstPicture ++
    [.acquire, .proceed 0 true, .configure (previewOf 320 180)]

/-- A consumer that releases after a few attempts is waited for. -/
theorem respects_releasedInTime :
    ∃ ring : PreviewRing,
      system.ReachableWhen ReleasedInTime ring ∧ ring.RespectsLeases ∧
        ring.params = previewOf 320 180 ∧ ring.ended.length = 48 ∧
          ring.released = [(⟨0, 1⟩, some ⟨0, 1⟩)] := by
  have runs : (System.run (System.guarded ReleasedInTime next) start
      (leaseOverReconfigure ++ goesOnTimes 3 ++ releaseOnly ++ goesOnTimes 51)).map
      (fun ring => (ring.params, ring.ended.length, ring.released)) =
      some (previewOf 320 180, 48, [(⟨0, 1⟩, some ⟨0, 1⟩)]) := by
    decide +kernel
  obtain ⟨ring, final, facts⟩ := Option.map_eq_some_iff.mp runs
  simp only [Prod.mk.injEq] at facts
  have reachable : system.ReachableWhen ReleasedInTime ring :=
    System.reachableWhen_of_run (.initial rfl) final
  exact ⟨ring, reachable, respects_of_reachable reachable, facts⟩

/-- A consumer that outlasts the attempts loses the entry, and its release decreases the count of
the entry that was created in its place. -/
theorem lease_outlasted :
    ∃ ring : PreviewRing,
      system.Reachable ring ∧ (⟨0, 1⟩, 1) ∈ ring.ended ∧
        ring.released = [(⟨0, 1⟩, some ⟨0, 3⟩)] ∧ ¬ring.RespectsLeases := by
  have runs : (System.run next start
      (leaseOverReconfigure ++ goesOnTimes 536 ++ firstPicture ++ releaseOnly)).map
      (fun ring => (ring.ended[16]?, ring.released)) =
      some (some (⟨0, 1⟩, 1), [(⟨0, 1⟩, some ⟨0, 3⟩)]) := by
    decide +kernel
  obtain ⟨ring, final, facts⟩ := Option.map_eq_some_iff.mp runs
  simp only [Prod.mk.injEq] at facts
  have reachable : system.Reachable ring :=
    System.reachable_of_run (.initial rfl) final
  have destroyed : (⟨0, 1⟩, 1) ∈ ring.ended := List.mem_of_getElem? facts.1
  refine ⟨ring, reachable, destroyed, facts.2, fun respects => ?_⟩
  exact absurd (respects.ended _ destroyed) (by decide)

end PreviewRing
end Engine
end SbsServer
