import Mathlib.Algebra.Ring.Nat
import SbsServer.Worker.VfmcapLending

/-!
# Accounts of lent frames

Where a frame is that was lent: its sequence number is in one of the places on the
way to the server and back for as long as its lease is active, and a frame that was
sent goes back to the driver after its release or with the capture.  The accounts
are about lists of numbers; which channel or slot a number is in does not matter.
-/

namespace SbsServer
namespace Supervisor

open CLib Worker

/-- The accounts of a worker's frames: the sequence numbers on their way, those of them whose
release is in flight, the frames sent, by their number, and the numbers released. -/
structure Accounts
    (lending : Lending)
    (places releases : List UInt64)
    (sent : List Nat)
    (released : List UInt64) : Prop where
  counter : lending.frameCounter.toNat = sent.length
  distinct : places.Nodup
  issued : ∀ sequence ∈ places, sequence.toNat < sent.length
  placed : ∀ lease ∈ lending.active, lease.sequence ∈ places
  leased : ∀ lease ∈ lending.active, sent[lease.sequence.toNat]? = some lease.frame
  sequences : (lending.active.map VfmcapLease.sequence).Nodup
  frames : (lending.handedBack ++ lending.active.map VfmcapLease.frame).Perm
    (List.range lending.captured)
  sentOnce : sent.Nodup
  sentCaptured : ∀ frame ∈ sent, frame < lending.captured
  acknowledged : ∀ sequence ∈ releases, sequence ∈ released
  back : ∀ frame ∈ lending.handedBack, frame ∉ lending.withdrawn →
    ∀ sequence : UInt64, sent[sequence.toNat]? = some frame → sequence ∈ released
  ended : ∀ sequence ∈ places, (∀ lease ∈ lending.active, lease.sequence ≠ sequence) →
    ∃ frame ∈ lending.withdrawn, sent[sequence.toNat]? = some frame

namespace Accounts

variable {lending : Lending} {places releases : List UInt64} {sent : List Nat}
  {released : List UInt64}

/-- A worker that has captured nothing. -/
theorem start : Accounts VfmcapWorker.started.lending [] [] [] [] where
  counter := rfl
  distinct := List.nodup_nil
  issued := by simp
  placed := by simp [VfmcapWorker.lending, VfmcapWorker.started, Lending.active, Table.items_empty]
  leased := by simp [VfmcapWorker.lending, VfmcapWorker.started, Lending.active, Table.items_empty]
  sequences := by
    simp [VfmcapWorker.lending, VfmcapWorker.started, Lending.active, Table.items_empty]
  frames := by
    simp [VfmcapWorker.lending, VfmcapWorker.started, Lending.active, Table.items_empty]
  sentOnce := List.nodup_nil
  sentCaptured := by simp
  acknowledged := by simp
  back := by simp
  ended := by simp

section

variable (accounts : Accounts lending places releases sent released)
include accounts

/-- A number may be in another place. -/
theorem perm
    {others : List UInt64}
    (same : others.Perm places) :
    Accounts lending others releases sent released :=
  { accounts with
    distinct := same.nodup_iff.mpr accounts.distinct
    issued := fun sequence member => accounts.issued sequence (same.mem_iff.mp member)
    placed := fun lease member => same.mem_iff.mpr (accounts.placed lease member)
    ended := fun sequence member => accounts.ended sequence (same.mem_iff.mp member) }

/-- The server releases a frame that it has received. -/
theorem release
    (sequence : UInt64) :
    Accounts lending places (releases ++ [sequence]) sent (released ++ [sequence]) :=
  { accounts with
    acknowledged := by
      intro other member
      rcases List.mem_append.mp member with old | new
      · exact List.mem_append_left _ (accounts.acknowledged other old)
      · exact List.mem_append_right _ new
    back := fun frame back notWithdrawn other is =>
      List.mem_append_left _ (accounts.back frame back notWithdrawn other is) }

theorem drop :
    Accounts lending.drop places releases sent released :=
  { accounts with
    frames := by
      have frames := accounts.frames.append_right [lending.captured]
      rw [← List.range_succ] at frames
      refine .trans ?_ frames
      simp only [Lending.drop, List.append_assoc]
      exact .append_left _ List.perm_append_comm
    sentCaptured := fun frame member => Nat.lt_succ_of_lt (accounts.sentCaptured frame member)
    back := by
      intro frame back notWithdrawn sequence is
      rcases List.mem_append.mp back with old | new
      · exact accounts.back frame old notWithdrawn sequence is
      · rw [List.mem_singleton.mp new] at is
        exact absurd (accounts.sentCaptured _ (List.mem_of_getElem? is)) (Nat.lt_irrefl _) }

theorem withdraw :
    Accounts lending.withdraw places releases sent released :=
  have none : lending.withdraw.active = [] := Table.items_empty
  { accounts with
    placed := by simp [none]
    leased := by simp [none]
    sequences := by simp [none]
    frames := by
      rw [none, List.map_nil, List.append_nil]
      exact accounts.frames
    back := by
      intro frame back notWithdrawn sequence is
      have before : frame ∉ lending.withdrawn :=
        fun member => notWithdrawn (List.mem_append_left _ member)
      rcases List.mem_append.mp back with old | new
      · exact accounts.back frame old before sequence is
      · exact absurd (List.mem_append_right _ new) notWithdrawn
    ended := by
      intro sequence member _
      by_cases active : ∃ lease ∈ lending.active, lease.sequence = sequence
      · obtain ⟨lease, isActive, rfl⟩ := active
        refine ⟨lease.frame, List.mem_append_right _ ?_, accounts.leased lease isActive⟩
        exact List.mem_map_of_mem isActive
      · obtain ⟨frame, withdrawn, is⟩ := accounts.ended sequence member
          fun lease isActive same => active ⟨lease, isActive, same⟩
        exact ⟨frame, List.mem_append_left _ withdrawn, is⟩ }

/-- A frame is sent under the next number. -/
theorem send
    {index : Fin vfmcapMaxInFlight}
    (free : lending.leases index = none)
    (room : sent.length + 1 < 2 ^ 64) :
    Accounts (lending.send index) (places ++ [lending.frameCounter]) releases
      (sent ++ [lending.captured]) released := by
  have counter := accounts.counter
  have active : (lending.send index).active.Perm
      (⟨lending.frameCounter, lending.captured⟩ :: lending.active) :=
    Table.items_store free _
  have fresh : lending.frameCounter ∉ places := by
    intro member
    have issued := accounts.issued _ member
    omega
  have notSent : lending.captured ∉ sent :=
    fun member => Nat.lt_irrefl _ (accounts.sentCaptured _ member)
  have kept : ∀ sequence ∈ places, (sent ++ [lending.captured])[sequence.toNat]? =
      sent[sequence.toNat]? :=
    fun sequence member => List.getElem?_append_left (accounts.issued sequence member)
  refine ⟨?_, ?_, ?_, ?_, ?_, ?_, ?_, ?_, ?_, accounts.acknowledged, ?_, ?_⟩
  · rw [List.length_append, List.length_singleton]
    simp only [Lending.send, UInt64.toNat_add, UInt64.toNat_one]
    rw [Nat.mod_eq_of_lt (by omega), counter]
  · rw [List.nodup_append]
    refine ⟨accounts.distinct, List.nodup_singleton _, ?_⟩
    rintro sequence member _ new rfl
    rw [List.mem_singleton.mp new] at member
    exact fresh member
  · intro sequence member
    rw [List.length_append, List.length_singleton]
    rcases List.mem_append.mp member with old | new
    · exact Nat.lt_succ_of_lt (accounts.issued sequence old)
    · rw [List.mem_singleton.mp new, counter]
      exact Nat.lt_succ_self _
  · intro lease member
    rcases List.mem_cons.mp (active.mem_iff.mp member) with rfl | old
    · exact List.mem_append_right _ (List.mem_singleton.mpr rfl)
    · exact List.mem_append_left _ (accounts.placed lease old)
  · intro lease member
    rcases List.mem_cons.mp (active.mem_iff.mp member) with rfl | old
    · simp only [counter, List.getElem?_concat_length]
    · rw [kept _ (accounts.placed lease old)]
      exact accounts.leased lease old
  · rw [(active.map _).nodup_iff, List.map_cons, List.nodup_cons]
    refine ⟨?_, accounts.sequences⟩
    intro member
    obtain ⟨lease, old, same⟩ := List.mem_map.mp member
    have placed := accounts.placed lease old
    rw [same] at placed
    exact fresh placed
  · have frames := accounts.frames.append_right [lending.captured]
    rw [← List.range_succ] at frames
    refine .trans ?_ frames
    rw [List.append_assoc]
    refine .append_left _ ((active.map _).trans ?_)
    rw [List.map_cons]
    exact (List.perm_append_singleton _ _).symm
  · rw [List.nodup_append]
    refine ⟨accounts.sentOnce, List.nodup_singleton _, ?_⟩
    rintro frame member _ new rfl
    rw [List.mem_singleton.mp new] at member
    exact notSent member
  · intro frame member
    rcases List.mem_append.mp member with old | new
    · exact Nat.lt_succ_of_lt (accounts.sentCaptured frame old)
    · rw [List.mem_singleton.mp new]
      exact Nat.lt_succ_self _
  · intro frame back notWithdrawn sequence is
    by_cases old : sequence.toNat < sent.length
    · rw [List.getElem?_append_left old] at is
      exact accounts.back frame back notWithdrawn sequence is
    · -- The frame that is sent has not been handed back.
      rw [List.getElem?_append_right (Nat.le_of_not_lt old)] at is
      have isLast := List.mem_singleton.mp (List.mem_of_getElem? is)
      have captured := accounts.frames.mem_iff.mp (List.mem_append_left _ back)
      rw [isLast] at captured
      exact absurd (List.mem_range.mp captured) (Nat.lt_irrefl _)
  · intro sequence member inactive
    rcases List.mem_append.mp member with old | new
    · obtain ⟨frame, withdrawn, is⟩ := accounts.ended sequence old fun lease isActive =>
        inactive lease (active.mem_iff.mpr (List.mem_cons_of_mem _ isActive))
      exact ⟨frame, withdrawn, (kept sequence old).trans is⟩
    · exact absurd (List.mem_singleton.mp new).symm
        (inactive _ (active.mem_iff.mpr (List.mem_cons_self ..)))

/-- What a callback that reads no message does to the accounts. -/
theorem step
    {after : Lending}
    (stepped : lending.Step after)
    (room : sent.length + 1 < 2 ^ 64) :
    Accounts after (places ++ (lending.lent after).map VfmcapLease.sequence) releases
      (sent ++ (lending.lent after).map VfmcapLease.frame) released := by
  have silent : ∀ same : Lending, same.frameCounter = lending.frameCounter →
      lending.lent same = [] := by
    intro same counter
    rw [Lending.lent, if_pos counter]
  cases stepped with
  | kept =>
      rw [silent lending rfl, List.map_nil, List.map_nil, List.append_nil, List.append_nil]
      exact accounts
  | dropped =>
      rw [silent lending.drop rfl, List.map_nil, List.map_nil, List.append_nil, List.append_nil]
      exact accounts.drop
  | withdrawn =>
      rw [silent lending.withdraw rfl, List.map_nil, List.map_nil, List.append_nil,
        List.append_nil]
      exact accounts.withdraw
  | sent index free =>
      have differs : (lending.send index).frameCounter ≠ lending.frameCounter := by
        intro same
        have counter := congrArg UInt64.toNat same
        simp only [Lending.send, UInt64.toNat_add, UInt64.toNat_one] at counter
        have lengths := accounts.counter
        omega
      rw [Lending.lent, if_neg differs]
      exact accounts.send free room

end

/-- The worker reads the release of a number. -/
theorem acknowledge
    {sequence : UInt64}
    (accounts : Accounts lending (sequence :: places) (sequence :: releases) sent released)
    {after : Lending}
    (read : lending.Acknowledged sequence after) :
    Accounts after places releases sent released := by
  have distinct := List.nodup_cons.mp accounts.distinct
  have issued : ∀ other ∈ places, other.toNat < sent.length :=
    fun other member => accounts.issued other (List.mem_cons_of_mem _ member)
  have acknowledged : ∀ other ∈ releases, other ∈ released :=
    fun other member => accounts.acknowledged other (List.mem_cons_of_mem _ member)
  cases read with
  | unknown absent =>
      exact { accounts with
        distinct := distinct.2
        issued := issued
        placed := fun lease member =>
          (List.mem_cons.mp (accounts.placed lease member)).resolve_left (absent lease member)
        acknowledged := acknowledged
        ended := fun other member => accounts.ended other (List.mem_cons_of_mem _ member) }
  | returned index lease holds same =>
      have active : lending.active.Perm (lease :: (lending.giveBack index lease).active) :=
        Table.items_remove holds
      have old : ∀ other ∈ (lending.giveBack index lease).active, other ∈ lending.active :=
        fun other member => active.mem_iff.mpr (List.mem_cons_of_mem _ member)
      have sequences := (active.map VfmcapLease.sequence).nodup_iff.mp accounts.sequences
      rw [List.map_cons, List.nodup_cons] at sequences
      have lent := accounts.leased lease (active.mem_iff.mpr (List.mem_cons_self ..))
      refine ⟨accounts.counter, distinct.2, issued, ?_, ?_, sequences.2, ?_, accounts.sentOnce,
        accounts.sentCaptured, acknowledged, ?_, ?_⟩
      · intro other member
        refine (List.mem_cons.mp (accounts.placed other (old other member))).resolve_left ?_
        intro isSame
        have taken := List.mem_map_of_mem (f := VfmcapLease.sequence) member
        rw [isSame, ← same] at taken
        exact sequences.1 taken
      · exact fun other member => accounts.leased other (old other member)
      · refine .trans ?_ accounts.frames
        simp only [Lending.giveBack, List.append_assoc]
        refine .append_left _ ?_
        have frames := active.map VfmcapLease.frame
        rw [List.map_cons] at frames
        exact frames.symm
      · intro frame back notWithdrawn other is
        rcases List.mem_append.mp back with before | new
        · exact accounts.back frame before notWithdrawn other is
        · -- A frame has one number, and that was released.
          rw [List.mem_singleton.mp new] at is
          have bound := (List.getElem?_eq_some_iff.mp is).1
          have number : other.toNat = lease.sequence.toNat :=
            (List.getElem?_inj bound accounts.sentOnce).mp (is.trans lent.symm)
          rw [UInt64.toNat_inj.mp number, same]
          exact accounts.acknowledged sequence (List.mem_cons_self ..)
      · intro other member inactive
        refine accounts.ended other (List.mem_cons_of_mem _ member) fun held isActive => ?_
        rcases List.mem_cons.mp (active.mem_iff.mp isActive) with rfl | stays
        · rw [same]
          rintro rfl
          exact distinct.1 member
        · exact inactive held stays

end Accounts
end Supervisor
end SbsServer
