import SbsServer.CLib.System
import SbsServer.Supervisor.SourceSupervisor

/-!
# Callbacks of stopped sources

Every source of the main loop keeps its id in a field of its entry, and freeing
the entry removes the sources in these fields.  The restart timer is the one
whose id is kept nowhere.  The result below is about the runs in which no entry
is freed while its restart timer is pending.
-/

namespace SbsServer
namespace Supervisor

open CLib

/-- Every pending callback leads to an entry that is in `sources`. -/
def PendingLive (sup : SourceSupervisor) : Prop :=
  ∀ id callback, sup.pending.lookup id = some callback →
    ∃ sourceId, sup.sources.lookup sourceId = some callback.entry

/-- Runs of a supervisor. -/
def supervisorRuns : System SourceSupervisor SupervisorEvent :=
  System.ofNext (· = SourceSupervisor.new) SourceSupervisor.next

/-- Runs that continue from a state. -/
def runsFrom (sup : SourceSupervisor) : System SourceSupervisor SupervisorEvent :=
  System.ofNext (· = sup) SourceSupervisor.next

/-- No restart timer waits for the entry at an address. -/
def NoRestart (sup : SourceSupervisor) (address : ℕ) : Prop :=
  ∀ id callback, sup.pending.lookup id = some callback →
    callback.entry = address → callback.kind ≠ .restartTimer

/-- An entry is stopped only while it has no pending restart timer. -/
def Cancelled (sup : SourceSupervisor) : SupervisorEvent → Prop
  | .stop sourceId =>
      ∀ address, sup.sources.lookup sourceId = some address → NoRestart sup address
  | .shutdownAll =>
      ∀ sourceId address, sup.sources.lookup sourceId = some address → NoRestart sup address
  | _ => True

/-- An event that starts a source. -/
def Starts (sourceId : CStr) (event : SupervisorEvent) : Prop :=
  ∃ outcome, event = .start sourceId outcome

/-- How often a worker was launched for a source. -/
def launchesOf (sup : SourceSupervisor) (sourceId : CStr) : ℕ :=
  sup.launches.count sourceId

/-- No callback of an entry is pending. -/
def Quiet (sup : SourceSupervisor) (address : ℕ) : Prop :=
  ∀ id callback, sup.pending.lookup id = some callback → callback.entry ≠ address

/-- Stopping a source is final, as far as the events meet a condition: pending
callbacks lead to listed entries, and after a stop no callback of the entry is
pending and no worker of the source is launched until it is started again. -/
structure StopFinal
    (condition : SourceSupervisor → SupervisorEvent → Prop)
    (sup : SourceSupervisor) : Prop where
  /-- Pending callbacks lead to listed entries. -/
  pending : PendingLive sup
  /-- The callbacks and the launches after a stop. -/
  stopped : ∀ sourceId address after,
    sup.stopSource sourceId = (.ok, after) →
    sup.sources.lookup sourceId = some address →
    condition sup (.stop sourceId) →
      ∀ later,
        (runsFrom after).ReachableWhen
          (fun state event => condition state event ∧ ¬Starts sourceId event) later →
        PendingLive later ∧ Quiet later address ∧
          later.sources.lookup sourceId = none ∧
          launchesOf later sourceId = launchesOf after sourceId

/-- A pending source of the main loop is the one its entry keeps the id of. -/
def Holds (entry : SourceEntry) (id : ℕ) : CallbackKind → Prop
  | .frameAvailable listening =>
      entry.ioWatchId = id ∧ (listening = true → entry.stableTimerId = 0)
  | .childExit => entry.childWatchId = id
  | .acceptTimeout => entry.acceptTimerId = id
  | .stableTimer => entry.stableTimerId = id
  | .restartTimer => True

/-- The links between the supervisor, its heap and the main loop, the source
that is firing excepted. -/
structure Wired (firing : ℕ) (sup : SourceSupervisor) : Prop where
  /-- Ids of sources are positive. -/
  positive : 0 < sup.nextSourceId
  /-- Pending sources have ids that were given out. -/
  given : ∀ id callback, sup.pending.lookup id = some callback →
    id ≠ 0 ∧ id < sup.nextSourceId
  /-- Addresses were given out. -/
  allocated : ∀ address entry, sup.heap.lookup address = some entry →
    address < sup.nextAddress
  /-- Entries are listed under their own ids. -/
  listed : ∀ sourceId address, sup.sources.lookup sourceId = some address ↔
    ∃ entry, sup.heap.lookup address = some entry ∧ entry.sourceId = sourceId
  /-- Pending sources are held by allocated entries. -/
  held : ∀ id callback, sup.pending.lookup id = some callback → id ≠ firing →
    ∃ entry, sup.heap.lookup callback.entry = some entry ∧ Holds entry id callback.kind

/-- The sources of an entry, the firing one excepted, have kinds from a list. -/
def Only
    (firing : ℕ)
    (sup : SourceSupervisor)
    (address : ℕ)
    (kinds : List CallbackKind) : Prop :=
  ∀ id callback, sup.pending.lookup id = some callback → id ≠ firing →
    callback.entry = address → callback.kind ∈ kinds

/-- Only the four ids of an entry matter. -/
theorem Holds.congr
    {entry other : SourceEntry}
    {id : ℕ}
    {kind : CallbackKind}
    (holds : Holds entry id kind)
    (io : other.ioWatchId = entry.ioWatchId)
    (child : other.childWatchId = entry.childWatchId)
    (accept : other.acceptTimerId = entry.acceptTimerId)
    (stable : other.stableTimerId = entry.stableTimerId) :
    Holds other id kind := by
  cases kind with
  | frameAvailable listening =>
      exact ⟨io.trans holds.1, fun waits => stable.trans (holds.2 waits)⟩
  | childExit => exact child.trans holds
  | acceptTimeout => exact accept.trans holds
  | stableTimer => exact stable.trans holds
  | restartTimer => trivial

namespace Only

variable {firing : ℕ} {sup : SourceSupervisor} {address : ℕ} {kinds : List CallbackKind}

theorem addSource
    (only : Only firing sup address kinds)
    (kind : CallbackKind) :
    Only firing (sup.addSource { kind := kind, entry := address }) address (kind :: kinds) := by
  intro id callback found different same
  have inserted := (HashTable.lookup_insert _ _ _ _).symm.trans found
  split at inserted
  · cases inserted
    exact List.mem_cons_self
  · exact List.mem_cons_of_mem _ (only id callback inserted different same)

theorem removeSource
    (only : Only firing sup address kinds)
    (id : ℕ) :
    Only firing (sup.removeSource id) address kinds := by
  intro other callback found different same
  have removed := (HashTable.lookup_remove _ _ _).symm.trans found
  split at removed
  · cases removed
  · exact only other callback removed different same

end Only

namespace Wired

variable {firing : ℕ} {sup : SourceSupervisor}

theorem pendingLive (wired : Wired 0 sup) : PendingLive sup := by
  intro id callback found
  obtain ⟨entry, stored, _⟩ := wired.held id callback found (wired.given id callback found).1
  exact ⟨entry.sourceId, (wired.listed _ _).mpr ⟨entry, stored, rfl⟩⟩

/-- A source begins to fire. -/
theorem fire (wired : Wired 0 sup) (id : ℕ) : Wired id sup where
  positive := wired.positive
  given := wired.given
  allocated := wired.allocated
  listed := wired.listed
  held := fun other callback found _ =>
    wired.held other callback found (wired.given other callback found).1

/-- A source is removed. -/
theorem removeSource (wired : Wired firing sup) (id : ℕ) :
    Wired firing (sup.removeSource id) where
  positive := wired.positive
  given := by
    intro other callback found
    have removed := (HashTable.lookup_remove _ _ _).symm.trans found
    split at removed
    · cases removed
    · exact wired.given other callback removed
  allocated := wired.allocated
  listed := wired.listed
  held := by
    intro other callback found different
    have removed := (HashTable.lookup_remove _ _ _).symm.trans found
    split at removed
    · cases removed
    · exact wired.held other callback removed different

/-- The firing source is removed. -/
theorem fired (wired : Wired firing sup) : Wired 0 (sup.removeSource firing) := by
  have removed := wired.removeSource firing
  refine ⟨removed.positive, removed.given, removed.allocated, removed.listed, ?_⟩
  intro other callback found _
  refine removed.held other callback found ?_
  rintro rfl
  have gone := (HashTable.lookup_remove _ _ _).symm.trans found
  rw [if_pos rfl] at gone
  cases gone

variable {address : ℕ} {entry : SourceEntry}

/-- An entry changes without losing a source that it holds. -/
theorem modifyEntry
    (wired : Wired firing sup)
    {change : SourceEntry → SourceEntry}
    (sourceId : ∀ entry, (change entry).sourceId = entry.sourceId)
    (holds : ∀ entry id callback, sup.heap.lookup address = some entry →
      sup.pending.lookup id = some callback → id ≠ firing → callback.entry = address →
        Holds entry id callback.kind → Holds (change entry) id callback.kind) :
    Wired firing (sup.modifyEntry address change) where
  positive := wired.positive
  given := wired.given
  allocated := by
    intro other entry found
    have modified := (HashTable.lookup_modify _ _ _ _).symm.trans found
    split at modified
    · obtain ⟨before, stored, _⟩ := Option.map_eq_some_iff.mp modified
      exact wired.allocated other before stored
    · exact wired.allocated other entry modified
  listed := by
    intro id other
    rw [show (sup.modifyEntry address change).sources = sup.sources from rfl, wired.listed]
    have modified : (sup.modifyEntry address change).heap.lookup other = _ :=
      HashTable.lookup_modify _ _ _ _
    rw [modified]
    split
    · constructor
      · rintro ⟨entry, stored, rfl⟩
        exact ⟨change entry, by rw [stored]; rfl, sourceId entry⟩
      · rintro ⟨entry, changed, rfl⟩
        obtain ⟨before, stored, rfl⟩ := Option.map_eq_some_iff.mp changed
        exact ⟨before, stored, (sourceId before).symm⟩
    · rfl
  held := by
    intro id callback found different
    obtain ⟨entry, stored, held⟩ := wired.held id callback found different
    have modified : (sup.modifyEntry address change).heap.lookup callback.entry = _ :=
      HashTable.lookup_modify _ _ _ _
    rw [modified]
    split
    · next same =>
        rw [stored]
        exact ⟨change entry, rfl,
          holds entry id callback (same ▸ stored) found different same held⟩
    · exact ⟨entry, stored, held⟩

/-- A new source for an entry that is allocated and holds it. -/
theorem addSource
    (wired : Wired firing sup)
    {callback : Callback}
    (stored : sup.heap.lookup callback.entry = some entry)
    (holds : Holds entry sup.nextSourceId callback.kind) :
    Wired firing (sup.addSource callback) where
  positive := Nat.succ_pos _
  given := by
    intro id other found
    have inserted := (HashTable.lookup_insert _ _ _ _).symm.trans found
    split at inserted
    · next same =>
        subst same
        exact ⟨Nat.pos_iff_ne_zero.mp wired.positive, Nat.lt_succ_self _⟩
    · obtain ⟨nonzero, bound⟩ := wired.given id other inserted
      exact ⟨nonzero, Nat.lt_succ_of_lt bound⟩
  allocated := wired.allocated
  listed := wired.listed
  held := by
    intro id other found different
    have inserted := (HashTable.lookup_insert _ _ _ _).symm.trans found
    split at inserted
    · next same =>
        cases inserted
        exact ⟨entry, stored, same ▸ holds⟩
    · exact wired.held id other inserted different

/-- A new source whose id goes to a field of its entry. -/
theorem register
    (wired : Wired firing sup)
    {kind : CallbackKind}
    {change : SourceEntry → SourceEntry}
    (stored : sup.heap.lookup address = some entry)
    (sourceId : ∀ entry, (change entry).sourceId = entry.sourceId)
    (keeps : ∀ id callback, sup.pending.lookup id = some callback → id ≠ firing →
      callback.entry = address →
        Holds entry id callback.kind → Holds (change entry) id callback.kind)
    (holds : Holds (change entry) sup.nextSourceId kind) :
    Wired firing
      ((sup.addSource { kind := kind, entry := address }).modifyEntry address change) := by
  have changed : Wired firing (sup.modifyEntry address change) := by
    refine wired.modifyEntry sourceId fun other id callback otherStored => ?_
    rw [stored] at otherStored
    cases otherStored
    exact keeps id callback
  have found : (sup.modifyEntry address change).heap.lookup address = some (change entry) := by
    refine (HashTable.lookup_modify _ _ _ _).trans ?_
    rw [if_pos rfl, stored]
    rfl
  exact changed.addSource found holds

/-- An entry is what a change made of it. -/
theorem lookup_modifyEntry
    (stored : sup.heap.lookup address = some entry)
    (change : SourceEntry → SourceEntry) :
    (sup.modifyEntry address change).heap.lookup address = some (change entry) := by
  refine (HashTable.lookup_modify _ _ _ _).trans ?_
  rw [if_pos rfl, stored]
  rfl

variable {kinds : List CallbackKind}

section

variable (wired : Wired firing sup)
include wired

theorem watchChild
    (stored : sup.heap.lookup address = some entry)
    (only : Only firing sup address kinds)
    (absent : .childExit ∉ kinds) :
    Wired firing (sup.watchChild address) := by
  refine wired.register stored (fun _ => rfl) (fun id callback found different same held => ?_) rfl
  have listed := only id callback found different same
  generalize callback.kind = kind at listed held ⊢
  cases kind with
  | childExit => exact absurd listed absent
  | _ => exact held

theorem startAcceptTimer
    (stored : sup.heap.lookup address = some entry)
    (only : Only firing sup address kinds)
    (absent : .acceptTimeout ∉ kinds) :
    Wired firing (sup.startAcceptTimer address) := by
  refine wired.register stored (fun _ => rfl) (fun id callback found different same held => ?_) rfl
  have listed := only id callback found different same
  generalize callback.kind = kind at listed held ⊢
  cases kind with
  | acceptTimeout => exact absurd listed absent
  | _ => exact held

theorem watchSocket
    {listening : Bool}
    (stored : sup.heap.lookup address = some entry)
    (only : Only firing sup address kinds)
    (absent : ∀ listening, .frameAvailable listening ∉ kinds)
    (noTimer : listening = true → entry.stableTimerId = 0) :
    Wired firing (sup.watchSocket address listening) := by
  refine wired.register stored (fun _ => rfl) (fun id callback found different same held => ?_)
    ⟨rfl, noTimer⟩
  have listed := only id callback found different same
  generalize callback.kind = kind at listed held ⊢
  cases kind with
  | frameAvailable other => exact absurd listed (absent other)
  | _ => exact held

theorem startStableTimer
    (stored : sup.heap.lookup address = some entry)
    (only : Only firing sup address kinds)
    (absent : .stableTimer ∉ kinds)
    (connected : .frameAvailable true ∉ kinds) :
    Wired firing (sup.startStableTimer address) := by
  refine wired.register stored (fun _ => rfl) (fun id callback found different same held => ?_) rfl
  have listed := only id callback found different same
  generalize callback.kind = kind at listed held ⊢
  cases kind with
  | stableTimer => exact absurd listed absent
  | frameAvailable listening =>
      cases listening with
      | true => exact absurd listed connected
      | false => exact ⟨held.1, nofun⟩
  | _ => exact held

theorem cancelAcceptTimer
    (stored : sup.heap.lookup address = some entry) :
    Wired firing (sup.cancelAcceptTimer address) := by
  unfold SourceSupervisor.cancelAcceptTimer
  rw [stored]
  refine (wired.removeSource entry.acceptTimerId).modifyEntry (fun _ => rfl) ?_
  intro other id callback otherStored found different same held
  have removed := (HashTable.lookup_remove _ _ _).symm.trans found
  have storedSame : some entry = some other := stored.symm.trans otherStored
  cases storedSame
  split at removed
  · cases removed
  · next kept =>
      generalize callback.kind = kind at held ⊢
      cases kind with
      | acceptTimeout => exact absurd held.symm kept
      | _ => exact held

theorem acceptConnection
    (stored : sup.heap.lookup address = some entry)
    (only : Only firing sup address [.acceptTimeout, .childExit, .restartTimer]) :
    Wired firing (sup.acceptConnection address) := by
  let accepted := sup.modifyEntry address fun entry => { entry with connected := true }
  have acceptedWired : Wired firing accepted :=
    wired.modifyEntry (fun _ => rfl) fun _ _ _ _ _ _ _ held => held.congr rfl rfl rfl rfl
  have acceptedEntry : accepted.heap.lookup address = some { entry with connected := true } :=
    lookup_modifyEntry stored _
  have cancelled := acceptedWired.cancelAcceptTimer acceptedEntry
  have cancelledEq : accepted.cancelAcceptTimer address =
      (accepted.removeSource entry.acceptTimerId).modifyEntry address fun entry =>
        { entry with acceptTimerId := 0 } := by
    unfold SourceSupervisor.cancelAcceptTimer
    rw [acceptedEntry]
  have cancelledOnly : Only firing (accepted.cancelAcceptTimer address) address
      [.acceptTimeout, .childExit, .restartTimer] := by
    rw [cancelledEq]
    exact only.removeSource entry.acceptTimerId
  have cancelledEntry : (accepted.cancelAcceptTimer address).heap.lookup address =
      some { entry with connected := true, acceptTimerId := 0 } := by
    rw [cancelledEq]
    exact lookup_modifyEntry acceptedEntry _
  have watched : Wired firing ((accepted.cancelAcceptTimer address).watchSocket address false) :=
    cancelled.watchSocket cancelledEntry cancelledOnly (by simp) nofun
  exact watched.startStableTimer (lookup_modifyEntry cancelledEntry _)
    (cancelledOnly.addSource (.frameAvailable false)) (by simp) (by simp)

end

/-- A log entry changes no link. -/
theorem withLaunches (wired : Wired firing sup) (launches : List CStr) :
    Wired firing { sup with launches := launches } :=
  ⟨wired.positive, wired.given, wired.allocated, wired.listed, wired.held⟩

/-- An entry without sources is launched. -/
theorem launch
    (wired : Wired firing sup)
    (stored : sup.heap.lookup address = some entry)
    (only : Only firing sup address [.restartTimer])
    (noTimer : entry.stableTimerId = 0)
    (outcome : LaunchOutcome) :
    Wired firing (sup.launch address outcome).2 := by
  have keepsIds : ∀ (flag : Bool),
      Wired firing (sup.modifyEntry address fun entry => { entry with listening := flag }) :=
    fun flag => wired.modifyEntry (fun _ => rfl) fun _ _ _ _ _ _ _ held =>
      held.congr rfl rfl rfl rfl
  cases outcome with
  | failed => exact keepsIds false
  | forked connects =>
      unfold SourceSupervisor.launch
      rw [stored]
      let listening := { sup with launches := entry.sourceId :: sup.launches }.modifyEntry
        address fun entry => { entry with listening := true }
      have listeningWired : Wired firing listening := (keepsIds true).withLaunches _
      have listeningEntry : listening.heap.lookup address = some { entry with listening := true } :=
        lookup_modifyEntry stored _
      have watched := listeningWired.watchChild listeningEntry only (by simp)
      have watchedOnly := Only.addSource only .childExit
      have watchedEntry := lookup_modifyEntry listeningEntry fun entry =>
        { entry with childWatchId := listening.nextSourceId }
      have waiting := watched.startAcceptTimer watchedEntry watchedOnly (by simp)
      have waitingOnly := Only.addSource watchedOnly .acceptTimeout
      have waitingEntry := lookup_modifyEntry watchedEntry fun entry =>
        { entry with acceptTimerId := (listening.watchChild address).nextSourceId }
      cases connects with
      | true => exact waiting.acceptConnection waitingEntry waitingOnly
      | false => exact waiting.watchSocket waitingEntry waitingOnly (by simp) fun _ => noTimer

/-! ## Cleaning up -/

theorem removeSources (wired : Wired firing sup) (entry : SourceEntry) :
    Wired firing (sup.removeSources entry) :=
  (((wired.removeSource _).removeSource _).removeSource _).removeSource _

/-- What stays pending was not kept by the entry. -/
theorem lookup_removeSources
    {id : ℕ}
    {callback : Callback}
    (found : (sup.removeSources entry).pending.lookup id = some callback) :
    sup.pending.lookup id = some callback ∧ id ≠ entry.ioWatchId ∧
      id ≠ entry.childWatchId ∧ id ≠ entry.acceptTimerId ∧ id ≠ entry.stableTimerId := by
  unfold SourceSupervisor.removeSources SourceSupervisor.removeSource at found
  simp only [HashTable.lookup_remove] at found
  by_cases stable : id = entry.stableTimerId
  · rw [if_pos stable] at found
    cases found
  by_cases accept : id = entry.acceptTimerId
  · rw [if_neg stable, if_pos accept] at found
    cases found
  by_cases child : id = entry.childWatchId
  · rw [if_neg stable, if_neg accept, if_pos child] at found
    cases found
  by_cases io : id = entry.ioWatchId
  · rw [if_neg stable, if_neg accept, if_neg child, if_pos io] at found
    cases found
  rw [if_neg stable, if_neg accept, if_neg child, if_neg io] at found
  exact ⟨found, io, child, accept, stable⟩

/-- Only the restart timer outlives the sources that an entry keeps. -/
theorem only_removeSources
    (wired : Wired firing sup)
    (stored : sup.heap.lookup address = some entry) :
    Only firing (sup.removeSources entry) address [.restartTimer] := by
  intro id callback found different same
  obtain ⟨before, io, child, accept, stable⟩ := lookup_removeSources found
  obtain ⟨other, otherStored, held⟩ := wired.held id callback before different
  rw [same, stored] at otherStored
  cases otherStored
  generalize callback.kind = kind at held ⊢
  cases kind with
  | frameAvailable listening => exact absurd held.1.symm io
  | childExit => exact absurd held.symm child
  | acceptTimeout => exact absurd held.symm accept
  | stableTimer => exact absurd held.symm stable
  | restartTimer => exact List.mem_cons_self

/-- The entry of a source whose worker was cleaned up. -/
def cleaned (entry : SourceEntry) : SourceEntry :=
  { entry with
    ioWatchId := 0
    childWatchId := 0
    acceptTimerId := 0
    stableTimerId := 0
    connected := false
    listening := false }

theorem cleanupWorker
    (wired : Wired firing sup)
    (stored : sup.heap.lookup address = some entry) :
    Wired firing (sup.cleanupWorker address) ∧
      Only firing (sup.cleanupWorker address) address [.restartTimer] ∧
      (sup.cleanupWorker address).heap.lookup address = some (cleaned entry) := by
  have removed := wired.removeSources entry
  have only := wired.only_removeSources stored
  unfold SourceSupervisor.cleanupWorker
  rw [stored]
  refine ⟨removed.modifyEntry (fun _ => rfl) ?_, only, lookup_modifyEntry stored _⟩
  intro other id callback _ found different same _
  have listed := only id callback found different same
  rw [List.mem_singleton] at listed
  rw [listed]
  trivial

theorem scheduleRestart
    (wired : Wired firing sup)
    (address : ℕ) :
    Wired firing (sup.scheduleRestart address) := by
  have counted : Wired firing (sup.modifyEntry address fun entry =>
      { entry with restartAttempts := entry.restartAttempts + 1 }) :=
    wired.modifyEntry (fun _ => rfl) fun _ _ _ _ _ _ _ held => held.congr rfl rfl rfl rfl
  unfold SourceSupervisor.scheduleRestart
  dsimp only
  split
  · next entry stored =>
      split
      · exact counted
      · exact counted.addSource stored trivial
  · exact counted

/-- An entry without a restart timer is taken out and freed. -/
theorem removeEntry
    (wired : Wired 0 sup)
    {sourceId : CStr}
    (cancelled : ∀ address, sup.sources.lookup sourceId = some address →
      NoRestart sup address) :
    Wired 0 (sup.removeEntry sourceId) := by
  unfold SourceSupervisor.removeEntry
  cases found : sup.sources.lookup sourceId with
  | none => exact wired
  | some address =>
      obtain ⟨entry, stored, named⟩ := (wired.listed sourceId address).mp found
      have removed := wired.removeSources entry
      have only := wired.only_removeSources stored
      have freed : { sup with sources := sup.sources.remove sourceId }.freeEntry address =
          { sup.removeSources entry with
            sources := sup.sources.remove sourceId
            heap := sup.heap.remove address } := by
        unfold SourceSupervisor.freeEntry
        rw [show ({ sup with sources := sup.sources.remove sourceId } :
          SourceSupervisor).heap.lookup address = some entry from stored]
        rfl
      dsimp only
      rw [freed]
      refine ⟨wired.positive, removed.given, ?_, ?_, ?_⟩
      · intro other otherEntry otherStored
        have kept := (HashTable.lookup_remove _ _ _).symm.trans otherStored
        split at kept
        · cases kept
        · exact wired.allocated other otherEntry kept
      · intro id other
        dsimp only
        rw [HashTable.lookup_remove, HashTable.lookup_remove]
        by_cases same : id = sourceId
        · rw [if_pos same]
          refine iff_of_false (fun listed => by cases listed) ?_
          rintro ⟨otherEntry, otherStored, otherNamed⟩
          split at otherStored
          · cases otherStored
          · next different =>
              have listed := (wired.listed id other).mpr ⟨otherEntry, otherStored, otherNamed⟩
              rw [same, found] at listed
              cases listed
              exact different rfl
        · rw [if_neg same, wired.listed]
          split
          · next sameAddress =>
              refine iff_of_false ?_ (by rintro ⟨_, stored, _⟩; cases stored)
              rintro ⟨otherEntry, otherStored, otherNamed⟩
              rw [sameAddress, stored] at otherStored
              cases otherStored
              exact same (otherNamed.symm.trans named)
          · rfl
      · intro id callback pending nonzero
        obtain ⟨other, otherStored, held⟩ := removed.held id callback pending nonzero
        refine ⟨other, ?_, held⟩
        dsimp only
        rw [HashTable.lookup_remove]
        split
        · next same =>
            have listed := only id callback pending nonzero same
            rw [List.mem_singleton] at listed
            have noRestart := cancelled address found id callback
              (lookup_removeSources pending).1 same
            exact absurd listed noRestart
        · exact otherStored

end Wired

section Events

variable {sup : SourceSupervisor}

variable {entry : SourceEntry}

/-- A new entry under a free id. -/
theorem wired_allocate
    (wired : Wired 0 sup)
    {sourceId : CStr}
    (free : sup.sources.lookup sourceId = none)
    (named : entry.sourceId = sourceId) :
    Wired 0 { sup with
      sources := sup.sources.insert sourceId sup.nextAddress
      heap := sup.heap.insert sup.nextAddress entry
      nextAddress := sup.nextAddress + 1 } := by
  have unused : sup.heap.lookup sup.nextAddress = none := by
    cases found : sup.heap.lookup sup.nextAddress with
    | none => rfl
    | some other => exact absurd (wired.allocated _ _ found) (lt_irrefl _)
  refine ⟨wired.positive, wired.given, ?_, ?_, ?_⟩
  · intro address other found
    have inserted := (HashTable.lookup_insert _ _ _ _).symm.trans found
    split at inserted
    · next same => exact same ▸ Nat.lt_succ_self _
    · exact Nat.lt_succ_of_lt (wired.allocated address other inserted)
  · intro id address
    dsimp only
    rw [HashTable.lookup_insert, HashTable.lookup_insert]
    by_cases same : id = sourceId
    · rw [if_pos same]
      constructor
      · intro equal
        cases equal
        rw [if_pos rfl]
        exact ⟨entry, rfl, named.trans same.symm⟩
      · rintro ⟨other, otherStored, otherNamed⟩
        split at otherStored
        · next sameAddress => rw [sameAddress]
        · have listed := (wired.listed id address).mpr ⟨other, otherStored, otherNamed⟩
          rw [same, free] at listed
          cases listed
    · rw [if_neg same, wired.listed]
      split
      · next sameAddress =>
          rw [sameAddress, unused]
          refine iff_of_false (by rintro ⟨_, stored, _⟩; cases stored) ?_
          rintro ⟨other, otherStored, otherNamed⟩
          cases otherStored
          exact same (otherNamed.symm.trans named)
      · rfl
  · intro id callback found nonzero
    obtain ⟨other, otherStored, held⟩ := wired.held id callback found nonzero
    refine ⟨other, ?_, held⟩
    have different : callback.entry ≠ sup.nextAddress := by
      intro same
      rw [same, unused] at otherStored
      cases otherStored
    exact (HashTable.lookup_insert _ _ _ _).trans ((if_neg different).trans otherStored)

variable {address firing : ℕ}

/-- A launch that fails leaves the main loop alone. -/
theorem launch_failed
    {outcome : LaunchOutcome}
    (failed : (sup.launch address outcome).1 ≠ .ok) :
    (sup.launch address outcome).2 =
      sup.modifyEntry address fun entry => { entry with listening := false } := by
  unfold SourceSupervisor.launch at failed ⊢
  cases outcome with
  | failed => rfl
  | forked connects =>
      cases stored : sup.heap.lookup address with
      | none => rfl
      | some entry =>
          rw [stored] at failed
          exact absurd rfl failed

/-- The entry with which a start begins. -/
def startedEntry (sourceId : CStr) : SourceEntry where
  sourceId := sourceId
  listening := false
  connected := false
  ioWatchId := 0
  childWatchId := 0
  acceptTimerId := 0
  stableTimerId := 0
  restartAttempts := 0
  shuttingDown := false

/-- The tables in which a start launches the worker. -/
def withStarted (sup : SourceSupervisor) (sourceId : CStr) : SourceSupervisor :=
  { sup with
    sources := sup.sources.insert sourceId sup.nextAddress
    heap := sup.heap.insert sup.nextAddress (startedEntry sourceId)
    nextAddress := sup.nextAddress + 1 }

theorem lookup_heap_withStarted (sup : SourceSupervisor) (sourceId : CStr) :
    (withStarted sup sourceId).heap.lookup sup.nextAddress = some (startedEntry sourceId) :=
  (HashTable.lookup_insert _ _ _ _).trans (if_pos rfl)

/-- What a start does: a source that is listed stays as it is, and the entry of a new one is
removed again if the launch of its worker fails. -/
theorem startSource_cases
    (sup : SourceSupervisor)
    (sourceId : CStr)
    (outcome : LaunchOutcome) :
    (sup.startSource sourceId outcome).2 = sup ∨
      sup.sources.lookup sourceId = none ∧
        let launch := (withStarted sup sourceId).launch sup.nextAddress outcome
        ((sup.startSource sourceId outcome).2 = launch.2 ∨
          launch.1 ≠ .ok ∧
            (sup.startSource sourceId outcome).2 = launch.2.removeEntry sourceId) := by
  unfold SourceSupervisor.startSource
  split
  · exact .inl rfl
  · next absent =>
      rw [Bool.not_eq_true, HashTable.contains_eq_false] at absent
      refine .inr ⟨absent, ?_⟩
      dsimp only
      split
      · next after result =>
          have launch : (withStarted sup sourceId).launch sup.nextAddress outcome =
            (.ok, after) := result
          rw [launch]
          exact .inl rfl
      · next code after failed result =>
          have launch : (withStarted sup sourceId).launch sup.nextAddress outcome =
            (code, after) := result
          rw [launch]
          exact .inr ⟨failed, rfl⟩

theorem wired_startSource
    (wired : Wired 0 sup)
    (sourceId : CStr)
    (outcome : LaunchOutcome) :
    Wired 0 (sup.startSource sourceId outcome).2 := by
  rcases startSource_cases sup sourceId outcome with same | ⟨absent, starts⟩
  · rw [same]
    exact wired
  · have allocated : Wired 0 (withStarted sup sourceId) := wired_allocate wired absent rfl
    have quiet : ∀ id callback, sup.pending.lookup id = some callback →
        callback.entry ≠ sup.nextAddress := by
      intro id callback found same
      obtain ⟨other, otherStored, _⟩ :=
        wired.held id callback found (wired.given id callback found).1
      exact absurd (wired.allocated _ _ otherStored) (same ▸ lt_irrefl _)
    have launched := allocated.launch (lookup_heap_withStarted sup sourceId)
      (fun id callback found _ same => absurd same (quiet id callback found))
      rfl outcome
    rcases starts with succeeded | ⟨failed, removed⟩
    · rw [succeeded]
      exact launched
    · rw [removed]
      refine launched.removeEntry fun address listed id callback found same => ?_
      rw [launch_failed failed] at listed found
      have sameAddress : some sup.nextAddress = some address :=
        ((HashTable.lookup_insert _ _ _ _).trans (if_pos rfl)).symm.trans listed
      cases sameAddress
      exact absurd same (quiet id callback found)

theorem wired_stopSource
    (wired : Wired 0 sup)
    {sourceId : CStr}
    (cancelled : Cancelled sup (.stop sourceId)) :
    Wired 0 (sup.stopSource sourceId).2 := by
  unfold SourceSupervisor.stopSource
  split
  · next address found =>
      have marked : Wired 0 (sup.modifyEntry address fun entry =>
          { entry with shuttingDown := true }) :=
        wired.modifyEntry (fun _ => rfl) fun _ _ _ _ _ _ _ held => held.congr rfl rfl rfl rfl
      exact marked.removeEntry cancelled
  · exact wired

theorem removeEntry_shrinks (sourceId : CStr) :
    (∀ id callback, (sup.removeEntry sourceId).pending.lookup id = some callback →
      sup.pending.lookup id = some callback) ∧
    (∀ id address, (sup.removeEntry sourceId).sources.lookup id = some address →
      id ≠ sourceId ∧ sup.sources.lookup id = some address) := by
  unfold SourceSupervisor.removeEntry
  cases found : sup.sources.lookup sourceId with
  | none =>
      refine ⟨fun _ _ pending => pending, fun id address listed => ⟨?_, listed⟩⟩
      rintro rfl
      rw [found] at listed
      cases listed
  | some address =>
      have sources : ∀ id other, (sup.sources.remove sourceId).lookup id = some other →
          id ≠ sourceId ∧ sup.sources.lookup id = some other := by
        intro id other listed
        rw [HashTable.lookup_remove] at listed
        split at listed
        · cases listed
        · next different => exact ⟨different, listed⟩
      unfold SourceSupervisor.freeEntry
      dsimp only
      split
      · exact ⟨fun id callback pending => (Wired.lookup_removeSources pending).1, sources⟩
      · exact ⟨fun _ _ pending => pending, sources⟩

/-- Removal of an entry launches no worker and allocates nothing. -/
theorem removeEntry_frame (sourceId : CStr) :
    (sup.removeEntry sourceId).launches = sup.launches ∧
      (sup.removeEntry sourceId).nextAddress = sup.nextAddress ∧
      ∀ address, sup.heap.lookup address = none →
        (sup.removeEntry sourceId).heap.lookup address = none := by
  unfold SourceSupervisor.removeEntry SourceSupervisor.freeEntry
  split
  · split
    · refine ⟨rfl, rfl, fun other free => ?_⟩
      refine (HashTable.lookup_remove _ _ _).trans ?_
      split
      · rfl
      · exact free
    · exact ⟨rfl, rfl, fun _ free => free⟩
  · exact ⟨rfl, rfl, fun _ free => free⟩

section

variable (wired : Wired 0 sup)
include wired

/-- All entries may be removed when none has a restart timer. -/
theorem wired_removeEntries
    (cancelled : Cancelled sup .shutdownAll)
    (sourceIds : List CStr) :
    Wired 0 (sourceIds.foldl SourceSupervisor.removeEntry sup) := by
  induction sourceIds generalizing sup with
  | nil => exact wired
  | cons sourceId rest ih =>
      obtain ⟨pending, sources⟩ := @removeEntry_shrinks sup sourceId
      refine ih (wired.removeEntry (cancelled sourceId)) ?_
      intro other address listed id callback found same
      exact cancelled other address (sources other address listed).2 id callback
        (pending id callback found) same

theorem wired_shutdownAll
    (cancelled : Cancelled sup .shutdownAll) :
    Wired 0 sup.shutdownAll := by
  let mark (_ : ℕ) (entry : SourceEntry) : SourceEntry := { entry with shuttingDown := true }
  let marked := { sup with heap := sup.heap.mapValues mark }
  have markedWired : Wired 0 marked := by
    refine ⟨wired.positive, wired.given, ?_, ?_, ?_⟩
    · intro address entry found
      have mapped := (HashTable.lookup_mapValues _ _ _).symm.trans found
      obtain ⟨before, stored, _⟩ := Option.map_eq_some_iff.mp mapped
      exact wired.allocated address before stored
    · intro sourceId address
      refine (wired.listed sourceId address).trans ?_
      rw [show marked.heap.lookup address = _ from HashTable.lookup_mapValues _ _ _]
      cases sup.heap.lookup address with
      | none => exact iff_of_false nofun nofun
      | some entry => simp [mark]
    · intro id callback found nonzero
      obtain ⟨entry, stored, held⟩ := wired.held id callback found nonzero
      refine ⟨mark callback.entry entry, ?_, held.congr rfl rfl rfl rfl⟩
      refine (HashTable.lookup_mapValues _ _ _).trans ?_
      rw [stored]
      rfl
  exact wired_removeEntries markedWired cancelled _

/-- The other sources of the entry whose listening socket reports. -/
theorem only_listening
    (found : sup.pending.lookup firing =
      some { kind := .frameAvailable true, entry := address }) :
    Only firing sup address [.acceptTimeout, .childExit, .restartTimer] := by
  intro id callback pending different same
  obtain ⟨entry, stored, io, noTimer⟩ := wired.held firing _ found (wired.given firing _ found).1
  obtain ⟨nonzero, _⟩ := wired.given id callback pending
  obtain ⟨other, otherStored, held⟩ := wired.held id callback pending nonzero
  have sameEntry : some entry = some other := stored.symm.trans (same ▸ otherStored)
  cases sameEntry
  generalize callback.kind = kind at held ⊢
  cases kind with
  | frameAvailable listening => exact absurd (held.1.symm.trans io) different
  | childExit => simp
  | acceptTimeout => simp
  | stableTimer => exact absurd (held.symm.trans (noTimer rfl)) nonzero
  | restartTimer => simp

/-- A field of the firing source may be cleared. -/
theorem wired_clear
    {callback : Callback}
    (found : sup.pending.lookup firing = some callback)
    {change : SourceEntry → SourceEntry}
    (sourceId : ∀ entry, (change entry).sourceId = entry.sourceId)
    (clears : ∀ entry id kind, Holds entry firing callback.kind → Holds entry id kind →
      id ≠ firing → id ≠ 0 → Holds (change entry) id kind) :
    Wired firing (sup.modifyEntry callback.entry change) := by
  refine (wired.fire firing).modifyEntry sourceId ?_
  intro entry id other stored pending different same held
  obtain ⟨own, ownStored, ownHeld⟩ := wired.held firing callback found
    (wired.given firing callback found).1
  rw [stored] at ownStored
  cases ownStored
  exact clears entry id other.kind ownHeld held different (wired.given id other pending).1

theorem wired_onChildExit
    (found : sup.pending.lookup firing = some { kind := .childExit, entry := address })
    (stored : sup.heap.lookup address = some entry) :
    Wired firing (sup.onChildExit address entry) := by
  let clear (entry : SourceEntry) : SourceEntry := { entry with
    childWatchId := 0
    ioWatchId := 0
    connected := false
    listening := false }
  obtain ⟨own, ownStored, ownHeld⟩ := wired.held firing _ found (wired.given firing _ found).1
  have cleared : Wired firing ((sup.removeSource entry.ioWatchId).modifyEntry address clear) := by
    refine ((wired.fire firing).removeSource entry.ioWatchId).modifyEntry (fun _ => rfl) ?_
    intro other id callback otherStored pending different _ held
    have otherSame : some entry = some other := stored.symm.trans otherStored
    cases otherSame
    have ownSame : some entry = some own := stored.symm.trans ownStored
    cases ownSame
    have kept := (HashTable.lookup_remove _ _ _).symm.trans pending
    split at kept
    · cases kept
    · next notIo =>
        generalize callback.kind = kind at held ⊢
        cases kind with
        | frameAvailable listening => exact absurd held.1.symm notIo
        | childExit => exact absurd (held.symm.trans ownHeld) different
        | acceptTimeout => exact held
        | stableTimer => exact held
        | restartTimer => trivial
  unfold SourceSupervisor.onChildExit
  dsimp only
  split
  · exact cleared
  · exact cleared.scheduleRestart address

/-- `on_frame_available` keeps the links, and changes nothing when its source
stays. -/
theorem wired_onFrameAvailable
    {listening : Bool}
    (found : sup.pending.lookup firing =
      some { kind := .frameAvailable listening, entry := address })
    (stored : sup.heap.lookup address = some entry)
    (socket : SourceSupervisor.SocketState) :
    Wired firing (sup.onFrameAvailable address entry listening socket).2 ∧
      ((sup.onFrameAvailable address entry listening socket).1 = true →
        (sup.onFrameAvailable address entry listening socket).2 = sup) := by
  unfold SourceSupervisor.onFrameAvailable
  split
  · next accepts =>
      obtain ⟨⟨_, rfl⟩, _⟩ : (_ ∧ listening = true) ∧ _ := by simpa using accepts
      cases socket with
      | connects =>
          exact ⟨(wired.fire firing).acceptConnection stored (only_listening wired found), nofun⟩
      | lost => exact ⟨wired.fire firing, fun _ => rfl⟩
      | drained => exact ⟨wired.fire firing, fun _ => rfl⟩
  · cases socket with
    | connects => exact ⟨wired.fire firing, fun _ => rfl⟩
    | lost =>
        refine ⟨wired_clear wired found (fun _ => rfl) ?_, nofun⟩
        intro _ id kind own held different _
        cases kind with
        | frameAvailable other => exact absurd (held.1.symm.trans own.1) different
        | childExit => exact held
        | acceptTimeout => exact held
        | stableTimer => exact held
        | restartTimer => trivial
    | drained => exact ⟨wired.fire firing, fun _ => rfl⟩

theorem wired_onRestartTimer
    (stored : sup.heap.lookup address = some entry)
    (outcome : LaunchOutcome) :
    Wired firing (sup.onRestartTimer address entry outcome) := by
  unfold SourceSupervisor.onRestartTimer
  split
  · exact wired.fire firing
  · obtain ⟨cleaned, only, cleanedEntry⟩ := (wired.fire firing).cleanupWorker stored
    have launched := cleaned.launch cleanedEntry only rfl outcome
    generalize (sup.cleanupWorker address).launch address outcome = result at launched ⊢
    obtain ⟨code, after⟩ := result
    split
    · next same =>
        cases same
        exact launched
    · next same =>
        cases same
        exact launched.scheduleRestart address

/-- What a callback does keeps the links. -/
theorem wired_dispatch
    {callback : Callback}
    (found : sup.pending.lookup firing = some callback)
    (stored : sup.heap.lookup callback.entry = some entry)
    (socket : SourceSupervisor.SocketState)
    (outcome : LaunchOutcome) :
    Wired firing (sup.dispatch callback entry socket outcome).2 ∧
      ((sup.dispatch callback entry socket outcome).1 = true →
        (sup.dispatch callback entry socket outcome).2 = sup) := by
  obtain ⟨kind, address⟩ := callback
  cases kind with
  | frameAvailable listening => exact wired_onFrameAvailable wired found stored socket
  | childExit => exact ⟨wired_onChildExit wired found stored, nofun⟩
  | acceptTimeout =>
      refine ⟨wired_clear wired found (fun _ => rfl) ?_, nofun⟩
      intro _ id kind own held different _
      cases kind with
      | acceptTimeout => exact absurd (held.symm.trans own) different
      | _ => exact held
  | stableTimer =>
      refine ⟨wired_clear wired found (fun _ => rfl) ?_, nofun⟩
      intro _ id kind own held different _
      cases kind with
      | stableTimer => exact absurd (held.symm.trans own) different
      | frameAvailable listening => exact ⟨held.1, fun _ => rfl⟩
      | _ => exact held
  | restartTimer => exact ⟨wired_onRestartTimer wired stored outcome, nofun⟩

/-- Every event keeps the links, when no entry is freed with a restart timer. -/
theorem wired_next
    {event : SupervisorEvent}
    {after : SourceSupervisor}
    (cancelled : Cancelled sup event)
    (stepped : sup.next event = some after) :
    Wired 0 after := by
  cases event with
  | start sourceId outcome =>
      cases stepped
      exact wired_startSource wired sourceId outcome
  | stop sourceId =>
      cases stepped
      exact wired_stopSource wired cancelled
  | shutdownAll =>
      cases stepped
      exact wired_shutdownAll wired cancelled
  | fire id socket outcome =>
      obtain ⟨callback, found, fired⟩ := Option.bind_eq_some_iff.mp stepped
      obtain ⟨entry, stored, rfl⟩ := Option.map_eq_some_iff.mp fired
      obtain ⟨dispatched, unchanged⟩ := wired_dispatch wired found stored socket outcome
      dsimp only
      split
      · next stays =>
          rw [unchanged stays]
          exact wired
      · exact dispatched.fired

end

theorem wired_new : Wired 0 SourceSupervisor.new where
  positive := Nat.one_pos
  given := nofun
  allocated := nofun
  listed := fun _ _ => iff_of_false nofun nofun
  held := nofun

end Events

/-! ## Launches -/

section Launches

variable {sup : SourceSupervisor} {address : ℕ}

/-- The entries are those of before. -/
structure SameEntries (sup after : SourceSupervisor) : Prop where
  /-- The ids are listed as before. -/
  sources : after.sources = sup.sources
  /-- No address was given out. -/
  nextAddress : after.nextAddress = sup.nextAddress
  /-- No entry was allocated. -/
  free : ∀ address, sup.heap.lookup address = none → after.heap.lookup address = none

theorem SameEntries.refl : SameEntries sup sup :=
  ⟨rfl, rfl, fun _ free => free⟩

theorem SameEntries.trans
    {second third : SourceSupervisor}
    (before : SameEntries sup second)
    (after : SameEntries second third) :
    SameEntries sup third :=
  ⟨after.sources.trans before.sources, after.nextAddress.trans before.nextAddress,
    fun address free => after.free address (before.free address free)⟩

theorem sameEntries_modifyEntry (change : SourceEntry → SourceEntry) :
    SameEntries sup (sup.modifyEntry address change) := by
  refine ⟨rfl, rfl, fun other free => ?_⟩
  refine (HashTable.lookup_modify _ _ _ _).trans ?_
  rw [free]
  split
  · rfl
  · rfl

/-- Neither the entries nor the log of launches change. -/
def SameLaunches (sup after : SourceSupervisor) : Prop :=
  SameEntries sup after ∧ after.launches = sup.launches

theorem SameLaunches.refl : SameLaunches sup sup :=
  ⟨.refl, rfl⟩

theorem SameLaunches.trans
    {second third : SourceSupervisor}
    (before : SameLaunches sup second)
    (after : SameLaunches second third) :
    SameLaunches sup third :=
  ⟨before.1.trans after.1, after.2.trans before.2⟩

theorem sameLaunches_modifyEntry (change : SourceEntry → SourceEntry) :
    SameLaunches sup (sup.modifyEntry address change) :=
  ⟨sameEntries_modifyEntry change, rfl⟩

/-- A new source whose id goes to a field of its entry. -/
theorem sameLaunches_register
    (callback : Callback)
    (change : SourceEntry → SourceEntry) :
    SameLaunches sup ((sup.addSource callback).modifyEntry address change) := by
  have added : SameLaunches sup (sup.addSource callback) := ⟨⟨rfl, rfl, fun _ free => free⟩, rfl⟩
  exact added.trans (sameLaunches_modifyEntry change)

/-- A removed source whose id is cleared in its entry. -/
theorem sameLaunches_unregister
    (id : ℕ)
    (change : SourceEntry → SourceEntry) :
    SameLaunches sup ((sup.removeSource id).modifyEntry address change) := by
  have removed : SameLaunches sup (sup.removeSource id) := ⟨⟨rfl, rfl, fun _ free => free⟩, rfl⟩
  exact removed.trans (sameLaunches_modifyEntry change)

theorem sameLaunches_cancelAcceptTimer : SameLaunches sup (sup.cancelAcceptTimer address) := by
  unfold SourceSupervisor.cancelAcceptTimer
  split
  · exact sameLaunches_unregister _ _
  · exact .refl

theorem sameLaunches_acceptConnection : SameLaunches sup (sup.acceptConnection address) := by
  let accepted := sup.modifyEntry address fun entry => { entry with connected := true }
  let cancelled := accepted.cancelAcceptTimer address
  have acceptedSame : SameLaunches sup accepted := sameLaunches_modifyEntry _
  have cancelledSame : SameLaunches sup cancelled :=
    acceptedSame.trans sameLaunches_cancelAcceptTimer
  have watchedSame : SameLaunches sup (cancelled.watchSocket address false) :=
    cancelledSame.trans (sameLaunches_register _ _)
  exact watchedSame.trans (sameLaunches_register _ _)

theorem sameLaunches_scheduleRestart : SameLaunches sup (sup.scheduleRestart address) := by
  have counted := @sameLaunches_modifyEntry sup address fun entry =>
    { entry with restartAttempts := entry.restartAttempts + 1 }
  unfold SourceSupervisor.scheduleRestart
  dsimp only
  split
  · split
    · exact counted
    · exact ⟨⟨rfl, rfl, counted.1.free⟩, rfl⟩
  · exact counted

theorem sameLaunches_onChildExit (entry : SourceEntry) :
    SameLaunches sup (sup.onChildExit address entry) := by
  unfold SourceSupervisor.onChildExit
  dsimp only
  split
  · exact sameLaunches_unregister _ _
  · exact (sameLaunches_unregister _ _).trans sameLaunches_scheduleRestart

theorem sameLaunches_onFrameAvailable
    (entry : SourceEntry)
    (listening : Bool)
    (socket : SourceSupervisor.SocketState) :
    SameLaunches sup (sup.onFrameAvailable address entry listening socket).2 := by
  unfold SourceSupervisor.onFrameAvailable
  split
  · cases socket with
    | connects => exact sameLaunches_acceptConnection
    | lost => exact .refl
    | drained => exact .refl
  · cases socket with
    | connects => exact .refl
    | lost => exact sameLaunches_modifyEntry _
    | drained => exact .refl

/-- A cleaned up entry is still there. -/
theorem sameLaunches_cleanupWorker : SameLaunches sup (sup.cleanupWorker address) := by
  unfold SourceSupervisor.cleanupWorker
  split
  · next entry _ =>
      have removed : SameLaunches sup (sup.removeSources entry) :=
        ⟨⟨rfl, rfl, fun _ free => free⟩, rfl⟩
      exact removed.trans (sameLaunches_modifyEntry _)
  · exact .refl

/-- Only the worker of one source may be launched. -/
def LaunchesOnly (sup : SourceSupervisor) (sourceId : CStr) (after : SourceSupervisor) : Prop :=
  SameEntries sup after ∧
    (after.launches = sup.launches ∨ after.launches = sourceId :: sup.launches)

theorem SameLaunches.launchesOnly
    {after : SourceSupervisor}
    (same : SameLaunches sup after)
    (sourceId : CStr) :
    LaunchesOnly sup sourceId after :=
  ⟨same.1, .inl same.2⟩

variable {entry : SourceEntry}

theorem launchesOnly_launch
    (stored : sup.heap.lookup address = some entry)
    (outcome : LaunchOutcome) :
    LaunchesOnly sup entry.sourceId (sup.launch address outcome).2 := by
  unfold SourceSupervisor.launch
  rw [stored]
  cases outcome with
  | failed => exact (sameLaunches_modifyEntry _).launchesOnly _
  | forked connects =>
      let forked := { sup with launches := entry.sourceId :: sup.launches }
      have logged : SameEntries sup forked := ⟨rfl, rfl, fun _ free => free⟩
      let listening := forked.modifyEntry address fun entry => { entry with listening := true }
      have watched : SameLaunches forked (listening.watchChild address) :=
        (sameLaunches_modifyEntry _).trans (sameLaunches_register _ _)
      have waiting :
          SameLaunches forked ((listening.watchChild address).startAcceptTimer address) :=
        watched.trans (sameLaunches_register _ _)
      cases connects with
      | true =>
          obtain ⟨entries, launches⟩ := waiting.trans sameLaunches_acceptConnection
          exact ⟨logged.trans entries, .inr launches⟩
      | false =>
          obtain ⟨entries, launches⟩ := waiting.trans (sameLaunches_register _ _)
          exact ⟨logged.trans entries, .inr launches⟩

theorem launchesOnly_onRestartTimer
    (wired : Wired 0 sup)
    (stored : sup.heap.lookup address = some entry)
    (outcome : LaunchOutcome) :
    LaunchesOnly sup entry.sourceId (sup.onRestartTimer address entry outcome) := by
  unfold SourceSupervisor.onRestartTimer
  split
  · exact SameLaunches.refl.launchesOnly _
  · obtain ⟨_, _, cleanedEntry⟩ := wired.cleanupWorker stored
    obtain ⟨cleanedEntries, cleanedLaunches⟩ := @sameLaunches_cleanupWorker sup address
    obtain ⟨entries, launches⟩ := launchesOnly_launch cleanedEntry outcome
    have allEntries := cleanedEntries.trans entries
    rw [cleanedLaunches] at launches
    generalize (sup.cleanupWorker address).launch address outcome = result at allEntries launches ⊢
    obtain ⟨code, after⟩ := result
    split
    · next same =>
        cases same
        exact ⟨allEntries, launches⟩
    · next same =>
        cases same
        obtain ⟨restartEntries, restartLaunches⟩ := @sameLaunches_scheduleRestart after address
        exact ⟨allEntries.trans restartEntries, launches.imp restartLaunches.trans
          restartLaunches.trans⟩

theorem launchesOnly_dispatch
    (wired : Wired 0 sup)
    {callback : Callback}
    (stored : sup.heap.lookup callback.entry = some entry)
    (socket : SourceSupervisor.SocketState)
    (outcome : LaunchOutcome) :
    LaunchesOnly sup entry.sourceId (sup.dispatch callback entry socket outcome).2 := by
  obtain ⟨kind, address⟩ := callback
  cases kind with
  | frameAvailable listening =>
      exact (sameLaunches_onFrameAvailable entry listening socket).launchesOnly _
  | childExit => exact (sameLaunches_onChildExit entry).launchesOnly _
  | acceptTimeout => exact (sameLaunches_modifyEntry _).launchesOnly _
  | stableTimer => exact (sameLaunches_modifyEntry _).launchesOnly _
  | restartTimer => exact launchesOnly_onRestartTimer wired stored outcome

/-- A source that is not listed, with the address of its former entry and the
number of its launches. -/
structure Gone
    (sourceId : CStr)
    (address : ℕ)
    (launches : ℕ)
    (sup : SourceSupervisor) : Prop where
  /-- The source is not listed. -/
  unlisted : sup.sources.lookup sourceId = none
  /-- Its workers were launched so often. -/
  launched : launchesOf sup sourceId = launches
  /-- The entry was freed. -/
  freed : sup.heap.lookup address = none
  /-- The address is not given out again. -/
  used : address < sup.nextAddress

namespace Gone

variable {sourceId other : CStr} {launches : ℕ}

section

variable (gone : Gone sourceId address launches sup)
include gone

/-- Launches of other sources are not counted. -/
theorem launchesOnly
    {after : SourceSupervisor}
    (only : LaunchesOnly sup other after)
    (different : other ≠ sourceId) :
    Gone sourceId address launches after := by
  obtain ⟨entries, launched⟩ := only
  refine ⟨entries.sources ▸ gone.unlisted, ?_, entries.free address gone.freed,
    entries.nextAddress ▸ gone.used⟩
  unfold launchesOf
  rcases launched with same | added
  · rw [same]
    exact gone.launched
  · rw [added, List.count_cons_of_ne different]
    exact gone.launched

/-- Removal of an entry lists no source and launches no worker. -/
theorem removeEntry
    (other : CStr) :
    Gone sourceId address launches (sup.removeEntry other) := by
  have unlisted : (sup.removeEntry other).sources.lookup sourceId = none := by
    cases found : (sup.removeEntry other).sources.lookup sourceId with
    | none => rfl
    | some listed =>
        have before := ((removeEntry_shrinks other).2 sourceId listed found).2
        rw [gone.unlisted] at before
        cases before
  obtain ⟨sameLaunches, sameAddress, free⟩ := @removeEntry_frame sup other
  refine ⟨unlisted, ?_, free address gone.freed, sameAddress ▸ gone.used⟩
  exact (congrArg (List.count sourceId) sameLaunches).trans gone.launched

theorem removeEntries
    (sourceIds : List CStr) :
    Gone sourceId address launches (sourceIds.foldl SourceSupervisor.removeEntry sup) := by
  induction sourceIds generalizing sup with
  | nil => exact gone
  | cons other rest ih => exact ih (gone.removeEntry other)

theorem modifyEntry
    (target : ℕ)
    (change : SourceEntry → SourceEntry) :
    Gone sourceId address launches (sup.modifyEntry target change) :=
  ⟨gone.unlisted, gone.launched, (sameEntries_modifyEntry change).free address gone.freed,
    gone.used⟩

theorem startSource
    (different : other ≠ sourceId)
    (outcome : LaunchOutcome) :
    Gone sourceId address launches (sup.startSource other outcome).2 := by
  have allocated : Gone sourceId address launches (withStarted sup other) := by
    refine ⟨?_, gone.launched, ?_, Nat.lt_succ_of_lt gone.used⟩
    · refine (HashTable.lookup_insert _ _ _ _).trans ?_
      rw [if_neg (Ne.symm different)]
      exact gone.unlisted
    · refine (HashTable.lookup_insert _ _ _ _).trans ?_
      rw [if_neg (Nat.ne_of_lt gone.used)]
      exact gone.freed
  have launched := allocated.launchesOnly
    (launchesOnly_launch (lookup_heap_withStarted sup other) outcome) different
  rcases startSource_cases sup other outcome with same | ⟨_, succeeded | ⟨_, removed⟩⟩
  · rw [same]
    exact gone
  · rw [succeeded]
    exact launched
  · rw [removed]
    exact launched.removeEntry other

/-- Only a start lists a source again or launches its worker. -/
theorem next
    (wired : Wired 0 sup)
    {event : SupervisorEvent}
    {after : SourceSupervisor}
    (notStarted : ¬Starts sourceId event)
    (stepped : sup.next event = some after) :
    Gone sourceId address launches after := by
  cases event with
  | start other outcome =>
      cases stepped
      refine gone.startSource ?_ outcome
      rintro rfl
      exact notStarted ⟨outcome, rfl⟩
  | stop other =>
      cases stepped
      unfold SourceSupervisor.stopSource
      split
      · exact (gone.modifyEntry _ _).removeEntry other
      · exact gone
  | shutdownAll =>
      cases stepped
      let mark (_ : ℕ) (entry : SourceEntry) : SourceEntry := { entry with shuttingDown := true }
      have marked : Gone sourceId address launches
          { sup with heap := sup.heap.mapValues mark } := by
        refine ⟨gone.unlisted, gone.launched, ?_, gone.used⟩
        refine (HashTable.lookup_mapValues _ _ _).trans ?_
        rw [gone.freed]
        rfl
      exact marked.removeEntries sup.sources.keys
  | fire id socket outcome =>
      obtain ⟨callback, found, fired⟩ := Option.bind_eq_some_iff.mp stepped
      obtain ⟨entry, stored, rfl⟩ := Option.map_eq_some_iff.mp fired
      have different : entry.sourceId ≠ sourceId := by
        intro same
        have listed := (wired.listed sourceId callback.entry).mpr ⟨entry, stored, same⟩
        rw [gone.unlisted] at listed
        cases listed
      have dispatched := gone.launchesOnly (launchesOnly_dispatch wired stored socket outcome)
        different
      dsimp only
      split
      · exact dispatched
      · exact ⟨dispatched.unlisted, dispatched.launched, dispatched.freed, dispatched.used⟩

/-- A freed entry has no callbacks. -/
theorem quiet
    (wired : Wired 0 sup) :
    Quiet sup address := by
  intro id callback found same
  obtain ⟨entry, stored, _⟩ := wired.held id callback found (wired.given id callback found).1
  rw [same, gone.freed] at stored
  cases stored

end

end Gone

/-- A stop that succeeds frees the entry of the source. -/
theorem gone_stopSource
    (wired : Wired 0 sup)
    {sourceId : CStr}
    {after : SourceSupervisor}
    (found : sup.sources.lookup sourceId = some address)
    (stopped : sup.stopSource sourceId = (.ok, after)) :
    Gone sourceId address (launchesOf after sourceId) after := by
  unfold SourceSupervisor.stopSource at stopped
  rw [found] at stopped
  cases stopped
  let marked := sup.modifyEntry address fun entry => { entry with shuttingDown := true }
  obtain ⟨entry, stored, _⟩ := (wired.listed sourceId address).mp found
  have markedStored : marked.heap.lookup address = some _ := Wired.lookup_modifyEntry stored _
  have unlisted : (marked.removeEntry sourceId).sources.lookup sourceId = none := by
    cases listed : (marked.removeEntry sourceId).sources.lookup sourceId with
    | none => rfl
    | some other => exact absurd rfl ((removeEntry_shrinks sourceId).2 sourceId other listed).1
  refine ⟨unlisted, rfl, ?_, ?_⟩
  · unfold SourceSupervisor.removeEntry SourceSupervisor.freeEntry
    rw [show marked.sources.lookup sourceId = some address from found]
    dsimp only
    rw [markedStored]
    exact (HashTable.lookup_remove _ _ _).trans (if_pos rfl)
  · obtain ⟨_, sameAddress, _⟩ := @removeEntry_frame marked sourceId
    rw [sameAddress]
    exact wired.allocated address entry stored

end Launches

/-- Runs in which no entry is freed with a restart timer keep the links. -/
theorem wired_of_cancelledRun
    {sup : SourceSupervisor}
    (reachable : supervisorRuns.ReachableWhen Cancelled sup) :
    Wired 0 sup := by
  refine reachable.invariant ?_ ?_
  · rintro _ rfl
    exact wired_new
  · intro state event after wired cancelled stepped
    exact wired_next wired cancelled stepped

/-- In a run that frees no entry while its restart timer is pending, stopping a
source is final. -/
theorem stopFinal_of_cancelledRun
    {sup : SourceSupervisor}
    (reachable : supervisorRuns.ReachableWhen Cancelled sup) :
    StopFinal Cancelled sup := by
  have wired := wired_of_cancelledRun reachable
  refine ⟨wired.pendingLive, ?_⟩
  intro sourceId address after stopped found cancelled later continues
  have afterWired : Wired 0 after := by
    have stoppedWired := wired_stopSource wired cancelled
    rw [stopped] at stoppedWired
    exact stoppedWired
  let remains (state : SourceSupervisor) : Prop :=
    Wired 0 state ∧ Gone sourceId address (launchesOf after sourceId) state
  have kept : remains later := by
    refine continues.invariant ?_ ?_
    · rintro _ rfl
      exact ⟨afterWired, gone_stopSource wired found stopped⟩
    · rintro state event next ⟨stateWired, gone⟩ ⟨stateCancelled, notStarted⟩ stepped
      exact ⟨wired_next stateWired stateCancelled stepped,
        gone.next stateWired notStarted stepped⟩
  obtain ⟨laterWired, gone⟩ := kept
  exact ⟨laterWired.pendingLive, gone.quiet laterWired, gone.unlisted, gone.launched⟩

/-- The supervisor after a run, `new` where the run is not possible. -/
def supervisorAfter (events : List SupervisorEvent) : SourceSupervisor :=
  (System.run SourceSupervisor.next .new events).getD .new

/-- The worker of a camera exits and its restart timer fires; then no restart
timer is left, and a stop is final. -/
theorem stopFinal_restartedCamera :
    StopFinal Cancelled (supervisorAfter [.start "camera" (.forked false),
      .fire 1 .drained .failed, .fire 4 .drained (.forked true)]) := by
  have started : supervisorRuns.ReachableWhen Cancelled
      (supervisorAfter [.start "camera" (.forked false)]) := by
    have trivially : Cancelled .new (.start "camera" (.forked false)) := trivial
    exact .step (.initial rfl) trivially rfl
  have exited : supervisorRuns.ReachableWhen Cancelled
      (supervisorAfter [.start "camera" (.forked false), .fire 1 .drained .failed]) := by
    have trivially : Cancelled (supervisorAfter [.start "camera" (.forked false)])
      (.fire 1 .drained .failed) := trivial
    exact .step started trivially rfl
  have restarted : supervisorRuns.ReachableWhen Cancelled
      (supervisorAfter [.start "camera" (.forked false), .fire 1 .drained .failed,
        .fire 4 .drained (.forked true)]) := by
    have trivially : Cancelled
      (supervisorAfter [.start "camera" (.forked false), .fire 1 .drained .failed])
      (.fire 4 .drained (.forked true)) := trivial
    exact .step exited trivially rfl
  exact stopFinal_of_cancelledRun restarted

/-- The worker of a camera exits, its restart is scheduled, and the camera is
stopped: the restart timer is left with the freed entry. -/
theorem restart_timer_outlives_entry :
    ¬∀ sup, supervisorRuns.Reachable sup → StopFinal (fun _ _ => True) sup := by
  intro final
  let crashed : List SupervisorEvent :=
    [.start "camera" (.forked false), .fire 1 .drained .failed, .stop "camera"]
  have ran : System.run SourceSupervisor.next .new crashed = some (supervisorAfter crashed) := by
    rfl
  have reachable : supervisorRuns.Reachable (supervisorAfter crashed) :=
    System.reachable_of_run (.initial rfl) ran
  have pending : (supervisorAfter crashed).pending.lookup 4 =
      some { kind := .restartTimer, entry := 0 } := by decide +kernel
  have unlisted : (supervisorAfter crashed).sources.keys = [] := by decide +kernel
  obtain ⟨sourceId, listed⟩ := (final _ reachable).pending 4 _ pending
  have member := HashTable.mem_keys_iff.mpr ⟨_, listed⟩
  rw [unlisted] at member
  cases member

end Supervisor
end SbsServer
