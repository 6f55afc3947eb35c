import SbsServer.Engine.PreviewConsistency
import SbsServer.Engine.PreviewStart

/-!
# Starts of the preview within each other

Starts of WebRTC previews do not disturb each other as long as the runtime of a
start stays until its call has returned and no caller gives up before its start
is done.
-/

namespace SbsServer
namespace Engine

open CLib

namespace RuntimeSignals

variable {signals after : RuntimeSignals}

/-- One offer is asked for at a time, and there is none before the runtime is ready. -/
structure Sound (signals : RuntimeSignals) : Prop where
  pending : signals.timers + signals.creating ≤ 1
  requested : 0 < signals.timers + signals.creating →
    signals.webrtcOfferRequested = true ∧ signals.webrtcReady = false
  ready : signals.localSdp.isSome = signals.webrtcReady

/-- A new runtime has asked for nothing. -/
theorem sound_new :
    new.Sound where
  pending := by decide
  requested := by decide
  ready := rfl

/-- While no offer was asked for none is pending. -/
theorem nothing_pending
    (requested : 0 < signals.timers + signals.creating →
      signals.webrtcOfferRequested = true ∧ signals.webrtcReady = false)
    (idle : ¬(signals.webrtcReady || signals.webrtcOfferRequested) = true) :
    signals.timers + signals.creating = 0 := by
  by_contra some
  apply idle
  rw [(requested (Nat.pos_of_ne_zero some)).1, Bool.or_true]

/-- An offer is asked for only when there is none and none was asked for. -/
theorem Sound.requestOffer
    (pending : signals.timers + signals.creating ≤ 1)
    (requested : 0 < signals.timers + signals.creating →
      signals.webrtcOfferRequested = true ∧ signals.webrtcReady = false)
    (ready : signals.localSdp.isSome = signals.webrtcReady) :
    signals.requestOffer.Sound := by
  unfold RuntimeSignals.requestOffer
  split
  next => exact ⟨pending, requested, ready⟩
  next idle =>
    have nothing := nothing_pending requested idle
    rw [Bool.or_eq_true, not_or, Bool.not_eq_true] at idle
    refine ⟨?_, fun _ => ⟨rfl, idle.1⟩, ready⟩
    dsimp only
    omega

/-- What a callback keeps. -/
theorem Sound.called
    (sound : signals.Sound)
    {callback : RuntimeCallback}
    (called : signals.called callback = some after) :
    after.Sound := by
  have pending := sound.pending
  cases callback with
  | negotiationNeeded =>
      cases called
      exact .requestOffer sound.pending sound.requested sound.ready
  | mediaPushed =>
      unfold RuntimeSignals.called at called
      dsimp only at called
      split at called
      next =>
        cases called
        exact sound
      next idle =>
        cases called
        have nothing := nothing_pending sound.requested idle
        rw [Bool.or_eq_true, not_or, Bool.not_eq_true] at idle
        refine ⟨?_, fun _ => ⟨rfl, idle.1⟩, sound.ready⟩
        dsimp only
        omega
  | timer =>
      obtain ⟨positive, called⟩ := Option.ite_none_right_eq_some.mp called
      cases called
      refine .requestOffer ?_ (fun some => ?_) sound.ready
      · dsimp only
        omega
      · dsimp only at some
        omega
  | offerCreated sdp =>
      obtain ⟨positive, called⟩ := Option.ite_none_right_eq_some.mp called
      cases sdp with
      | none =>
          cases called
          refine ⟨?_, fun some => ?_, sound.ready⟩
          · dsimp only
            omega
          · dsimp only at some
            omega
      | some sdp =>
          cases called
          refine ⟨?_, fun some => ?_, rfl⟩
          · dsimp only
            omega
          · dsimp only at some
            omega
  | iceCandidate candidate =>
      cases called
      exact ⟨sound.pending, sound.requested, sound.ready⟩

/-- An offer that a runtime has is not replaced. -/
theorem Sound.localSdp_called
    (sound : signals.Sound)
    {callback : RuntimeCallback}
    (called : signals.called callback = some after)
    {sdp : CStr}
    (offered : signals.localSdp = some sdp) :
    after.localSdp = some sdp := by
  have ready : signals.webrtcReady = true := by
    rw [← sound.ready, offered]
    rfl
  have same (other : RuntimeSignals) (isSame : other.localSdp = signals.localSdp) :
      other.requestOffer.localSdp = some sdp := by
    unfold RuntimeSignals.requestOffer
    split
    next => exact isSame.trans offered
    next => exact isSame.trans offered
  cases callback with
  | negotiationNeeded =>
      cases called
      exact same signals rfl
  | mediaPushed =>
      unfold RuntimeSignals.called at called
      dsimp only at called
      rw [ready, Bool.true_or, if_pos rfl] at called
      cases called
      exact offered
  | timer =>
      obtain ⟨_, called⟩ := Option.ite_none_right_eq_some.mp called
      cases called
      exact same _ rfl
  | offerCreated other =>
      obtain ⟨positive, _⟩ := Option.ite_none_right_eq_some.mp called
      have notReady := (sound.requested (by omega)).2
      rw [ready] at notReady
      cases notReady
  | iceCandidate candidate =>
      cases called
      exact offered

end RuntimeSignals

namespace PreviewStarts

variable {state after : PreviewStarts}

/-- A context has the offer of a runtime. -/
def Offered
    (signals : Nat → RuntimeSignals)
    (context : StartContext) : Prop :=
  ∃ offer, context.offerSdp = some offer ∧ (signals offer.address).localSdp = some offer.sdp

/-- What holds at a point of `webrtc_start_on_main_loop`. -/
def PointSound
    (signals : Nat → RuntimeSignals)
    (context : StartContext) : StartPoint → Prop
  | .icePump address _ => (signals address).webrtcReady = true
  | .iceTest address _ => (signals address).webrtcReady = true
  | .gracePump address _ => (signals address).webrtcReady = true
  | .readSdp address => (signals address).webrtcReady = true
  | .candidates => Offered signals context
  | .finish => context.rc = .ok → Offered signals context
  | _ => True

/-- The calls whose function is running or scheduled. -/
def pending (state : PreviewStarts) : List Nat :=
  state.stack.map StartFrame.call ++ state.scheduled

/-- What holds in every run that meets the condition. -/
structure Sound (state : PreviewStarts) : Prop where
  keeps : state.Keeps state.engine
  distinct : state.pending.Nodup
  waiting : ∀ call ∈ state.pending, call < state.called ∧
    (state.contexts call).returned = false ∧ (state.contexts call).done = false
  points : ∀ frame ∈ state.stack,
    PointSound state.signals (state.contexts frame.call) frame.point
  finished : ∀ call < state.called, (state.contexts call).done = true →
    (state.contexts call).rc = .ok → Offered state.signals (state.contexts call)
  runtimes : ∀ address, (state.signals address).Sound
  reentrant : state.Reentrant

variable {call address : Nat} {rest : List StartFrame}

variable {point : StartPoint}

/-- A call that is running within another one is another call. -/
theorem Sound.others
    (sound : state.Sound)
    (stack : state.stack = ⟨call, point⟩ :: rest) :
    ∀ frame ∈ rest, frame.call ≠ call := by
  intro frame member same
  have distinct := sound.distinct
  unfold pending at distinct
  rw [stack, List.map_cons, List.cons_append, List.nodup_cons] at distinct
  have running : frame.call ∈ rest.map StartFrame.call := List.mem_map_of_mem member
  rw [same] at running
  exact distinct.1 (List.mem_append_left _ running)

/-- The function that is running is pending. -/
theorem Sound.running
    (sound : state.Sound)
    (stack : state.stack = ⟨call, point⟩ :: rest) :
    call < state.called ∧ (state.contexts call).returned = false ∧
      (state.contexts call).done = false := by
  apply sound.waiting
  unfold pending
  rw [stack]
  exact List.mem_append_left _ List.mem_cons_self

/-- The context of one call is changed with the frames of the main loop. -/
theorem Sound.changed
    (sound : state.Sound)
    (call : Nat)
    (context : StartContext)
    (frames : List StartFrame)
    (returns : List StartReturn)
    {engine : PreviewSessions}
    (keeps : state.Keeps engine)
    (older : ∀ frame ∈ frames, frame.call ≠ call → frame ∈ state.stack)
    (own : ∀ frame ∈ frames, frame.call = call →
      (∀ address ∈ frame.point.runtime, engine.IsCurrent context.profileId address) ∧
        PointSound state.signals context frame.point)
    (distinct : (frames.map StartFrame.call ++ state.scheduled).Nodup)
    (pending : ∀ other ∈ frames.map StartFrame.call ++ state.scheduled, other ∈ state.pending)
    (waiting : call ∈ frames.map StartFrame.call ++ state.scheduled →
      context.returned = false ∧ context.done = false)
    (offered : context.returned = false →
      ∀ offer ∈ context.offerSdp, engine.IsCurrent context.profileId offer.address)
    (finished : context.done = true → context.rc = .ok → Offered state.signals context)
    (offers : ∀ entry ∈ returns, entry.rc = .ok →
      entry.offerSdp.isSome = true ∧ entry.offerSdp = entry.current) :
    { state with
      engine := engine
      contexts := Function.update state.contexts call context
      stack := frames
      returns := returns }.Sound := by
  constructor
  · constructor
    · intro frame member
      dsimp only
      by_cases isSame : frame.call = call
      · rw [isSame, Function.update_self]
        exact (own frame member isSame).1
      · rw [Function.update_of_ne isSame]
        exact keeps.running frame (older frame member isSame)
    · intro other isCall
      dsimp only
      by_cases isSame : other = call
      · rw [isSame, Function.update_self]
        exact offered
      · rw [Function.update_of_ne isSame]
        exact keeps.offered other isCall
  · exact distinct
  · intro other isPending
    have before := sound.waiting other (pending other isPending)
    dsimp only
    by_cases isSame : other = call
    · subst isSame
      rw [Function.update_self]
      exact ⟨before.1, waiting isPending⟩
    · rw [Function.update_of_ne isSame]
      exact before
  · intro frame member
    dsimp only
    by_cases isSame : frame.call = call
    · rw [isSame, Function.update_self]
      exact (own frame member isSame).2
    · rw [Function.update_of_ne isSame]
      exact sound.points frame (older frame member isSame)
  · intro other isCall
    dsimp only
    by_cases isSame : other = call
    · rw [isSame, Function.update_self]
      exact finished
    · rw [Function.update_of_ne isSame]
      exact sound.finished other isCall
  · exact sound.runtimes
  · exact ⟨sound.reentrant.uses, sound.reentrant.writes, offers⟩

/-- The function that is running goes on and may write to its context. -/
theorem Sound.goes
    (sound : state.Sound)
    (stack : state.stack = ⟨call, point⟩ :: rest)
    {engine : PreviewSessions}
    (keeps : state.Keeps engine)
    (context : StartContext)
    (later : StartPoint)
    (returned : context.returned = false)
    (done : context.done = false)
    (current : ∀ address ∈ later.runtime, engine.IsCurrent context.profileId address)
    (offered : ∀ offer ∈ context.offerSdp, engine.IsCurrent context.profileId offer.address)
    (atPoint : PointSound state.signals context later) :
    { state with
      engine := engine
      contexts := Function.update state.contexts call context
      stack := ⟨call, later⟩ :: rest }.Sound := by
  have others := sound.others stack
  have distinct := sound.distinct
  have pending : state.pending =
      (⟨call, later⟩ :: rest : List StartFrame).map StartFrame.call ++ state.scheduled := by
    unfold PreviewStarts.pending
    rw [stack]
    rfl
  rw [pending] at distinct
  refine sound.changed call context _ state.returns keeps ?_ ?_ distinct ?_ ?_ ?_ ?_
    sound.reentrant.offers
  · intro frame member different
    rcases List.mem_cons.mp member with rfl | older
    · exact absurd rfl different
    · rw [stack]
      exact List.mem_cons_of_mem _ older
  · intro frame member same
    rcases List.mem_cons.mp member with rfl | older
    · exact ⟨current, atPoint⟩
    · exact absurd same (others frame older)
  · rw [pending]
    exact fun _ isPending => isPending
  · exact fun _ => ⟨returned, done⟩
  · exact fun _ => offered
  · rw [done]
    exact fun isDone => (nomatch isDone)

/-- The function that is running does nothing but go on. -/
theorem Sound.goesTo
    (sound : state.Sound)
    {point later : StartPoint}
    (stack : state.stack = ⟨call, point⟩ :: rest)
    (current : ∀ address ∈ later.runtime,
      state.engine.IsCurrent (state.contexts call).profileId address)
    (atPoint : PointSound state.signals (state.contexts call) later) :
    (state.goTo call rest later).Sound := by
  have running := sound.running stack
  have goes := sound.goes stack sound.keeps (state.contexts call) later running.2.1 running.2.2
    current (sound.keeps.offered call running.1 running.2.1) atPoint
  rw [Function.update_eq_self] at goes
  exact goes

/-- A runtime that is current is not used too late. -/
theorem use_current
    (current : state.engine.IsCurrent (state.contexts call).profileId address) :
    state.use call address = state := by
  unfold use
  rw [if_pos current]

/-- A call that has not returned is not written too late. -/
theorem write_open
    (returned : (state.contexts call).returned = false)
    (change : StartContext → StartContext) :
    state.write call change = { state with
      contexts := Function.update state.contexts call (change (state.contexts call)) } := by
  unfold write
  rw [returned, if_neg Bool.false_ne_true]

/-- Colours are no runtimes. -/
theorem runtimes_storeColors
    (engine : PreviewSessions)
    (id : CStr)
    (colorMode : PreviewColorMode)
    (referenceColor : Bool) :
    (engine.storeColors id colorMode referenceColor).runtimes = engine.runtimes := by
  unfold PreviewSessions.storeColors
  split
  next => rfl
  next => rfl

/-- What is kept depends on the runtimes only. -/
theorem Keeps.congr
    {engine other : PreviewSessions}
    (keeps : state.Keeps engine)
    (runtimes : other.runtimes = engine.runtimes) :
    state.Keeps other where
  running := by
    unfold PreviewSessions.IsCurrent
    rw [runtimes]
    exact keeps.running
  offered := by
    unfold PreviewSessions.IsCurrent
    rw [runtimes]
    exact keeps.offered

section

variable (sound : state.Sound)
include sound

/-- The profile is ensured. -/
theorem Sound.ensures
    (stack : state.stack = ⟨call, .ensure⟩ :: rest)
    {starts : Bool}
    (meets : state.Undisturbed (.goOn starts)) :
    (state.step call rest starts .ensure).Sound := by
  have running := sound.running stack
  have keeps : state.Keeps (state.ensured starts) := meets
  unfold ensured at keeps
  rw [stack] at keeps
  dsimp only at keeps
  have offered := keeps.offered call running.1 running.2.1
  have isOpen (engine : PreviewSessions) :
      (({ state with engine := engine } : PreviewStarts).contexts call).returned = false :=
    running.2.1
  unfold step
  dsimp only
  split
  next succeeds =>
    rw [write_open (isOpen _)]
    exact sound.goes stack keeps _ _ running.2.1 running.2.2 (fun _ none => (nomatch none)) offered
      trivial
  next fails =>
    rw [write_open (isOpen _)]
    exact sound.goes stack keeps _ _ running.2.1 running.2.2 (fun _ none => (nomatch none)) offered
      fun succeeds => absurd succeeds fails

/-- The offer is read. -/
theorem Sound.reads
    (stack : state.stack = ⟨call, .readSdp address⟩ :: rest)
    (starts : Bool) :
    (state.step call rest starts (.readSdp address)).Sound := by
  have running := sound.running stack
  have top : (⟨call, .readSdp address⟩ : StartFrame) ∈ state.stack := by
    rw [stack]
    exact List.mem_cons_self
  have current := sound.keeps.running _ top address rfl
  have ready : (state.signals address).webrtcReady = true := sound.points _ top
  have isSome : (state.signals address).localSdp.isSome = true :=
    (sound.runtimes address).ready.trans ready
  obtain ⟨sdp, offered⟩ := Option.isSome_iff_exists.mp isSome
  unfold step
  dsimp only
  rw [use_current current, write_open running.2.1, offered, Option.map_some]
  refine sound.goes stack sound.keeps _ _ running.2.1 running.2.2
    (fun _ none => (nomatch none)) ?_ ?_
  · rintro offer ⟨⟩
    exact current
  · exact ⟨⟨address, sdp⟩, rfl, offered⟩

/-- A start is done. -/
theorem Sound.finishes
    (stack : state.stack = ⟨call, .finish⟩ :: rest)
    (starts : Bool) :
    (state.step call rest starts .finish).Sound := by
  have running := sound.running stack
  have others := sound.others stack
  have atPoint := sound.points ⟨call, .finish⟩ (by rw [stack]; exact List.mem_cons_self)
  have order : state.pending = call :: (rest.map StartFrame.call ++ state.scheduled) := by
    unfold pending
    rw [stack]
    rfl
  have distinct := sound.distinct
  rw [order, List.nodup_cons] at distinct
  unfold step
  dsimp only
  rw [write_open running.2.1]
  refine sound.changed call _ rest state.returns sound.keeps ?_ ?_ distinct.2 ?_ ?_ ?_ ?_
    sound.reentrant.offers
  · intro frame member _
    rw [stack]
    exact List.mem_cons_of_mem _ member
  · exact fun frame member same => absurd same (others frame member)
  · rw [order]
    exact fun _ isPending => List.mem_cons_of_mem _ isPending
  · exact fun isPending => absurd isPending distinct.1
  · exact sound.keeps.offered call running.1
  · exact fun _ => atPoint

/-- The function that is running goes on. -/
theorem Sound.goesOn
    {starts : Bool}
    (meets : state.Undisturbed (.goOn starts)) :
    (state.goOn starts).Sound := by
  unfold goOn
  split
  next => exact sound
  next call point rest stack =>
    have running := sound.running stack
    have top : (⟨call, point⟩ : StartFrame) ∈ state.stack := by
      rw [stack]
      exact List.mem_cons_self
    have current := sound.keeps.running _ top
    have atPoint := sound.points _ top
    have offered := sound.keeps.offered call running.1 running.2.1
    have nowhere (engine : PreviewSessions) (id : CStr) :
        ∀ address ∈ (none : Option Nat), engine.IsCurrent id address :=
      fun _ none => (nomatch none)
    cases point with
    | colors =>
        have keeps := sound.keeps.congr (runtimes_storeColors state.engine
          (state.contexts call).profileId (state.contexts call).colorMode
          (state.contexts call).referenceColor)
        have goes := sound.goes stack keeps (state.contexts call) .ensure running.2.1 running.2.2
          (nowhere _ _) (keeps.offered call running.1 running.2.1) trivial
        rw [Function.update_eq_self] at goes
        exact goes
    | ensure => exact sound.ensures stack meets
    | lookup =>
        unfold step
        dsimp only
        split
        next runtime found =>
          refine sound.goesTo stack ?_ trivial
          rintro address ⟨⟩
          unfold PreviewSessions.IsCurrent
          rw [found, Option.map_some]
        next =>
          rw [write_open running.2.1]
          exact sound.goes stack sound.keeps _ _ running.2.1 running.2.2 (nowhere _ _) offered
            fun succeeds => (nomatch succeeds)
    | offerTest address attempt =>
        unfold step
        dsimp only
        rw [use_current (current address rfl)]
        split
        next =>
          split
          next => exact sound.goesTo stack current trivial
          next => exact sound.goesTo stack current trivial
        next => exact sound.goesTo stack current trivial
    | offerPump address attempt => exact sound.goesTo stack current trivial
    | readyTest address =>
        unfold step
        dsimp only
        rw [use_current (current address rfl)]
        split
        next ready => exact sound.goesTo stack current ready
        next =>
          rw [write_open running.2.1]
          exact sound.goes stack sound.keeps _ _ running.2.1 running.2.2 (nowhere _ _)
            (fun _ none => (nomatch none)) fun succeeds => (nomatch succeeds)
    | icePump address attempt => exact sound.goesTo stack current atPoint
    | iceTest address attempt =>
        unfold step
        dsimp only
        rw [use_current (current address rfl)]
        split
        next => exact sound.goesTo stack current atPoint
        next => exact sound.goesTo stack current atPoint
    | gracePump address attempt =>
        unfold step
        dsimp only
        split
        next => exact sound.goesTo stack current atPoint
        next => exact sound.goesTo stack current atPoint
    | readSdp address => exact sound.reads stack starts
    | candidates =>
        unfold step
        dsimp only
        rw [write_open running.2.1]
        exact sound.goes stack sound.keeps _ _ running.2.1 running.2.2 (nowhere _ _) offered
          fun _ => atPoint
    | finish => exact sound.finishes stack starts

/-! ## Callers, clients and runtimes -/

/-- A start is scheduled. -/
theorem Sound.calls
    (context : StartContext)
    (offerSdp : context.offerSdp = none)
    (returned : context.returned = false)
    (done : context.done = false) :
    { state with
      contexts := Function.update state.contexts state.called context
      called := state.called + 1
      scheduled := state.scheduled ++ [state.called] }.Sound := by
  have older {call : Nat} (isCall : call < state.called) : call ≠ state.called :=
    Nat.ne_of_lt isCall
  have running {frame : StartFrame} (member : frame ∈ state.stack) :
      frame.call ≠ state.called := by
    apply older
    refine (sound.waiting frame.call ?_).1
    exact List.mem_append_left _ (List.mem_map_of_mem member)
  have order : ({ state with
      contexts := Function.update state.contexts state.called context
      called := state.called + 1
      scheduled := state.scheduled ++ [state.called] } : PreviewStarts).pending =
        state.pending ++ [state.called] := by
    unfold pending
    exact (List.append_assoc _ _ _).symm
  constructor
  · constructor
    · intro frame member
      dsimp only
      rw [Function.update_of_ne (running member)]
      exact sound.keeps.running frame member
    · intro call isCall
      dsimp only at isCall ⊢
      rcases Nat.lt_succ_iff_lt_or_eq.mp isCall with isOlder | rfl
      · rw [Function.update_of_ne (older isOlder)]
        exact sound.keeps.offered call isOlder
      · rw [Function.update_self, offerSdp]
        exact fun _ _ none => (nomatch none)
  · rw [order]
    refine List.nodup_append.mpr ⟨sound.distinct, List.nodup_singleton _, ?_⟩
    intro call isPending other isNew
    rw [List.mem_singleton.mp isNew]
    exact older (sound.waiting call isPending).1
  · rw [order]
    intro call isPending
    dsimp only
    rcases List.mem_append.mp isPending with isOlder | isNew
    · have waiting := sound.waiting call isOlder
      rw [Function.update_of_ne (older waiting.1)]
      exact ⟨Nat.lt_succ_of_lt waiting.1, waiting.2⟩
    · rw [List.mem_singleton.mp isNew, Function.update_self]
      exact ⟨Nat.lt_succ_self _, returned, done⟩
  · intro frame member
    dsimp only
    rw [Function.update_of_ne (running member)]
    exact sound.points frame member
  · intro call isCall
    dsimp only at isCall ⊢
    rcases Nat.lt_succ_iff_lt_or_eq.mp isCall with isOlder | rfl
    · rw [Function.update_of_ne (older isOlder)]
      exact sound.finished call isOlder
    · rw [Function.update_self, done]
      exact fun isDone => (nomatch isDone)
  · exact sound.runtimes
  · exact ⟨sound.reentrant.uses, sound.reentrant.writes, sound.reentrant.offers⟩

/-- A start is dispatched. -/
theorem Sound.dispatched
    {index call : Nat}
    (found : state.scheduled[index]? = some call) :
    { state with
      scheduled := state.scheduled.eraseIdx index
      stack := ⟨call, .colors⟩ :: state.stack }.Sound := by
  have order : ({ state with
      scheduled := state.scheduled.eraseIdx index
      stack := ⟨call, .colors⟩ :: state.stack } : PreviewStarts).pending.Perm state.pending := by
    obtain ⟨inside, rfl⟩ := List.getElem?_eq_some_iff.mp found
    unfold pending
    dsimp only
    rw [List.map_cons, List.cons_append]
    exact List.perm_middle.symm.trans
      ((List.getElem_cons_eraseIdx_perm inside).append_left _)
  constructor
  · constructor
    · intro frame member
      rcases List.mem_cons.mp member with rfl | older
      · exact fun _ none => (nomatch none)
      · exact sound.keeps.running frame older
    · exact sound.keeps.offered
  · exact order.nodup_iff.mpr sound.distinct
  · exact fun other isPending => sound.waiting other (order.mem_iff.mp isPending)
  · intro frame member
    rcases List.mem_cons.mp member with rfl | older
    · exact trivial
    · exact sound.points frame older
  · exact sound.finished
  · exact sound.runtimes
  · exact ⟨sound.reentrant.uses, sound.reentrant.writes, sound.reentrant.offers⟩

/-- A caller returns when its start is done. -/
theorem Sound.returned
    (isCall : call < state.called)
    (isOpen : (state.contexts call).returned = false)
    (done : (state.contexts call).done = true) :
    (state.callerReturns call (state.contexts call).rc).Sound := by
  have notPending {other : Nat} (isPending : other ∈ state.pending) : other ≠ call := by
    rintro rfl
    have waiting := (sound.waiting other isPending).2.2
    rw [done] at waiting
    cases waiting
  have running {frame : StartFrame} (member : frame ∈ state.stack) : frame.call ≠ call :=
    notPending (List.mem_append_left _ (List.mem_map_of_mem member))
  unfold callerReturns
  refine sound.changed call _ state.stack _ sound.keeps ?_ ?_ sound.distinct ?_ ?_ ?_ ?_ ?_
  · exact fun _ member _ => member
  · exact fun frame member same => absurd same (running member)
  · exact fun _ isPending => isPending
  · exact fun isPending => absurd rfl (notPending isPending)
  · exact fun notReturned => (nomatch notReturned)
  · exact sound.finished call isCall
  · intro entry member succeeds
    rcases List.mem_append.mp member with older | new
    · exact sound.reentrant.offers entry older succeeds
    · rw [List.mem_singleton.mp new] at succeeds ⊢
      obtain ⟨offer, offered, sdp⟩ := sound.finished call isCall done succeeds
      have current := sound.keeps.offered call isCall isOpen offer offered
      obtain ⟨runtime, found, address⟩ := Option.map_eq_some_iff.mp current
      dsimp only [currentSdp]
      rw [found, Option.bind_some, address, sdp, offered]
      exact ⟨rfl, rfl⟩

/-- A callback of a runtime takes no offer away. -/
theorem Sound.calledBack
    {callback : RuntimeCallback}
    {signals : RuntimeSignals}
    (called : (state.signals address).called callback = some signals) :
    { state with signals := Function.update state.signals address signals }.Sound := by
  have runtime := sound.runtimes address
  have still (other : Nat) (sdp : CStr) (offered : (state.signals other).localSdp = some sdp) :
      (Function.update state.signals address signals other).localSdp = some sdp := by
    by_cases same : other = address
    · subst same
      rw [Function.update_self]
      exact runtime.localSdp_called called offered
    · rw [Function.update_of_ne same]
      exact offered
  have runtimes (other : Nat) : (Function.update state.signals address signals other).Sound := by
    by_cases same : other = address
    · subst same
      rw [Function.update_self]
      exact runtime.called called
    · rw [Function.update_of_ne same]
      exact sound.runtimes other
  have ready (other : Nat) (isReady : (state.signals other).webrtcReady = true) :
      (Function.update state.signals address signals other).webrtcReady = true := by
    rw [← (sound.runtimes other).ready] at isReady
    obtain ⟨sdp, offered⟩ := Option.isSome_iff_exists.mp isReady
    rw [← (runtimes other).ready, still other sdp offered]
    rfl
  have offers (context : StartContext) (offered : Offered state.signals context) :
      Offered (Function.update state.signals address signals) context := by
    obtain ⟨offer, isOffer, sdp⟩ := offered
    exact ⟨offer, isOffer, still offer.address offer.sdp sdp⟩
  refine ⟨⟨sound.keeps.running, sound.keeps.offered⟩, sound.distinct, sound.waiting, ?_, ?_,
    runtimes, ⟨sound.reentrant.uses, sound.reentrant.writes, sound.reentrant.offers⟩⟩
  · intro frame member
    have atPoint := sound.points frame member
    dsimp only
    revert atPoint
    cases frame.point with
    | icePump other attempt => exact ready other
    | iceTest other attempt => exact ready other
    | gracePump other attempt => exact ready other
    | readSdp other => exact ready other
    | candidates => exact offers _
    | finish => exact fun atPoint succeeds => offers _ (atPoint succeeds)
    | _ => exact fun _ => trivial
  · exact fun call isCall done succeeds => offers _ (sound.finished call isCall done succeeds)

/-- Every step that meets the condition keeps the invariant. -/
theorem Sound.next
    {event : Event}
    (meets : state.Undisturbed event)
    (stepped : state.next event = some after) :
    after.Sound := by
  cases event with
  | call profileId colorMode referenceColor =>
      cases stepped
      exact sound.calls _ rfl rfl rfl
  | dispatch index =>
      obtain ⟨_, stepped⟩ := Option.ite_none_right_eq_some.mp stepped
      obtain ⟨call, found, rfl⟩ := Option.map_eq_some_iff.mp stepped
      exact sound.dispatched found
  | goOn starts =>
      obtain ⟨_, stepped⟩ := Option.ite_none_left_eq_some.mp stepped
      cases stepped
      exact sound.goesOn meets
  | returns call =>
      obtain ⟨⟨isCall, isOpen, done⟩, stepped⟩ := Option.ite_none_right_eq_some.mp stepped
      cases stepped
      exact sound.returned isCall isOpen done
  | timeOut call => exact absurd meets id
  | operation operation =>
      cases stepped
      have keeps : state.Keeps (state.engine.apply operation) := meets
      exact ⟨⟨keeps.running, keeps.offered⟩, sound.distinct, sound.waiting, sound.points,
        sound.finished, sound.runtimes,
        ⟨sound.reentrant.uses, sound.reentrant.writes, sound.reentrant.offers⟩⟩
  | callback address callback =>
      obtain ⟨_, stepped⟩ := Option.ite_none_right_eq_some.mp stepped
      obtain ⟨signals, called, rfl⟩ := Option.map_eq_some_iff.mp stepped
      exact sound.calledBack called

end

/-- Before the first start. -/
theorem sound_start
    (webrtcRequestable : Bool) :
    (start webrtcRequestable).Sound where
  keeps := ⟨fun _ member => (nomatch member), fun _ isCall => (nomatch isCall)⟩
  distinct := List.nodup_nil
  waiting := fun _ isPending => (nomatch isPending)
  points := fun _ member => (nomatch member)
  finished := fun _ isCall => (nomatch isCall)
  runtimes := fun _ => RuntimeSignals.sound_new
  reentrant := ⟨rfl, rfl, fun _ member => (nomatch member)⟩

/-- Starts do not disturb each other in any run in which the runtimes of pending starts stay and no
caller times out. -/
theorem reentrant_of_reachable
    (reachable : system.ReachableWhen Undisturbed state) :
    state.Reentrant := by
  have sound : state.Sound := by
    refine @System.ReachableWhen.invariant _ _ system Undisturbed Sound ?_ ?_ state reachable
    · rintro first ⟨webrtcRequestable, rfl⟩
      exact sound_start webrtcRequestable
    · intro before event later sound meets stepped
      exact sound.next meets stepped
  exact sound.reentrant

/-- The function that is running goes on; runtimes start. -/
def goesOnTimes (steps : Nat) : List Event :=
  List.replicate steps (.goOn true)

/-- A start is called, is dispatched and waits for an offer if its profile is encoded. -/
def startCalled (profileId : CStr) : List Event :=
  [.call profileId .sdr true, .dispatch 0] ++ goesOnTimes 4

/-- A runtime has an offer and a candidate. -/
def offerMade (address : Nat) (sdp : CStr) : List Event :=
  [.callback address .mediaPushed, .callback address .timer,
    .callback address (.offerCreated (some sdp)),
    .callback address (.iceCandidate { mlineIndex := 0, candidate := "candidate:1" })]

/-- A start within the start of another profile. -/
theorem reentrant_withinAnother :
    ∃ state : PreviewStarts,
      system.ReachableWhen Undisturbed state ∧ state.Reentrant ∧ state.returns = [
        { call := 1, rc := .notFound, offerSdp := none, current := none },
        { call := 0, rc := .ok, offerSdp := some ⟨0, "v=0"⟩, current := some ⟨0, "v=0"⟩ }] := by
  have runs : (System.run (System.guarded Undisturbed next) (start true)
      (startCalled previewH264Webrtc ++ startCalled programHevcSrt ++ [.returns 1] ++
        offerMade 0 "v=0" ++ goesOnTimes 28 ++ [.returns 0])).map
          (fun state => state.returns) = some [
        { call := 1, rc := .notFound, offerSdp := none, current := none },
        { call := 0, rc := .ok, offerSdp := some ⟨0, "v=0"⟩, current := some ⟨0, "v=0"⟩ }] := by
    decide +kernel
  obtain ⟨state, final, returns⟩ := Option.map_eq_some_iff.mp runs
  have reachable : system.ReachableWhen Undisturbed state :=
    System.reachableWhen_of_run (.initial ⟨true, rfl⟩) final
  exact ⟨state, reachable, reentrant_of_reachable reachable, returns⟩

/-- A start within the start of the same profile: the first one goes on with the runtime that the
second one removed and writes to its context after its caller has timed out, and the second one
returns an offer whose runtime was released before. -/
theorem starts_interfere :
    ∃ state : PreviewStarts,
      system.Reachable state ∧ (0, 0) ∈ state.staleUses ∧ 0 ∈ state.lateWrites ∧
        { call := 1, rc := .ok, offerSdp := some ⟨1, "v=1"⟩, current := none } ∈ state.returns ∧
          ¬state.Reentrant := by
  have runs : (System.run next (start true)
      (startCalled previewH264Webrtc ++ offerMade 0 "v=0" ++ startCalled previewH264Webrtc ++
        offerMade 1 "v=1" ++ goesOnTimes 28 ++
          [.operation (.release (some previewH264Webrtc)), .returns 1, .timeOut 0] ++
            goesOnTimes 28)).map
      (fun state => (state.staleUses.head?, state.lateWrites.head?, state.returns.head?)) =
      some (some (0, 0), some 0,
        some { call := 1, rc := .ok, offerSdp := some ⟨1, "v=1"⟩, current := none }) := by
    decide +kernel
  obtain ⟨state, final, facts⟩ := Option.map_eq_some_iff.mp runs
  simp only [Prod.mk.injEq] at facts
  have reachable : system.Reachable state :=
    System.reachable_of_run (.initial ⟨true, rfl⟩) final
  have stale : (0, 0) ∈ state.staleUses := List.mem_of_mem_head? facts.1
  refine ⟨state, reachable, stale, List.mem_of_mem_head? facts.2.1,
    List.mem_of_mem_head? facts.2.2, fun reentrant => ?_⟩
  rw [reentrant.uses] at stale
  cases stale

end PreviewStarts
end Engine
end SbsServer
