import SbsServer.Engine.PreviewSession

/-!
# Starting a WebRTC preview

`sbs_preview_engine_webrtc_start` of `preview.c`.  A client's thread schedules
`webrtc_start_on_main_loop` and waits for at most ten seconds; on the main loop
the function starts a runtime and runs the main loop again and again until the
runtime has an offer, so that further starts are dispatched within the first.
The clients' other calls come at any moment, and so do the callbacks on the
threads of the runtimes.
-/

namespace SbsServer
namespace Engine

open CLib

/-- A candidate of `on_ice_candidate`, with its media line. -/
structure IceCandidate where
  mlineIndex : UInt32
  candidate : CStr
  deriving DecidableEq

/-- What the callbacks of a `preview_runtime_t` change. -/
structure RuntimeSignals where
  localSdp : Option CStr
  iceCandidates : List IceCandidate
  webrtcReady : Bool
  webrtcOfferRequested : Bool
  /-- Timers of `schedule_webrtc_offer_after_media`. -/
  timers : Nat
  /-- Offers that `webrtcbin` is creating. -/
  creating : Nat
  deriving DecidableEq

/-- A callback of a runtime. -/
inductive RuntimeCallback
  /-- `on_negotiation_needed` -/
  | negotiationNeeded
  /-- `schedule_webrtc_offer_after_media` -/
  | mediaPushed
  /-- `request_webrtc_offer_after_media` -/
  | timer
  /-- `on_offer_created` -/
  | offerCreated (sdp : Option CStr)
  /-- `on_ice_candidate` -/
  | iceCandidate (candidate : IceCandidate)
  deriving DecidableEq

namespace RuntimeSignals

/-- A new runtime. -/
def new : RuntimeSignals where
  localSdp := none
  iceCandidates := []
  webrtcReady := false
  webrtcOfferRequested := false
  timers := 0
  creating := 0

/-- `request_webrtc_offer` -/
def requestOffer (signals : RuntimeSignals) : RuntimeSignals :=
  if signals.webrtcReady || signals.webrtcOfferRequested then signals
  else { signals with
    webrtcOfferRequested := true
    creating := signals.creating + 1 }

/-- The runtime after a callback, if it can be called. -/
def called (signals : RuntimeSignals) : RuntimeCallback → Option RuntimeSignals
  | .negotiationNeeded => some signals.requestOffer
  | .mediaPushed =>
      if signals.webrtcReady || signals.webrtcOfferRequested then some signals
      else some { signals with
        webrtcOfferRequested := true
        timers := signals.timers + 1 }
  | .timer =>
      if 0 < signals.timers then
        some { signals with
          timers := signals.timers - 1
          webrtcOfferRequested := false }.requestOffer
      else none
  | .offerCreated sdp =>
      if 0 < signals.creating then
        match sdp with
        | none => some { signals with
            creating := signals.creating - 1
            webrtcOfferRequested := false }
        | some sdp => some { signals with
            creating := signals.creating - 1
            localSdp := some sdp
            webrtcReady := true }
      else none
  | .iceCandidate candidate =>
      some { signals with iceCandidates := signals.iceCandidates ++ [candidate] }

end RuntimeSignals

/-- A pointer to the offer of a runtime. -/
structure SdpPointer where
  address : Nat
  sdp : CStr
  deriving DecidableEq

/-- `webrtc_start_ctx_t`, on the stack of `sbs_preview_engine_webrtc_start`. -/
structure StartContext where
  profileId : CStr
  colorMode : PreviewColorMode
  referenceColor : Bool
  profile : Option CStr
  rc : SbsResult
  offerSdp : Option SdpPointer
  iceCandidates : Option (List IceCandidate)
  done : Bool
  /-- A history: the call has returned. -/
  returned : Bool
  deriving DecidableEq

/-- The context at the start of a call. -/
def StartContext.new
    (profileId : CStr)
    (colorMode : PreviewColorMode)
    (referenceColor : Bool) : StartContext where
  profileId := profileId
  colorMode := colorMode
  referenceColor := referenceColor
  profile := none
  rc := .ok
  offerSdp := none
  iceCandidates := none
  done := false
  returned := false

/-- Where `webrtc_start_on_main_loop` is; the address is that of its local `runtime`. -/
inductive StartPoint
  /-- Store the colours. -/
  | colors
  /-- `sbs_preview_engine_ensure_profile` -/
  | ensure
  /-- Look the runtime up. -/
  | lookup
  /-- The condition of the loop that waits for the offer. -/
  | offerTest (address attempt : Nat)
  /-- `g_main_context_iteration` in that loop. -/
  | offerPump (address attempt : Nat)
  /-- Test whether the loop was left with an offer. -/
  | readyTest (address : Nat)
  /-- `g_main_context_iteration` in the loop that waits for candidates. -/
  | icePump (address attempt : Nat)
  /-- Count the candidates. -/
  | iceTest (address attempt : Nat)
  /-- `g_main_context_iteration` in the grace period. -/
  | gracePump (address attempt : Nat)
  /-- Read the offer. -/
  | readSdp (address : Nat)
  /-- `get_webrtc_ice_candidates` -/
  | candidates
  /-- The label `done`. -/
  | finish
  deriving DecidableEq

namespace StartPoint

/-- The local `runtime`, as long as it is used. -/
def runtime : StartPoint → Option Nat
  | .offerTest address _ => some address
  | .offerPump address _ => some address
  | .readyTest address => some address
  | .icePump address _ => some address
  | .iceTest address _ => some address
  | .gracePump address _ => some address
  | .readSdp address => some address
  | _ => none

/-- The main loop is running within the function. -/
def pumps : StartPoint → Bool
  | .offerPump _ _ => true
  | .icePump _ _ => true
  | .gracePump _ _ => true
  | _ => false

end StartPoint

/-- A `webrtc_start_on_main_loop` that is running. -/
structure StartFrame where
  call : Nat
  point : StartPoint
  deriving DecidableEq

/-- A call that returned, with the offer that was current for its profile then. -/
structure StartReturn where
  call : Nat
  rc : SbsResult
  offerSdp : Option SdpPointer
  current : Option SdpPointer
  deriving DecidableEq

/-- `runtime` is the one in `engine->runtimes`. -/
def PreviewSessions.IsCurrent
    (engine : PreviewSessions)
    (id : CStr)
    (address : Nat) : Prop :=
  (engine.runtimes.lookup id).map PreviewRuntime.address = some address

instance (engine : PreviewSessions) (id : CStr) (address : Nat) :
    Decidable (engine.IsCurrent id address) :=
  inferInstanceAs (Decidable (_ = _))

/-- The runtimes whose threads are running. -/
def PreviewSessions.addresses (engine : PreviewSessions) : List Nat :=
  engine.runtimes.toList.map fun entry => entry.2.address

/-- The colours that `webrtc_start_on_main_loop` stores. -/
def PreviewSessions.storeColors
    (engine : PreviewSessions)
    (id : CStr)
    (colorMode : PreviewColorMode)
    (referenceColor : Bool) : PreviewSessions :=
  match engine.profiles.lookup id with
  | none => engine
  | some profile =>
      let mode := if engine.srcColorMode = .hdr10 then colorMode else .sdr
      engine.store id { profile with
        activeColorMode := mode
        inputColorMode := mode
        referenceColor := referenceColor }

/-- The main loop, the runtimes and the callers. -/
structure PreviewStarts where
  engine : PreviewSessions
  /-- The runtimes by their address; what a removed one was last. -/
  signals : Nat → RuntimeSignals
  contexts : Nat → StartContext
  called : Nat
  /-- Starts that the main loop has not dispatched yet. -/
  scheduled : List Nat
  /-- The functions that are running within each other, the innermost first. -/
  stack : List StartFrame
  /-- A history: uses of a runtime that was removed, with the start. -/
  staleUses : List (Nat × Nat)
  /-- A history: starts that wrote to the context of a call that had returned. -/
  lateWrites : List Nat
  /-- A history: the calls that returned. -/
  returns : List StartReturn

namespace PreviewStarts

/-- The main loop with a new engine. -/
def start (webrtcRequestable : Bool) : PreviewStarts where
  engine := .new webrtcRequestable
  signals := fun _ => .new
  contexts := fun _ => .new "" .sdr false
  called := 0
  scheduled := []
  stack := []
  staleUses := []
  lateWrites := []
  returns := []

/-- The context of a call is written. -/
def write
    (state : PreviewStarts)
    (call : Nat)
    (change : StartContext → StartContext) : PreviewStarts :=
  { state with
    contexts := Function.update state.contexts call (change (state.contexts call))
    lateWrites :=
      if (state.contexts call).returned then state.lateWrites ++ [call] else state.lateWrites }

/-- A runtime is used. -/
def use
    (state : PreviewStarts)
    (call address : Nat) : PreviewStarts :=
  { state with
    staleUses :=
      if state.engine.IsCurrent (state.contexts call).profileId address then state.staleUses
      else state.staleUses ++ [(call, address)] }

/-- The function that is running goes on at a point. -/
def goTo
    (state : PreviewStarts)
    (call : Nat)
    (rest : List StartFrame)
    (point : StartPoint) : PreviewStarts :=
  { state with stack := ⟨call, point⟩ :: rest }

/-- `get_webrtc_ice_candidates` -/
def getWebrtcIceCandidates
    (state : PreviewStarts)
    (id : CStr) : Option (List IceCandidate) :=
  (state.engine.runtimes.lookup id).map fun runtime =>
    (state.signals runtime.address).iceCandidates

/-- The next access of `webrtc_start_on_main_loop`.  The flag says whether a runtime starts. -/
def step
    (state : PreviewStarts)
    (call : Nat)
    (rest : List StartFrame)
    (starts : Bool) : StartPoint → PreviewStarts
  | .colors =>
      let context := state.contexts call
      { state with
        engine := state.engine.storeColors context.profileId context.colorMode
          context.referenceColor }.goTo call rest .ensure
  | .ensure =>
      let id := (state.contexts call).profileId
      let (rc, engine) := state.engine.ensureProfile (some id) starts
      let ensured := { state with engine := engine }
      if rc = .ok then
        (ensured.write call ({ · with rc := rc, profile := some id })).goTo call rest .lookup
      else (ensured.write call ({ · with rc := rc })).goTo call rest .finish
  | .lookup =>
      match state.engine.runtimes.lookup (state.contexts call).profileId with
      | some runtime => state.goTo call rest (.offerTest runtime.address 0)
      | none => (state.write call ({ · with rc := .notFound })).goTo call rest .finish
  | .offerTest address attempt =>
      if attempt < 500 then
        if (state.signals address).webrtcReady then
          (state.use call address).goTo call rest (.readyTest address)
        else (state.use call address).goTo call rest (.offerPump address attempt)
      else state.goTo call rest (.readyTest address)
  | .offerPump address attempt => state.goTo call rest (.offerTest address (attempt + 1))
  | .readyTest address =>
      if (state.signals address).webrtcReady then
        (state.use call address).goTo call rest (.icePump address 0)
      else
        ((state.use call address).write call ({ · with offerSdp := none, rc := .io })).goTo call
          rest .finish
  | .icePump address attempt => state.goTo call rest (.iceTest address attempt)
  | .iceTest address attempt =>
      if (state.signals address).iceCandidates.isEmpty && attempt + 1 < 200 then
        (state.use call address).goTo call rest (.icePump address (attempt + 1))
      else (state.use call address).goTo call rest (.gracePump address 0)
  | .gracePump address attempt =>
      if attempt + 1 < 20 then state.goTo call rest (.gracePump address (attempt + 1))
      else state.goTo call rest (.readSdp address)
  | .readSdp address =>
      let sdp := (state.signals address).localSdp.map fun sdp => ⟨address, sdp⟩
      ((state.use call address).write call ({ · with offerSdp := sdp })).goTo call rest .candidates
  | .candidates =>
      let candidates := state.getWebrtcIceCandidates (state.contexts call).profileId
      (state.write call ({ · with iceCandidates := candidates })).goTo call rest .finish
  | .finish => { state.write call ({ · with done := true }) with stack := rest }

/-- The function that is running goes on. -/
def goOn (state : PreviewStarts) (starts : Bool) : PreviewStarts :=
  match state.stack with
  | [] => state
  | ⟨call, point⟩ :: rest => state.step call rest starts point

/-- The offer of the current runtime of a profile. -/
def currentSdp
    (state : PreviewStarts)
    (id : CStr) : Option SdpPointer :=
  (state.engine.runtimes.lookup id).bind fun runtime =>
    (state.signals runtime.address).localSdp.map fun sdp => ⟨runtime.address, sdp⟩

/-- A call returns. -/
def callerReturns
    (state : PreviewStarts)
    (call : Nat)
    (rc : SbsResult) : PreviewStarts :=
  let context := state.contexts call
  { state with
    contexts := Function.update state.contexts call { context with rc := rc, returned := true }
    returns := state.returns ++ [{
      call := call
      rc := rc
      offerSdp := context.offerSdp
      current := state.currentSdp context.profileId }] }

/-- A step of the main loop, of a runtime or of a client. -/
inductive Event
  /-- `sbs_preview_engine_webrtc_start` is called and schedules its function. -/
  | call (profileId : CStr) (colorMode : PreviewColorMode) (referenceColor : Bool)
  /-- The main loop dispatches a start. -/
  | dispatch (index : Nat)
  /-- The function that is running goes on. -/
  | goOn (starts : Bool)
  /-- A caller finds its start done and returns. -/
  | returns (call : Nat)
  /-- The ten seconds of a caller are over. -/
  | timeOut (call : Nat)
  /-- Another call of a client. -/
  | operation (operation : PreviewSessions.PreviewOperation)
  /-- A callback of a runtime. -/
  | callback (address : Nat) (callback : RuntimeCallback)
  deriving DecidableEq

/-- The main loop is running, within the innermost function if there is one. -/
def dispatches (state : PreviewStarts) : Bool :=
  match state.stack with
  | [] => true
  | frame :: _ => frame.point.pumps

/-- The state after a step, if it is possible. -/
def next (state : PreviewStarts) : Event → Option PreviewStarts
  | .call profileId colorMode referenceColor => some { state with
      contexts := Function.update state.contexts state.called
        (.new profileId colorMode referenceColor)
      called := state.called + 1
      scheduled := state.scheduled ++ [state.called] }
  | .dispatch index =>
      if state.dispatches then
        (state.scheduled[index]?).map fun call => { state with
          scheduled := state.scheduled.eraseIdx index
          stack := ⟨call, .colors⟩ :: state.stack }
      else none
  | .goOn starts => if state.stack.isEmpty then none else some (state.goOn starts)
  | .returns call =>
      let context := state.contexts call
      if call < state.called ∧ context.returned = false ∧ context.done = true then
        some (state.callerReturns call context.rc)
      else none
  | .timeOut call =>
      let context := state.contexts call
      if call < state.called ∧ context.returned = false ∧ context.done = false then
        some (state.callerReturns call .io)
      else none
  | .operation operation => some { state with engine := state.engine.apply operation }
  | .callback address callback =>
      -- the thread of a runtime is joined before the runtime is freed
      if address ∈ state.engine.addresses then
        ((state.signals address).called callback).map fun signals => { state with
          signals := Function.update state.signals address signals }
      else none

/-- The main loop, the runtimes and the callers, interleaved. -/
def system : System PreviewStarts Event :=
  .ofNext (fun state => ∃ webrtcRequestable, state = start webrtcRequestable) next

/-- No removed runtime is used, no context of a call that has returned is written, and every call
that succeeded returned the offer that was current for its profile then. -/
structure Reentrant (state : PreviewStarts) : Prop where
  uses : state.staleUses = []
  writes : state.lateWrites = []
  offers : ∀ call ∈ state.returns, call.rc = .ok →
    call.offerSdp.isSome = true ∧ call.offerSdp = call.current

/-- The runtimes of the starts that have not returned are current. -/
structure Keeps
    (state : PreviewStarts)
    (engine : PreviewSessions) : Prop where
  running : ∀ frame ∈ state.stack, ∀ address ∈ frame.point.runtime,
    engine.IsCurrent (state.contexts frame.call).profileId address
  offered : ∀ call < state.called, (state.contexts call).returned = false →
    ∀ offer ∈ (state.contexts call).offerSdp,
      engine.IsCurrent (state.contexts call).profileId offer.address

instance (state : PreviewStarts) (engine : PreviewSessions) :
    Decidable (state.Keeps engine) :=
  decidable_of_iff
    ((∀ frame ∈ state.stack, ∀ address ∈ frame.point.runtime,
        engine.IsCurrent (state.contexts frame.call).profileId address) ∧
      ∀ call < state.called, (state.contexts call).returned = false →
        ∀ offer ∈ (state.contexts call).offerSdp,
          engine.IsCurrent (state.contexts call).profileId offer.address)
    ⟨fun keeps => ⟨keeps.1, keeps.2⟩, fun keeps => ⟨keeps.running, keeps.offered⟩⟩

/-- The engine once the function that is running has ensured its profile, if it is about to. -/
def ensured (state : PreviewStarts) (starts : Bool) : PreviewSessions :=
  match state.stack with
  | ⟨call, .ensure⟩ :: _ =>
      (state.engine.ensureProfile (some (state.contexts call).profileId) starts).2
  | _ => state.engine

/-- The runtimes of the starts that have not returned stay, and no caller times out. -/
def Undisturbed (state : PreviewStarts) : Event → Prop
  | .timeOut _ => False
  | .operation operation => state.Keeps (state.engine.apply operation)
  | .goOn starts => state.Keeps (state.ensured starts)
  | _ => True

instance (state : PreviewStarts) (event : Event) :
    Decidable (state.Undisturbed event) := by
  cases event with
  | timeOut call => exact isFalse id
  | operation operation =>
      exact inferInstanceAs (Decidable (state.Keeps (state.engine.apply operation)))
  | goOn starts => exact inferInstanceAs (Decidable (state.Keeps (state.ensured starts)))
  | _ => exact isTrue trivial

end PreviewStarts
end Engine
end SbsServer
