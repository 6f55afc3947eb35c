import SbsServer.Api.AuthFile
import SbsServer.Api.Revocation

/-!
# The first setup

Whether `auth.setup` is still open is derived from what `load_config` left in
memory.  Credentials that were set close it for good, over restarts and failed
writes, as long as every restart is able to read the file again: a loader that
gives up leaves the manager as it is before the first setup.
-/

namespace SbsServer
namespace Api

open CLib

/-- How `load_config` fares with a file that exists. -/
inductive LoadOutcome
  | read
  /-- `g_file_get_contents` fails. -/
  | unreadable
  /-- `cJSON_Parse` returns no object. -/
  | notParsable
  deriving DecidableEq

/-- The document that `load_config` works with. -/
def LoadOutcome.document (file : Option CJson) : LoadOutcome → Option CJson
  | .read => file
  | .unreadable => none
  | .notParsable => none

/-- A server and a history: credentials were set and since then neither was the file deleted nor
the server switched to passwordless mode. -/
structure SetupHistory (World : Type) where
  server : ApiServer World
  established : Bool

/-- What happens to a server over its restarts. -/
inductive SetupEvent (World : Type)
  | connect
  | disconnect (client : UInt64)
  | request (client : Option UInt64) (request : Option CJson) (draws : Draws)
  /-- The server stops and starts again. -/
  | restart (outcome : LoadOutcome) (world : World)
  /-- An administrator deletes `auth.json`. -/
  | deleteFile

/-- A request to leave the server without a password. -/
def asksPasswordless (request : Option CJson) : Bool :=
  let params := CJson.getObjectItem request "params"
  requestMethod request = some ("auth.setPasswordless" : CStr) && isTrue params "enabled" ||
    requestMethod request = some ("auth.setup" : CStr) && isTrue params "passwordless"

/-- A request to set credentials. -/
def asksCredentials (request : Option CJson) : Bool :=
  requestMethod request = some ("auth.updateCredentials" : CStr) ||
    requestMethod request = some ("auth.setup" : CStr) && !asksPasswordless request

section Runs

variable {World : Type}

/-- A new process on the directory of a server. -/
def restarted
    (server : ApiServer World)
    (outcome : LoadOutcome)
    (world : World) : ApiServer World where
  auth := {
    auth := loadConfig (outcome.document server.auth.file)
    file := server.auth.file }
  clients := .empty
  nextClientId := 1
  methods := server.methods
  world := world

/-- Whether credentials count as set after a request. -/
def establishedAfter
    (request : Option CJson)
    (response : CJson)
    (established : Bool) : Bool :=
  if succeeded response && asksCredentials request then true
  else if succeeded response && asksPasswordless request then false
  else established

/-- The state after an event. -/
def SetupHistory.next
    (checksum : CStr → CStr)
    (others : OtherHandlers World)
    (state : SetupHistory World) : SetupEvent World → Option (SetupHistory World)
  | .connect => some { state with server := addClient state.server }
  | .disconnect client => some { state with server := dropClient state.server client }
  | .request client request draws =>
      if client.all (connected state.server) then
        let (response, after) := dispatchJson checksum others draws state.server client request
        some {
          server := after
          established := establishedAfter request response state.established }
      else none
  | .restart outcome world => some { state with server := restarted state.server outcome world }
  | .deleteFile => some {
      server := { state.server with auth := { state.server.auth with file := none } }
      established := false }

/-- A server that was just started on some directory. -/
def SetupHistory.Initial (state : SetupHistory World) : Prop :=
  ∃ file methods world, (methods = coreMethods ∨ methods = controllerMethods) ∧
    state = {
      server := {
        auth := managerNew file
        clients := .empty
        nextClientId := 1
        methods := methods
        world := world }
      established := false }

/-- Runs of a server over its restarts. -/
def setupRuns
    (checksum : CStr → CStr)
    (others : OtherHandlers World) : System (SetupHistory World) (SetupEvent World) :=
  .ofNext SetupHistory.Initial (SetupHistory.next checksum others)

/-- Once credentials were set, `auth.setup` fails for every client that is not authenticated. -/
def SetupClosed
    (checksum : CStr → CStr)
    (others : OtherHandlers World)
    (state : SetupHistory World) : Prop :=
  state.established = true → ∀ client request draws,
    connected state.server client = true → state.server.authenticated client = false →
      requestMethod request = some ("auth.setup" : CStr) →
        succeeded (dispatchJson checksum others draws state.server (some client) request).1 =
          false

/-- A restart after credentials were set reads the file. -/
def ReadsBack (state : SetupHistory World) : SetupEvent World → Prop
  | .restart outcome _ => state.established = true → outcome = .read
  | _ => True

instance (state : SetupHistory World) : ∀ event, Decidable (ReadsBack state event)
  | .restart outcome _ =>
      inferInstanceAs (Decidable (state.established = true → outcome = .read))
  | .connect => .isTrue trivial
  | .disconnect _ => .isTrue trivial
  | .request .. => .isTrue trivial
  | .deleteFile => .isTrue trivial

end Runs

/-- The effects of a request on the manager. -/
inductive Touched
    (checksum : CStr → CStr)
    (draws : Draws)
    (state : AuthState) : AuthState → Prop
  | kept : Touched checksum draws state state
  | opened : Touched checksum draws state (openSession draws state)
  | called (call : AuthCall) : Touched checksum draws state (call.run checksum draws state).2

section Touched

variable {World : Type} {checksum : CStr → CStr} {draws : Draws} {server : ApiServer World}
  {client : Option UInt64} {params : Option CJson}

/-- The common end of the logins puts the manager of the attempt in place. -/
theorem auth_answerLogin
    (attempt : SbsResult × Option CStr × AuthState)
    (number : ℤ)
    (message : CStr) :
    (answerLogin server client attempt number message).2.auth = attempt.2.2 := by
  unfold answerLogin
  split
  next => exact auth_setAuthenticated
  next => rfl

theorem touched_setup :
    Touched checksum draws server.auth
      (handleAuthSetup checksum draws server client params).2.auth := by
  unfold handleAuthSetup
  split
  next =>
    split
    next =>
      rw [auth_answerLogin]
      exact .called (.setPasswordless true)
    next => exact .kept
  next =>
    rw [auth_answerLogin]
    exact .called (.setup (CJson.str params "username") (CJson.str params "password"))

theorem touched_login :
    Touched checksum draws server.auth
      (handleAuthLogin checksum draws server client params).2.auth := by
  unfold handleAuthLogin
  rw [auth_answerLogin]
  rcases AuthStore.loginPassword_effect checksum draws server.auth
    (CJson.str params "username") (CJson.str params "password") with same | opens
  · rw [same]
    exact .kept
  · rw [opens]
    exact .opened

theorem touched_loginApiKey :
    Touched checksum draws server.auth
      (handleAuthLoginApiKey checksum draws server client params).2.auth := by
  unfold handleAuthLoginApiKey
  rw [auth_answerLogin]
  rcases AuthStore.loginApiKey_effect checksum draws server.auth (CJson.str params "api_key")
    with same | opens
  · rw [same]
    exact .kept
  · rw [opens]
    exact .opened

theorem touched_createApiKey :
    Touched checksum draws server.auth
      (handleAuthCreateApiKey checksum draws server params).2.auth := by
  have auth : (handleAuthCreateApiKey checksum draws server params).2.auth =
      ((AuthCall.createApiKey (CJson.str params "name") true).run checksum draws
        server.auth).2 := by
    unfold handleAuthCreateApiKey
    dsimp only
    split <;> rfl
  rw [auth]
  exact .called _

theorem touched_deleteApiKey :
    Touched checksum draws server.auth
      (handleAuthDeleteApiKey draws server params).2.auth := by
  have auth : (handleAuthDeleteApiKey draws server params).2.auth =
      ((AuthCall.deleteApiKey (CJson.str params "id")).run checksum draws server.auth).2 := by
    unfold handleAuthDeleteApiKey
    dsimp only
    split <;> rfl
  rw [auth]
  exact .called _

theorem touched_updateCredentials :
    Touched checksum draws server.auth
      (handleAuthUpdateCredentials checksum draws server client params).2.auth := by
  unfold handleAuthUpdateCredentials
  rw [auth_answerLogin]
  exact .called (.updateCredentials (CJson.str params "username") (CJson.str params "password"))

theorem touched_setPasswordless :
    Touched checksum draws server.auth
      (handleAuthSetPasswordless draws server params).2.auth := by
  have auth : (handleAuthSetPasswordless draws server params).2.auth =
      ((AuthCall.setPasswordless (isTrue params "enabled")).run checksum draws
        server.auth).2 := by
    unfold handleAuthSetPasswordless
    dsimp only
    split <;> rfl
  rw [auth]
  exact .called _

/-- Every handler has one of the effects. -/
theorem touched_handle
    (others : OtherHandlers World)
    (method : CStr) :
    Touched checksum draws server.auth
      (handle checksum others draws server client method params).2.auth := by
  unfold handle
  split
  · exact .kept
  split
  · exact touched_setup
  split
  · exact touched_login
  split
  · exact touched_loginApiKey
  split
  · exact touched_createApiKey
  split
  · exact .kept
  split
  · exact touched_deleteApiKey
  split
  · exact touched_updateCredentials
  split
  · exact touched_setPasswordless
  · exact .kept

/-- Every request has one of the effects. -/
theorem touched_dispatchJson
    (others : OtherHandlers World)
    (request : Option CJson) :
    Touched checksum draws server.auth
      (dispatchJson checksum others draws server client request).2.auth := by
  cases routed : (route checksum server client request).1 with
  | rejected code message =>
      rw [dispatchJson_rejected routed, auth_route]
      exact .kept
  | call method =>
      rw [dispatchJson_call routed]
      have touched := @touched_handle World checksum draws
        (route checksum server client request).2 client (CJson.getObjectItem request "params")
        others method
      rw [auth_route] at touched
      exact touched

end Touched

/-! ## Credentials in memory and in the file -/

/-- A manager that needs no setup, whatever file exists. -/
def HasLogin (auth : AuthManager) : Prop :=
  passwordless auth = true ∨ (auth.username.isSome = true ∧ auth.passwordHash.isSome = true)

/-- A manager and a file that need no setup. -/
structure Sealed (state : AuthState) : Prop where
  memory : HasLogin state.auth
  file : ∃ document, state.file = some document ∧ HasLogin (loadConfig (some document))

/-- No setup is required. -/
theorem Sealed.notRequired
    {state : AuthState}
    (isSealed : Sealed state) :
    setupRequired state = false := by
  obtain ⟨document, exists_, _⟩ := isSealed.file
  unfold setupRequired
  rcases isSealed.memory with open_ | ⟨named, hashed⟩
  · rw [if_pos open_]
  · split
    next => rfl
    next =>
      rw [exists_, ← Option.not_isSome, ← Option.not_isSome, named, hashed]
      rfl

/-- A login is saved and loaded again. -/
theorem HasLogin.saved
    {auth : AuthManager}
    (login : HasLogin auth) :
    HasLogin (loadConfig (some (configJson auth))) := by
  rw [loadConfig_configJson]
  rcases login with open_ | credentials
  · left
    have mode : auth.mode = some ("passwordless" : CStr) := of_decide_eq_true open_
    rw [passwordless, mode]
    rfl
  · exact .inr credentials

section Calls

variable {checksum : CStr → CStr} {draws : Draws} {state : AuthState} {call : AuthCall}
  {written : AuthManager}

/-- A call that sets credentials writes them. -/
theorem hasLogin_written_of_logsIn
    (sets : call.logsIn = true)
    (writes : call.written checksum draws state = some written) :
    HasLogin written := by
  cases writes_of_written writes with
  | setup => exact .inr ⟨rfl, rfl⟩
  | updateCredentials => exact .inr ⟨rfl, rfl⟩
  | createApiKey => cases sets
  | deleteApiKey => cases sets
  | passwordless => cases sets
  | password => cases sets

/-- No call takes the login away. -/
theorem hasLogin_written
    (login : HasLogin state.auth)
    (writes : call.written checksum draws state = some written) :
    HasLogin written := by
  cases writes_of_written writes with
  | setup => exact hasLogin_written_of_logsIn rfl writes
  | updateCredentials => exact hasLogin_written_of_logsIn rfl writes
  | createApiKey => exact login
  | deleteApiKey => exact login
  | passwordless => exact .inl rfl
  | password named hidden =>
      rw [Option.isNone_eq_false_iff] at named hidden
      exact .inr ⟨named, hidden⟩

/-- The state after a call that saved a login. -/
theorem sealed_saved
    (login : HasLogin written) :
    Sealed (call.saved draws written) := by
  unfold AuthCall.saved
  dsimp only
  split
  next => exact ⟨login, configJson written, rfl, login.saved⟩
  next => exact ⟨login, configJson written, rfl, login.saved⟩

/-- No call breaks the seal, whether or not it saves. -/
theorem sealed_call
    (isSealed : Sealed state)
    (call : AuthCall) :
    Sealed (call.run checksum draws state).2 := by
  cases writes : call.written checksum draws state with
  | none =>
      rw [(run_of_refused checksum draws state writes).2]
      exact isSealed
  | some written =>
      have login := hasLogin_written isSealed.memory writes
      rw [run_of_written checksum draws state writes]
      split
      next => exact sealed_saved login
      next => exact ⟨login, isSealed.file⟩

/-- A call that sets credentials and succeeds seals the manager. -/
theorem sealed_of_ok
    (sets : call.logsIn = true)
    (succeeds : (call.run checksum draws state).1 = .ok) :
    Sealed (call.run checksum draws state).2 := by
  cases writes : call.written checksum draws state with
  | none => exact absurd succeeds (run_of_refused checksum draws state writes).1
  | some written =>
      rw [run_of_written checksum draws state writes] at succeeds ⊢
      split
      next => exact sealed_saved (hasLogin_written_of_logsIn sets writes)
      next unsaved =>
        rw [if_neg unsaved] at succeeds
        cases succeeds

/-- No request breaks the seal. -/
theorem Sealed.touched
    {after : AuthState}
    (isSealed : Sealed state)
    (touched : Touched checksum draws state after) :
    Sealed after := by
  cases touched with
  | kept => exact isSealed
  | opened => exact ⟨isSealed.memory, isSealed.file⟩
  | called call => exact sealed_call isSealed call

end Calls

section Requests

variable {World : Type} {checksum : CStr → CStr} {others : OtherHandlers World} {draws : Draws}
  {server : ApiServer World} {client : Option UInt64} {request : Option CJson}

/-- The handler of the method that sets the server up. -/
theorem handle_setup
    (checksum : CStr → CStr)
    (others : OtherHandlers World)
    (draws : Draws)
    (server : ApiServer World)
    (client : Option UInt64)
    (params : Option CJson) :
    handle checksum others draws server client "auth.setup" params =
      handleAuthSetup checksum draws server client params :=
  rfl

/-- A login that has a result was accepted. -/
theorem ok_of_succeeded_answerLogin
    {id : Option CJson}
    {attempt : SbsResult × Option CStr × AuthState}
    {number : ℤ}
    {message : CStr}
    (success :
      succeeded (replyResponse id (answerLogin server client attempt number message).1) = true) :
    attempt.1 = .ok := by
  by_contra failed
  unfold answerLogin at success
  rw [if_neg failed, not_succeeded_refuse] at success
  cases success

/-- The method of a request that was answered with a result. -/
theorem routed_of_succeeded
    (success : succeeded (dispatchJson checksum others draws server client request).1 = true)
    {method : CStr}
    (named : requestMethod request = some method) :
    (route checksum server client request).1 = .call method := by
  cases routed : (route checksum server client request).1 with
  | rejected code message =>
      rw [dispatchJson_rejected routed] at success
      cases success
  | call called =>
      have same := (requestMethod_of_route routed).symm.trans named
      rw [Option.some.inj same]

/-- A request that sets credentials and is answered with a result. -/
theorem sealed_of_asksCredentials
    (asks : asksCredentials request = true)
    (success : succeeded (dispatchJson checksum others draws server client request).1 = true) :
    Sealed (dispatchJson checksum others draws server client request).2.auth := by
  rw [asksCredentials, Bool.or_eq_true, Bool.and_eq_true, decide_eq_true_eq,
    decide_eq_true_eq] at asks
  rcases asks with updates | ⟨setsUp, withPassword⟩
  · have routed := routed_of_succeeded success updates
    rw [dispatchJson_call routed] at success ⊢
    dsimp only at success ⊢
    rw [handle_updateCredentials, handleAuthUpdateCredentials] at success ⊢
    rw [auth_answerLogin]
    exact @sealed_of_ok checksum draws _ (.updateCredentials _ _) rfl
      (ok_of_succeeded_answerLogin success)
  · have routed := routed_of_succeeded success setsUp
    have secret : isTrue (CJson.getObjectItem request "params") "passwordless" = false := by
      rw [asksPasswordless, setsUp, Bool.not_eq_true', Bool.or_eq_false_iff] at withPassword
      simpa using withPassword.2
    rw [dispatchJson_call routed] at success ⊢
    dsimp only at success ⊢
    rw [handle_setup, handleAuthSetup, secret, if_neg Bool.false_ne_true] at success ⊢
    rw [auth_answerLogin]
    exact @sealed_of_ok checksum draws _ (.setup _ _) rfl
      (ok_of_succeeded_answerLogin success)

theorem Sealed.setup_refused
    (isSealed : Sealed server.auth)
    (named : requestMethod request = some ("auth.setup" : CStr)) :
    succeeded (dispatchJson checksum others draws server client request).1 = false := by
  by_contra succeeds
  have success := Bool.not_eq_false _ ▸ succeeds
  have routed := routed_of_succeeded success named
  have ready : setupRequired (route checksum server client request).2.auth = false := by
    rw [auth_route]
    exact isSealed.notRequired
  rw [dispatchJson_call routed] at success
  dsimp only at success
  rw [handle_setup, handleAuthSetup] at success
  split at success
  next =>
    rw [ready, if_neg Bool.false_ne_true, not_succeeded_refuse] at success
    cases success
  next =>
    have refused : (AuthCall.setup
        (CJson.str (CJson.getObjectItem request "params") "username")
        (CJson.str (CJson.getObjectItem request "params") "password")).written checksum draws
        (route checksum server client request).2.auth = none := by
      unfold AuthCall.written
      dsimp only
      split
      next => rw [ready, if_neg Bool.false_ne_true]
      next => rfl
    exact absurd (ok_of_succeeded_answerLogin success)
      (run_of_refused checksum draws _ refused).1

end Requests

section Invariant

variable {World : Type} {checksum : CStr → CStr} {others : OtherHandlers World}

/-- Credentials that count as set are in memory and in the file. -/
def Kept (state : SetupHistory World) : Prop :=
  state.established = true → Sealed state.server.auth

/-- One event. -/
theorem Kept.next
    {state after : SetupHistory World}
    (kept : Kept state)
    {event : SetupEvent World}
    (reads : ReadsBack state event)
    (stepped : state.next checksum others event = some after) :
    Kept after := by
  cases event with
  | connect =>
      cases stepped
      exact kept
  | disconnect client =>
      cases stepped
      exact kept
  | request client request draws =>
      simp only [SetupHistory.next] at stepped
      split at stepped
      next =>
        cases stepped
        intro established
        dsimp only [establishedAfter] at established
        split at established
        next sets =>
          rw [Bool.and_eq_true] at sets
          exact sealed_of_asksCredentials sets.2 sets.1
        next =>
          split at established
          next => cases established
          next => exact (kept established).touched (touched_dispatchJson others request)
      next => cases stepped
  | restart outcome world =>
      cases stepped
      intro established
      obtain ⟨document, present, login⟩ := (kept established).file
      have read : outcome = .read := reads established
      refine ⟨?_, document, present, login⟩
      dsimp only [restarted]
      rw [read, LoadOutcome.document, present]
      exact login
  | deleteFile =>
      cases stepped
      exact nofun

/-- In every run whose restarts read the file again, `auth.setup` fails from the moment credentials
were set, until the file is deleted or the server is switched to passwordless mode. -/
theorem setupClosed_of_reachable
    {state : SetupHistory World}
    (reachable : (setupRuns checksum others).ReachableWhen ReadsBack state) :
    SetupClosed checksum others state := by
  have kept : Kept state := by
    refine reachable.invariant ?_ ?_
    · rintro _ ⟨file, methods, world, _, rfl⟩
      exact nofun
    · intro before event after kept reads stepped
      exact kept.next reads stepped
  intro established client request draws _ _ named
  exact (kept established).setup_refused named

end Invariant

section Unread

variable {World : Type} {checksum : CStr → CStr} {others : OtherHandlers World}

/-- A request to set the server up. -/
def setupRequest : Option CJson :=
  credentialsRequest "auth.setup" "visitor" "secret"

/-- On a server that requires a setup the first visitor sets it up. -/
theorem setup_accepted
    {server : ApiServer World}
    (registered : ("auth.setup" : CStr) ∈ server.methods)
    (required : setupRequired server.auth = true)
    {draws : Draws}
    (saves : draws.saves = true)
    (client : Option UInt64) :
    succeeded (dispatchJson checksum others draws server client setupRequest).1 = true := by
  have routed : route checksum server client setupRequest = (.call "auth.setup", server) := by
    have isObject : CJson.isObject setupRequest = true := rfl
    have named : CJson.str setupRequest "method" = some ("auth.setup" : CStr) := rfl
    have isAuth : isAuthMethod "auth.setup" = true := by decide +kernel
    unfold route
    rw [isObject, named]
    simp [registered, isAuth]
  have secret : isTrue (CJson.getObjectItem setupRequest "params") "passwordless" = false := rfl
  have calls : (route checksum server client setupRequest).1 = .call "auth.setup" := by
    rw [routed]
  rw [dispatchJson_call calls, routed]
  dsimp only
  rw [handle_setup, handleAuthSetup, secret, if_neg Bool.false_ne_true,
    setup_eq checksum draws server.auth rfl rfl required, if_pos saves]
  rfl

/-- After a restart that cannot read the file the first client that connects sets the server up
again. -/
theorem not_setupClosed_unread
    {state : SetupHistory World}
    (registered : ("auth.setup" : CStr) ∈ state.server.methods)
    (established : state.established = true)
    {outcome : LoadOutcome}
    (unread : outcome ≠ .read)
    (world : World) :
    ¬SetupClosed checksum others
      { state with server := addClient (restarted state.server outcome world) } := by
  intro closed
  have required : setupRequired (addClient (restarted state.server outcome world)).auth =
      true := by
    cases outcome with
    | read => exact absurd rfl unread
    | unreadable => rfl
    | notParsable => rfl
  have refused := closed established 1 setupRequest AuthStore.savingDraws rfl rfl rfl
  have accepted := @setup_accepted World checksum others
    (addClient (restarted state.server outcome world)) registered required
    AuthStore.savingDraws rfl (some 1)
  rw [accepted] at refused
  cases refused

end Unread

/-- A controller on an empty directory. -/
def freshHistory : SetupHistory Unit where
  server := freshController.server
  established := false

theorem initial_freshHistory : freshHistory.Initial :=
  ⟨none, controllerMethods, (), .inr rfl, rfl⟩

/-- The server is set up by its first client. -/
def firstSetup : SetupEvent Unit :=
  .request (some 1) (credentialsRequest "auth.setup" "admin" "old")
    (sampleDraws "b2xkLXNhbHQtMTgtYnl0ZXMh" "Zmlyc3Qtc2Vzc2lvbi10b2tlbi1vZi0zMi1ieXRlcyE0")

/-- After a restart that cannot read the file a visitor sets the server up again. -/
theorem setup_reopened :
    ∃ state, (setupRuns sampleChecksum silentHandlers).Reachable state ∧
      ¬SetupClosed sampleChecksum silentHandlers state := by
  have runs : (System.run (SetupHistory.next sampleChecksum silentHandlers) freshHistory
      [.connect, firstSetup]).map
      (fun state => (state.established,
        decide (("auth.setup" : CStr) ∈ state.server.methods))) = some (true, true) := by
    decide +kernel
  obtain ⟨state, reached, facts⟩ := Option.map_eq_some_iff.mp runs
  simp only [Prod.mk.injEq, decide_eq_true_eq] at facts
  have reachable : (setupRuns sampleChecksum silentHandlers).Reachable state :=
    System.reachable_of_run (.initial initial_freshHistory) reached
  have restarts : state.next sampleChecksum silentHandlers (.restart .unreadable ()) =
      some { state with server := restarted state.server .unreadable () } := rfl
  have connects : SetupHistory.next sampleChecksum silentHandlers
      { state with server := restarted state.server .unreadable () } .connect =
      some { state with server := addClient (restarted state.server .unreadable ()) } := rfl
  have unread : LoadOutcome.unreadable ≠ .read := by decide
  exact ⟨_, .step (.step reachable trivial restarts) trivial connects,
    not_setupClosed_unread facts.2 facts.1 unread ()⟩

/-- After a setup and a restart `auth.setup` stays closed. -/
theorem setupClosed_afterRestart :
    ∃ state, (setupRuns sampleChecksum silentHandlers).ReachableWhen ReadsBack state ∧
      state.established = true ∧ SetupClosed sampleChecksum silentHandlers state := by
  have runs : (System.run
      (System.guarded ReadsBack (SetupHistory.next sampleChecksum silentHandlers)) freshHistory
      [.restart .unreadable (), .connect, firstSetup, .restart .read (), .connect]).map
      (fun state => state.established) = some true := by
    decide +kernel
  obtain ⟨state, reached, established⟩ := Option.map_eq_some_iff.mp runs
  have reachable : (setupRuns sampleChecksum silentHandlers).ReachableWhen ReadsBack state :=
    System.reachableWhen_of_run (.initial initial_freshHistory) reached
  exact ⟨state, reachable, established, setupClosed_of_reachable reachable⟩

end Api
end SbsServer
