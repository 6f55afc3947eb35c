import SbsServer.Api.Dispatch
import SbsServer.CLib.System

/-!
# Revocation by a change of credentials

A monitor watches the requests and responses of a server and remembers the last
`auth.updateCredentials` that succeeded, the session tokens issued since then
and the clients that presented a credential since then.  The flag
`authenticated` of a client survives the change, so revocation holds in the runs
where no other connected client has it when the credentials change.
-/

namespace SbsServer
namespace Api

open CLib

/-- `method` of a request. -/
def requestMethod (request : Option CJson) : Option CStr :=
  CJson.str request "method"

/-- A string parameter of a request. -/
def requestParam (request : Option CJson) (key : CStr) : Option CStr :=
  CJson.str (CJson.getObjectItem request "params") key

/-- The last successful change of credentials. -/
structure CredentialUpdate where
  /-- The client that issued it, NULL on the local socket. -/
  issuer : Option UInt64
  username : CStr
  password : CStr
  /-- The salt drawn for the password. -/
  salt : CStr
  /-- Session tokens issued since. -/
  tokens : List CStr
  /-- Clients that presented a credential since. -/
  presented : List UInt64

/-- A login with the new password; passwords are told apart by their salted
checksum. -/
def presentsPassword
    (checksum : CStr → CStr)
    (update : CredentialUpdate)
    (request : Option CJson) : Bool :=
  requestMethod request = some ("auth.login" : CStr) &&
    requestParam request "username" = some update.username &&
    (requestParam request "password").any fun password =>
      hashSecret checksum update.salt password =
        hashSecret checksum update.salt update.password

/-- A request with a session token issued after the change. -/
def presentsToken (update : CredentialUpdate) (request : Option CJson) : Bool :=
  (requestParam request "auth_token").any fun token => token ∈ update.tokens

/-- A request with a stored API key. -/
def presentsApiKey
    (checksum : CStr → CStr)
    (auth : AuthManager)
    (request : Option CJson) : Bool :=
  (requestParam request "api_key").any fun apiKey =>
    auth.apiKeys.any fun key => hashSecret checksum key.salt apiKey = key.hash

/-- A request that presents a credential valid after the change. -/
def presents
    (checksum : CStr → CStr)
    (auth : AuthManager)
    (update : CredentialUpdate)
    (request : Option CJson) : Bool :=
  presentsPassword checksum update request || presentsToken update request ||
    presentsApiKey checksum auth request

/-- A response with a result. -/
def succeeded (response : CJson) : Bool :=
  (CJson.getObjectItem (some response) "result").isSome

/-- The session token that a response hands out. -/
def issuedToken (request : Option CJson) (response : CJson) : Option CStr :=
  match requestMethod request with
  | some method =>
      if isAuthMethod method ∨ method = "auth.updateCredentials" then
        CJson.str (CJson.getObjectItem (some response) "result") "token"
      else none
  | none => none

/-- The last change with what a later request adds to it. -/
def CredentialUpdate.remember
    (checksum : CStr → CStr)
    (auth : AuthManager)
    (client : Option UInt64)
    (request : Option CJson)
    (response : CJson)
    (update : CredentialUpdate) : CredentialUpdate :=
  { update with
    tokens := (issuedToken request response).toList ++ update.tokens
    presented :=
      if presents checksum auth update request then client.toList ++ update.presented
      else update.presented }

/-- What the monitor remembers after a request and its response. -/
def observe
    (checksum : CStr → CStr)
    (draws : Draws)
    (auth : AuthManager)
    (client : Option UInt64)
    (request : Option CJson)
    (response : CJson)
    (last : Option CredentialUpdate) : Option CredentialUpdate :=
  if requestMethod request = some ("auth.updateCredentials" : CStr) ∧ succeeded response then
    some {
      issuer := client
      username := (requestParam request "username").getD ""
      password := (requestParam request "password").getD ""
      salt := draws.passwordSalt
      tokens := (issuedToken request response).toList
      presented := [] }
  else
    last.map fun update => update.remember checksum auth client request response

/-- A server and what the monitor remembers. -/
structure Monitored (World : Type) where
  server : ApiServer World
  update : Option CredentialUpdate

/-- An event on the server. -/
inductive ApiEvent
  /-- A client connects. -/
  | connect
  /-- A client is gone. -/
  | disconnect (client : UInt64)
  /-- A request arrives from a connected client or on the local socket. -/
  | request (client : Option UInt64) (request : Option CJson) (draws : Draws)

section Runs

variable {World : Type}

/-- `sbs_api_server_add_client` on a new connection. -/
def addClient (server : ApiServer World) : ApiServer World :=
  { server with
    clients := server.clients.insert server.nextClientId
      { connected := true, authenticated := false }
    nextClientId := server.nextClientId + 1 }

/-- The end of the thread of a client. -/
def dropClient (server : ApiServer World) (client : UInt64) : ApiServer World :=
  { server with clients := server.clients.modify client fun record =>
      { record with connected := false } }

/-- A client that is connected. -/
def connected (server : ApiServer World) (client : UInt64) : Bool :=
  ((server.clients.lookup client).map ApiClient.connected).getD false

/-- A new connection under an id has presented and issued nothing. -/
def CredentialUpdate.forget (update : CredentialUpdate) (client : UInt64) : CredentialUpdate :=
  { update with
    issuer := update.issuer.filter fun issuer => issuer ≠ client
    presented := update.presented.filter fun other => other ≠ client }

/-- The state after an event. -/
def next
    (checksum : CStr → CStr)
    (others : OtherHandlers World)
    (state : Monitored World) : ApiEvent → Option (Monitored World)
  | .connect => some {
      server := addClient state.server
      update := state.update.map fun update => update.forget state.server.nextClientId }
  | .disconnect client => some { state with server := dropClient state.server client }
  | .request client request draws =>
      if client.all (connected state.server) then
        let (response, after) := dispatchJson checksum others draws state.server client request
        some {
          server := after
          update := observe checksum draws state.server.auth.auth client request response
            state.update }
      else none

/-- A server that was just started on some `auth.json`. -/
def Started (state : Monitored World) : Prop :=
  ∃ file methods world, (methods = coreMethods ∨ methods = controllerMethods) ∧
    state = {
      server := {
        auth := managerNew file
        clients := .empty
        nextClientId := 1
        methods := methods
        world := world }
      update := none }

/-- Runs of the server. -/
def apiRuns
    (checksum : CStr → CStr)
    (others : OtherHandlers World) : System (Monitored World) ApiEvent :=
  System.ofNext Started (next checksum others)

/-- In password mode no other method runs for a client that neither issued the
last change of credentials nor presented a credential since. -/
def Revoked (checksum : CStr → CStr) (state : Monitored World) : Prop :=
  ∀ update client request method,
    state.update = some update → update.issuer ≠ some client →
      client ∉ update.presented → connected state.server client = true →
        passwordless state.server.auth.auth = false →
          (route checksum state.server (some client) request).1 = .call method →
            isAuthMethod method = false →
              presents checksum state.server.auth.auth update request = true

/-- A request that is about to change the credentials. -/
def Updates
    (checksum : CStr → CStr)
    (server : ApiServer World)
    (client : Option UInt64)
    (request : Option CJson) : Prop :=
  (route checksum server client request).1 = .call "auth.updateCredentials" ∧
    (given (requestParam request "username")).isSome = true ∧
    (given (requestParam request "password")).isSome = true

/-- When the credentials change, no other connected client is flagged as
authenticated, and a later change is saved. -/
def RevokesAll
    (checksum : CStr → CStr)
    (state : Monitored World) : ApiEvent → Prop
  | .request client request draws =>
      Updates checksum state.server client request →
        (state.update.isSome = true → draws.saves = true) ∧
          (draws.saves = true → ∀ other record,
            state.server.clients.lookup other = some record →
              record.connected = true → record.authenticated = true →
                client = some other)
  | _ => True

/-- A login that the manager accepts. -/
inductive LoginAccepted
    (checksum : CStr → CStr)
    (state : AuthState)
    (method : CStr)
    (params : Option CJson) : Prop
  | password
      {username password salt : CStr}
      (called : method = "auth.login")
      (named : CJson.str params "username" = some username)
      (hidden : CJson.str params "password" = some password)
      (known : state.auth.username = some username)
      (salted : state.auth.passwordSalt = some salt)
      (hashed : state.auth.passwordHash = some (hashSecret checksum salt password))
  | apiKey
      (called : method = "auth.loginApiKey")
      (valid : validateApiKey checksum state (CJson.str params "api_key") = true)

/-- The effects of the handlers other than that of a change of credentials. -/
inductive Effect
    (checksum : CStr → CStr)
    (draws : Draws)
    (server : ApiServer World)
    (client : Option UInt64)
    (method : CStr)
    (params : Option CJson) : Reply × ApiServer World → Prop
  | kept (reply : Reply) (world : World) :
      Effect checksum draws server client method params
        (reply, { server with world := world })
  | loggedIn (accepted : LoginAccepted checksum server.auth method params) :
      Effect checksum draws server client method params
        (answer ({ server with auth := openSession draws server.auth }.setAuthenticated client)
          (loginResult (openSession draws server.auth) (some draws.sessionToken)))
  | setUp (required : setupRequired server.auth = true) (result : Reply × ApiServer World) :
      Effect checksum draws server client method params result
  | keysChanged
      (reply : Reply)
      (apiKeys : List ApiKeyRecord)
      (file : Option CJson)
      (keeps : server.auth.file.isSome = true → file.isSome = true) :
      Effect checksum draws server client method params
        (reply, { server with auth := {
          auth := { server.auth.auth with apiKeys := apiKeys }
          file := file } })
  | opened
      (reply : Reply)
      (file : Option CJson)
      (keeps : server.auth.file.isSome = true → file.isSome = true) :
      Effect checksum draws server client method params
        (reply, { server with auth := {
          auth := { clearLoginConfig server.auth.auth with
            mode := some "passwordless"
            sessions := .empty }
          file := file } })
  | closed
      (reply : Reply)
      (file : Option CJson)
      (keeps : server.auth.file.isSome = true → file.isSome = true)
      (named : server.auth.auth.username.isSome = true) :
      Effect checksum draws server client method params
        (reply, { server with auth := {
          auth := { server.auth.auth with mode := some "password" }
          file := file } })

namespace Effect

variable {checksum : CStr → CStr} {draws : Draws} {server : ApiServer World}
  {client : Option UInt64} {method : CStr} {params : Option CJson}

/-- A login handler refuses or logs the client in. -/
theorem answerLogin
    {attempt : SbsResult × Option CStr × AuthState}
    {number : ℤ}
    {message : CStr}
    (attempted : (attempt.1 ≠ .ok ∧ attempt.2.2 = server.auth) ∨
      (attempt = (.ok, some draws.sessionToken, openSession draws server.auth) ∧
        LoginAccepted checksum server.auth method params)) :
    Effect checksum draws server client method params
      (Api.answerLogin server client attempt number message) := by
  unfold Api.answerLogin
  rcases attempted with ⟨failed, same⟩ | ⟨rfl, accepted⟩
  · rw [if_neg failed, same]
    exact kept _ server.world
  · rw [if_pos rfl]
    exact loggedIn accepted

theorem login :
    Effect checksum draws server client "auth.login" params
      (handleAuthLogin checksum draws server client params) := by
  refine answerLogin ?_
  unfold loginPassword
  split
  · next username password named hidden =>
      split
      · exact Or.inl ⟨nofun, rfl⟩
      · next ready =>
          rw [not_or, not_not] at ready
          split
          · exact Or.inl ⟨nofun, rfl⟩
          · next salt salted =>
              split
              · next equal =>
                  cases hashed : server.auth.auth.passwordHash with
                  | none =>
                      rw [hashed] at equal
                      cases equal
                  | some hash =>
                      rw [hashed, secureEquals_iff] at equal
                      refine Or.inr ⟨rfl, .password rfl named hidden ready.2 salted ?_⟩
                      rw [hashed, equal]
              · exact Or.inl ⟨nofun, rfl⟩
  · exact Or.inl ⟨nofun, rfl⟩

theorem loginApiKey :
    Effect checksum draws server client "auth.loginApiKey" params
      (handleAuthLoginApiKey checksum draws server client params) := by
  refine answerLogin ?_
  unfold Api.loginApiKey
  split
  · next valid => exact Or.inr ⟨rfl, .apiKey rfl valid⟩
  · exact Or.inl ⟨nofun, rfl⟩

theorem setup :
    Effect checksum draws server client method params
      (handleAuthSetup checksum draws server client params) := by
  by_cases required : setupRequired server.auth = true
  · exact setUp required _
  · have ready : setupRequired server.auth = false := Bool.eq_false_iff.mpr required
    unfold handleAuthSetup
    split
    · exact kept _ server.world
    · refine answerLogin (Or.inl ?_)
      unfold Api.setup
      split
      · rw [ready]
        exact ⟨nofun, rfl⟩
      · exact ⟨nofun, rfl⟩

theorem createApiKey :
    Effect checksum draws server client method params
      (handleAuthCreateApiKey checksum draws server params) := by
  unfold handleAuthCreateApiKey Api.createApiKey saveConfig
  cases setupRequired server.auth <;> cases draws.saves
  · exact keysChanged _ _ _ id
  · exact keysChanged _ _ _ fun _ => rfl
  · exact kept _ server.world
  · exact kept _ server.world

theorem deleteApiKey :
    Effect checksum draws server client method params
      (handleAuthDeleteApiKey draws server params) := by
  unfold handleAuthDeleteApiKey Api.deleteApiKey
  cases given (CJson.str params "id") with
  | none => exact kept _ server.world
  | some id =>
      dsimp only
      by_cases found : server.auth.auth.apiKeys.any (fun key => key.id = id) = true
      · rw [if_pos found]
        unfold saveConfig
        cases draws.saves
        · exact keysChanged _ _ _ fun present => present
        · exact keysChanged _ _ _ fun _ => rfl
      · rw [if_neg found]
        exact kept _ server.world

theorem setPasswordless :
    Effect checksum draws server client method params
      (handleAuthSetPasswordless draws server params) := by
  unfold handleAuthSetPasswordless Api.setPasswordless
  cases isTrue params "enabled" with
  | true =>
      unfold saveConfig
      cases draws.saves
      · exact opened _ _ id
      · exact opened _ _ fun _ => rfl
  | false =>
      dsimp only
      by_cases missing :
          (server.auth.auth.username.isNone || server.auth.auth.passwordHash.isNone) = true
      · rw [if_neg Bool.false_ne_true, if_pos missing]
        exact kept _ server.world
      · rw [if_neg Bool.false_ne_true, if_neg missing]
        rw [Bool.not_eq_true, Bool.or_eq_false_iff, Option.isNone_eq_false_iff] at missing
        unfold saveConfig
        cases draws.saves
        · exact closed _ _ id missing.1
        · exact closed _ _ (fun _ => rfl) missing.1

/-- Every handler but one has one of the effects. -/
theorem handle
    (others : OtherHandlers World)
    (different : method ≠ "auth.updateCredentials") :
    Effect checksum draws server client method params
      (Api.handle checksum others draws server client method params) := by
  unfold Api.handle
  split
  · exact kept _ server.world
  split
  · exact setup
  split
  · next called => exact called ▸ login
  split
  · next called => exact called ▸ loginApiKey
  split
  · exact createApiKey
  split
  · exact kept _ server.world
  split
  · exact deleteApiKey
  split
  · exact setPasswordless
  · exact kept _ _

end Effect

theorem handle_updateCredentials
    (checksum : CStr → CStr)
    (others : OtherHandlers World)
    (draws : Draws)
    (server : ApiServer World)
    (client : Option UInt64)
    (params : Option CJson) :
    handle checksum others draws server client "auth.updateCredentials" params =
      handleAuthUpdateCredentials checksum draws server client params :=
  rfl

/-- A manager whose credentials were changed, with the session of the issuer. -/
def changedState
    (checksum : CStr → CStr)
    (draws : Draws)
    (server : ApiServer World)
    (username password : CStr) : AuthState :=
  openSession draws {
    auth := updatedAuth checksum draws server.auth username password
    file := some (configJson (updatedAuth checksum draws server.auth username password)) }

/-- The effects of the handler that changes the credentials. -/
inductive ChangeEffect
    (checksum : CStr → CStr)
    (draws : Draws)
    (server : ApiServer World)
    (client : Option UInt64)
    (params : Option CJson) : Reply × ApiServer World → Prop
  | refused :
      ChangeEffect checksum draws server client params
        (refuse server .inval (-32014) "Failed to update credentials")
  | unsaved
      {username password : CStr}
      (named : given (CJson.str params "username") = some username)
      (hidden : given (CJson.str params "password") = some password)
      (fails : draws.saves = false)
      (after : ApiServer World) :
      ChangeEffect checksum draws server client params
        (refuse after .io (-32014) "Failed to update credentials")
  | changed
      {username password : CStr}
      (named : given (CJson.str params "username") = some username)
      (hidden : given (CJson.str params "password") = some password)
      (saves : draws.saves = true) :
      ChangeEffect checksum draws server client params
        (answer
          ({ server with auth := changedState checksum draws server username password
              }.setAuthenticated client)
          (loginResult (changedState checksum draws server username password)
            (some draws.sessionToken)))

/-! ## Responses -/

theorem getObjectItem_result
    (id : Option CJson)
    (value : CJson) :
    CJson.getObjectItem (some (response id "result" value)) "result" = some value :=
  rfl

/-- A login hands out its token. -/
theorem token_loginResult
    (state : AuthState)
    (token : CStr) :
    CJson.str (some (loginResult state (some token))) "token" = some token := by
  unfold loginResult statusJson
  cases state.auth.username with
  | none => rfl
  | some username => rfl

/-- What a change of credentials established and the server keeps. -/
structure InForce
    (checksum : CStr → CStr)
    (server : ApiServer World)
    (update : CredentialUpdate) : Prop where
  /-- The file exists. -/
  file : server.auth.file.isSome = true
  /-- The new credentials are in memory, or passwordless mode has cleared them. -/
  credentials :
    (passwordless server.auth.auth = true ∧ server.auth.auth.username = none) ∨
      (passwordless server.auth.auth = false ∧
        server.auth.auth.username = some update.username ∧
        server.auth.auth.passwordSalt = some update.salt ∧
        server.auth.auth.passwordHash =
          some (hashSecret checksum update.salt update.password))
  /-- All sessions were opened since the change. -/
  sessions : ∀ token, server.auth.auth.sessions.contains token = true →
    token ∈ update.tokens
  /-- A connected client with the flag issued the change or has presented. -/
  flags : ∀ client record, server.clients.lookup client = some record →
    record.connected = true → record.authenticated = true →
      update.issuer = some client ∨ client ∈ update.presented

section Flags

variable {server : ApiServer World} {client : Option UInt64}

/-- Flagging a client leaves the manager alone. -/
@[simp] theorem auth_setAuthenticated :
    (server.setAuthenticated client).auth = server.auth := by
  cases client <;> rfl

/-- Flagging a client leaves the other records alone. -/
theorem lookup_setAuthenticated
    {other : UInt64}
    {record : ApiClient}
    (found : (server.setAuthenticated client).clients.lookup other = some record) :
    client = some other ∨ server.clients.lookup other = some record := by
  cases client with
  | none => exact Or.inr found
  | some id =>
      have modified := (HashTable.lookup_modify _ _ _ _).symm.trans found
      by_cases equal : other = id
      · exact Or.inl (congrArg some equal.symm)
      · rw [if_neg equal] at modified
        exact Or.inr modified

end Flags

/-- The change that the monitor remembers is in force. -/
def Remembered (checksum : CStr → CStr) (state : Monitored World) : Prop :=
  ∀ update, state.update = some update → InForce checksum state.server update

namespace InForce

variable {checksum : CStr → CStr} {draws : Draws} {server : ApiServer World}
  {client : Option UInt64} {update later : CredentialUpdate}

/-- No setup is possible while credentials are in force. -/
theorem setupRequired
    (inForce : InForce checksum server update) :
    setupRequired server.auth = false := by
  unfold Api.setupRequired
  rcases inForce.credentials with ⟨open_, _⟩ | ⟨closed, named, _, hashed⟩
  · rw [open_]
    rfl
  · rw [closed, named, hashed, if_neg Bool.false_ne_true]
    simpa using inForce.file

section

variable (inForce : InForce checksum server update)
include inForce

/-- The monitor may remember more tokens and clients. -/
theorem mono
    (sameIssuer : later.issuer = update.issuer)
    (sameUsername : later.username = update.username)
    (samePassword : later.password = update.password)
    (sameSalt : later.salt = update.salt)
    (tokens : update.tokens ⊆ later.tokens)
    (presented : update.presented ⊆ later.presented) :
    InForce checksum server later where
  file := inForce.file
  credentials := by
    rw [sameUsername, samePassword, sameSalt]
    exact inForce.credentials
  sessions := fun token known => tokens (inForce.sessions token known)
  flags := by
    intro client record found isConnected isFlagged
    rw [sameIssuer]
    exact (inForce.flags client record found isConnected isFlagged).imp_right
      fun member => presented member

/-- A client that presented a credential may be flagged. -/
theorem setAuthenticated
    (presented : ∀ id, client = some id → id ∈ update.presented) :
    InForce checksum (server.setAuthenticated client) update := by
  refine ⟨?_, ?_, ?_, fun other record found isConnected isFlagged => ?_⟩
  · rw [auth_setAuthenticated]
    exact inForce.file
  · rw [auth_setAuthenticated]
    exact inForce.credentials
  · rw [auth_setAuthenticated]
    exact inForce.sessions
  · rcases lookup_setAuthenticated found with same | before
    · exact Or.inr (presented other same)
    · exact inForce.flags other record before isConnected isFlagged

/-- A session with a remembered token may be opened. -/
theorem openSession
    (issued : draws.sessionToken ∈ update.tokens) :
    InForce checksum { server with auth := openSession draws server.auth } update := by
  refine ⟨inForce.file, inForce.credentials, fun token known => ?_, inForce.flags⟩
  by_cases equal : token = draws.sessionToken
  · exact equal ▸ issued
  · refine inForce.sessions token ?_
    simpa [Api.openSession, HashTable.contains, HashTable.lookup_insert, equal] using known

/-- A handler keeps the credentials in force. -/
theorem effect
    {method : CStr}
    {params : Option CJson}
    {result : Reply × ApiServer World}
    (effect : Effect checksum draws server client method params result)
    (accepted : LoginAccepted checksum server.auth method params →
      result.1 = {
        code := .ok
        result := some
          (loginResult (Api.openSession draws server.auth) (some draws.sessionToken))
        error := none } →
      draws.sessionToken ∈ update.tokens ∧
        ∀ id, client = some id → id ∈ update.presented) :
    InForce checksum result.2 update := by
  cases effect with
  | kept reply world => exact ⟨inForce.file, inForce.credentials, inForce.sessions, inForce.flags⟩
  | loggedIn login =>
      obtain ⟨issued, presented⟩ := accepted login rfl
      exact (inForce.openSession issued).setAuthenticated presented
  | setUp required =>
      rw [inForce.setupRequired] at required
      cases required
  | keysChanged reply apiKeys file keeps =>
      exact ⟨keeps inForce.file, inForce.credentials, inForce.sessions, inForce.flags⟩
  | opened reply file keeps =>
      refine ⟨keeps inForce.file, Or.inl ⟨rfl, rfl⟩, ?_, inForce.flags⟩
      intro token known
      simp [HashTable.contains] at known
  | closed reply file keeps named =>
      refine ⟨keeps inForce.file, Or.inr ⟨rfl, ?_⟩, inForce.sessions,
        inForce.flags⟩
      rcases inForce.credentials with ⟨_, noName⟩ | ⟨_, credentials⟩
      · rw [noName] at named
        cases named
      · exact credentials

end

end InForce

section Routing

variable {checksum : CStr → CStr} {server : ApiServer World}
  {client : Option UInt64} {request : Option CJson}

/-- A credential that the server checks before it runs a method. -/
def Credential
    (checksum : CStr → CStr)
    (state : AuthState)
    (request : Option CJson) : Prop :=
  passwordless state.auth = false ∧
    (validateSession state.auth (requestParam request "auth_token") = true ∨
      validateApiKey checksum state (requestParam request "api_key") = true)

/-- Authentication flags the client at most, and only for a credential. -/
theorem requestAuthenticated_server
    (checksum : CStr → CStr)
    (server : ApiServer World)
    (client : Option UInt64)
    (request : Option CJson) :
    let after := (server.requestAuthenticated checksum client
      (CJson.getObjectItem request "params")).2
    after = server ∨
      (after = server.setAuthenticated client ∧ Credential checksum server.auth request) := by
  intro after
  unfold after ApiServer.requestAuthenticated
  split
  · exact Or.inl rfl
  · next closed =>
      have closed := Bool.eq_false_iff.mpr closed
      split
      · exact Or.inl rfl
      split
      · exact Or.inl rfl
      split
      · next valid => exact Or.inr ⟨rfl, closed, Or.inl valid⟩
      split
      · next valid => exact Or.inr ⟨rfl, closed, Or.inr valid⟩
      · exact Or.inl rfl

/-- Routing flags the client at most, and only for a credential. -/
theorem route_server :
    (route checksum server client request).2 = server ∨
      ((route checksum server client request).2 = server.setAuthenticated client ∧
        Credential checksum server.auth request) := by
  have authenticated := requestAuthenticated_server checksum server client request
  unfold route
  split
  · exact Or.inl rfl
  split
  · exact Or.inl rfl
  split
  · exact Or.inl rfl
  split
  · exact Or.inl rfl
  dsimp only
  split
  · exact authenticated
  · exact authenticated

variable {method : CStr} {update : CredentialUpdate}

theorem requestMethod_of_route
    (called : (route checksum server client request).1 = .call method) :
    requestMethod request = some method := by
  unfold route at called
  unfold requestMethod
  split at called
  · cases called
  split at called
  · cases called
  next name named =>
  rw [named]
  split at called
  · cases called
  split at called
  · cases called
    rfl
  dsimp only at called
  split at called
  · cases called
    rfl
  · cases called

/-- Another method is called only for an authenticated request. -/
theorem authenticated_of_route
    (called : (route checksum server client request).1 = .call method)
    (other : isAuthMethod method = false) :
    (server.requestAuthenticated checksum client
      (CJson.getObjectItem request "params")).1 = true := by
  unfold route at called
  split at called
  · cases called
  split at called
  · cases called
  split at called
  · cases called
  split at called
  · next isAuth =>
      cases called
      rw [isAuth] at other
      cases other
  dsimp only at called
  split at called
  · next accepted => exact accepted
  · cases called

section

variable (inForce : InForce checksum server update)
include inForce

/-- A key that the server accepts is stored. -/
theorem presents_of_apiKey
    (valid : validateApiKey checksum server.auth (requestParam request "api_key") = true) :
    presents checksum server.auth.auth update request = true := by
  unfold validateApiKey at valid
  split at valid
  · next apiKey named =>
      rw [inForce.setupRequired, if_neg Bool.false_ne_true, List.any_eq_true] at valid
      obtain ⟨key, member, equal⟩ := valid
      rw [secureEquals_iff] at equal
      have stored : presentsApiKey checksum server.auth.auth request = true := by
        simp only [presentsApiKey, named, Option.any_some, List.any_eq_true,
          decide_eq_true_eq]
        exact ⟨key, member, equal⟩
      simp [presents, stored]
  · cases valid

/-- A credential that the server accepts presents one that is valid after the
change. -/
theorem presents_of_credential
    (credential : Credential checksum server.auth request) :
    presents checksum server.auth.auth update request = true := by
  obtain ⟨closed, valid | valid⟩ := credential
  · unfold validateSession at valid
    rw [closed, if_neg Bool.false_ne_true] at valid
    split at valid
    · next token named =>
        have known := inForce.sessions token valid
        simp [presents, presentsToken, named, known]
    · cases valid
  · exact presents_of_apiKey inForce valid

/-- Credentials in force are revoked for everyone else. -/
theorem InForce.revoked
    {id : UInt64}
    (otherClient : update.issuer ≠ some id)
    (notPresented : id ∉ update.presented)
    (isConnected : connected server id = true)
    (closed : passwordless server.auth.auth = false)
    (called : (route checksum server (some id) request).1 = .call method)
    (otherMethod : isAuthMethod method = false) :
    presents checksum server.auth.auth update request = true := by
  have accepted := authenticated_of_route called otherMethod
  have unflagged : server.authenticated id = false := by
    rw [Bool.eq_false_iff]
    intro flagged
    unfold ApiServer.authenticated at flagged
    unfold connected at isConnected
    cases found : server.clients.lookup id with
    | none =>
        rw [found] at flagged
        cases flagged
    | some record =>
        rw [found] at flagged isConnected
        rcases inForce.flags id record found isConnected flagged with issued | presented
        · exact otherClient issued
        · exact notPresented presented
  unfold ApiServer.requestAuthenticated at accepted
  rw [closed, if_neg Bool.false_ne_true] at accepted
  dsimp only at accepted
  rw [unflagged, if_neg Bool.false_ne_true] at accepted
  split at accepted
  · next valid => exact presents_of_credential inForce ⟨closed, Or.inl valid⟩
  split at accepted
  · next valid => exact presents_of_credential inForce ⟨closed, Or.inr valid⟩
  · cases accepted

/-- A login that the server accepts presents the new password or a key. -/
theorem presents_of_login
    (named : requestMethod request = some method)
    (login : LoginAccepted checksum server.auth method
      (CJson.getObjectItem request "params")) :
    presents checksum server.auth.auth update request = true := by
  cases login with
  | @password username password salt called user hidden known salted hashed =>
      rcases inForce.credentials with ⟨_, noName⟩ | ⟨_, knownName, knownSalt, knownHash⟩
      · rw [noName] at known
        cases known
      · have sameName : username = update.username :=
          Option.some.inj (known.symm.trans knownName)
        have sameSalt : salt = update.salt :=
          Option.some.inj (salted.symm.trans knownSalt)
        have sameHash : hashSecret checksum update.salt password =
            hashSecret checksum update.salt update.password := by
          rw [← sameSalt]
          rw [← sameSalt] at knownHash
          exact Option.some.inj (hashed.symm.trans knownHash)
        have presented : presentsPassword checksum update request = true := by
          simp only [presentsPassword, requestParam, named, called, user, hidden, sameName,
            sameHash, Option.any_some, decide_true, Bool.and_self]
        simp [presents, presented]
  | apiKey called valid => exact presents_of_apiKey inForce valid

end

end Routing

/-! ## Steps -/

section Steps

variable {checksum : CStr → CStr} {others : OtherHandlers World} {draws : Draws}
  {server : ApiServer World} {client : Option UInt64} {request : Option CJson}

/-- Routing does not touch the manager. -/
theorem auth_route : (route checksum server client request).2.auth = server.auth := by
  rcases @route_server World checksum server client request with same | ⟨flagged, _⟩
  · rw [same]
  · rw [flagged, auth_setAuthenticated]

variable {method : CStr}

/-- The token of a successful login reaches the monitor. -/
theorem issuedToken_login
    {id : Option CJson}
    {state : AuthState}
    {token : CStr}
    (named : requestMethod request = some method)
    (issues : isAuthMethod method = true ∨ method = "auth.updateCredentials") :
    issuedToken request (replyResponse id {
      code := .ok
      result := some (loginResult state (some token))
      error := none }) = some token := by
  unfold issuedToken
  rw [named]
  dsimp only
  rw [if_pos issues]
  unfold replyResponse
  dsimp only
  rw [getObjectItem_result, token_loginResult]

/-- A handler that is refused has no result. -/
theorem not_succeeded_refuse
    (id : Option CJson)
    (server : ApiServer World)
    {code : SbsResult}
    (number : ℤ)
    (message : CStr) :
    succeeded (replyResponse id (refuse server code number message).1) = false := by
  unfold refuse replyResponse
  cases code <;> rfl

/-- A change of credentials. -/
theorem ChangeEffect.handle
    (params : Option CJson) :
    ChangeEffect checksum draws server client params
      (handleAuthUpdateCredentials checksum draws server client params) := by
  unfold handleAuthUpdateCredentials answerLogin
  by_cases accepted : ∃ username password,
      given (CJson.str params "username") = some username ∧
      given (CJson.str params "password") = some password
  · obtain ⟨username, password, named, hidden⟩ := accepted
    rw [updateCredentials_eq checksum draws server.auth named hidden]
    cases saves : draws.saves with
    | true => exact changed named hidden saves
    | false => exact unsaved named hidden saves _
  · have invalid : updateCredentials checksum draws server.auth
        (CJson.str params "username") (CJson.str params "password") =
          (.inval, none, server.auth) := by
      unfold updateCredentials
      split
      · next username password named hidden =>
          exact absurd ⟨username, password, named, hidden⟩ accepted
      · rfl
    rw [invalid]
    exact refused

/-- The new credentials are in force, if no other connected client is flagged. -/
theorem inForce_changed
    {username password : CStr}
    {issued : List CStr}
    (token : draws.sessionToken ∈ issued)
    (unflagged : ∀ other record, server.clients.lookup other = some record →
      record.connected = true → record.authenticated = true → client = some other) :
    InForce checksum
      ({ server with auth := changedState checksum draws server username password
          }.setAuthenticated client)
      {
        issuer := client
        username := username
        password := password
        salt := draws.passwordSalt
        tokens := issued
        presented := [] } := by
  refine ⟨?_, Or.inr ?_, fun other known => ?_, fun other record found isConnected flagged => ?_⟩
  · rw [auth_setAuthenticated]
    rfl
  · rw [auth_setAuthenticated]
    exact ⟨rfl, rfl, rfl, rfl⟩
  · rw [auth_setAuthenticated] at known
    have opened : (HashTable.empty.insert draws.sessionToken ()).contains other = true := known
    by_cases equal : other = draws.sessionToken
    · exact equal ▸ token
    · simp [HashTable.contains, HashTable.lookup_insert, equal] at opened
  · rcases lookup_setAuthenticated found with same | before
    · exact Or.inl same
    · exact Or.inl (unflagged other record before isConnected flagged)

/-- Routing may flag the issuer, whom the change exempts. -/
theorem unflagged_route
    (unflagged : ∀ other record, server.clients.lookup other = some record →
      record.connected = true → record.authenticated = true → client = some other) :
    ∀ other record,
      (route checksum server client request).2.clients.lookup other = some record →
        record.connected = true → record.authenticated = true → client = some other := by
  intro other record found isConnected isFlagged
  rcases @route_server World checksum server client request with same | ⟨flagged, _⟩
  · rw [same] at found
    exact unflagged other record found isConnected isFlagged
  · rw [flagged] at found
    rcases lookup_setAuthenticated found with same | before
    · exact same
    · exact unflagged other record before isConnected isFlagged

/-- A request that is rejected. -/
theorem dispatchJson_rejected
    {code : ℤ}
    {message : CStr}
    (rejected : (route checksum server client request).1 = .rejected code message) :
    dispatchJson checksum others draws server client request =
      (response (CJson.getObjectItem request "id") "error" (rpcError code message),
        (route checksum server client request).2) := by
  unfold dispatchJson
  generalize route checksum server client request = routed at rejected ⊢
  obtain ⟨outcome, after⟩ := routed
  cases rejected
  rfl

/-- A request whose handler is called. -/
theorem dispatchJson_call
    (called : (route checksum server client request).1 = .call method) :
    dispatchJson checksum others draws server client request =
      let result := handle checksum others draws (route checksum server client request).2
        client method (CJson.getObjectItem request "params")
      (replyResponse (CJson.getObjectItem request "id") result.1, result.2) := by
  unfold dispatchJson
  generalize route checksum server client request = routed at called ⊢
  obtain ⟨outcome, after⟩ := routed
  cases called
  rfl

variable {update last : CredentialUpdate}

/-- A request that does not change the credentials is remembered with the last
change. -/
theorem observe_unchanged
    {auth : AuthManager}
    {response : CJson}
    {last : Option CredentialUpdate}
    (unchanged : requestMethod request = some ("auth.updateCredentials" : CStr) →
      succeeded response = false)
    (observed : observe checksum draws auth client request response last = some update) :
    ∃ before, last = some before ∧
      update = before.remember checksum auth client request response := by
  have notChanged : ¬(requestMethod request = some ("auth.updateCredentials" : CStr) ∧
      succeeded response = true) := by
    rintro ⟨named, success⟩
    rw [unchanged named] at success
    cases success
  unfold observe at observed
  rw [if_neg notChanged] at observed
  obtain ⟨before, known, remembered⟩ := Option.map_eq_some_iff.mp observed
  exact ⟨before, known, remembered.symm⟩

/-- Clients that present a credential are remembered. -/
theorem mem_presented_remember
    {auth : AuthManager}
    {response : CJson}
    {id : UInt64}
    (presented : presents checksum auth last request = true)
    (same : client = some id) :
    id ∈ (last.remember checksum auth client request response).presented := by
  unfold CredentialUpdate.remember
  dsimp only
  rw [if_pos presented, same]
  exact List.mem_cons_self

/-- After routing the last change is still in force. -/
theorem InForce.route
    (inForce : InForce checksum server last)
    (response : CJson) :
    InForce checksum (route checksum server client request).2
      (last.remember checksum server.auth.auth client request response) := by
  have remembered : InForce checksum server
      (last.remember checksum server.auth.auth client request response) := by
    refine inForce.mono rfl rfl rfl rfl (List.subset_append_right _ _) ?_
    unfold CredentialUpdate.remember
    dsimp only
    split
    · exact List.subset_append_right _ _
    · exact List.Subset.refl _
  rcases @route_server World checksum server client request with same | ⟨flagged, credential⟩
  · rw [same]
    exact remembered
  · rw [flagged]
    refine remembered.setAuthenticated fun id same => ?_
    exact mem_presented_remember (presents_of_credential inForce credential) same

/-- A handler that does not change the credentials keeps those in force. -/
theorem InForce.handled
    {result : Reply × ApiServer World}
    (inForce : InForce checksum server last)
    (named : requestMethod request = some method)
    (effect : Effect checksum draws (Api.route checksum server client request).2 client method
      (CJson.getObjectItem request "params") result)
    (id : Option CJson) :
    InForce checksum result.2
      (last.remember checksum server.auth.auth client request
        (replyResponse id result.1)) := by
  refine (inForce.route _).effect effect fun login replied => ?_
  rw [auth_route] at login
  constructor
  · have issues : isAuthMethod method = true := by
      cases login with
      | password called => exact called ▸ rfl
      | apiKey called => exact called ▸ rfl
    unfold CredentialUpdate.remember
    dsimp only
    rw [replied, issuedToken_login named (Or.inl issues)]
    exact List.mem_cons_self
  · exact fun client same =>
      mem_presented_remember (presents_of_login inForce named login) same

/-- The handler that changes the credentials puts the new ones in force, or
leaves the old ones. -/
theorem inForce_changeEffect
    {last : Option CredentialUpdate}
    {id : Option CJson}
    {result : Reply × ApiServer World}
    (kept : ∀ before, last = some before → InForce checksum server before)
    (named : requestMethod request = some ("auth.updateCredentials" : CStr))
    (saved : (given (requestParam request "username")).isSome = true →
      (given (requestParam request "password")).isSome = true →
        last.isSome = true → draws.saves = true)
    (unflagged : (given (requestParam request "username")).isSome = true →
      (given (requestParam request "password")).isSome = true →
        draws.saves = true →
          ∀ other record,
            (route checksum server client request).2.clients.lookup other = some record →
              record.connected = true → record.authenticated = true → client = some other)
    (effect : ChangeEffect checksum draws (route checksum server client request).2 client
      (CJson.getObjectItem request "params") result)
    (observed : observe checksum draws server.auth.auth client request
      (replyResponse id result.1) last = some update) :
    InForce checksum result.2 update := by
  cases effect with
  | refused =>
      obtain ⟨before, known, rfl⟩ :=
        observe_unchanged (fun _ => not_succeeded_refuse _ _ _ _) observed
      exact (kept before known).route _
  | unsaved nameGiven secretGiven fails after =>
      obtain ⟨before, known, rfl⟩ :=
        observe_unchanged (fun _ => not_succeeded_refuse _ _ _ _) observed
      have saves := saved (Option.isSome_of_eq_some nameGiven)
        (Option.isSome_of_eq_some secretGiven) (Option.isSome_of_eq_some known)
      rw [saves] at fails
      cases fails
  | @changed username password nameGiven secretGiven saves =>
      have nameParam : requestParam request "username" = some username :=
        (Option.filter_eq_some_iff.mp nameGiven).1
      have secretParam : requestParam request "password" = some password :=
        (Option.filter_eq_some_iff.mp secretGiven).1
      have success : succeeded (replyResponse id (answer
          ({ (route checksum server client request).2 with
              auth := changedState checksum draws (route checksum server client request).2
                username password }.setAuthenticated client)
          (loginResult (changedState checksum draws
              (route checksum server client request).2 username password)
            (some draws.sessionToken))).1) = true := rfl
      unfold observe at observed
      rw [if_pos ⟨named, success⟩, nameParam, secretParam] at observed
      cases observed
      refine inForce_changed ?_ (unflagged (Option.isSome_of_eq_some nameGiven)
        (Option.isSome_of_eq_some secretGiven) saves)
      unfold answer
      dsimp only
      rw [issuedToken_login named (Or.inr rfl)]
      exact List.mem_cons_self

/-- A request that changes the credentials puts the new ones in force, and any
other request keeps those in force. -/
theorem InForce.dispatch
    {state : Monitored World}
    (kept : Remembered checksum state)
    (revokes : RevokesAll checksum state (.request client request draws))
    (observed :
      observe checksum draws state.server.auth.auth client request
        (dispatchJson checksum others draws state.server client request).1 state.update =
          some update) :
    InForce checksum
      (dispatchJson checksum others draws state.server client request).2 update := by
  cases called : (Api.route checksum state.server client request).1 with
  | rejected code message =>
      rw [dispatchJson_rejected called] at observed ⊢
      obtain ⟨last, known, rfl⟩ := observe_unchanged (fun _ => rfl) observed
      exact (kept last known).route _
  | call method =>
      have named := requestMethod_of_route called
      rw [dispatchJson_call called] at observed ⊢
      by_cases changes : method = "auth.updateCredentials"
      · subst changes
        refine inForce_changeEffect kept named ?_ ?_ (.handle _) observed
        · exact fun nameGiven secretGiven => (revokes ⟨called, nameGiven, secretGiven⟩).1
        · exact fun nameGiven secretGiven saves =>
            unflagged_route ((revokes ⟨called, nameGiven, secretGiven⟩).2 saves)
      · have unchanged : requestMethod request = some ("auth.updateCredentials" : CStr) →
            succeeded (replyResponse (CJson.getObjectItem request "id")
              (handle checksum others draws (Api.route checksum state.server client request).2
                client method (CJson.getObjectItem request "params")).1) = false := by
          intro same
          exact absurd (Option.some.inj (named.symm.trans same)) changes
        obtain ⟨last, known, rfl⟩ := observe_unchanged unchanged observed
        exact (kept last known).handled named (.handle others changes) _

/-- A new connection starts without the flag. -/
theorem InForce.addClient
    (inForce : InForce checksum server update) :
    InForce checksum (addClient server) (update.forget server.nextClientId) := by
  refine ⟨inForce.file, inForce.credentials, inForce.sessions, ?_⟩
  intro other record found isConnected isFlagged
  have inserted := (HashTable.lookup_insert _ _ _ _).symm.trans found
  by_cases equal : other = server.nextClientId
  · rw [if_pos equal] at inserted
    cases inserted
    cases isFlagged
  · rw [if_neg equal] at inserted
    refine (inForce.flags other record inserted isConnected isFlagged).imp ?_ ?_
    · intro issued
      exact Option.filter_eq_some_iff.mpr ⟨issued, decide_eq_true equal⟩
    · intro presented
      exact List.mem_filter.mpr ⟨presented, decide_eq_true equal⟩

/-- A dropped client is no longer connected. -/
theorem InForce.dropClient
    (inForce : InForce checksum server update)
    (id : UInt64) :
    InForce checksum (dropClient server id) update := by
  refine ⟨inForce.file, inForce.credentials, inForce.sessions, ?_⟩
  intro other record found isConnected isFlagged
  have modified := (HashTable.lookup_modify _ _ _ _).symm.trans found
  by_cases equal : other = id
  · rw [if_pos equal] at modified
    obtain ⟨before, _, dropped⟩ := Option.map_eq_some_iff.mp modified
    rw [← dropped] at isConnected
    cases isConnected
  · rw [if_neg equal] at modified
    exact inForce.flags other record modified isConnected isFlagged

/-- One event keeps the credentials in force. -/
theorem inForce_next
    {state after : Monitored World}
    {event : ApiEvent}
    (kept : Remembered checksum state)
    (revokes : RevokesAll checksum state event)
    (stepped : next checksum others state event = some after) :
    Remembered checksum after := by
  intro update remembered
  cases event with
  | connect =>
      cases stepped
      obtain ⟨last, known, rfl⟩ := Option.map_eq_some_iff.mp remembered
      exact (kept last known).addClient
  | disconnect client =>
      cases stepped
      exact (kept update remembered).dropClient client
  | request client request draws =>
      dsimp only [next] at stepped
      split at stepped
      · cases stepped
        exact InForce.dispatch kept revokes remembered
      · cases stepped

end Steps

/-- In every run in which no other connected client is flagged when the
credentials change, and later changes are saved, the change revokes all other
clients. -/
theorem revoked_of_revokingRun
    (checksum : CStr → CStr)
    (others : OtherHandlers World)
    {state : Monitored World}
    (reachable : (apiRuns checksum others).ReachableWhen (RevokesAll checksum) state) :
    Revoked checksum state := by
  have inForce : Remembered checksum state := by
    refine reachable.invariant ?_ ?_
    · rintro _ ⟨file, methods, world, _, rfl⟩ update known
      cases known
    · intro before event after kept revokes stepped
      exact inForce_next kept revokes stepped
  intro update client request method known otherClient notPresented isConnected closed called
    otherMethod
  exact (inForce update known).revoked otherClient notPresented isConnected closed called
    otherMethod

end Runs

/-- `SHA-256` on the texts of the runs below. -/
def sampleChecksum (text : CStr) : CStr :=
  if text = "b2xkLXNhbHQtMTgtYnl0ZXMh:old" then
    "cb7056c97ef0ccb98671e1910a28d0723687f7a7f70006370962abc0efd19838"
  else if text = "bmV3LXNhbHQtMTgtYnl0ZXMh:new" then
    "c5396ca5739c2705a5f8c186fd8c9a988af85e3a0363eb6834a796a143f48b67"
  else ""

/-- Other handlers that do nothing. -/
def silentHandlers : OtherHandlers Unit :=
  fun _ world _ _ => ({ code := .ok, result := some (.object []), error := none }, world)

/-- A controller that was started without a file. -/
def freshController : Monitored Unit where
  server := {
    auth := managerNew none
    clients := .empty
    nextClientId := 1
    methods := controllerMethods
    world := () }
  update := none

theorem started_freshController : Started freshController :=
  ⟨none, controllerMethods, (), Or.inr rfl, rfl⟩

/-- A request of a method with a username and a password. -/
def credentialsRequest (method username password : CStr) : Option CJson :=
  some (.object [
    ("jsonrpc", .string "2.0"),
    ("method", .string method),
    ("params", .object [("username", .string username), ("password", .string password)])])

/-- Draws of a request with a salt and a session token. -/
def sampleDraws (salt token : CStr) : Draws where
  passwordSalt := salt
  sessionToken := token
  keySecret := ""
  keyId := ""
  keySalt := ""
  now := "2026-01-01T00:00:00Z"
  saves := true

/-- The first client sets the server up. -/
def setupEvent : ApiEvent :=
  .request (some 1) (credentialsRequest "auth.setup" "admin" "old")
    (sampleDraws "b2xkLXNhbHQtMTgtYnl0ZXMh" "Zmlyc3Qtc2Vzc2lvbi10b2tlbi1vZi0zMi1ieXRlcyE0")

/-- The second client logs in. -/
def loginEvent : ApiEvent :=
  .request (some 2) (credentialsRequest "auth.login" "admin" "old")
    (sampleDraws "b2xkLXNhbHQtMTgtYnl0ZXMh" "Zmlyc3Qtc2Vzc2lvbi10b2tlbi1vZi0zMi1ieXRlcyE0")

/-- The first client changes the password. -/
def updateEvent : ApiEvent :=
  .request (some 1) (credentialsRequest "auth.updateCredentials" "admin" "new")
    (sampleDraws "bmV3LXNhbHQtMTgtYnl0ZXMh" "b3RoZXItc2Vzc2lvbi10b2tlbi1vZi0zMi1ieXRlcyE0")

/-- A request without credentials. -/
def listRequest : Option CJson :=
  some (.object [("jsonrpc", .string "2.0"), ("method", .string "instance.list")])

/-- What decides whether the second client may list the instances. -/
structure SecondClient where
  issuer : Option UInt64
  presented : List UInt64
  isConnected : Bool
  isOpen : Bool
  routed : Routed
  presents : Bool
  deriving DecidableEq

/-- The second client after a change of credentials. -/
def secondClient (state : Monitored Unit) : Option SecondClient :=
  state.update.map fun update => {
    issuer := update.issuer
    presented := update.presented
    isConnected := connected state.server 2
    isOpen := passwordless state.server.auth.auth
    routed := (route sampleChecksum state.server (some 2) listRequest).1
    presents := presents sampleChecksum state.server.auth.auth update listRequest }

/-- The flag of the second client survives the change of the password. -/
theorem flag_survives_update :
    ∃ state, (apiRuns sampleChecksum silentHandlers).Reachable state ∧
      ¬Revoked sampleChecksum state := by
  have runs : ((System.run (next sampleChecksum silentHandlers) freshController
      [.connect, .connect, setupEvent, loginEvent, updateEvent]).bind secondClient) =
        some {
          issuer := some 1
          presented := []
          isConnected := true
          isOpen := false
          routed := .call "instance.list"
          presents := false } := by
    decide +kernel
  obtain ⟨state, reached, observed⟩ := Option.bind_eq_some_iff.mp runs
  obtain ⟨update, known, seen⟩ := Option.map_eq_some_iff.mp observed
  rw [SecondClient.mk.injEq] at seen
  obtain ⟨issuer, presented, isConnected, isOpen, routed, notPresents⟩ := seen
  refine ⟨state, System.reachable_of_run (.initial started_freshController) reached, ?_⟩
  intro revoked
  have mustPresent := revoked update 2 listRequest "instance.list" known
    (by rw [issuer]; decide) (by rw [presented]; decide) isConnected isOpen routed
    (by decide +kernel)
  rw [notPresents] at mustPresent
  cases mustPresent

/-- A client that connects after the change is kept out. -/
theorem revoked_lateClient :
    ∃ state, System.run (next sampleChecksum silentHandlers) freshController
        [.connect, setupEvent, updateEvent, .connect] = some state ∧
      state.update.isSome = true ∧ Revoked sampleChecksum state := by
  have whole : (System.run (next sampleChecksum silentHandlers) freshController
      [.connect, setupEvent, updateEvent, .connect]).map
        (fun state => state.update.isSome) = some true := by
    decide +kernel
  have alone : (System.run (next sampleChecksum silentHandlers) freshController
      [.connect, setupEvent]).map
        (fun state => (state.server.clients.keys, state.update.isSome)) =
          some ([1], false) := by
    decide +kernel
  obtain ⟨final, reached, updated⟩ := Option.map_eq_some_iff.mp whole
  refine ⟨final, reached, updated, ?_⟩
  simp only [System.run, Option.bind_eq_some_iff] at reached
  obtain ⟨joined, joins, ready, setsUp, changed, changes, last, connects, same⟩ := reached
  cases same
  simp only [System.run, joins, setsUp, Option.bind_some, Option.map_some, Option.some.injEq,
    Prod.mk.injEq] at alone
  obtain ⟨onlyClient, noUpdate⟩ := alone
  have setupRevokes : RevokesAll sampleChecksum joined setupEvent := by
    rintro ⟨called, _⟩
    have named := requestMethod_of_route called
    have different : requestMethod (credentialsRequest "auth.setup" "admin" "old") ≠
        some ("auth.updateCredentials" : CStr) := by
      decide +kernel
    exact absurd named different
  have updateRevokes : RevokesAll sampleChecksum ready updateEvent := by
    intro _
    refine ⟨fun before => ?_, fun _ other record found _ _ => ?_⟩
    · rw [noUpdate] at before
      cases before
    · have member : other ∈ ready.server.clients.keys :=
        HashTable.mem_keys_iff.mpr ⟨record, found⟩
      rw [onlyClient, List.mem_singleton] at member
      rw [member]
  have connectRevokes : ∀ state : Monitored Unit, RevokesAll sampleChecksum state .connect :=
    fun _ => trivial
  exact revoked_of_revokingRun sampleChecksum silentHandlers
    (.step (.step (.step (.step (.initial started_freshController) (connectRevokes _) joins)
      setupRevokes setsUp) updateRevokes changes) (connectRevokes _) connects)

end Api
end SbsServer
