import SbsServer.Api.AuthManager

/-!
# Dispatch of requests

`sbs_api_server_dispatch_json` and the handlers of the `auth.*` methods.  The
handlers of all other methods are a parameter: they neither read nor change the
authentication manager or the flag of a client.  A request is the tree that
`cJSON_Parse` returns, if the text is well formed.
-/

namespace SbsServer
namespace Api

open CLib

/-- `struct sbs_api_client`. -/
structure ApiClient where
  connected : Bool
  authenticated : Bool

/-- `struct sbs_api_server`; `world` is what only other handlers use. -/
structure ApiServer (World : Type) where
  auth : AuthState
  clients : HashTable UInt64 ApiClient
  nextClientId : UInt64
  methods : List CStr
  world : World

/-- What a handler returns: its code, `*result` and `*error`. -/
structure Reply where
  code : SbsResult
  result : Option CJson
  error : Option CJson

/-- Handlers of the methods outside this model. -/
abbrev OtherHandlers (World : Type) :=
  CStr → World → Option UInt64 → Option CJson → Reply × World

/-- Methods of `sbs_api_register_controller_methods`. -/
def controllerMethods : List CStr :=
  ["auth.status", "auth.setup", "auth.login", "auth.loginApiKey", "auth.createApiKey",
    "auth.listApiKeys", "auth.deleteApiKey", "auth.updateCredentials",
    "auth.setPasswordless", "instance.list", "instance.create", "instance.update",
    "instance.enable", "instance.disable", "instance.start", "instance.stop",
    "instance.restart", "instance.remove", "instance.getInfo", "instance.getState",
    "instance.call"]

/-- Methods of `sbs_api_register_core_methods`. -/
def coreMethods : List CStr :=
  ["auth.status", "auth.setup", "auth.login", "auth.loginApiKey", "auth.createApiKey",
    "auth.listApiKeys", "auth.deleteApiKey", "auth.updateCredentials",
    "auth.setPasswordless", "system.getState", "system.getInfo", "source.list",
    "source.get", "source.listKinds", "source.describeKind", "source.discoverV4L2",
    "source.discoverALSA", "source.uploadAsset", "source.create", "source.update",
    "source.remove", "source.start", "source.stop", "scene.list", "scene.get",
    "scene.create", "scene.update", "scene.remove", "scene.setActive",
    "scene.setPreview", "scene.transitionToPreview", "scene.transition.update",
    "scene.item.add", "scene.item.update", "scene.item.remove", "scene.item.reorder",
    "filter.add", "filter.update", "filter.remove", "output.list", "output.get",
    "output.create", "output.remove", "output.start", "output.stop", "output.update",
    "encoder.getConfig", "encoder.updateConfig", "canvas.update", "canvas.apply",
    "audio.getLevels", "audio.setSource", "audio.setSceneItem", "audio.setMaster",
    "config.export", "config.import", "config.reset", "snapshot.capture",
    "preview.listProfiles", "preview.ensureProfile", "preview.getStatus",
    "preview.releaseProfile", "preview.webrtc.start", "preview.webrtc.answer",
    "preview.webrtc.ice", "preview.getEncoderConfig", "preview.updateEncoderConfig",
    "command.execute", "pubsub.subscribe", "pubsub.unsubscribe", "instance.list",
    "instance.restart"]

/-- `is_auth_method`. -/
def isAuthMethod (method : CStr) : Bool :=
  method = "auth.status" ∨ method = "auth.setup" ∨ method = "auth.login" ∨
    method = "auth.loginApiKey"

namespace ApiServer

variable {World : Type}

/-- `client->authenticated`. -/
def authenticated (server : ApiServer World) (client : UInt64) : Bool :=
  ((server.clients.lookup client).map ApiClient.authenticated).getD false

/-- `if (client) client->authenticated = true`. -/
def setAuthenticated
    (server : ApiServer World)
    (client : Option UInt64) : ApiServer World :=
  match client with
  | some id =>
      { server with clients := server.clients.modify id fun client =>
          { client with authenticated := true } }
  | none => server

/-- `request_authenticated` on a server with an authentication manager. -/
def requestAuthenticated
    (checksum : CStr → CStr)
    (server : ApiServer World)
    (client : Option UInt64)
    (params : Option CJson) : Bool × ApiServer World :=
  if passwordless server.auth.auth then (true, server)
  else match client with
    | none => (true, server)
    | some id =>
        if server.authenticated id then (true, server)
        else if validateSession server.auth.auth (CJson.str params "auth_token") then
          (true, server.setAuthenticated client)
        else if validateApiKey checksum server.auth (CJson.str params "api_key") then
          (true, server.setAuthenticated client)
        else (false, server)

end ApiServer

/-- `rpc_error` and `api_error`. -/
def rpcError (code : ℤ) (message : CStr) : CJson :=
  .object [("code", .ofInt code), ("message", .string message)]

/-- `login_result`. -/
def loginResult (state : AuthState) (token : Option CStr) : CJson :=
  .object ((statusJson state).concat ("token", .string (token.getD "")))

/-- The flag of `auth.setup` and `auth.setPasswordless`. -/
def isTrue (params : Option CJson) (key : CStr) : Bool :=
  match CJson.getObjectItem params key with
  | some (.bool value) => value
  | _ => false

section Handlers

variable {World : Type}

/-- A failed handler. -/
def refuse
    (server : ApiServer World)
    (code : SbsResult)
    (number : ℤ)
    (message : CStr) : Reply × ApiServer World :=
  ({ code := code, result := none, error := some (rpcError number message) }, server)

/-- A successful handler. -/
def answer (server : ApiServer World) (result : CJson) : Reply × ApiServer World :=
  ({ code := .ok, result := some result, error := none }, server)

/-- The common end of the four handlers that log a client in. -/
def answerLogin
    (server : ApiServer World)
    (client : Option UInt64)
    (attempt : SbsResult × Option CStr × AuthState)
    (number : ℤ)
    (message : CStr) : Reply × ApiServer World :=
  let after := { server with auth := attempt.2.2 }
  if attempt.1 = .ok then
    answer (after.setAuthenticated client) (loginResult attempt.2.2 attempt.2.1)
  else refuse after attempt.1 number message

/-- `sbs_api_handle_auth_status`. -/
def handleAuthStatus (server : ApiServer World) : Reply × ApiServer World :=
  answer server (.object (statusJson server.auth))

/-- `sbs_api_handle_auth_setup`. -/
def handleAuthSetup
    (checksum : CStr → CStr)
    (draws : Draws)
    (server : ApiServer World)
    (client : Option UInt64)
    (params : Option CJson) : Reply × ApiServer World :=
  if isTrue params "passwordless" then
    if setupRequired server.auth then
      let attempt := setPasswordless draws server.auth true
      answerLogin server client (attempt.1, none, attempt.2) (-32010) "Invalid setup request"
    else refuse server .inval (-32010) "Invalid setup request"
  else
    answerLogin server client
      (setup checksum draws server.auth (CJson.str params "username")
        (CJson.str params "password"))
      (-32010) "Invalid setup request"

/-- `sbs_api_handle_auth_login`. -/
def handleAuthLogin
    (checksum : CStr → CStr)
    (draws : Draws)
    (server : ApiServer World)
    (client : Option UInt64)
    (params : Option CJson) : Reply × ApiServer World :=
  answerLogin server client
    (loginPassword checksum draws server.auth (CJson.str params "username")
      (CJson.str params "password"))
    (-32011) "Invalid username or password"

/-- `sbs_api_handle_auth_login_api_key`. -/
def handleAuthLoginApiKey
    (checksum : CStr → CStr)
    (draws : Draws)
    (server : ApiServer World)
    (client : Option UInt64)
    (params : Option CJson) : Reply × ApiServer World :=
  answerLogin server client
    (loginApiKey checksum draws server.auth (CJson.str params "api_key"))
    (-32012) "Invalid API key"

/-- `sbs_api_handle_auth_create_api_key`. -/
def handleAuthCreateApiKey
    (checksum : CStr → CStr)
    (draws : Draws)
    (server : ApiServer World)
    (params : Option CJson) : Reply × ApiServer World :=
  let (code, created, after) :=
    createApiKey checksum draws server.auth (CJson.str params "name") true
  let server := { server with auth := after }
  match created with
  | some (apiKey, metadata) =>
      answer server (.object (metadata.concat ("api_key", .string apiKey)))
  | none => refuse server code (-32013) "Failed to create API key"

/-- `sbs_api_handle_auth_list_api_keys`. -/
def handleAuthListApiKeys (server : ApiServer World) : Reply × ApiServer World :=
  answer server (.object [("api_keys", listApiKeys server.auth.auth)])

/-- `sbs_api_handle_auth_delete_api_key`. -/
def handleAuthDeleteApiKey
    (draws : Draws)
    (server : ApiServer World)
    (params : Option CJson) : Reply × ApiServer World :=
  let attempt := deleteApiKey draws server.auth (CJson.str params "id")
  let after := { server with auth := attempt.2 }
  if attempt.1 = .ok then answer after (.object [("deleted", .bool true)])
  else refuse after attempt.1 (-32017) "Failed to delete API key"

/-- `sbs_api_handle_auth_update_credentials`. -/
def handleAuthUpdateCredentials
    (checksum : CStr → CStr)
    (draws : Draws)
    (server : ApiServer World)
    (client : Option UInt64)
    (params : Option CJson) : Reply × ApiServer World :=
  answerLogin server client
    (updateCredentials checksum draws server.auth (CJson.str params "username")
      (CJson.str params "password"))
    (-32014) "Failed to update credentials"

/-- `sbs_api_handle_auth_set_passwordless`. -/
def handleAuthSetPasswordless
    (draws : Draws)
    (server : ApiServer World)
    (params : Option CJson) : Reply × ApiServer World :=
  let attempt := setPasswordless draws server.auth (isTrue params "enabled")
  let after := { server with auth := attempt.2 }
  if attempt.1 = .ok then answer after (.object (statusJson attempt.2))
  else refuse after attempt.1 (-32015) "Failed to update passwordless mode"

/-- The handler registered under the name of a method. -/
def handle
    (checksum : CStr → CStr)
    (others : OtherHandlers World)
    (draws : Draws)
    (server : ApiServer World)
    (client : Option UInt64)
    (method : CStr)
    (params : Option CJson) : Reply × ApiServer World :=
  if method = "auth.status" then handleAuthStatus server
  else if method = "auth.setup" then handleAuthSetup checksum draws server client params
  else if method = "auth.login" then handleAuthLogin checksum draws server client params
  else if method = "auth.loginApiKey" then
    handleAuthLoginApiKey checksum draws server client params
  else if method = "auth.createApiKey" then
    handleAuthCreateApiKey checksum draws server params
  else if method = "auth.listApiKeys" then handleAuthListApiKeys server
  else if method = "auth.deleteApiKey" then handleAuthDeleteApiKey draws server params
  else if method = "auth.updateCredentials" then
    handleAuthUpdateCredentials checksum draws server client params
  else if method = "auth.setPasswordless" then
    handleAuthSetPasswordless draws server params
  else
    let (reply, world) := others method server.world client params
    (reply, { server with world := world })

end Handlers

/-- The `id` of a response. -/
def idField (id : Option CJson) : CJson :=
  match id with
  | some (.number value) => .number value
  | some (.string value) => .string value
  | _ => .null

/-- A response with a result or an error. -/
def response (id : Option CJson) (key : CStr) (value : CJson) : CJson :=
  .object [("jsonrpc", .string "2.0"), ("id", idField id), (key, value)]

/-- The response to the reply of a handler. -/
def replyResponse (id : Option CJson) (reply : Reply) : CJson :=
  match reply.code, reply.result, reply.error with
  | .ok, some result, _ => response id "result" result
  | _, _, some error => response id "error" error
  | _, _, none => response id "error" (rpcError (-32603) "Internal error")

/-- What becomes of a request before a handler runs. -/
inductive Routed
  | rejected (code : ℤ) (message : CStr)
  | call (method : CStr)
  deriving DecidableEq

section Dispatch

variable {World : Type}

/-- The part of `sbs_api_server_dispatch_json` before the handler is called. -/
def route
    (checksum : CStr → CStr)
    (server : ApiServer World)
    (client : Option UInt64)
    (request : Option CJson) : Routed × ApiServer World :=
  if !CJson.isObject request then (.rejected (-32700) "Parse error", server)
  else match CJson.str request "method" with
    | none => (.rejected (-32600) "Invalid Request", server)
    | some method =>
        if method ∉ server.methods then (.rejected (-32601) "Method not found", server)
        else if isAuthMethod method then (.call method, server)
        else
          let (accepted, after) :=
            server.requestAuthenticated checksum client (CJson.getObjectItem request "params")
          if accepted then (.call method, after)
          else (.rejected (-32020) "Authentication required", after)

/-- `sbs_api_server_dispatch_json`: the response and the server after it. -/
def dispatchJson
    (checksum : CStr → CStr)
    (others : OtherHandlers World)
    (draws : Draws)
    (server : ApiServer World)
    (client : Option UInt64)
    (request : Option CJson) : CJson × ApiServer World :=
  let id := CJson.getObjectItem request "id"
  match route checksum server client request with
  | (.rejected code message, after) => (response id "error" (rpcError code message), after)
  | (.call method, after) =>
      let (reply, final) := handle checksum others draws after client method
        (CJson.getObjectItem request "params")
      (replyResponse id reply, final)

end Dispatch
end Api
end SbsServer
