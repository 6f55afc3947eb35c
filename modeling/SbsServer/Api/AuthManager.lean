import SbsServer.Common.CJson
import SbsServer.SceneGraph.State

/-!
# The authentication manager

Credentials, API keys and sessions of a server, and the file `auth.json` that
keeps the first two.  The checksum `SHA-256` of GLib is a parameter.  Random
tokens, the clock and the outcome of a write come with each call, as the values
that the call would draw.
-/

namespace SbsServer
namespace Api

open CLib

/-- `sbs_api_key_record_t`.  No record is built with a NULL field. -/
structure ApiKeyRecord where
  id : CStr
  name : CStr
  salt : CStr
  hash : CStr
  createdAt : CStr
  deriving DecidableEq

/-- `struct sbs_auth_manager` without its path. -/
structure AuthManager where
  mode : Option CStr
  username : Option CStr
  passwordSalt : Option CStr
  passwordHash : Option CStr
  apiKeys : List ApiKeyRecord
  sessions : HashTable CStr Unit
  deriving DecidableEq

/-- A manager and the document in the file at its path, if the file exists. -/
structure AuthState where
  auth : AuthManager
  file : Option CJson

/-- What a call draws from outside. -/
structure Draws where
  /-- `random_token(18)` for a password. -/
  passwordSalt : CStr
  /-- `random_token(32)` for a session. -/
  sessionToken : CStr
  /-- `random_token(32)` for the secret of an API key. -/
  keySecret : CStr
  /-- `random_token(12)` for the id of an API key. -/
  keyId : CStr
  /-- `random_token(18)` for an API key. -/
  keySalt : CStr
  /-- `now_iso8601`. -/
  now : CStr
  /-- `g_file_set_contents` succeeds; it replaces the file as a whole or not. -/
  saves : Bool

/-- `secure_equals`. -/
def secureEquals (first second : Option CStr) : Bool :=
  match first, second with
  | some first, some second =>
      let diff := (List.range (max first.length second.length)).foldl
        (fun diff i => diff ||| (first.bytes.getD i 0 ^^^ second.bytes.getD i 0))
        (0 : UInt8)
      diff == 0 && first.length == second.length
  | _, _ => false

/-- `hash_secret`. -/
def hashSecret (checksum : CStr → CStr) (salt secret : CStr) : CStr :=
  checksum (salt ++ ":" ++ secret)

/-- A member for a pointer that is not NULL. -/
def optionalMember (key : CStr) (value : Option CStr) : List (CStr × CJson) :=
  match value with
  | some value => [(key, .string value)]
  | none => []

/-- An entry of `api_keys` as `save_config` writes it. -/
def apiKeyJson (key : ApiKeyRecord) : CJson :=
  .object [
    ("id", .string key.id),
    ("name", .string key.name),
    ("salt", .string key.salt),
    ("hash", .string key.hash),
    ("created_at", .string key.createdAt)]

/-- The members of the document that `save_config` prints. -/
def configMembers (auth : AuthManager) : List (CStr × CJson) :=
  let keys : CStr × CJson := ("api_keys", .array (auth.apiKeys.map apiKeyJson))
  ("schema_version", .ofInt 1) ::
    ("mode", .string (auth.mode.getD "password")) ::
    (optionalMember "username" auth.username ++
      optionalMember "password_salt" auth.passwordSalt ++
      optionalMember "password_hash" auth.passwordHash ++ [keys])

/-- The document that `save_config` prints. -/
def configJson (auth : AuthManager) : CJson :=
  .object (configMembers auth)

/-- `save_config`. -/
def saveConfig (draws : Draws) (state : AuthState) : SbsResult × AuthState :=
  if draws.saves then (.ok, { state with file := some (configJson state.auth) })
  else (.io, state)

/-- An entry of `api_keys` as `load_config` reads it. -/
def loadApiKey (item : CJson) : Option ApiKeyRecord :=
  match CJson.str (some item) "id", CJson.str (some item) "salt",
    CJson.str (some item) "hash" with
  | some id, some salt, some hash => some {
      id := id
      name := (CJson.str (some item) "name").getD "API Key"
      salt := salt
      hash := hash
      createdAt := (CJson.str (some item) "created_at").getD "" }
  | _, _, _ => none

/-- `load_config` into the cleared manager of `sbs_auth_manager_new`. -/
def loadConfig (file : Option CJson) : AuthManager :=
  if CJson.isObject file then {
    mode := some ((CJson.str file "mode").getD "password")
    username := CJson.str file "username"
    passwordSalt := CJson.str file "password_salt"
    passwordHash := CJson.str file "password_hash"
    apiKeys := (CJson.arrayItems (CJson.getObjectItem file "api_keys")).filterMap loadApiKey
    sessions := .empty }
  else {
    mode := none
    username := none
    passwordSalt := none
    passwordHash := none
    apiKeys := []
    sessions := .empty }

/-- `sbs_auth_manager_new`. -/
def managerNew (file : Option CJson) : AuthState where
  auth := loadConfig file
  file := file

/-- `sbs_auth_manager_passwordless`. -/
def passwordless (auth : AuthManager) : Bool :=
  auth.mode = some ("passwordless" : CStr)

/-- `sbs_auth_manager_setup_required`. -/
def setupRequired (state : AuthState) : Bool :=
  if passwordless state.auth then false
  else state.auth.username.isNone || state.auth.passwordHash.isNone || state.file.isNone

/-- `sbs_auth_manager_status_json`. -/
def statusJson (state : AuthState) : List (CStr × CJson) :=
  ("passwordless", .bool (passwordless state.auth)) ::
    ("setup_required", .bool (setupRequired state)) ::
    ("auth_required", .bool !(passwordless state.auth)) ::
    optionalMember "username" state.auth.username

/-- `sbs_auth_manager_validate_session`. -/
def validateSession (auth : AuthManager) (sessionToken : Option CStr) : Bool :=
  if passwordless auth then true
  else match sessionToken with
    | some token => auth.sessions.contains token
    | none => false

/-- `sbs_auth_manager_validate_api_key`. -/
def validateApiKey
    (checksum : CStr → CStr)
    (state : AuthState)
    (apiKey : Option CStr) : Bool :=
  match apiKey with
  | some apiKey =>
      if setupRequired state then false
      else state.auth.apiKeys.any fun key =>
        secureEquals (some (hashSecret checksum key.salt apiKey)) (some key.hash)
  | none => false

/-- The metadata of a key. -/
def metadataJson (key : ApiKeyRecord) : List (CStr × CJson) :=
  [("id", .string key.id), ("name", .string key.name),
    ("created_at", .string key.createdAt)]

/-- `sbs_auth_manager_list_api_keys`. -/
def listApiKeys (auth : AuthManager) : CJson :=
  .array (auth.apiKeys.map fun key => .object (metadataJson key))

/-- `clear_login_config`. -/
def clearLoginConfig (auth : AuthManager) : AuthManager :=
  { auth with mode := none, username := none, passwordSalt := none, passwordHash := none }

/-- `clear_config`. -/
def clearConfig (auth : AuthManager) : AuthManager :=
  { clearLoginConfig auth with apiKeys := [] }

/-- Fresh login credentials in password mode. -/
def withPassword
    (checksum : CStr → CStr)
    (draws : Draws)
    (auth : AuthManager)
    (username password : CStr) : AuthManager :=
  { auth with
    mode := some "password"
    username := some username
    passwordSalt := some draws.passwordSalt
    passwordHash := some (hashSecret checksum draws.passwordSalt password) }

/-- A new session, as the successful logins open it. -/
def openSession (draws : Draws) (state : AuthState) : AuthState :=
  { state with auth := { state.auth with
    sessions := state.auth.sessions.insert draws.sessionToken () } }

/-- `sbs_auth_manager_login_password` with the token it hands out. -/
def loginPassword
    (checksum : CStr → CStr)
    (draws : Draws)
    (state : AuthState)
    (username password : Option CStr) : SbsResult × Option CStr × AuthState :=
  match username, password with
  | some username, some password =>
      if setupRequired state ∨ state.auth.username ≠ some username then
        (.inval, none, state)
      else match state.auth.passwordSalt with
        -- `strlen` of the NULL salt is undefined; no credentials are accepted there
        | none => (.inval, none, state)
        | some salt =>
            if secureEquals (some (hashSecret checksum salt password))
                state.auth.passwordHash then
              (.ok, some draws.sessionToken, openSession draws state)
            else (.inval, none, state)
  | _, _ => (.inval, none, state)

/-- `sbs_auth_manager_login_api_key` with the token it hands out. -/
def loginApiKey
    (checksum : CStr → CStr)
    (draws : Draws)
    (state : AuthState)
    (apiKey : Option CStr) : SbsResult × Option CStr × AuthState :=
  if validateApiKey checksum state apiKey then
    (.ok, some draws.sessionToken, openSession draws state)
  else (.inval, none, state)

/-- `sbs_auth_manager_setup`. -/
def setup
    (checksum : CStr → CStr)
    (draws : Draws)
    (state : AuthState)
    (username password : Option CStr) : SbsResult × Option CStr × AuthState :=
  match given username, given password with
  | some username, some password =>
      if setupRequired state then
        let auth := withPassword checksum draws (clearConfig state.auth) username password
        match saveConfig draws { state with auth := auth } with
        | (.ok, saved) => loginPassword checksum draws saved (some username) (some password)
        | (_, unsaved) => (.io, none, unsaved)
      else (.inval, none, state)
  | _, _ => (.inval, none, state)

/-- `sbs_auth_manager_update_credentials`. -/
def updateCredentials
    (checksum : CStr → CStr)
    (draws : Draws)
    (state : AuthState)
    (username password : Option CStr) : SbsResult × Option CStr × AuthState :=
  match given username, given password with
  | some username, some password =>
      let auth := withPassword checksum draws (clearLoginConfig state.auth) username password
      let cleared := { auth with sessions := .empty }
      match saveConfig draws { state with auth := cleared } with
      | (.ok, saved) => loginPassword checksum draws saved (some username) (some password)
      | (_, unsaved) => (.io, none, unsaved)
  | _, _ => (.inval, none, state)

/-- The record that `sbs_auth_manager_create_api_key` adds for a key. -/
def newApiKey
    (checksum : CStr → CStr)
    (draws : Draws)
    (name : Option CStr) : ApiKeyRecord where
  id := draws.keyId
  name := (given name).getD "API Key"
  salt := draws.keySalt
  hash := hashSecret checksum draws.keySalt ("sbs_" ++ draws.keySecret)
  createdAt := draws.now

/-- `sbs_auth_manager_create_api_key` with the key and its metadata;
`apiKeyOut` tells whether the caller takes the key. -/
def createApiKey
    (checksum : CStr → CStr)
    (draws : Draws)
    (state : AuthState)
    (name : Option CStr)
    (apiKeyOut : Bool) : SbsResult × Option (CStr × List (CStr × CJson)) × AuthState :=
  if setupRequired state || !apiKeyOut then (.inval, none, state)
  else
    let record := newApiKey checksum draws name
    let auth := { state.auth with apiKeys := state.auth.apiKeys ++ [record] }
    match saveConfig draws { state with auth := auth } with
    | (.ok, saved) => (.ok, some ("sbs_" ++ draws.keySecret, metadataJson record), saved)
    | (_, unsaved) => (.io, none, unsaved)

/-- `sbs_auth_manager_delete_api_key`. -/
def deleteApiKey
    (draws : Draws)
    (state : AuthState)
    (id : Option CStr) : SbsResult × AuthState :=
  match given id with
  | some id =>
      if state.auth.apiKeys.any fun key => key.id = id then
        saveConfig draws { state with auth := { state.auth with
          apiKeys := state.auth.apiKeys.eraseP fun key => key.id = id } }
      else (.notFound, state)
  | none => (.inval, state)

/-- `sbs_auth_manager_set_passwordless`. -/
def setPasswordless
    (draws : Draws)
    (state : AuthState)
    (enabled : Bool) : SbsResult × AuthState :=
  if enabled then
    saveConfig draws { state with auth := { clearLoginConfig state.auth with
      mode := some "passwordless"
      sessions := .empty } }
  else if state.auth.username.isNone || state.auth.passwordHash.isNone then
    (.inval, state)
  else
    saveConfig draws { state with auth := { state.auth with mode := some "password" } }

private theorem foldl_or_eq_zero
    (values : List UInt8)
    (start : UInt8) :
    values.foldl (· ||| ·) start = 0 ↔ start = 0 ∧ ∀ value ∈ values, value = 0 := by
  induction values generalizing start with
  | nil => simp
  | cons value rest ih =>
      rw [List.foldl_cons, ih, UInt8.or_eq_zero_iff, List.forall_mem_cons,
        and_assoc]

/-- The constant-time comparison is equality of strings. -/
theorem secureEquals_iff
    {first second : CStr} :
    secureEquals (some first) (some second) = true ↔ first = second := by
  constructor
  · intro equal
    simp only [secureEquals, Bool.and_eq_true, beq_iff_eq] at equal
    obtain ⟨noDiff, sameLength⟩ := equal
    rw [← List.foldl_map, foldl_or_eq_zero] at noDiff
    apply CStr.ext
    refine List.ext_getElem sameLength fun i inFirst inSecond => ?_
    have byteDiff := noDiff.2 (first.bytes.getD i 0 ^^^ second.bytes.getD i 0)
      (List.mem_map_of_mem (List.mem_range.mpr (lt_max_of_lt_left inFirst)))
    have firstByte : first.bytes.getD i 0 = first.bytes[i] := (List.getElem_eq_getD 0).symm
    have secondByte : second.bytes.getD i 0 = second.bytes[i] := (List.getElem_eq_getD 0).symm
    rw [firstByte, secondByte] at byteDiff
    exact UInt8.xor_eq_zero_iff.mp byteDiff
  · rintro rfl
    simp only [secureEquals, UInt8.xor_self, UInt8.or_zero, beq_self_eq_true, Bool.and_true,
      List.foldl_fixed]

theorem loadApiKey_apiKeyJson (key : ApiKeyRecord) :
    loadApiKey (apiKeyJson key) = some key :=
  rfl

/-- A restart keeps credentials and keys, drops the sessions and turns a NULL
mode into password mode. -/
theorem loadConfig_configJson (auth : AuthManager) :
    loadConfig (some (configJson auth)) =
      { auth with mode := some (auth.mode.getD "password"), sessions := .empty } := by
  obtain ⟨mode, username, passwordSalt, passwordHash, apiKeys, sessions⟩ := auth
  have keys : (apiKeys.map apiKeyJson).filterMap loadApiKey = apiKeys := by
    rw [List.filterMap_map]
    have each : loadApiKey ∘ apiKeyJson = some := by
      funext key
      exact loadApiKey_apiKeyJson key
    rw [each, List.filterMap_some]
  cases username <;> cases passwordSalt <;> cases passwordHash <;>
    exact congrArg (fun apiKeys => AuthManager.mk _ _ _ _ apiKeys _) keys

section Effects

variable (checksum : CStr → CStr) (draws : Draws) (state : AuthState)

/-- The password that was just set is accepted. -/
theorem loginPassword_accepts
    {username password salt : CStr}
    (ready : setupRequired state = false)
    (named : state.auth.username = some username)
    (salted : state.auth.passwordSalt = some salt)
    (hashed : state.auth.passwordHash = some (hashSecret checksum salt password)) :
    loginPassword checksum draws state (some username) (some password) =
      (.ok, some draws.sessionToken, openSession draws state) := by
  have equal : secureEquals (some (hashSecret checksum salt password))
      (some (hashSecret checksum salt password)) = true := secureEquals_iff.mpr rfl
  simp [loginPassword, ready, named, salted, hashed, equal]

/-- The memory that `sbs_auth_manager_setup` saves. -/
def setupAuth (username password : CStr) : AuthManager :=
  withPassword checksum draws (clearConfig state.auth) username password

/-- The memory that `sbs_auth_manager_update_credentials` saves. -/
def updatedAuth (username password : CStr) : AuthManager :=
  { withPassword checksum draws (clearLoginConfig state.auth) username password with
    sessions := .empty }

theorem setup_eq
    {username password : Option CStr}
    {name secret : CStr}
    (named : given username = some name)
    (hidden : given password = some secret)
    (required : setupRequired state = true) :
    setup checksum draws state username password =
      if draws.saves then
        (.ok, some draws.sessionToken, openSession draws {
          auth := setupAuth checksum draws state name secret
          file := some (configJson (setupAuth checksum draws state name secret)) })
      else (.io, none, { state with auth := setupAuth checksum draws state name secret }) := by
  simp only [setup, named, hidden, required, if_true, saveConfig]
  cases draws.saves with
  | false => rfl
  | true => exact loginPassword_accepts checksum draws _ rfl rfl rfl rfl

theorem updateCredentials_eq
    {username password : Option CStr}
    {name secret : CStr}
    (named : given username = some name)
    (hidden : given password = some secret) :
    updateCredentials checksum draws state username password =
      if draws.saves then
        (.ok, some draws.sessionToken, openSession draws {
          auth := updatedAuth checksum draws state name secret
          file := some (configJson (updatedAuth checksum draws state name secret)) })
      else (.io, none, { state with auth := updatedAuth checksum draws state name secret }) := by
  simp only [updateCredentials, named, hidden, saveConfig]
  cases draws.saves with
  | false => rfl
  | true => exact loginPassword_accepts checksum draws _ rfl rfl rfl rfl

end Effects

end Api
end SbsServer
