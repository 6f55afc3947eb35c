import SbsServer.Api.AuthAtomicity
import SbsServer.CLib.System
import SbsServer.Common.CJsonCodec

/-!
# A restart of the authentication manager

`auth.json` is written as text by `save_config` and read again by the manager
that the next server process makes.  The calls that change the manager are
brought into one form first: a call is refused, or it puts something into memory
and saves it.
-/

namespace SbsServer
namespace Api

open CLib

/-- What a call puts into memory, if it is not refused. -/
def AuthCall.written
    (checksum : CStr → CStr)
    (draws : Draws)
    (state : AuthState) : AuthCall → Option AuthManager
  | .setup username password =>
      match given username, given password with
      | some name, some secret =>
          if setupRequired state then some (setupAuth checksum draws state name secret) else none
      | _, _ => none
  | .updateCredentials username password =>
      match given username, given password with
      | some name, some secret => some (updatedAuth checksum draws state name secret)
      | _, _ => none
  | .createApiKey name apiKeyOut =>
      if setupRequired state || !apiKeyOut then none
      else
        some { state.auth with
          apiKeys := state.auth.apiKeys ++ [newApiKey checksum draws name] }
  | .deleteApiKey id =>
      match given id with
      | some id =>
          if state.auth.apiKeys.any fun key => key.id = id then
            some { state.auth with
              apiKeys := state.auth.apiKeys.eraseP fun key => key.id = id }
          else none
      | none => none
  | .setPasswordless enabled =>
      if enabled then
        some { clearLoginConfig state.auth with
          mode := some "passwordless"
          sessions := .empty }
      else if state.auth.username.isNone || state.auth.passwordHash.isNone then none
      else some { state.auth with mode := some "password" }

/-- Whether a call that succeeds hands out a session token. -/
def AuthCall.logsIn : AuthCall → Bool
  | .setup .. => true
  | .updateCredentials .. => true
  | _ => false

/-- The state after a call that saved what it wrote. -/
def AuthCall.saved
    (draws : Draws)
    (written : AuthManager)
    (call : AuthCall) : AuthState :=
  let state : AuthState := { auth := written, file := some (configJson written) }
  if call.logsIn then openSession draws state else state

/-- The calls that write, each with the guards that it passed. -/
inductive AuthCall.Writes
    (checksum : CStr → CStr)
    (draws : Draws)
    (state : AuthState) : AuthCall → AuthManager → Prop where
  | setup
      {username password : Option CStr}
      {name secret : CStr}
      (named : given username = some name)
      (hidden : given password = some secret)
      (required : setupRequired state = true) :
      Writes checksum draws state (.setup username password)
        (setupAuth checksum draws state name secret)
  | updateCredentials
      {username password : Option CStr}
      {name secret : CStr}
      (named : given username = some name)
      (hidden : given password = some secret) :
      Writes checksum draws state (.updateCredentials username password)
        (updatedAuth checksum draws state name secret)
  | createApiKey
      {name : Option CStr}
      (ready : setupRequired state = false) :
      Writes checksum draws state (.createApiKey name true)
        { state.auth with apiKeys := state.auth.apiKeys ++ [newApiKey checksum draws name] }
  | deleteApiKey
      {id : Option CStr}
      {key : CStr}
      (supplied : given id = some key)
      (found : (state.auth.apiKeys.any fun stored => stored.id = key) = true) :
      Writes checksum draws state (.deleteApiKey id)
        { state.auth with apiKeys := state.auth.apiKeys.eraseP fun stored => stored.id = key }
  | passwordless :
      Writes checksum draws state (.setPasswordless true)
        { clearLoginConfig state.auth with
          mode := some "passwordless"
          sessions := .empty }
  | password
      (named : state.auth.username.isNone = false)
      (hidden : state.auth.passwordHash.isNone = false) :
      Writes checksum draws state (.setPasswordless false)
        { state.auth with mode := some "password" }

theorem writes_of_written
    {checksum : CStr → CStr}
    {draws : Draws}
    {state : AuthState}
    {call : AuthCall}
    {written : AuthManager}
    (writes : call.written checksum draws state = some written) :
    call.Writes checksum draws state written := by
  cases call with
  | setup username password =>
      simp only [AuthCall.written] at writes
      split at writes
      next name secret named hidden =>
        split at writes
        next required =>
          cases writes
          exact .setup named hidden required
        next => cases writes
      next => cases writes
  | updateCredentials username password =>
      simp only [AuthCall.written] at writes
      split at writes
      next name secret named hidden =>
        cases writes
        exact .updateCredentials named hidden
      next => cases writes
  | createApiKey name apiKeyOut =>
      simp only [AuthCall.written] at writes
      split at writes
      next => cases writes
      next accepted =>
        cases writes
        simp only [Bool.or_eq_true, not_or, Bool.not_eq_true, Bool.not_eq_false'] at accepted
        obtain ⟨ready, rfl⟩ := accepted
        exact .createApiKey ready
  | deleteApiKey id =>
      simp only [AuthCall.written] at writes
      split at writes
      next key supplied =>
        split at writes
        next found =>
          cases writes
          exact .deleteApiKey supplied found
        next => cases writes
      next => cases writes
  | setPasswordless enabled =>
      simp only [AuthCall.written] at writes
      cases enabled with
      | true =>
          cases writes
          exact .passwordless
      | false =>
          rw [if_neg Bool.false_ne_true] at writes
          split at writes
          next => cases writes
          next present =>
            cases writes
            rw [Bool.or_eq_true, not_or, Bool.not_eq_true, Bool.not_eq_true] at present
            exact .password present.1 present.2

/-- A call is refused, or writes and saves. -/
theorem run_of_written
    (checksum : CStr → CStr)
    (draws : Draws)
    (state : AuthState)
    {call : AuthCall}
    {written : AuthManager}
    (writes : call.written checksum draws state = some written) :
    call.run checksum draws state =
      if draws.saves then (.ok, call.saved draws written)
      else (.io, { state with auth := written }) := by
  cases writes_of_written writes with
  | setup named hidden required =>
      rw [AuthCall.run, setup_eq checksum draws state named hidden required]
      split <;> rfl
  | updateCredentials named hidden =>
      rw [AuthCall.run, updateCredentials_eq checksum draws state named hidden]
      split <;> rfl
  | createApiKey ready =>
      have accepted : ¬(setupRequired state || !true) = true := by
        rw [ready]
        decide
      simp only [AuthCall.run, createApiKey, if_neg accepted, saveConfig]
      cases draws.saves <;> rfl
  | deleteApiKey supplied found =>
      simp only [AuthCall.run, deleteApiKey, supplied, if_pos found, saveConfig]
      rfl
  | passwordless => rfl
  | password named hidden =>
      simp only [AuthCall.run, setPasswordless, named, hidden, saveConfig]
      rfl

theorem run_of_refused
    (checksum : CStr → CStr)
    (draws : Draws)
    (state : AuthState)
    {call : AuthCall}
    (refused : call.written checksum draws state = none) :
    (call.run checksum draws state).1 ≠ .ok ∧ (call.run checksum draws state).2 = state := by
  cases call with
  | setup username password =>
      simp only [AuthCall.written] at refused
      simp only [AuthCall.run, setup]
      cases named : given username with
      | none => exact ⟨by simp, rfl⟩
      | some name =>
          cases hidden : given password with
          | none => exact ⟨by simp, rfl⟩
          | some secret =>
              simp only [named, hidden] at refused
              split at refused
              next => cases refused
              next ready =>
                simp only [if_neg ready]
                exact ⟨by simp, trivial⟩
  | updateCredentials username password =>
      simp only [AuthCall.written] at refused
      simp only [AuthCall.run, updateCredentials]
      cases named : given username with
      | none => exact ⟨by simp, rfl⟩
      | some name =>
          cases hidden : given password with
          | none => exact ⟨by simp, rfl⟩
          | some secret =>
              simp only [named, hidden] at refused
              cases refused
  | createApiKey name apiKeyOut =>
      simp only [AuthCall.written] at refused
      split at refused
      next guarded =>
        simp only [AuthCall.run, createApiKey, if_pos guarded]
        exact ⟨by simp, trivial⟩
      next => cases refused
  | deleteApiKey id =>
      simp only [AuthCall.written] at refused
      simp only [AuthCall.run, deleteApiKey]
      cases supplied : given id with
      | none => exact ⟨by simp, rfl⟩
      | some id =>
          simp only [supplied] at refused
          split at refused
          next => cases refused
          next missing =>
            simp only [if_neg missing]
            exact ⟨by simp, trivial⟩
  | setPasswordless enabled =>
      simp only [AuthCall.written] at refused
      split at refused
      next => cases refused
      next isDisabled =>
        split at refused
        next missing =>
          simp only [AuthCall.run, setPasswordless, if_neg isDisabled, if_pos missing]
          exact ⟨by simp, trivial⟩
        next => cases refused

/-- The text that `save_config` writes. -/
def configText (auth : AuthManager) : CStr :=
  (configJson auth).printUnformatted

/-- The document that `cJSON_Parse` reads in a file; a file without one counts as a document that
is not an object. -/
def fileDocument (text : CStr) : CJson :=
  (CJson.parse text).getD .null

theorem numbers_apiKeyJson (apiKeys : List ApiKeyRecord) :
    CJson.numbersOfItems (apiKeys.map apiKeyJson) = [] := by
  induction apiKeys with
  | nil => rfl
  | cons key rest ih =>
      simp only [List.map_cons, CJson.numbersOfItems, ih]
      rfl

/-- The one number of the document is its version. -/
theorem numbers_configJson (auth : AuthManager) :
    (configJson auth).numbers = [Double.ofInt 1] := by
  obtain ⟨mode, username, passwordSalt, passwordHash, apiKeys, sessions⟩ := auth
  cases username <;> cases passwordSalt <;> cases passwordHash <;>
    simp [configJson, configMembers, optionalMember, CJson.numbers, CJson.numbersOfMembers,
      numbers_apiKeyJson, CJson.ofInt]

/-- What was saved is read back. -/
theorem fileDocument_configText (auth : AuthManager) :
    fileDocument (configText auth) = configJson auth := by
  have one : (Double.ofInt 1).isFinite = true ∧
      Double.readDouble (Double.formatG17 (Double.ofInt 1)) = some (Double.ofInt 1, []) := by
    decide +kernel
  rw [fileDocument, configText, CJson.parse_printUnformatted]
  · rfl
  · intro value member
    rw [numbers_configJson] at member
    rw [List.mem_singleton.mp member]
    exact one.1
  · intro value member
    rw [numbers_configJson] at member
    rw [List.mem_singleton.mp member]
    exact one.2

/-- A manager and the text of `auth.json` in its directory.  `tokens` is a history: the session
tokens handed out. -/
structure AuthStore where
  state : AuthState
  text : Option CStr
  tokens : List CStr

/-- What happens to a manager. -/
inductive StoreEvent
  | call (call : AuthCall) (draws : Draws)
  /-- `sbs_auth_manager_login_password` -/
  | login (username password : Option CStr) (draws : Draws)
  /-- `sbs_auth_manager_login_api_key` -/
  | loginApiKey (apiKey : Option CStr) (draws : Draws)
  /-- The server stops and starts again. -/
  | restart

namespace AuthStore

/-- `sbs_auth_manager_new` on a directory. -/
def newManager (text : Option CStr) : AuthState :=
  managerNew (text.map fileDocument)

/-- The state after an event. -/
def next
    (checksum : CStr → CStr)
    (store : AuthStore) : StoreEvent → Option AuthStore
  | .call call draws =>
      let result := call.run checksum draws store.state
      -- `SBS_OK` is returned exactly where `save_config` has written the file
      some {
        state := result.2
        text := if result.1 = .ok then some (configText result.2.auth) else store.text
        tokens :=
          if result.1 = .ok ∧ call.logsIn = true then draws.sessionToken :: store.tokens
          else store.tokens }
  | .login username password draws =>
      let result := loginPassword checksum draws store.state username password
      some { store with
        state := result.2.2
        tokens := result.2.1.toList ++ store.tokens }
  | .loginApiKey apiKey draws =>
      let result := Api.loginApiKey checksum draws store.state apiKey
      some { store with
        state := result.2.2
        tokens := result.2.1.toList ++ store.tokens }
  | .restart => some { store with state := newManager store.text }

/-- A manager that was just made on a directory. -/
def started (text : Option CStr) : AuthStore where
  state := newManager text
  text := text
  tokens := []

/-- Runs of a manager. -/
def system (checksum : CStr → CStr) : System AuthStore StoreEvent :=
  .ofNext (fun store => ∃ text, store = started text) (next checksum)

/-- A call that saves is able to. -/
def Saves (_ : AuthStore) : StoreEvent → Prop
  | .call _ draws => draws.saves = true
  | _ => True

instance (store : AuthStore) : ∀ event, Decidable (store.Saves event)
  | .call _ draws => inferInstanceAs (Decidable (draws.saves = true))
  | .login .. => .isTrue trivial
  | .loginApiKey .. => .isTrue trivial
  | .restart => .isTrue trivial

/-! ## The invariant -/

/-- A manager without a mode has nothing else. -/
def HasMode (auth : AuthManager) : Prop :=
  auth.mode = none → auth.username = none ∧ auth.apiKeys = []

/-- The file holds what is in memory. -/
structure InSync (store : AuthStore) : Prop where
  file : store.state.file = store.text.map fileDocument
  auth : loadConfig store.state.file = { store.state.auth with sessions := .empty }
  mode : HasMode store.state.auth

theorem inSync_newManager
    (text : Option CStr)
    (tokens : List CStr) :
    InSync { state := newManager text, text := text, tokens := tokens } where
  file := rfl
  auth := by
    dsimp only [newManager, managerNew]
    unfold loadConfig
    split <;> rfl
  mode := by
    dsimp only [newManager, managerNew]
    unfold loadConfig HasMode
    split
    next => exact nofun
    next => exact fun _ => ⟨rfl, rfl⟩

theorem mode_written
    {checksum : CStr → CStr}
    {draws : Draws}
    {state : AuthState}
    {call : AuthCall}
    {written : AuthManager}
    (mode : HasMode state.auth)
    (writes : call.written checksum draws state = some written) :
    ∃ mode, written.mode = some mode := by
  -- keys are created and deleted under the mode that is already set
  have set_of_set_up (ready : setupRequired state = false) :
      ∃ mode, state.auth.mode = some mode := by
    cases set : state.auth.mode with
    | some mode => exact ⟨mode, rfl⟩
    | none =>
        exfalso
        simp [setupRequired, passwordless, set, (mode set).1] at ready
  have set_of_keys (present : state.auth.apiKeys ≠ []) :
      ∃ mode, state.auth.mode = some mode := by
    cases set : state.auth.mode with
    | some mode => exact ⟨mode, rfl⟩
    | none => exact absurd (mode set).2 present
  cases writes_of_written writes with
  | setup => exact ⟨_, rfl⟩
  | updateCredentials => exact ⟨_, rfl⟩
  | createApiKey ready => exact set_of_set_up ready
  | deleteApiKey _ found =>
      obtain ⟨key, member, _⟩ := List.any_eq_true.mp found
      exact set_of_keys (List.ne_nil_of_mem member)
  | passwordless => exact ⟨_, rfl⟩
  | password => exact ⟨_, rfl⟩

/-- A call whose save succeeds. -/
theorem InSync.call
    {checksum : CStr → CStr}
    {store after : AuthStore}
    (inSync : store.InSync)
    {call : AuthCall}
    {draws : Draws}
    (saves : draws.saves = true)
    (stepped : next checksum store (.call call draws) = some after) :
    after.InSync := by
  have happened := Option.some.inj stepped
  cases writes : call.written checksum draws store.state with
  | none =>
      obtain ⟨failed, same⟩ := run_of_refused checksum draws store.state writes
      rw [same, if_neg failed, if_neg fun succeeded => failed succeeded.1] at happened
      exact happened ▸ inSync
  | some written =>
      have runs := run_of_written checksum draws store.state writes
      rw [if_pos saves] at runs
      rw [runs] at happened
      obtain ⟨mode, hasMode⟩ := mode_written inSync.mode writes
      cases happened
      dsimp only
      rw [if_pos rfl]
      have memory : ∃ sessions, (call.saved draws written).auth =
          { written with sessions := sessions } := by
        unfold AuthCall.saved
        split
        next => exact ⟨_, rfl⟩
        next => exact ⟨_, rfl⟩
      have file : (call.saved draws written).file = some (configJson written) := by
        unfold AuthCall.saved
        split <;> rfl
      obtain ⟨sessions, memory⟩ := memory
      constructor
      · dsimp only
        rw [file, memory, Option.map_some, fileDocument_configText]
        rfl
      · dsimp only
        rw [file, loadConfig_configJson, memory, hasMode]
        rfl
      · dsimp only
        rw [memory]
        exact fun none => nomatch hasMode.symm.trans none

/-- Opening a session leaves the file and what is kept in it. -/
theorem InSync.openSession
    {store : AuthStore}
    (inSync : store.InSync)
    (draws : Draws)
    (tokens : List CStr) :
    InSync { store with state := openSession draws store.state, tokens := tokens } where
  file := inSync.file
  auth := inSync.auth
  mode := inSync.mode

/-- A login that is refused leaves the manager, any other opens a session. -/
theorem loginPassword_effect
    (checksum : CStr → CStr)
    (draws : Draws)
    (state : AuthState)
    (username password : Option CStr) :
    (loginPassword checksum draws state username password).2.2 = state ∨
      (loginPassword checksum draws state username password).2.2 = Api.openSession draws state := by
  unfold loginPassword
  split
  next =>
    split
    next => exact .inl rfl
    next =>
      split
      next => exact .inl rfl
      next =>
        split
        next => exact .inr rfl
        next => exact .inl rfl
  next => exact .inl rfl

theorem loginApiKey_effect
    (checksum : CStr → CStr)
    (draws : Draws)
    (state : AuthState)
    (apiKey : Option CStr) :
    (Api.loginApiKey checksum draws state apiKey).2.2 = state ∨
      (Api.loginApiKey checksum draws state apiKey).2.2 = Api.openSession draws state := by
  unfold Api.loginApiKey
  split
  next => exact .inr rfl
  next => exact .inl rfl

/-- The file holds what is in memory after every run whose saves succeed. -/
theorem inSync_of_reachable
    {checksum : CStr → CStr}
    {store : AuthStore}
    (reachable : (system checksum).ReachableWhen Saves store) :
    store.InSync := by
  refine reachable.invariant ?_ ?_
  · rintro _ ⟨text, rfl⟩
    exact inSync_newManager text []
  · intro before event after inSync saves stepped
    cases event with
    | call call draws => exact inSync.call saves stepped
    | login username password draws =>
        cases stepped
        rcases loginPassword_effect checksum draws before.state username password with
          same | opened
        · rw [same]
          exact ⟨inSync.file, inSync.auth, inSync.mode⟩
        · rw [opened]
          exact inSync.openSession draws _
    | loginApiKey apiKey draws =>
        cases stepped
        rcases loginApiKey_effect checksum draws before.state apiKey with same | opened
        · rw [same]
          exact ⟨inSync.file, inSync.auth, inSync.mode⟩
        · rw [opened]
          exact inSync.openSession draws _
    | restart =>
        cases stepped
        exact inSync_newManager before.text before.tokens

/-- A new manager has what is in memory, without the sessions. -/
theorem InSync.newManager_eq
    {store : AuthStore}
    (inSync : store.InSync) :
    newManager store.text =
      { store.state with auth := { store.state.auth with sessions := .empty } } := by
  rw [← inSync.auth, newManager, managerNew, ← inSync.file]

/-- Whether a password is accepted does not depend on the sessions. -/
theorem loginPassword_sessions
    (checksum : CStr → CStr)
    (draws : Draws)
    (state : AuthState)
    (sessions : HashTable CStr Unit)
    (username password : Option CStr) :
    (loginPassword checksum draws
        { state with auth := { state.auth with sessions := sessions } } username password).1 =
      (loginPassword checksum draws state username password).1 := by
  have required : setupRequired
      { state with auth := { state.auth with sessions := sessions } } = setupRequired state := rfl
  unfold loginPassword
  rw [required]
  split
  next =>
    dsimp only
    split
    next => rfl
    next =>
      split
      next => rfl
      next => split <;> rfl
  next => rfl

/-- What a manager lets in. -/
structure SameAccess
    (checksum : CStr → CStr)
    (old new : AuthState) : Prop where
  mode : new.auth.mode = old.auth.mode
  passwords : ∀ draws username password,
    (loginPassword checksum draws new username password).1 =
      (loginPassword checksum draws old username password).1
  apiKeys : ∀ apiKey, validateApiKey checksum new apiKey = validateApiKey checksum old apiKey

/-- After every run whose saves succeed, a new manager on the directory is in the same mode and
accepts the same passwords and API keys.  Unless it is in passwordless mode, in which every token
is accepted, it accepts no session token at all. -/
theorem access_of_reachable
    {checksum : CStr → CStr}
    {store : AuthStore}
    (reachable : (system checksum).ReachableWhen Saves store) :
    SameAccess checksum store.state (newManager store.text) ∧
      (passwordless (newManager store.text).auth = false →
        ∀ token, validateSession (newManager store.text).auth token = false) := by
  have inSync := inSync_of_reachable reachable
  rw [inSync.newManager_eq]
  constructor
  · constructor
    · rfl
    · intro draws username password
      exact loginPassword_sessions checksum draws store.state .empty username password
    · intro apiKey
      rfl
  · intro closed token
    unfold validateSession
    rw [closed]
    cases token with
    | none => rfl
    | some token => rfl

/-- Draws of a call that saves. -/
def savingDraws : Draws where
  passwordSalt := "salt"
  sessionToken := "token"
  keySecret := "secret"
  keyId := "id"
  keySalt := "keysalt"
  now := "2026-01-01T00:00:00Z"
  saves := true

/-- A password and an API key are set, the key is used, and the password is changed. -/
def storeEvents : List StoreEvent :=
  [.call (.setup (some "admin") (some "first")) savingDraws,
    .call (.createApiKey none true) savingDraws,
    .restart,
    .loginApiKey (some "sbs_secret") savingDraws,
    .call (.updateCredentials (some "admin") (some "second")) savingDraws]

/-- Access is kept over a restart after a run. -/
theorem access_afterChange :
    ∃ store : AuthStore,
      (system id).ReachableWhen Saves store ∧
        SameAccess id store.state (newManager store.text) ∧
          (passwordless (newManager store.text).auth = false →
            ∀ token, validateSession (newManager store.text).auth token = false) ∧
        (loginPassword id savingDraws store.state (some "admin") (some "second")).1 = .ok ∧
        validateApiKey id store.state (some "sbs_secret") = true ∧
        store.tokens = ([("token" : CStr), "token", "token"] : List CStr) := by
  have runs : (System.run (System.guarded Saves (next id)) (started none) storeEvents).map
      (fun store =>
        ((loginPassword id savingDraws store.state (some "admin") (some "second")).1,
          validateApiKey id store.state (some "sbs_secret"), store.tokens)) =
      some (SbsResult.ok, true, ([("token" : CStr), "token", "token"] : List CStr)) := by
    decide +kernel
  obtain ⟨store, final, facts⟩ := Option.map_eq_some_iff.mp runs
  simp only [Prod.mk.injEq] at facts
  have reachable : (system id).ReachableWhen Saves store :=
    System.reachableWhen_of_run (.initial ⟨none, rfl⟩) final
  exact ⟨store, reachable, (access_of_reachable reachable).1, (access_of_reachable reachable).2,
    facts⟩

/-- In passwordless mode an old token is accepted after a restart. -/
theorem token_accepted_passwordless :
    ∃ store : AuthStore,
      (system id).ReachableWhen Saves store ∧
        ∃ token ∈ store.tokens,
          validateSession (newManager store.text).auth (some token) = true := by
  have runs : (System.run (System.guarded Saves (next id)) (started none)
      [.call (.setup (some "admin") (some "first")) savingDraws,
        .call (.setPasswordless true) savingDraws]).map
      (fun store =>
        (decide (("token" : CStr) ∈ store.tokens),
          validateSession (newManager store.text).auth (some "token"))) =
      some (true, true) := by
    decide +kernel
  obtain ⟨store, final, facts⟩ := Option.map_eq_some_iff.mp runs
  simp only [Prod.mk.injEq, decide_eq_true_eq] at facts
  exact ⟨store, System.reachableWhen_of_run (.initial ⟨none, rfl⟩) final, "token", facts⟩

end AuthStore

end Api
end SbsServer
